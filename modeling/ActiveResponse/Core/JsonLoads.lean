import ActiveResponse.Core.Conversions
import ActiveResponse.Core.JsonText
import ActiveResponse.Core.PyRepr
import ActiveResponse.Lib.Assoc

namespace larp

namespace JsonLoads

/-! ## Strings -/

/-- Two escapes that stand for one character together. -/
def surrogate_pair : List Char → Option (Char × List Char)
  | '\\' :: 'u' :: cs =>
    (FixedWidth.read 16 hex_value 4 0 cs).bind fun high =>
      match high.2 with
      | '\\' :: 'u' :: cs =>
        (FixedWidth.read 16 hex_value 4 0 cs).bind fun low =>
          if (0xD800 ≤ high.1 ∧ high.1 < 0xDC00) ∧ 0xDC00 ≤ low.1 ∧ low.1 < 0xE000 then
            some (Char.ofNat (0x10000 + (high.1 - 0xD800) * 0x400 + (low.1 - 0xDC00)), low.2)
          else none
      | _ => none
  | _ => none

/-- A character of a string. A surrogate by itself, which is none, is refused. -/
def char_unit (cs : List Char) : Option (Char × List Char) := (surrogate_pair cs).or (json_unit cs)

def scan_string : List Char → Option (String × List Char)
  | '"' :: cs => (QuotedText.read_until '"' char_unit cs.length cs).map fun read => (String.ofList read.1, read.2)
  | _ => none

/-! ## Numbers and words -/

/-- `0|[1-9][0-9]*`. -/
def whole_digits : List Char → Option (List Char × List Char)
  | '0' :: cs => some (['0'], cs)
  | cs => if (cs.takeWhile Char.isDigit).isEmpty then none else some (cs.takeWhile Char.isDigit, cs.dropWhile Char.isDigit)

/-- `(\.[0-9]+)?`. -/
def fraction_digits : List Char → List Char × List Char
  | '.' :: cs =>
    if (cs.takeWhile Char.isDigit).isEmpty then ([], '.' :: cs) else (cs.takeWhile Char.isDigit, cs.dropWhile Char.isDigit)
  | cs => ([], cs)

/-- `([eE][-+]?[0-9]+)?`. -/
def exponent : List Char → Option ℤ × List Char
  | [] => (none, [])
  | c :: cs =>
    let digits := (split_sign cs).2.takeWhile Char.isDigit
    if c ∈ ['e', 'E'] ∧ digits ≠ [] then
      (some (if (split_sign cs).1 then -Nat.ofDigitChars 10 digits 0 else Nat.ofDigitChars 10 digits 0),
        (split_sign cs).2.dropWhile Char.isDigit)
    else (none, c :: cs)

/-- The minus of a number, and what follows it. -/
def minus : List Char → Bool × List Char
  | '-' :: cs => (true, cs)
  | cs => (false, cs)

/-- An integer, or a float if there is a fraction or an exponent. An integer of more than 4300 digits raises. -/
def scan_number (cs : List Char) : Option (LoadedJson × List Char) :=
  (whole_digits (minus cs).2).bind fun whole =>
    let fraction := fraction_digits whole.2
    let power := exponent fraction.2
    if fraction.1 = [] ∧ power.1 = none then
      if 4300 < whole.1.length then none
      else
        let n : ℤ := Nat.ofDigitChars 10 whole.1 0
        some (.int (if (minus cs).1 then -n else n), whole.2)
    else
      let q : ℚ := Nat.ofDigitChars 10 (whole.1 ++ fraction.1) 0 / 10 ^ fraction.1.length * 10 ^ power.1.getD 0
      some (.float (.of_rat (if (minus cs).1 then -q else q)), power.2)

def words : List (List Char × LoadedJson) :=
  [("null".toList, .null), ("true".toList, .bool true), ("false".toList, .bool false), ("NaN".toList, .float .nan),
    ("Infinity".toList, .float (.inf false)), ("-Infinity".toList, .float (.inf true))]

def scan_word (cs : List Char) : Option (LoadedJson × List Char) :=
  (words.find? fun word => word.1.isPrefixOf cs).map fun word => (word.2, cs.drop word.1.length)

/-! ## Values -/

/-- Of equal keys the last one counts. -/
def dict_of (entries : List (String × LoadedJson)) : List (String × LoadedJson) :=
  entries.foldl (fun dict entry => Assoc.set dict entry.1 entry.2) []

mutual

/-- A value at the beginning of a text, with a bound on the nesting. -/
def scan_value : ℕ → List Char → Option (LoadedJson × List Char)
  | 0, _ => none
  | fuel + 1, cs =>
    match cs with
    | '"' :: _ => (scan_string cs).map fun read => (.str read.1, read.2)
    | '{' :: cs =>
      match skip_blanks cs with
      | '}' :: rest => some (.obj [], rest)
      | cs => (scan_entries fuel cs).map fun read => (.obj (dict_of read.1), read.2)
    | '[' :: cs =>
      match skip_blanks cs with
      | ']' :: rest => some (.arr [], rest)
      | cs => (scan_values fuel cs).map fun read => (.arr read.1, read.2)
    | cs => (scan_word cs).or (scan_number cs)

/-- The values up to the closing bracket. -/
def scan_values : ℕ → List Char → Option (List LoadedJson × List Char)
  | 0, _ => none
  | fuel + 1, cs =>
    (scan_value fuel cs).bind fun value =>
      match skip_blanks value.2 with
      | ',' :: cs => (scan_values fuel (skip_blanks cs)).map fun more => (value.1 :: more.1, more.2)
      | ']' :: cs => some ([value.1], cs)
      | _ => none

/-- The entries up to the closing brace. -/
def scan_entries : ℕ → List Char → Option (List (String × LoadedJson) × List Char)
  | 0, _ => none
  | fuel + 1, cs =>
    (scan_string cs).bind fun key =>
      match skip_blanks key.2 with
      | ':' :: cs =>
        (scan_value fuel (skip_blanks cs)).bind fun value =>
          match skip_blanks value.2 with
          | ',' :: cs => (scan_entries fuel (skip_blanks cs)).map fun more => ((key.1, value.1) :: more.1, more.2)
          | '}' :: cs => some ([(key.1, value.1)], cs)
          | _ => none
      | _ => none

end

def byte_order_mark : Char := Char.ofNat 0xFEFF

/-- `json.loads(s)`: nothing if it raises. -/
def loads (cs : List Char) : Option LoadedJson :=
  if cs.head? = some byte_order_mark then none
  else
    (scan_value (cs.length + 1) (skip_blanks cs)).bind fun value =>
      if skip_blanks value.2 = [] then some value.1 else none

end JsonLoads

end larp
