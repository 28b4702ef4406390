import ActiveResponse.Core.PyRepr
import ActiveResponse.Core.Text
import ActiveResponse.Lib.Assoc

namespace larp

/-! ## Factors -/

/-- A character of a number as `repr` writes it. -/
def is_numeral (c : Char) : Bool := c.isDigit ∨ c ∈ ['.', 'e', 'E', '+', '-']

/-- Python's finite numbers: how `repr` writes one, and what number a numeral is read as. A number is read from its
`repr` again. -/
structure PyNumbers where
  Number : Type
  repr : Number → List Char
  read : List Char → Option Number
  numeral : ∀ n, ∀ c ∈ repr n, is_numeral c
  read_repr : ∀ n, read (repr n) = some n
  read_nil : read [] = none
  read_minus : read ['-'] = none

/-- The reason for a score: a text or a number. -/
inductive Factor (numbers : PyNumbers) where
  | text (value : List Char)
  | number (value : numbers.Number)
  | infinite (negative : Bool)
  | nan

/-- A dictionary with string keys. -/
structure Factors (numbers : PyNumbers) where
  entries : List (List Char × Factor numbers)
  nodup : (entries.map Prod.fst).Nodup

section Repr

variable {numbers : PyNumbers} (printable : Char → Bool)

/-- `repr(value)`. -/
def Factor.repr : Factor numbers → List Char
  | .text value => repr_str printable value
  | .number value => numbers.repr value
  | .infinite negative => if negative then "-inf".toList else "inf".toList
  | .nan => "nan".toList

def repr_entry (entry : List Char × Factor numbers) : List Char :=
  repr_str printable entry.1 ++ ':' :: ' ' :: entry.2.repr printable

def repr_entries : List (List Char × Factor numbers) → List Char
  | [] => []
  | [entry] => repr_entry printable entry
  | entry :: entries => repr_entry printable entry ++ ',' :: ' ' :: repr_entries entries

/-- `repr(factors)`. -/
def Factors.repr (self : Factors numbers) : List Char := '{' :: (repr_entries printable self.entries ++ ['}'])

end Repr

/-! ## Loaders -/

section Read

variable (numbers : PyNumbers) (literal : List Char → Option (List Char × List Char))

/-- A string literal, or else a number. -/
def read_value (cs : List Char) : Option (Factor numbers × List Char) :=
  match literal cs with
  | some (value, rest) => some (.text value, rest)
  | none => (numbers.read (cs.takeWhile is_numeral)).map fun value => (.number value, cs.dropWhile is_numeral)

def read_entry (cs : List Char) : Option ((List Char × Factor numbers) × List Char) :=
  (literal cs).bind fun key =>
    match skip_blanks key.2 with
    | ':' :: cs =>
      (read_value numbers literal (skip_blanks cs)).map fun value => ((key.1, value.1), skip_blanks value.2)
    | _ => none

/-- The entries up to the closing brace. -/
def read_entries : ℕ → List Char → Option (List (List Char × Factor numbers) × List Char)
  | 0, _ => none
  | fuel + 1, cs =>
    (read_entry numbers literal cs).bind fun entry =>
      match entry.2 with
      | ',' :: cs => (read_entries fuel (skip_blanks cs)).map fun entries => (entry.1 :: entries.1, entries.2)
      | '}' :: cs => some ([entry.1], cs)
      | _ => none

/-- A dictionary of texts and numbers. Of equal keys the last one counts. -/
def read_dict : List Char → Option (List (List Char × Factor numbers))
  | '{' :: cs =>
    match skip_blanks cs with
    | '}' :: rest => if (skip_blanks rest).isEmpty then some [] else none
    | cs =>
      (read_entries numbers literal cs.length cs).bind fun entries =>
        if (skip_blanks entries.2).isEmpty then
          some (entries.1.foldl (fun dict entry => Assoc.set dict entry.1 entry.2) [])
        else none
  | _ => none

end Read

/-! ## The description -/

/-- What `json.loads` and `ast.literal_eval` make of a text: a dictionary, or nothing if they raise or return
something else. -/
structure FactorLoaders (K V : Type) where
  json_loads : List Char → Option (List (K × V))
  literal_eval : List Char → Option (List (K × V))

/-- The loaders on dictionaries of texts and numbers. -/
def flat_loaders (numbers : PyNumbers) : FactorLoaders (List Char) (Factor numbers) where
  json_loads := read_dict numbers json_literal
  literal_eval := read_dict numbers py_literal

/-- A match of `Factors:\s*(\{.*?\})` at the start of a text. -/
def factors_at (cs : List Char) : Option (List Char) :=
  if "Factors:".toList.isPrefixOf cs then
    match (cs.drop 8).dropWhile py_isspace with
    | '{' :: rest => if '}' ∈ rest then some ('{' :: rest.takeWhile (· ≠ '}') ++ ['}']) else none
    | _ => none
  else none

/-- `re.search`: the leftmost match. -/
def search_factors : List Char → Option (List Char)
  | [] => none
  | c :: cs => (factors_at (c :: cs)).or (search_factors cs)

/-- `_parse_factors` of a description. -/
def parse_factors {K V : Type} (loaders : FactorLoaders K V) (description : String) : List (K × V) :=
  match search_factors description.toList with
  | some raw_factors => ((loaders.json_loads raw_factors).or (loaders.literal_eval raw_factors)).getD []
  | none => []

end larp
