import Mathlib.Data.Nat.Digits.Defs

namespace larp

/-- What `float.__repr__` writes. -/
structure FloatText where
  chars : List Char
  numeral : (∀ c ∈ chars, c ∈ "0123456789.e+-".toList) ∨ chars ∈ ["NaN".toList, "Infinity".toList, "-Infinity".toList]

/-- A value that `json.dumps` writes. Integers and floats are written differently. -/
inductive PyJson where
  | null
  | bool (value : Bool)
  | int (value : ℤ)
  | float (text : FloatText)
  | str (value : String)
  | arr (values : List PyJson)
  | obj (entries : List (String × PyJson))

namespace PyJson

/-- The escapes of `ensure_ascii=False`. -/
def escape_char (c : Char) : List Char :=
  if c = '"' then ['\\', '"']
  else if c = '\\' then ['\\', '\\']
  else if c = '\n' then ['\\', 'n']
  else if c = '\r' then ['\\', 'r']
  else if c = '\t' then ['\\', 't']
  else if c.toNat = 8 then ['\\', 'b']
  else if c.toNat = 12 then ['\\', 'f']
  else if c.toNat < 32 then ['\\', 'u', '0', '0', Nat.digitChar (c.toNat / 16), Nat.digitChar (c.toNat % 16)]
  else [c]

def quote (s : String) : List Char := '"' :: s.toList.flatMap escape_char ++ ['"']

def int_text (n : ℤ) : List Char := (if n < 0 then ['-'] else []) ++ Nat.toDigits 10 n.natAbs

mutual

/-- `json.dumps(value, separators=(",", ":"), ensure_ascii=False)`. -/
def dumps : PyJson → List Char
  | null => "null".toList
  | bool value => (if value then "true" else "false").toList
  | int value => int_text value
  | float text => text.chars
  | str value => quote value
  | arr values => '[' :: [','].intercalate (dumps_values values) ++ [']']
  | obj entries => '{' :: [','].intercalate (dumps_entries entries) ++ ['}']

def dumps_values : List PyJson → List (List Char)
  | [] => []
  | value :: values => dumps value :: dumps_values values

def dumps_entries : List (String × PyJson) → List (List Char)
  | [] => []
  | (key, value) :: entries => (quote key ++ ':' :: dumps value) :: dumps_entries entries

end

/-- The bytes of the message that `send_json` sends. -/
def send_json (value : PyJson) : List UInt8 := value.dumps.flatMap String.utf8EncodeChar

/-- `d.get(key)`. -/
def get (value : PyJson) (key : String) : Option PyJson :=
  match value with
  | obj entries => entries.lookup key
  | _ => none

example : (obj [("a", arr [int (-12), bool true]), ("\"é\n", null)]).dumps =
    "\x7b\"a\":[-12,true],\"\\\"é\\n\":null\x7d".toList := by decide +kernel

end PyJson

end larp
