import ActiveResponse.Core.LoadedJson
import ActiveResponse.Core.Text
import Mathlib.Data.Nat.Digits.Defs

namespace larp

/-- Exceptions of the interpreter. -/
inductive PyException where
  | AttributeError (message : String)
  | OverflowError (message : String)
  | TypeError (message : String)
  | ValueError (message : String)
deriving DecidableEq

/-- The value of a decimal digit of any script. -/
def digit_value (c : Char) : Option ℕ :=
  (decimal_zeros.find? fun first => first ≤ c.toNat ∧ c.toNat < first + 10).map fun first => c.toNat - first

/-- The digits of a literal; an underscore may stand between two of them. -/
def literal_digits (after_digit : Bool) : List Char → Option (List ℕ)
  | [] => if after_digit then some [] else none
  | c :: cs =>
    if c = '_' then if after_digit then literal_digits false cs else none
    else (digit_value c).bind fun digit => (literal_digits true cs).map (digit :: ·)

def number_of_digits (digits : List ℕ) : ℕ := Nat.ofDigits 10 digits.reverse

/-- A sign, and what follows it. -/
def split_sign : List Char → Bool × List Char
  | '-' :: cs => (true, cs)
  | '+' :: cs => (false, cs)
  | cs => (false, cs)

/-- `int(s)` of a text. A literal of more than 4300 digits is refused. -/
def py_int_text (s : String) : Option ℤ :=
  let (negative, cs) := split_sign (py_strip s).toList
  (literal_digits false cs).bind fun digits =>
    if 4300 < digits.length then none
    else if negative then some (-(number_of_digits digits : ℤ)) else some (number_of_digits digits)

/-- The float next to a number; what is too large for one becomes infinite. -/
def PyFloat.of_rat (q : ℚ) : PyFloat :=
  if 2 ^ 1024 - 2 ^ 970 ≤ |q| then .inf (q < 0) else .finite q

/-- The digits on one side of the point, of which there may be none. -/
def point_digits (cs : List Char) : Option (List ℕ) :=
  if cs.isEmpty then some [] else literal_digits false cs

/-- The part of a float literal before the exponent. -/
def literal_mantissa (cs : List Char) : Option ℚ :=
  let whole := cs.takeWhile (· ≠ '.')
  let fraction := (cs.dropWhile (· ≠ '.')).drop 1
  (point_digits whole).bind fun w => (point_digits fraction).bind fun f =>
    if w.isEmpty && f.isEmpty then none else some (number_of_digits (w ++ f) / 10 ^ f.length)

/-- The exponent of a float literal, with the letter before it. -/
def literal_exponent : List Char → Option ℤ
  | [] => some 0
  | _ :: cs =>
    let (negative, cs) := split_sign cs
    (literal_digits false cs).map fun digits =>
      if negative then -(number_of_digits digits : ℤ) else number_of_digits digits

/-- `float(s)` of a text. -/
def py_float_text (s : String) : Option PyFloat :=
  let (negative, cs) := split_sign (py_strip s).toList
  let word := String.ofList (ascii_lower cs)
  if word ∈ ["inf", "infinity"] then some (.inf negative)
  else if word = "nan" then some .nan
  else
    (literal_mantissa (cs.takeWhile fun c => c.toLower ≠ 'e')).bind fun mantissa =>
      (literal_exponent (cs.dropWhile fun c => c.toLower ≠ 'e')).map fun exponent =>
        .of_rat ((if negative then -mantissa else mantissa) * 10 ^ exponent)

namespace LoadedJson

/-- `type(value).__name__`. -/
def type_name : LoadedJson → String
  | .null => "NoneType"
  | .bool _ => "bool"
  | .int _ => "int"
  | .float _ => "float"
  | .str _ => "str"
  | .arr _ => "list"
  | .obj _ => "dict"

/-- Python truthiness. -/
def truthy : LoadedJson → Bool
  | .null => false
  | .bool value => value
  | .int value => value ≠ 0
  | .float value => value ≠ .finite 0
  | .str value => value ≠ ""
  | .arr values => !values.isEmpty
  | .obj entries => !entries.isEmpty

/-- `a or b`. -/
def or_else (self other : LoadedJson) : LoadedJson := if self.truthy then self else other

/-- `int(value)`. -/
def to_int : LoadedJson → Except PyException ℤ
  | .int value => .ok value
  | .bool value => .ok (if value then 1 else 0)
  | .float (.finite value) => .ok (truncate value)
  | .float (.inf _) => .error (.OverflowError "cannot convert float infinity to integer")
  | .float .nan => .error (.ValueError "cannot convert float NaN to integer")
  | .str value =>
    match py_int_text value with
    | some n => .ok n
    | none => .error (.ValueError "invalid literal for int() with base 10")
  | value => .error (.TypeError ("int() argument must be a string, a bytes-like object or a real number, not '" ++
      value.type_name ++ "'"))

/-- `float(value)`. -/
def to_float : LoadedJson → Except PyException PyFloat
  | .int value =>
    match PyFloat.of_rat value with
    | .inf _ => .error (.OverflowError "int too large to convert to float")
    | value => .ok value
  | .bool value => .ok (.finite (if value then 1 else 0))
  | .float value => .ok value
  | .str value =>
    match py_float_text value with
    | some x => .ok x
    | none => .error (.ValueError "could not convert string to float")
  | value =>
    .error (.TypeError ("float() argument must be a string or a real number, not '" ++ value.type_name ++ "'"))

example : (LoadedJson.str " -1_2 ").to_int = .ok (-12) := by decide +kernel

example : (LoadedJson.str "2.5E1").to_float = .ok (.finite 25) := by decide +kernel

end LoadedJson

end larp
