import ActiveResponse.Lib.Rounding
import Mathlib.Data.List.DropRight
import Mathlib.Data.List.Infix
import Mathlib.Data.Rat.Floor
import Mathlib.Tactic.Linarith

namespace larp

/-- The values of a JSON column or message, as Python holds them after `json.loads`. -/
inductive Json where
  | null
  | bool (value : Bool)
  | num (value : ℚ)
  | str (value : String)
  | arr (values : List Json)
  | obj (entries : List (String × Json))

/-- A Python dictionary with string keys, in insertion order. -/
abbrev Dict := List (String × Json)

/-- `d.get(key)`. -/
def Dict.get (self : Dict) (key : String) : Option Json :=
  List.lookup key self

/-- `d[key] = value`: an existing key keeps its position. -/
def Dict.set : Dict → String → Json → Dict
  | [], key, value => [(key, value)]
  | (k, v) :: rest, key, value =>
    if k = key then (k, value) :: rest else (k, v) :: Dict.set rest key value

@[simp] theorem Dict.get_set (self : Dict) (key : String) (value : Json) (query : String) :
    (self.set key value).get query = if query = key then some value else self.get query := by
  induction self with
  | nil =>
    by_cases h : query = key
    · simp [Dict.set, Dict.get, h]
    · have hq : (query == key) = false := by simpa using h
      simp [Dict.set, Dict.get, List.lookup_cons, hq, h]
  | cons entry rest ih =>
    obtain ⟨k, v⟩ := entry
    simp only [Dict.get] at ih
    by_cases hk : k = key
    · subst hk
      by_cases h : query = k
      · simp [Dict.set, Dict.get, h]
      · have hq : (query == k) = false := by simpa using h
        simp [Dict.set, Dict.get, List.lookup_cons, hq, h]
    · by_cases h : query = k
      · subst h
        simp [Dict.set, Dict.get, hk]
      · have hq : (query == k) = false := by simpa using h
        simp [Dict.set, Dict.get, hk, List.lookup_cons, hq, ih]

/-- Python truthiness. -/
def Json.truthy : Json → Bool
  | .null => false
  | .bool value => value
  | .num value => value ≠ 0
  | .str value => value ≠ ""
  | .arr values => !values.isEmpty
  | .obj entries => !entries.isEmpty

mutual

/-- Python's `==`: booleans are numbers, and dictionaries are compared without their order. -/
def Json.py_eq : Json → Json → Bool
  | .null, .null => true
  | .bool a, .bool b => a = b
  | .bool a, .num q | .num q, .bool a => q = if a then 1 else 0
  | .num p, .num q => p = q
  | .str a, .str b => a = b
  | .arr xs, .arr ys => Json.py_eq_list xs ys
  | .obj xs, .obj ys => xs.length = ys.length ∧ Json.py_eq_entries xs ys
  | _, _ => false

def Json.py_eq_list : List Json → List Json → Bool
  | [], [] => true
  | x :: xs, y :: ys => x.py_eq y && Json.py_eq_list xs ys
  | _, _ => false

/-- Every entry of the first dictionary is one of the second. -/
def Json.py_eq_entries : List (String × Json) → Dict → Bool
  | [], _ => true
  | (key, x) :: rest, ys =>
    (match ys.get key with
      | some y => x.py_eq y
      | none => false) && Json.py_eq_entries rest ys

end

theorem Dict.mem_of_get {self : Dict} {key : String} {value : Json} (h : self.get key = some value) :
    (key, value) ∈ self := by
  obtain ⟨before, after, rfl, _⟩ := List.lookup_eq_some_iff.mp h
  simp

theorem Json.py_eq_entries_mem {xs : List (String × Json)} {ys : Dict} (h : Json.py_eq_entries xs ys)
    {entry : String × Json} (hentry : entry ∈ xs) : ∃ y, ys.get entry.1 = some y ∧ entry.2.py_eq y := by
  induction xs with
  | nil => cases hentry
  | cons first rest ih =>
    obtain ⟨key, x⟩ := first
    simp only [Json.py_eq_entries, Bool.and_eq_true] at h
    rcases List.mem_cons.mp hentry with rfl | hrest
    · cases hget : ys.get key with
      | none => simp [hget] at h
      | some y => exact ⟨y, rfl, by simpa [hget] using h.1⟩
    · exact ih h.2 hrest

/-- A column that is assigned on a row loaded earlier. It is written only if the value differs from
the one that was loaded. -/
def assign {A : Type} (same : A → A → Bool) (loaded value current : A) : A :=
  if same loaded value then current else value

/-- On the row that was loaded the assignment stores the value. -/
@[simp] theorem assign_loaded {A : Type} [DecidableEq A] (loaded value : A) :
    assign (· = ·) loaded value loaded = value := by
  unfold assign
  split
  · rename_i h
    simpa using h
  · rfl

/-- Digits of a Python number literal; an underscore may stand between two digits. -/
def parse_digits (acc : Nat) (afterDigit : Bool) : List Char → Option Nat
  | [] => if afterDigit then some acc else none
  | c :: cs =>
    if c = '_' then (if afterDigit then parse_digits acc false cs else none)
    else if c.isDigit then parse_digits (10 * acc + (c.toNat - '0'.toNat)) true cs
    else none

theorem parse_digits_cons {c : Char} (h : c.isDigit) (acc : ℕ) (afterDigit : Bool) (cs : List Char) :
    parse_digits acc afterDigit (c :: cs) = parse_digits (10 * acc + (c.toNat - 48)) true cs := by
  have hne : c ≠ '_' := by
    rintro rfl
    cases h
  rw [parse_digits, if_neg hne, if_pos h]
  rfl

def strip (cs : List Char) : List Char :=
  ((cs.dropWhile Char.isWhitespace).reverse.dropWhile Char.isWhitespace).reverse

/-- The characters for which `str.isspace` holds. -/
def py_isspace (c : Char) : Bool :=
  c.toNat ∈ [0x85, 0xa0, 0x1680, 0x2028, 0x2029, 0x202f, 0x205f, 0x3000] ∨ (9 ≤ c.toNat ∧ c.toNat ≤ 13) ∨
    (0x1c ≤ c.toNat ∧ c.toNat ≤ 0x20) ∨ (0x2000 ≤ c.toNat ∧ c.toNat ≤ 0x200a)

def py_lstrip (cs : List Char) : List Char := cs.dropWhile py_isspace

def py_rstrip (cs : List Char) : List Char := cs.rdropWhile py_isspace

/-- `s.strip()`. -/
def py_strip (s : String) : String := String.ofList (py_lstrip (py_rstrip s.toList))

/-- Read an optional sign off the front of a literal. -/
def with_sign (parse : List Char → Option ℚ) : List Char → Option ℚ
  | '-' :: cs => (parse cs).map fun q => -q
  | '+' :: cs => parse cs
  | cs => parse cs

def parse_unsigned (cs : List Char) : Option ℚ :=
  (parse_digits 0 false cs).map fun n => (n : ℚ)

/-- A decimal literal without sign or exponent: at least one side of the point has digits. -/
def parse_decimal (cs : List Char) : Option ℚ :=
  let whole := cs.takeWhile (· ≠ '.')
  match cs.drop whole.length with
  | [] => parse_unsigned whole
  | _ :: fraction =>
    let scale : ℚ := 10 ^ (fraction.filter Char.isDigit).length
    match whole, fraction with
    | [], [] => none
    | [], _ => (parse_unsigned fraction).map fun f => f / scale
    | _, [] => parse_unsigned whole
    | _, _ => do
      let w ← parse_unsigned whole
      let f ← parse_unsigned fraction
      return w + f / scale

/-- Truncation toward zero, as `int(x)` does on a float. -/
def truncate (q : ℚ) : ℤ :=
  if q < 0 then ⌈q⌉ else ⌊q⌋

/-- A column with text in it: neither `None` nor empty. -/
def present (text : Option String) : Bool :=
  text.any (· ≠ "")

/-- `text or default`. -/
def text_or (text : Option String) (default : String) : String :=
  if present text then text.getD default else default

/-- Instants are UTC microseconds since 1970. -/
abbrev Time := ℤ

/-- `timedelta(seconds=n)`. -/
def seconds (n : ℤ) : Time := 1000000 * n

/-- The instants that a `datetime` can hold: the years 1 to 9999. -/
def IsDatetime (t : Time) : Prop := -62135596800000000 ≤ t ∧ t < 253402300800000000

instance (t : Time) : Decidable (IsDatetime t) := inferInstanceAs (Decidable (_ ∧ _))

/-- The proleptic Gregorian date of a day number counted from 1970-01-01. -/
def civil_date (day : ℤ) : ℤ × ℤ × ℤ :=
  let z := day + 719468
  let era := z / 146097
  let doe := z % 146097
  let yoe := (doe - doe / 1460 + doe / 36524 - doe / 146096) / 365
  let doy := doe - (365 * yoe + yoe / 4 - yoe / 100)
  let mp := (5 * doy + 2) / 153
  let d := doy - (153 * mp + 2) / 5 + 1
  let m := if mp < 10 then mp + 3 else mp - 9
  let y := yoe + era * 400 + (if m ≤ 2 then 1 else 0)
  (y, m, d)

/-- Decimal digits padded with zeros on the left. -/
def zero_padded (width : Nat) (n : ℤ) : String :=
  let digits := toString n.toNat
  String.ofList (List.replicate (width - digits.length) '0') ++ digits

/-- `datetime.isoformat(sep)` of an aware UTC datetime. -/
def datetime_format (sep : String) (t : Time) : String :=
  let secs := t / 1000000
  let micros := t % 1000000
  let (y, m, d) := civil_date (secs / 86400)
  let clock := secs % 86400
  zero_padded 4 y ++ "-" ++ zero_padded 2 m ++ "-" ++ zero_padded 2 d ++ sep ++
    zero_padded 2 (clock / 3600) ++ ":" ++ zero_padded 2 (clock / 60 % 60) ++ ":" ++
    zero_padded 2 (clock % 60) ++
    (if micros = 0 then "" else "." ++ zero_padded 6 micros) ++ "+00:00"

def isoformat (t : Time) : String := datetime_format "T" t

/-- `str(t)` of a datetime, and of the `None` of an empty column. -/
def datetime_str : Option Time → String
  | some t => datetime_format " " t
  | none => "None"

example : isoformat (seconds 951782400) = "2000-02-29T00:00:00+00:00" := by decide

/-- The decimals of a fraction in [0, 1), at most `limit` of them. -/
def decimals : ℕ → ℚ → List Char
  | 0, _ => []
  | limit + 1, fraction =>
    if fraction = 0 then []
    else Nat.digitChar ⌊10 * fraction⌋.toNat :: decimals limit (10 * fraction - ⌊10 * fraction⌋)

/-- `str(x)` of a float of ordinary size. -/
def float_str (q : ℚ) : String :=
  let magnitude := if q < 0 then -q else q
  let fraction := decimals 17 (magnitude - ⌊magnitude⌋)
  (if q < 0 then "-" else "") ++ toString ⌊magnitude⌋ ++ "." ++
    (if fraction.isEmpty then "0" else String.ofList fraction)

/-- The format of a Python float. -/
def binary64 : FloatFormat where
  fraction := 52
  min_exponent := -1074

/-- `f"{x:.2f}"` of a float that does not round to a negative zero. -/
def score_fixed (q : ℚ) : String :=
  let hundredths := round_half_even (100 * q)
  let magnitude := hundredths.natAbs
  (if hundredths < 0 then "-" else "") ++ toString (magnitude / 100) ++ "." ++
    zero_padded 2 (magnitude % 100)

/-- `s.lower()`, for the characters that can take part in a match with ASCII text: besides the ASCII
letters these are the Kelvin sign and the dotted capital I. -/
def py_lower (s : String) : String :=
  String.ofList (s.toList.flatMap fun c =>
    if c = Char.ofNat 0x212A then ['k']
    else if c = Char.ofNat 0x130 then ['i', Char.ofNat 0x307]
    else [c.toLower])

/-- `part in s`. -/
def contains_text (s part : String) : Bool :=
  decide (part.toList <:+: s.toList)

/-- Exceptions the modelled code raises or lets through. The first four are the
classes of `app.core.exceptions`; the others come from Python, pydantic and the database. -/
inductive AppException where
  | NotFoundError (message : String)
  | BadRequestError (message : String)
  | ConflictError (message : String)
  | FlappingCooldownError (message : String)
  | ValidationError (field message : String)
  | ValueError (message : String)
  | TypeError (message : String)
  | IntegrityError (message : String)
  | DataError (message : String)
  | MultipleResultsFound
  | PendingRollbackError
  | Fault (message : String)
deriving DecidableEq

/-- The errors after which SQLAlchemy refuses to go on with the session. -/
def AppException.breaks_session : AppException → Bool
  | .IntegrityError _ | .DataError _ | .PendingRollbackError => true
  | _ => false

/-- `str(exc)`. -/
def AppException.message : AppException → String
  | .NotFoundError message | .BadRequestError message | .ConflictError message
  | .FlappingCooldownError message | .ValueError message | .TypeError message
  | .IntegrityError message | .DataError message | .Fault message => message
  | .ValidationError field message => field ++ ": " ++ message
  | .MultipleResultsFound => "Multiple rows were found when one or none was required"
  | .PendingRollbackError =>
    "This Session's transaction has been rolled back due to a previous exception during flush."

theorem bind_eq_ok_iff {A B : Type} {x : Except AppException A} {f : A → Except AppException B} {y : B} :
    (x >>= f) = .ok y ↔ ∃ a, x = .ok a ∧ f a = .ok y := by
  cases x <;> simp [Bind.bind, Except.bind]

theorem map_eq_ok_iff {A B : Type} {x : Except AppException A} {f : A → B} {y : B} :
    x.map f = .ok y ↔ ∃ a, x = .ok a ∧ f a = y := by
  cases x <;> simp [Except.map]

/-- `now + timedelta(seconds=n)`. The days of a `timedelta` are a C int of at most nine digits, and the sum must be
a `datetime`. -/
def add_seconds (now : Time) (n : ℤ) : Except AppException Time :=
  let days := n / 86400
  if days < -2 ^ 31 ∨ 2 ^ 31 ≤ days then .error (.Fault "Python int too large to convert to C int")
  else if days < -999999999 ∨ 999999999 < days then
    .error (.Fault ("days=" ++ toString days ++ "; must have magnitude <= 999999999"))
  else if IsDatetime (now + seconds n) then .ok (now + seconds n)
  else .error (.Fault "date value out of range")

theorem add_seconds_ok {now t : Time} {n : ℤ} (h : add_seconds now n = .ok t) : t = now + seconds n ∧ IsDatetime t := by
  unfold add_seconds at h
  dsimp only at h
  split_ifs at h with _ _ hrange
  obtain rfl := Except.ok.inj h
  exact ⟨rfl, hrange⟩

theorem exists_bind_eq_ok {A B : Type} {x : Except AppException A} {f : A → Except AppException B}
    (hx : ∃ a, x = .ok a) (hf : ∀ a, x = .ok a → ∃ b, f a = .ok b) : ∃ b, (x >>= f) = .ok b := by
  obtain ⟨a, ha⟩ := hx
  obtain ⟨b, hb⟩ := hf a ha
  exact ⟨b, bind_eq_ok_iff.mpr ⟨a, ha, hb⟩⟩

theorem mem_of_mapM_eq_ok {A B : Type} {f : A → Except AppException B} {xs : List A} {ys : List B}
    (h : xs.mapM f = .ok ys) {y : B} (hy : y ∈ ys) : ∃ x ∈ xs, f x = .ok y := by
  induction xs generalizing ys with
  | nil =>
    cases h
    cases hy
  | cons x xs ih =>
    rw [List.mapM_cons] at h
    obtain ⟨z, hz, h⟩ := bind_eq_ok_iff.mp h
    obtain ⟨zs, hzs, h⟩ := bind_eq_ok_iff.mp h
    cases h
    obtain rfl | hmem := List.mem_cons.mp hy
    · exact ⟨x, List.mem_cons_self, hz⟩
    · obtain ⟨x', hx', heq⟩ := ih hzs hmem
      exact ⟨x', List.mem_cons_of_mem _ hx', heq⟩

/-- The entries of a list are built exactly if each of them is. -/
theorem exists_mapM_eq_ok {A B : Type} {f : A → Except AppException B} {xs : List A} :
    (∃ ys, xs.mapM f = .ok ys) ↔ ∀ x ∈ xs, ∃ y, f x = .ok y := by
  induction xs with
  | nil => exact ⟨fun _ x hx => (by cases hx), fun _ => ⟨[], rfl⟩⟩
  | cons x xs ih =>
    rw [List.mapM_cons, List.forall_mem_cons, ← ih]
    constructor
    · rintro ⟨ys, h⟩
      obtain ⟨z, hz, h⟩ := bind_eq_ok_iff.mp h
      obtain ⟨zs, hzs, -⟩ := bind_eq_ok_iff.mp h
      exact ⟨⟨z, hz⟩, zs, hzs⟩
    · rintro ⟨⟨z, hz⟩, zs, hzs⟩
      rw [hz, hzs]
      exact ⟨z :: zs, rfl⟩

/-- `int(x)`. -/
def Json.to_int : Json → Except AppException ℤ
  | .num value => .ok (truncate value)
  | .bool value => .ok (if value then 1 else 0)
  | .str value =>
    match with_sign parse_unsigned (strip value.toList) with
    | some n => .ok n.num
    | none => .error (.ValueError ("invalid literal for int() with base 10: '" ++ value ++ "'"))
  | .null => .error (.TypeError "int() argument must be a string, a bytes-like object or a real number, not 'NoneType'")
  | .arr _ => .error (.TypeError "int() argument must be a string, a bytes-like object or a real number, not 'list'")
  | .obj _ => .error (.TypeError "int() argument must be a string, a bytes-like object or a real number, not 'dict'")

@[simp] theorem Json.to_int_intCast (n : ℤ) : (Json.num n).to_int = .ok n := by
  rw [Json.to_int, truncate, Int.ceil_intCast, Int.floor_intCast, ite_self]

theorem parse_digits_of_isDigit {cs : List Char} (h : ∀ c ∈ cs, c.isDigit) (acc : ℕ) :
    parse_digits acc true cs = some (Nat.ofDigitChars 10 cs acc) := by
  induction cs generalizing acc with
  | nil => rfl
  | cons c cs ih =>
    rw [parse_digits_cons (h c List.mem_cons_self), ih fun d hd => h d (List.mem_cons_of_mem c hd),
      Nat.ofDigitChars_cons]
    rfl

theorem isDigit_toDigits (n : ℕ) : ∀ c ∈ Nat.toDigits 10 n, c.isDigit :=
  fun _ hc => Nat.isDigit_of_mem_toDigits (by decide) (by decide) hc

theorem parse_digits_toDigits (n : ℕ) : parse_digits 0 false (Nat.toDigits 10 n) = some n := by
  have hread := parse_digits_of_isDigit (isDigit_toDigits n) 0
  rw [Nat.ofDigitChars_ten_toDigits] at hread
  obtain ⟨c, cs, hcs⟩ := List.exists_cons_of_ne_nil (Nat.toDigits_ne_nil (n := n) (b := 10))
  have hc : c.isDigit := isDigit_toDigits n c (hcs ▸ List.mem_cons_self)
  rw [hcs, parse_digits_cons hc] at hread ⊢
  exact hread

theorem strip_of_not_whitespace {cs : List Char} (h : ∀ c ∈ cs, c.isWhitespace = false) : strip cs = cs := by
  have hdrop {l : List Char} (hl : ∀ c ∈ l, c.isWhitespace = false) : l.dropWhile Char.isWhitespace = l :=
    List.dropWhile_eq_self_iff.mpr fun hlength => by simp [hl]
  rw [strip, hdrop h, hdrop fun c hc => h c (List.mem_reverse.mp hc), List.reverse_reverse]

theorem not_whitespace_of_isDigit {c : Char} (h : c.isDigit) : c.isWhitespace = false := by
  by_contra hblank
  simp only [Char.isWhitespace, Bool.not_eq_false, Bool.or_eq_true, decide_eq_true_eq, or_assoc] at hblank
  obtain rfl | rfl | rfl | rfl := hblank <;> exact absurd h (by decide)

theorem with_sign_of_isDigit {parse : List Char → Option ℚ} {c : Char} (h : c.isDigit) (cs : List Char) :
    with_sign parse (c :: cs) = parse (c :: cs) := by
  have hminus : c ≠ '-' := by rintro rfl; exact absurd h (by decide)
  have hplus : c ≠ '+' := by rintro rfl; exact absurd h (by decide)
  simp [with_sign, hminus, hplus]

theorem toList_toString_ofNat (m : ℕ) : (toString (Int.ofNat m)).toList = Nat.toDigits 10 m := Nat.toList_repr

theorem toList_toString_negSucc (m : ℕ) : (toString (Int.negSucc m)).toList = '-' :: Nat.toDigits 10 (m + 1) := by
  rw [← Nat.toList_repr]
  exact String.toList_append

theorem mem_toString {n : ℤ} {c : Char} (h : c ∈ (toString n).toList) : c = '-' ∨ c.isDigit := by
  cases n with
  | ofNat m =>
    rw [toList_toString_ofNat] at h
    exact .inr (isDigit_toDigits m c h)
  | negSucc m =>
    rw [toList_toString_negSucc, List.mem_cons] at h
    exact h.imp_right (isDigit_toDigits (m + 1) c)

theorem parse_unsigned_toDigits (m : ℕ) : parse_unsigned (Nat.toDigits 10 m) = some (m : ℚ) := by
  rw [parse_unsigned, parse_digits_toDigits]
  rfl

theorem with_sign_toString (n : ℤ) : with_sign parse_unsigned (toString n).toList = some (n : ℚ) := by
  cases n with
  | ofNat m =>
    obtain ⟨c, cs, hcs⟩ := List.exists_cons_of_ne_nil (Nat.toDigits_ne_nil (n := m) (b := 10))
    have hc : c.isDigit := isDigit_toDigits m c (hcs ▸ List.mem_cons_self)
    rw [toList_toString_ofNat, hcs, with_sign_of_isDigit hc, ← hcs, parse_unsigned_toDigits]
    rfl
  | negSucc m =>
    rw [toList_toString_negSucc, with_sign, parse_unsigned_toDigits, Option.map_some, Int.cast_negSucc]

/-- `int(str(n))`. -/
theorem Json.to_int_toString (n : ℤ) : (Json.str (toString n)).to_int = .ok n := by
  have hstrip : strip (toString n).toList = (toString n).toList := by
    refine strip_of_not_whitespace fun c hc => ?_
    obtain rfl | hdigit := mem_toString hc
    · rfl
    · exact not_whitespace_of_isDigit hdigit
  simp only [Json.to_int, hstrip, with_sign_toString, Rat.num_intCast]

/-- `float(x)`, for the finite literals without exponent. -/
def Json.to_float : Json → Except AppException ℚ
  | .num value => .ok value
  | .bool value => .ok (if value then 1 else 0)
  | .str value =>
    match with_sign parse_decimal (strip value.toList) with
    | some q => .ok q
    | none => .error (.ValueError ("could not convert string to float: '" ++ value ++ "'"))
  | .null => .error (.TypeError "float() argument must be a string or a real number, not 'NoneType'")
  | .arr _ => .error (.TypeError "float() argument must be a string or a real number, not 'list'")
  | .obj _ => .error (.TypeError "float() argument must be a string or a real number, not 'dict'")

end larp
