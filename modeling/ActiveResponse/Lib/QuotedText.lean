import Mathlib.Data.List.Basic

universe u v

/-! Texts between quotes: each value is written as a unit, and a reader takes one unit after the other up to the
closing quote. -/

namespace QuotedText

variable {C : Type u} {A : Type v} [DecidableEq C]

/-- Read units up to the closing quote. -/
def read_until (stop : C) (unit : List C → Option (A × List C)) : ℕ → List C → Option (List A × List C)
  | _, [] => none
  | 0, _ :: _ => none
  | fuel + 1, c :: cs =>
    if c = stop then some ([], cs)
    else (unit (c :: cs)).bind fun read =>
      (read_until stop unit fuel read.2).map fun more => (read.1 :: more.1, more.2)

/-- No unit begins like the closing quote, and a unit is read as the value that it was written for, or refused. -/
structure Reads (stop : C) (write : A → List C) (unit : List C → Option (A × List C)) : Prop where
  head : ∀ a, ∃ c cs, write a = c :: cs ∧ c ≠ stop
  read : ∀ a rest, unit (write a ++ rest) = none ∨ unit (write a ++ rest) = some (a, rest)

variable {stop : C} {write : A → List C} {unit : List C → Option (A × List C)}

/-- One unit and what comes after it. -/
theorem read_until_cons (h : Reads stop write unit) (fuel : ℕ) (a : A) (rest : List C) :
    read_until stop unit (fuel + 1) (write a ++ rest) =
      (unit (write a ++ rest)).bind fun read =>
        (read_until stop unit fuel read.2).map fun more => (read.1 :: more.1, more.2) := by
  obtain ⟨c, cs, hwrite, hne⟩ := h.head a
  rw [hwrite, List.cons_append, read_until, if_neg hne]

/-- Without a closing quote nothing is read. -/
theorem read_until_eq_none (h : Reads stop write unit) (fuel : ℕ) (values : List A) :
    read_until stop unit fuel (values.flatMap write) = none := by
  induction values generalizing fuel with
  | nil => cases fuel <;> rfl
  | cons a values ih =>
    rw [List.flatMap_cons]
    cases fuel with
    | zero =>
      obtain ⟨c, cs, hwrite, -⟩ := h.head a
      rw [hwrite]
      rfl
    | succ fuel =>
      rw [read_until_cons h]
      obtain hnone | hsome := h.read a (values.flatMap write)
      · rw [hnone]
        rfl
      · rw [hsome, Option.bind_some, ih]
        rfl

/-- What is read up to the closing quote is what was written, if no unit is refused. -/
theorem read_until_eq (h : Reads stop write unit) (fuel : ℕ) (values : List A) (rest : List C) :
    read_until stop unit fuel (values.flatMap write ++ stop :: rest) = none ∨
      read_until stop unit fuel (values.flatMap write ++ stop :: rest) = some (values, rest) := by
  induction values generalizing fuel with
  | nil =>
    cases fuel with
    | zero => exact .inl rfl
    | succ fuel => exact .inr (if_pos rfl)
  | cons a values ih =>
    rw [List.flatMap_cons, List.append_assoc]
    cases fuel with
    | zero =>
      obtain ⟨c, cs, hwrite, -⟩ := h.head a
      rw [hwrite]
      exact .inl rfl
    | succ fuel =>
      rw [read_until_cons h]
      obtain hnone | hsome := h.read a (values.flatMap write ++ stop :: rest)
      · rw [hnone]
        exact .inl rfl
      · rw [hsome, Option.bind_some]
        obtain hnone | hmore := ih fuel
        · rw [hnone]
          exact .inl rfl
        · rw [hmore]
          exact .inr rfl

/-- A reader that refuses some units reads the texts without them. -/
theorem read_until_eq_ite (h : Reads stop write unit) {ok : A → Bool}
    (hread : ∀ a rest, unit (write a ++ rest) = if ok a then some (a, rest) else none) {fuel : ℕ} {values : List A}
    (hfuel : values.length < fuel) (rest : List C) :
    read_until stop unit fuel (values.flatMap write ++ stop :: rest) =
      if values.all ok then some (values, rest) else none := by
  induction values generalizing fuel with
  | nil =>
    obtain ⟨fuel, rfl⟩ := Nat.exists_eq_succ_of_ne_zero (Nat.ne_of_gt hfuel)
    exact if_pos rfl
  | cons a values ih =>
    obtain ⟨fuel, rfl⟩ := Nat.exists_eq_succ_of_ne_zero (Nat.ne_of_gt (Nat.zero_lt_of_lt hfuel))
    rw [List.flatMap_cons, List.append_assoc, Nat.succ_eq_add_one, read_until_cons h, hread, List.all_cons]
    cases ok a with
    | false => rfl
    | true =>
      rw [if_pos rfl, Option.bind_some, ih (Nat.lt_of_succ_lt_succ hfuel), Bool.true_and]
      split <;> rfl

/-- A reader that refuses no unit reads every text. -/
theorem read_until_eq_some (h : Reads stop write unit) (hread : ∀ a rest, unit (write a ++ rest) = some (a, rest))
    {fuel : ℕ} {values : List A} (hfuel : values.length < fuel) (rest : List C) :
    read_until stop unit fuel (values.flatMap write ++ stop :: rest) = some (values, rest) := by
  have hall : values.all (fun _ => true) := List.all_eq_true.mpr fun _ _ => rfl
  rw [read_until_eq_ite h (fun a rest => by rw [hread, if_pos rfl]) hfuel, if_pos hall]

omit [DecidableEq C] in
/-- There are at least as many characters as units. -/
theorem length_le_flatMap (h : Reads stop write unit) (values : List A) :
    values.length ≤ (values.flatMap write).length := by
  induction values with
  | nil => exact Nat.le_refl _
  | cons a values ih =>
    obtain ⟨c, cs, hwrite, -⟩ := h.head a
    rw [List.flatMap_cons, hwrite, List.length_append, List.length_cons, List.length_cons]
    omega

end QuotedText
