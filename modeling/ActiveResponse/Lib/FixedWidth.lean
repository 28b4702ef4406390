import Mathlib.Algebra.Ring.Nat
import Mathlib.Data.List.Lex
import Mathlib.Order.Defs.LinearOrder

universe u

/-! Numbers written with a fixed number of digits are in the lexicographic order of their texts. -/

namespace FixedWidth

section Append

variable {A : Type u} [LT A]

/-- Texts of one length decide the order whatever follows them. -/
theorem append_lt_append {xs ys : List A} (hlength : xs.length = ys.length) (h : xs < ys) (us vs : List A) :
    xs ++ us < ys ++ vs := by
  induction h with
  | nil => cases hlength
  | rel hhead => exact .rel hhead
  | cons _ ih => exact .cons (ih (Nat.succ.inj hlength))

/-- What follows decides the order where the texts are the same. -/
theorem append_lt_of_lt_or_eq {xs ys us vs : List A} (hlength : xs.length = ys.length)
    (h : xs < ys ∨ (xs = ys ∧ us < vs)) : xs ++ us < ys ++ vs := by
  obtain h | ⟨rfl, h⟩ := h
  · exact append_lt_append hlength h us vs
  · exact List.append_left_lt h

end Append

section Digits

variable {A : Type u} (base : ℕ) (digit : ℕ → A)

/-- The last digits of a number. -/
def digits : ℕ → ℕ → List A
  | 0, _ => []
  | width + 1, n => digits width (n / base) ++ [digit (n % base)]

@[simp] theorem length_digits (width n : ℕ) : (digits base digit width n).length = width := by
  induction width generalizing n with
  | zero => rfl
  | succ width ih => simp [digits, ih]

variable {base digit}

/-- Every entry is a digit below the base. -/
theorem exists_of_mem_digits (hbase : 0 < base) {width n : ℕ} {a : A} (h : a ∈ digits base digit width n) :
    ∃ i < base, digit i = a := by
  induction width generalizing n with
  | zero => cases h
  | succ width ih =>
    obtain hmem | hmem := List.mem_append.mp h
    · exact ih hmem
    · exact ⟨n % base, Nat.mod_lt _ hbase, (List.mem_singleton.mp hmem).symm⟩

variable [LT A]

/-- Division by a positive number keeps the order, and the remainder decides where the quotients are the same. -/
theorem div_lt_or_mod_lt {n m b : ℕ} (h : n < m) : n / b < m / b ∨ (n / b = m / b ∧ n % b < m % b) := by
  obtain hlt | heq := (Nat.div_le_div_right (c := b) h.le).lt_or_eq
  · exact .inl hlt
  · refine .inr ⟨heq, ?_⟩
    have hn := Nat.div_add_mod n b
    have hm := Nat.div_add_mod m b
    rw [heq] at hn
    omega

theorem digits_lt (hbase : 0 < base) (hdigit : ∀ i j, i < j → j < base → digit i < digit j) {width n m : ℕ}
    (h : n < m) (hm : m < base ^ width) : digits base digit width n < digits base digit width m := by
  induction width generalizing n m with
  | zero =>
    rw [pow_zero] at hm
    omega
  | succ width ih =>
    refine append_lt_of_lt_or_eq (by simp) ?_
    obtain hlt | ⟨heq, hlt⟩ := div_lt_or_mod_lt (b := base) h
    · exact .inl (ih hlt (Nat.div_lt_of_lt_mul (by rwa [Nat.mul_comm, ← pow_succ])))
    · rw [heq]
      exact .inr ⟨rfl, .rel (hdigit _ _ hlt (Nat.mod_lt _ hbase))⟩

end Digits

section Read

variable {A : Type u} {base : ℕ} {digit : ℕ → A} {value : A → Option ℕ}

/-- Read a number of so many digits. -/
def read (base : ℕ) (value : A → Option ℕ) : ℕ → ℕ → List A → Option (ℕ × List A)
  | 0, n, cs => some (n, cs)
  | _ + 1, _, [] => none
  | width + 1, n, c :: cs => (value c).bind fun d => read base value width (base * n + d) cs

theorem read_add (width more n : ℕ) (cs : List A) : read base value (width + more) n cs =
    (read base value width n cs).bind fun first => read base value more first.1 first.2 := by
  induction width generalizing n cs with
  | zero =>
    rw [Nat.zero_add]
    rfl
  | succ width ih =>
    rw [Nat.succ_add]
    cases cs with
    | nil => rfl
    | cons c cs =>
      rw [read, read]
      cases value c with
      | none => rfl
      | some d => exact ih _ cs

/-- The digits of a number are read as the number. -/
theorem read_digits (hbase : 0 < base) (hvalue : ∀ i < base, value (digit i) = some i) (width m n : ℕ)
    (rest : List A) : read base value width m (digits base digit width n ++ rest) =
      some (base ^ width * m + n % base ^ width, rest) := by
  induction width generalizing n rest with
  | zero => simp [read, digits, Nat.mod_one]
  | succ width ih =>
    rw [digits, List.append_assoc, read_add, ih, Option.bind_some]
    simp only [List.singleton_append, read, hvalue _ (Nat.mod_lt _ hbase), Option.bind_some]
    rw [pow_succ, Nat.mul_comm (base ^ width) base, Nat.mod_mul, Nat.mul_add, Nat.mul_assoc, Nat.add_assoc,
      Nat.add_comm (n % base)]

end Read

end FixedWidth
