import Mathlib.Data.List.DropRight
import Mathlib.Tactic.SplitIfs

universe u

/-! A queue with a bound, as the list of its elements from the oldest to the newest. -/

namespace Deque

variable {A : Type u}

/-- Append an element: a full queue loses its oldest one. -/
def push (bound : ℕ) (xs : List A) (x : A) : List A := (xs ++ [x]).rtake bound

theorem rtake_append_of_le {bound : ℕ} {ys : List A} (xs : List A) (h : bound ≤ ys.length) :
    (xs ++ ys).rtake bound = ys.rtake bound := by
  have hlength : (xs ++ ys).length - bound = xs.length + (ys.length - bound) := by
    rw [List.length_append]
    omega
  rw [List.rtake, hlength, List.drop_length_add_append, List.rtake]

theorem rtake_append_of_ge {bound : ℕ} {ys : List A} (xs : List A) (h : ys.length ≤ bound) :
    (xs ++ ys).rtake bound = xs.rtake (bound - ys.length) ++ ys := by
  have hlength : (xs ++ ys).length - bound = xs.length - (bound - ys.length) := by
    rw [List.length_append]
    omega
  rw [List.rtake, hlength, List.drop_append_of_le_length (by omega), List.rtake]

theorem rtake_rtake_append (bound : ℕ) (xs ys : List A) :
    (xs.rtake bound ++ ys).rtake bound = (xs ++ ys).rtake bound := by
  rcases Nat.le_total bound ys.length with h | h
  · rw [rtake_append_of_le _ h, rtake_append_of_le _ h]
  · rw [rtake_append_of_ge _ h, rtake_append_of_ge _ h]
    have hshort : (xs.rtake bound).rtake (bound - ys.length) = xs.rtake (bound - ys.length) := by
      simp only [List.rtake, List.length_drop, List.drop_drop]
      congr 1
      omega
    rw [hshort]

/-- The queue holds the newest of all elements that have been appended. -/
theorem foldl_push (bound : ℕ) (xs ys : List A) :
    ys.foldl (push bound) (xs.rtake bound) = (xs ++ ys).rtake bound := by
  induction ys generalizing xs with
  | nil => simp
  | cons y ys ih =>
    rw [List.foldl_cons, push, rtake_rtake_append, ih]
    simp

theorem countP_rtake_le (p : A → Bool) (bound : ℕ) (xs : List A) : (xs.rtake bound).countP p ≤ xs.countP p :=
  (List.drop_sublist _ _).countP_le

/-- An element that comes back once is held twice, until a whole queue has followed it. -/
theorem countP_rtake_le_one_iff {p : A → Bool} {bound : ℕ} {a : A} (ha : p a) {xs ys : List A}
    (hback : ys.countP p = 1) : ((xs ++ a :: ys).rtake bound).countP p ≤ 1 ↔ bound ≤ ys.length := by
  constructor
  · intro h
    by_contra hlt
    rw [rtake_append_of_ge xs (by simp; omega), List.countP_append, List.countP_cons_of_pos ha, hback] at h
    omega
  · intro h
    have hsplit : xs ++ a :: ys = (xs ++ [a]) ++ ys := by simp
    rw [hsplit, rtake_append_of_le _ h]
    exact (countP_rtake_le p bound ys).trans hback.le

end Deque
