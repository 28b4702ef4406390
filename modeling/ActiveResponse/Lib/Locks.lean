import Mathlib.Logic.Function.Basic

universe u v

/-- Exclusive locks on keys: who holds the lock of a key, if anyone does. -/
def Locks (K : Type u) (S : Type v) := K → Option S

namespace Locks

variable {K : Type u} {S : Type v}

def free : Locks K S := fun _ => none

/-- Nobody else holds the lock, so that taking it does not block. -/
def available (self : Locks K S) (s : S) (k : K) : Prop :=
  ∀ holder, self k = some holder → holder = s

instance [DecidableEq S] (self : Locks K S) (s : S) (k : K) : Decidable (self.available s k) :=
  match h : self k with
  | none => .isTrue fun _ hholder => by rw [h] at hholder; cases hholder
  | some holder =>
    if hs : holder = s then .isTrue fun _ hholder => by
      rw [h] at hholder
      exact (Option.some.inj hholder).symm.trans hs
    else .isFalse fun havailable => hs (havailable holder h)

def acquire [DecidableEq K] (self : Locks K S) (s : S) (k : K) : Locks K S :=
  Function.update self k (some s)

/-- The end of a transaction. -/
def release_all [DecidableEq S] (self : Locks K S) (s : S) : Locks K S :=
  fun k => if self k = some s then none else self k

@[simp] theorem acquire_self [DecidableEq K] (self : Locks K S) (s : S) (k : K) :
    self.acquire s k k = some s :=
  Function.update_self ..

theorem acquire_of_ne [DecidableEq K] (self : Locks K S) (s : S) {k j : K} (h : j ≠ k) :
    self.acquire s k j = self j :=
  Function.update_of_ne h ..

/-- The locks of the other holders survive a release. -/
theorem release_all_of_ne [DecidableEq S] {self : Locks K S} {s holder : S} {k : K}
    (h : self k = some holder) (hne : holder ≠ s) : self.release_all s k = some holder := by
  simp [release_all, h, hne]

end Locks
