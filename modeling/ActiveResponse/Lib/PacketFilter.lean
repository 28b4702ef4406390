import Mathlib.Data.List.Basic

universe u

/-! Chains of rules, of which the first that decides a packet does, and the policy if none does. -/

namespace PacketFilter

inductive Verdict where
  | ACCEPT
  | DROP
deriving DecidableEq

/-- A chain: each rule decides some packets, also one that jumps into another chain. -/
structure Chain (P : Type u) where
  policy : Verdict
  rules : List (P → Option Verdict)

namespace Chain

variable {P : Type u} (self : Chain P)

def decision (p : P) : Option Verdict := self.rules.findSome? fun rule => rule p

def verdict (p : P) : Verdict := (self.decision p).getD self.policy

def flush : Chain P := { self with rules := [] }

def set_policy (policy : Verdict) : Chain P := { self with policy }

def append (rule : P → Option Verdict) : Chain P := { self with rules := self.rules ++ [rule] }

@[simp] theorem policy_flush : self.flush.policy = self.policy := rfl

@[simp] theorem policy_append (rule : P → Option Verdict) : (self.append rule).policy = self.policy := rfl

@[simp] theorem policy_set_policy (policy : Verdict) : (self.set_policy policy).policy = policy := rfl

@[simp] theorem decision_flush (p : P) : self.flush.decision p = none := rfl

@[simp] theorem decision_set_policy (policy : Verdict) (p : P) :
    (self.set_policy policy).decision p = self.decision p := rfl

@[simp] theorem decision_append (rule : P → Option Verdict) (p : P) :
    (self.append rule).decision p = (self.decision p).or (rule p) := by
  rw [decision, append, List.findSome?_append, List.findSome?_singleton]
  rfl

end Chain

end PacketFilter
