import Mathlib.Data.List.Basic
import Mathlib.Logic.Function.Basic
import Mathlib.Order.Defs.PartialOrder

universe u v w

namespace transition

variable {S : Type u} {O : Type v}

/-- The state after a list of operations. An operation that is not enabled is
a `step` that returns the state unchanged. -/
def run (step : S → O → S) (s : S) (ops : List O) : S :=
  ops.foldl step s

/-- `P` holds of every state of a run together with the operation taken there. -/
def Along (step : S → O → S) (P : S → O → Prop) : S → List O → Prop
  | _, [] => True
  | s, op :: ops => P s op ∧ Along step P (step s op) ops

variable {step : S → O → S}

@[simp] theorem run_nil (s : S) : run step s [] = s := rfl

@[simp] theorem run_cons (s : S) (op : O) (ops : List O) :
    run step s (op :: ops) = run step (step s op) ops := rfl

theorem run_append (s : S) (first second : List O) :
    run step s (first ++ second) = run step (run step s first) second := by
  simp [run]

@[simp] theorem along_nil (P : S → O → Prop) (s : S) : Along step P s [] := trivial

@[simp] theorem along_cons {P : S → O → Prop} {s : S} {op : O} {ops : List O} :
    Along step P s (op :: ops) ↔ P s op ∧ Along step P (step s op) ops := Iff.rfl

theorem along_append {P : S → O → Prop} {s : S} {first second : List O} :
    Along step P s (first ++ second) ↔
      Along step P s first ∧ Along step P (run step s first) second := by
  induction first generalizing s with
  | nil => simp
  | cons op ops ih => simp [ih, and_assoc]

/-- An invariant kept by every guarded step holds after every run whose steps
all meet the guard. -/
theorem run_invariant {I : S → Prop} {guard : S → O → Prop}
    (hstep : ∀ s op, I s → guard s op → I (step s op))
    {s : S} {ops : List O} (hguard : Along step guard s ops) (hinit : I s) :
    I (run step s ops) := by
  induction ops generalizing s with
  | nil => exact hinit
  | cons op ops ih => exact ih hguard.2 (hstep s op hinit hguard.1)

/-- An invariant that every step keeps holds after every run. -/
theorem run_preserves {I : S → Prop} (hstep : ∀ s op, I s → I (step s op)) {s : S} (hinit : I s)
    (ops : List O) : I (run step s ops) := by
  induction ops generalizing s with
  | nil => exact hinit
  | cons op ops ih => exact ih (hstep s op hinit)

/-- What every guarded step from an invariant state does, every step of a
guarded run does. -/
theorem along_of_invariant {I : S → Prop} {guard P : S → O → Prop}
    (hstep : ∀ s op, I s → guard s op → I (step s op))
    (hlocal : ∀ s op, I s → guard s op → P s op)
    {s : S} {ops : List O} (hguard : Along step guard s ops) (hinit : I s) :
    Along step P s ops := by
  induction ops generalizing s with
  | nil => trivial
  | cons op ops ih =>
    exact ⟨hlocal s op hinit hguard.1, ih hguard.2 (hstep s op hinit hguard.1)⟩

/-- What every step from an invariant state does, every step of a run does. -/
theorem along_of_preserves {I : S → Prop} {P : S → O → Prop} (hstep : ∀ s op, I s → I (step s op))
    (hlocal : ∀ s op, I s → P s op) {s : S} (hinit : I s) (ops : List O) : Along step P s ops := by
  induction ops generalizing s with
  | nil => trivial
  | cons op ops ih => exact ⟨hlocal s op hinit, ih (hstep s op hinit)⟩

theorem Along.mono {P Q : S → O → Prop} (h : ∀ s op, P s op → Q s op)
    {s : S} {ops : List O} (hP : Along step P s ops) : Along step Q s ops := by
  induction ops generalizing s with
  | nil => trivial
  | cons op ops ih => exact ⟨h s op hP.1, ih hP.2⟩

/-- A guard that looks at the operations alone. -/
theorem Along.of_forall {P : O → Prop} {ops : List O} (h : ∀ op ∈ ops, P op) (s : S) :
    Along step (fun _ op => P op) s ops := by
  induction ops generalizing s with
  | nil => trivial
  | cons op ops ih =>
    exact ⟨h op List.mem_cons_self, ih (fun next hnext => h next (List.mem_cons_of_mem _ hnext)) (step s op)⟩

theorem Along.and {P Q : S → O → Prop} {s : S} {ops : List O} (hP : Along step P s ops)
    (hQ : Along step Q s ops) : Along step (fun s op => P s op ∧ Q s op) s ops := by
  induction ops generalizing s with
  | nil => trivial
  | cons op ops ih => exact ⟨⟨hP.1, hQ.1⟩, ih hP.2 hQ.2⟩

/-- What holds of all parties of a state holds after one of them has been replaced. -/
theorem forall_update {I : Type u} [DecidableEq I] {A : Type v} {f : I → Option A} {P : A → Prop}
    (h : ∀ i a, f i = some a → P a) (i : I) {new : Option A} (hnew : ∀ a, new = some a → P a) :
    ∀ j a, Function.update f i new j = some a → P a := by
  intro j a ha
  by_cases hj : j = i
  · rw [hj, Function.update_self] at ha
    exact hnew a ha
  · rw [Function.update_of_ne hj] at ha
    exact h j a ha

section Reach

variable {guard : S → O → Prop}

/-- Some run of guarded steps leads from the first state to the second. -/
def Reaches (step : S → O → S) (guard : S → O → Prop) (s t : S) : Prop :=
  ∃ ops, Along step guard s ops ∧ t = run step s ops

theorem Reaches.of_eq {s t : S} (h : t = s) : Reaches step guard s t := ⟨[], trivial, h⟩

theorem Reaches.of_step {s t : S} (op : O) (hguard : guard s op) (h : t = step s op) : Reaches step guard s t :=
  ⟨[op], ⟨hguard, trivial⟩, h⟩

/-- An invariant kept by every guarded step holds of everything that is reached. -/
theorem Reaches.invariant {I : S → Prop} (hstep : ∀ s op, I s → guard s op → I (step s op)) {s t : S}
    (h : Reaches step guard s t) (hinit : I s) : I t := by
  obtain ⟨ops, hguard, rfl⟩ := h
  exact run_invariant hstep hguard hinit

end Reach

section Deadline

variable {T : Type w} [Preorder T] {clock : S → T}

theorem le_run (hclock : ∀ s op, clock s ≤ clock (step s op)) (s : S) (ops : List O) :
    clock s ≤ clock (run step s ops) := by
  induction ops generalizing s with
  | nil => exact le_refl _
  | cons op ops ih => exact le_trans (hclock s op) (ih (step s op))

/-- What every guarded step keeps before a deadline, a guarded run keeps that ends before it. -/
theorem run_until {I : S → Prop} {guard : S → O → Prop} {deadline : T}
    (hclock : ∀ s op, clock s ≤ clock (step s op))
    (hstep : ∀ s op, I s → guard s op → clock s < deadline → I (step s op))
    {s : S} {ops : List O} (hguard : Along step guard s ops) (hinit : I s)
    (hend : clock (run step s ops) < deadline) : I (run step s ops) := by
  induction ops generalizing s with
  | nil => exact hinit
  | cons op ops ih =>
    have hbefore : clock s < deadline := lt_of_le_of_lt (le_run hclock s (op :: ops)) hend
    exact ih hguard.2 (hstep s op hinit hguard.1 hbefore) hend

end Deadline

section Projection

variable {T : Type w} {stepT : T → O → T} {f : S → T}

/-- What holds along the projected run holds along the run. -/
theorem along_map (hf : ∀ s op, f (step s op) = stepT (f s) op) {P : T → O → Prop} {s : S} {ops : List O} :
    Along step (fun s op => P (f s) op) s ops ↔ Along stepT P (f s) ops := by
  induction ops generalizing s with
  | nil => simp
  | cons op ops ih => rw [along_cons, along_cons, ih, hf]

end Projection

section Purge

variable {V : Type w}

/-- What is observed along a run, in the order of the operations. -/
def trace (step : S → O → S) (observe : S → O → List V) : S → List O → List V
  | _, [] => []
  | s, op :: ops => observe s op ++ trace step observe (step s op) ops

variable {observe : S → O → List V}

@[simp] theorem trace_cons (s : S) (op : O) (ops : List O) :
    trace step observe s (op :: ops) = observe s op ++ trace step observe (step s op) ops := rfl

/-- Operations that nobody observes and that leave the view of the state alone can be left out of a run, if
the others do the same to states with the same view. -/
theorem trace_purge {R : S → S → Prop} {guard : S → O → Prop} {silent : O → Bool}
    (hsilent : ∀ s t op, R s t → guard s op → silent op = true → observe s op = [] ∧ R (step s op) t)
    (hloud : ∀ s t op, R s t → guard s op → silent op = false →
      observe s op = observe t op ∧ R (step s op) (step t op))
    {s t : S} {ops : List O} (hguard : Along step guard s ops) (hview : R s t) :
    trace step observe s ops = trace step observe t (ops.filter fun op => !silent op) := by
  induction ops generalizing s t with
  | nil => rfl
  | cons op ops ih =>
    cases hop : silent op with
    | true =>
      obtain ⟨hobserve, hnext⟩ := hsilent s t op hview hguard.1 hop
      rw [trace_cons, hobserve, List.nil_append, List.filter_cons_of_neg (by simp [hop])]
      exact ih hguard.2 hnext
    | false =>
      obtain ⟨hobserve, hnext⟩ := hloud s t op hview hguard.1 hop
      rw [List.filter_cons_of_pos (by simp [hop]), trace_cons, trace_cons, hobserve, ih hguard.2 hnext]

end Purge

end transition
