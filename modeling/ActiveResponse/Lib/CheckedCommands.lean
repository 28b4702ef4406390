import ActiveResponse.Lib.Run

universe u v

/-! Jobs that run external commands one after the other. A command may fail, and only a checked one ends the job then. -/

namespace Checked

structure Cmd (W : Type u) where
  check : Bool
  effect : W → W

/-- How a command ends. One that raises, after a time limit for example, may have taken effect. -/
inductive Outcome where
  | done
  | nonzero
  | raised (applied : Bool)

/-- The machine in the middle of a job. -/
structure Runner (W : Type u) (J : Type v) where
  world : W
  job : Option J := none
  rest : List (Cmd W) := []
  /-- The job has been ended by a command. -/
  aborted : Bool := false
  /-- Every command of the job has taken effect so far. -/
  effective : Bool := true

inductive Step (J : Type v) where
  | start (job : J)
  | command (outcome : Outcome)

namespace Runner

variable {W : Type u} {J : Type v} (commands : J → List (Cmd W))

def start (self : Runner W J) (job : J) : Runner W J :=
  match self.rest with
  | [] => { world := self.world, job := some job, rest := commands job }
  | _ => self

def command (self : Runner W J) (outcome : Outcome) : Runner W J :=
  match self.rest, outcome with
  | [], _ => self
  | cmd :: rest, .done => { self with world := cmd.effect self.world, rest }
  | cmd :: rest, .nonzero =>
    if cmd.check then { self with rest := [], aborted := true, effective := false }
    else { self with rest, effective := false }
  | cmd :: _, .raised applied =>
    { self with
      world := if applied then cmd.effect self.world else self.world
      rest := []
      aborted := true
      effective := false }

def step (self : Runner W J) : Step J → Runner W J
  | .start job => self.start commands job
  | .command outcome => self.command outcome

/-- Whatever becomes of the commands, `I` holds in between, and `Q` at the end if the job is not aborted. -/
def Secures (I Q : W → Prop) : List (Cmd W) → W → Prop
  | [], w => I w ∧ Q w
  | cmd :: rest, w => I w ∧ Secures I Q rest (cmd.effect w) ∧ (cmd.check = false → Secures I Q rest w)

theorem Secures.invariant {I Q : W → Prop} {rest : List (Cmd W)} {w : W} (h : Secures I Q rest w) : I w := by
  cases rest with
  | nil => exact h.1
  | cons cmd rest => exact h.1

section Rules

variable {commands} {I : W → Prop} {Q : J → W → Prop}

/-- The invariant of a runner whose jobs secure their conditions. -/
structure Securing (I : W → Prop) (Q : J → W → Prop) (s : Runner W J) : Prop where
  invariant : I s.world
  job : ∀ job, s.job = some job → s.aborted = false → Secures I (Q job) s.rest s.world
  ended : s.aborted = true → s.rest = []
  idle : s.job = none → s.rest = []

theorem Securing.start {self : Runner W J} (h : Securing I Q self)
    (hjobs : ∀ job w, I w → Secures I (Q job) (commands job) w) (job : J) :
    Securing I Q (self.start commands job) := by
  unfold Runner.start
  split
  · refine ⟨h.invariant, fun other hother _ => ?_, nofun, nofun⟩
    obtain rfl := Option.some.inj hother
    exact hjobs job self.world h.invariant
  · exact h

theorem Securing.command {self : Runner W J} (h : Securing I Q self) (outcome : Outcome) :
    Securing I Q (self.command outcome) := by
  unfold Runner.command
  split
  · exact h
  all_goals
    rename_i cmd rest hrest
    have hjob : ∃ job, self.job = some job := by
      cases hnone : self.job with
      | none => rw [h.idle hnone] at hrest; cases hrest
      | some job => exact ⟨job, rfl⟩
    have hrunning : self.aborted = false := by
      cases haborted : self.aborted with
      | false => rfl
      | true => rw [h.ended haborted] at hrest; cases hrest
    obtain ⟨job, hjob⟩ := hjob
    have hsecures := h.job job hjob hrunning
    rw [hrest] at hsecures
    obtain ⟨hinvariant, heffect, hskip⟩ := hsecures
  · refine ⟨heffect.invariant, fun other hother _ => ?_, fun haborted => ?_, fun hnone => ?_⟩
    · obtain rfl := Option.some.inj (hjob.symm.trans hother)
      exact heffect
    · rw [show self.aborted = true from haborted] at hrunning
      cases hrunning
    · rw [show self.job = none from hnone] at hjob
      cases hjob
  · split
    · exact ⟨hinvariant, fun _ _ haborted => (by cases haborted), fun _ => rfl, fun _ => rfl⟩
    · rename_i hcheck
      refine ⟨hinvariant, fun other hother _ => ?_, fun haborted => ?_, fun hnone => ?_⟩
      · obtain rfl := Option.some.inj (hjob.symm.trans hother)
        exact hskip (Bool.not_eq_true _ ▸ hcheck)
      · rw [show self.aborted = true from haborted] at hrunning
        cases hrunning
      · rw [show self.job = none from hnone] at hjob
        cases hjob
  · refine ⟨?_, fun _ _ haborted => (by cases haborted), fun _ => rfl, fun _ => rfl⟩
    dsimp only
    split
    · exact heffect.invariant
    · exact hinvariant

/-- What every job secures holds at every moment of every run, and its condition when it has not been aborted. -/
theorem securing_run (hjobs : ∀ job w, I w → Secures I (Q job) (commands job) w) {world : W} (hinit : I world)
    (steps : List (Step J)) :
    let self := transition.run (step commands) { world } steps
    I self.world ∧ ∀ job, self.job = some job → self.rest = [] → self.aborted = false → Q job self.world := by
  have hsecuring : Securing I Q ({ world } : Runner W J) :=
    ⟨hinit, fun _ hjob => (by cases hjob), nofun, fun _ => rfl⟩
  have hstep (self : Runner W J) (op : Step J) (h : Securing I Q self) : Securing I Q (self.step commands op) := by
    cases op with
    | start job => exact h.start hjobs job
    | command outcome => exact h.command outcome
  have hrun : Securing I Q (transition.run (step commands) { world } steps) :=
    transition.run_preserves hstep hsecuring steps
  refine ⟨hrun.invariant, fun job hjob hrest haborted => ?_⟩
  have hsecures := hrun.job job hjob haborted
  rw [hrest] at hsecures
  exact hsecures.2

/-- What a job does if each of its commands takes effect. -/
def perform (job : List (Cmd W)) (w : W) : W := job.foldl (fun w cmd => cmd.effect w) w

theorem perform_append (first second : List (Cmd W)) (w : W) :
    perform (first ++ second) w = perform second (perform first w) := List.foldl_append

/-- As long as every command takes effect, the world is what the commands so far have made of the one before. -/
def Performing (commands : J → List (Cmd W)) (s : Runner W J) : Prop :=
  ∀ job, s.job = some job → s.effective = true →
    ∃ before done, commands job = done ++ s.rest ∧ s.world = perform done before

theorem Performing.step {self : Runner W J} (h : Performing commands self) (op : Step J) :
    Performing commands (self.step commands op) := by
  cases op with
  | start job =>
    change Performing commands (self.start commands job)
    unfold Runner.start
    split
    · intro other hother _
      obtain rfl := Option.some.inj hother
      exact ⟨self.world, [], rfl, rfl⟩
    · exact h
  | command outcome =>
    change Performing commands (self.command outcome)
    unfold Runner.command
    split
    · exact h
    · rename_i cmd rest hrest
      intro job hjob heffective
      obtain ⟨before, done, hcommands, hworld⟩ := h job hjob heffective
      refine ⟨before, done ++ [cmd], by rw [hcommands, hrest, List.append_assoc]; rfl, ?_⟩
      rw [perform_append, ← hworld]
      rfl
    · split
      · exact nofun
      · exact nofun
    · exact nofun

/-- A job whose commands have all taken effect has done what it is for, whatever happened before. -/
theorem performed_run (world : W) (steps : List (Step J)) {job : J} :
    let self := transition.run (step commands) { world } steps
    self.job = some job → self.rest = [] → self.effective = true →
      ∃ before, self.world = perform (commands job) before := by
  intro self hjob hrest heffective
  have hinit : Performing commands ({ world } : Runner W J) := fun _ hjob => by cases hjob
  have hrun := transition.run_preserves (I := Performing commands) (fun _ op h => h.step op) hinit steps
  obtain ⟨before, done, hcommands, hworld⟩ := hrun job hjob heffective
  rw [show (transition.run (step commands) { world } steps).rest = [] from hrest, List.append_nil] at hcommands
  exact ⟨before, hcommands ▸ hworld⟩

end Rules

end Runner

end Checked
