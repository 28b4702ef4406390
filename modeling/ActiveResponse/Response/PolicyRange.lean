import Mathlib.Logic.Function.Basic
import ActiveResponse.Core.Database
import ActiveResponse.Lib.Run

namespace larp

structure ResponsePolicyCreate where
  name : String
  description : Option String := none
  min_score : PyFloat
  max_score : PyFloat
  action_type : String
  scope : String := "agent"
  target_group_id : Option String := none
  action_params : Dict := []
  auto_rollback_seconds : Option ℤ := none
  priority : ℤ := 0
  is_active : Bool := true

/-- An argument that is `None` leaves its column alone. -/
structure ResponsePolicyUpdate where
  name : Option String := none
  description : Option String := none
  min_score : Option PyFloat := none
  max_score : Option PyFloat := none
  action_type : Option String := none
  scope : Option String := none
  target_group_id : Option String := none
  action_params : Option Dict := none
  auto_rollback_seconds : Option ℤ := none
  priority : Option ℤ := none
  is_active : Option Bool := none

/-- Neither of the bounds that are given is NaN. -/
def ResponsePolicyUpdate.has_numbers (self : ResponsePolicyUpdate) : Bool :=
  self.min_score ≠ some .nan ∧ self.max_score ≠ some .nan

/-- The check of the range, which no NaN fails; `py_str` prints a score. -/
def check_range (py_str : PyFloat → String) (min_score max_score : PyFloat) : Except AppException Unit :=
  if max_score.py_lt min_score then
    .error (.BadRequestError
      ("min_score (" ++ py_str min_score ++ ") cannot be greater than max_score (" ++ py_str max_score ++ ")."))
  else .ok ()

theorem check_range_ok {py_str : PyFloat → String} {min_score max_score : PyFloat} {result : Unit}
    (h : check_range py_str min_score max_score = .ok result) (hmin : min_score ≠ .nan) (hmax : max_score ≠ .nan) :
    min_score.py_le max_score := by
  unfold check_range at h
  split at h
  · cases h
  · rename_i hrange
    exact PyFloat.py_le_of_not_py_lt hmax hmin hrange

def check_scope (scope : String) : Except AppException Unit :=
  if scope ∈ ["agent", "group"] then .ok ()
  else .error (.BadRequestError ("Invalid scope '" ++ scope ++ "'. Allowed scopes are 'agent' or 'group'."))

/-- The group that a policy is restricted to must exist, if one is named. -/
def Database.check_target_group (db : Database) (target_group_id : Option String) : Except AppException Unit :=
  if present target_group_id ∧ (db.agent_groups.get (target_group_id.getD "")).isNone then
    .error (.NotFoundError ("Target AgentGroup '" ++ target_group_id.getD "" ++ "' was not found."))
  else .ok ()

def ResponsePolicyCreate.policy (self : ResponsePolicyCreate) (policy_id : String) : ResponsePolicy where
  id := policy_id
  name := py_strip self.name
  description := self.description
  min_score := self.min_score
  max_score := self.max_score
  action_type := py_strip self.action_type
  scope := self.scope
  target_group_id := self.target_group_id
  action_params := self.action_params
  auto_rollback_seconds := self.auto_rollback_seconds
  priority := self.priority
  is_active := self.is_active

/-- `ResponsePolicyService.create_policy`. An empty `target_group_id` is stored, and refused as a key. -/
def Database.create_policy (py_str : PyFloat → String) (db : Database) (policy_id : String) (req : ResponsePolicyCreate) :
    Except AppException Database := do
  check_range py_str req.min_score req.max_score
  check_scope req.scope
  db.check_target_group req.target_group_id
  if req.target_group_id.any fun group_id => (db.agent_groups.get group_id).isNone then
    .error (.IntegrityError "response_policies_target_group_id_fkey")
  else
    match db.response_policies.insert (req.policy policy_id) with
    | some response_policies => .ok { db with response_policies }
    | none => .error (.IntegrityError "response_policies_pkey")

namespace ResponsePolicy

/-- The session's copy after the assignments of `update_policy`. -/
def updated (self : ResponsePolicy) (dto : ResponsePolicyUpdate) : ResponsePolicy :=
  { self with
    name := (dto.name.map py_strip).getD self.name
    description := dto.description.or self.description
    min_score := dto.min_score.getD self.min_score
    max_score := dto.max_score.getD self.max_score
    action_type := (dto.action_type.map py_strip).getD self.action_type
    scope := dto.scope.getD self.scope
    target_group_id :=
      match dto.target_group_id with
      | some group_id => if group_id = "" then none else some group_id
      | none => self.target_group_id
    action_params := dto.action_params.getD self.action_params
    auto_rollback_seconds := dto.auto_rollback_seconds.or self.auto_rollback_seconds
    priority := dto.priority.getD self.priority
    is_active := dto.is_active.getD self.is_active }

/-- The checks of `update_policy` that need nothing but the row that it has loaded. -/
def check_update (py_str : PyFloat → String) (self : ResponsePolicy) (dto : ResponsePolicyUpdate) :
    Except AppException Unit := do
  check_range py_str (dto.min_score.getD self.min_score) (dto.max_score.getD self.max_score)
  match dto.scope with
  | some scope => check_scope scope
  | none => .ok ()

/-- The `UPDATE` at the end of `update_policy`: the columns in which the session's copy differs from what it
has loaded are written to the row. NaN differs from itself. -/
def flush (loaded : ResponsePolicy) (dto : ResponsePolicyUpdate) (row : ResponsePolicy) : ResponsePolicy :=
  { row with
    name := assign (· = ·) loaded.name (loaded.updated dto).name row.name
    description := assign (· = ·) loaded.description (loaded.updated dto).description row.description
    min_score :=
      dto.min_score.elim row.min_score fun min_score =>
        assign PyFloat.py_eq loaded.min_score min_score row.min_score
    max_score :=
      dto.max_score.elim row.max_score fun max_score =>
        assign PyFloat.py_eq loaded.max_score max_score row.max_score
    action_type := assign (· = ·) loaded.action_type (loaded.updated dto).action_type row.action_type
    scope := assign (· = ·) loaded.scope (loaded.updated dto).scope row.scope
    target_group_id :=
      assign (· = ·) loaded.target_group_id (loaded.updated dto).target_group_id row.target_group_id
    action_params :=
      assign (fun a b => (Json.obj a).py_eq (.obj b)) loaded.action_params (loaded.updated dto).action_params
        row.action_params
    auto_rollback_seconds :=
      assign (· = ·) loaded.auto_rollback_seconds (loaded.updated dto).auto_rollback_seconds
        row.auto_rollback_seconds
    priority := assign (· = ·) loaded.priority (loaded.updated dto).priority row.priority
    is_active := assign (· = ·) loaded.is_active (loaded.updated dto).is_active row.is_active }

@[simp] theorem key_flush (loaded : ResponsePolicy) (dto : ResponsePolicyUpdate) (row : ResponsePolicy) :
    Keyed.key (loaded.flush dto row) = Keyed.key row := rfl

def InRange (self : ResponsePolicy) : Prop := self.min_score.py_le self.max_score

theorem InRange.numbers {self : ResponsePolicy} (h : self.InRange) : self.min_score ≠ .nan ∧ self.max_score ≠ .nan := by
  simp only [InRange, PyFloat.py_le, decide_eq_true_eq] at h
  exact ⟨h.1, h.2.1⟩

end ResponsePolicy

/-- A call of `update_policy` between its read and its commit. -/
structure PolicyUpdateCall where
  loaded : ResponsePolicy
  dto : ResponsePolicyUpdate

/-- The database and the sessions in the middle of `update_policy`. -/
structure PolicySessions where
  db : Database
  calls : ℕ → Option PolicyUpdateCall := fun _ => none

inductive PolicyStep where
  | create_policy (policy_id : String) (req : ResponsePolicyCreate)
  | get (sid : ℕ) (policy_id : String) (dto : ResponsePolicyUpdate)
  | commit (sid : ℕ)
  | abandon (sid : ℕ)

namespace PolicySessions

def PoliciesInRange (s : PolicySessions) : Prop :=
  ∀ id policy, s.db.response_policies.get id = some policy → policy.InRange

/-- The end of a session. -/
def leave (self : PolicySessions) (sid : ℕ) : PolicySessions :=
  { self with calls := Function.update self.calls sid none }

/-- `update_policy` up to the lookup of the target group. -/
def get (py_str : PyFloat → String) (self : PolicySessions) (sid : ℕ) (policy_id : String) (dto : ResponsePolicyUpdate) :
    PolicySessions :=
  match self.db.response_policies.get policy_id with
  | some loaded =>
    match loaded.check_update py_str dto with
    | .ok _ => { self with calls := Function.update self.calls sid (some { loaded, dto }) }
    | .error _ => self
  | none => self

/-- The rest of `update_policy`. The `UPDATE` waits for other transactions that have written the row, so that
it is applied to the row as it is when the transaction commits. -/
def commit (self : PolicySessions) (sid : ℕ) : PolicySessions :=
  match self.calls sid with
  | some call =>
    match self.db.check_target_group call.dto.target_group_id with
    | .ok _ =>
      { db := { self.db with
          response_policies := self.db.response_policies.modify call.loaded.id (call.loaded.flush call.dto) }
        calls := Function.update self.calls sid none }
    | .error _ => self.leave sid
  | none => self

/-- The calls of the sessions. A session that is in the middle of a call starts no other. -/
def step (py_str : PyFloat → String) (self : PolicySessions) : PolicyStep → PolicySessions
  | .create_policy policy_id req =>
    match self.db.create_policy py_str policy_id req with
    | .ok db => { self with db }
    | .error _ => self
  | .get sid policy_id dto => if (self.calls sid).isSome then self else self.get py_str sid policy_id dto
  | .commit sid => self.commit sid
  | .abandon sid => self.leave sid

/-- The condition on a step: no bound that it stores is NaN, and an update that writes one bound only finds the other
one as it has read it. -/
def bounds_fresh (self : PolicySessions) : PolicyStep → Bool
  | .create_policy _ req => req.min_score ≠ .nan ∧ req.max_score ≠ .nan
  | .commit sid =>
    (self.calls sid).all fun call =>
      call.dto.has_numbers && (self.db.response_policies.get call.loaded.id).all fun row =>
        ((call.loaded.updated call.dto).min_score ≠ call.loaded.min_score ∧
            (call.loaded.updated call.dto).max_score = call.loaded.max_score →
          row.max_score = call.loaded.max_score) ∧
        ((call.loaded.updated call.dto).min_score = call.loaded.min_score ∧
            (call.loaded.updated call.dto).max_score ≠ call.loaded.max_score →
          row.min_score = call.loaded.min_score)
  | _ => true

section Step

variable {py_str : PyFloat → String} {self : PolicySessions}

/-- The bounds of the session's copy, whose own bounds are numbers, after an update with numbers. -/
theorem updated_numbers {loaded : ResponsePolicy} {dto : ResponsePolicyUpdate} (hloaded : loaded.InRange)
    (hdto : dto.has_numbers) :
    (loaded.updated dto).min_score ≠ .nan ∧ (loaded.updated dto).max_score ≠ .nan := by
  obtain ⟨hmin, hmax⟩ := hloaded.numbers
  simp only [ResponsePolicyUpdate.has_numbers, decide_eq_true_eq] at hdto
  constructor
  · cases hlow : dto.min_score with
    | none => simpa [ResponsePolicy.updated, hlow] using hmin
    | some min_score =>
      rintro hnan
      exact hdto.1 (by simpa [ResponsePolicy.updated, hlow] using hnan)
  · cases hhigh : dto.max_score with
    | none => simpa [ResponsePolicy.updated, hhigh] using hmax
    | some max_score =>
      rintro hnan
      exact hdto.2 (by simpa [ResponsePolicy.updated, hhigh] using hnan)

/-- What is validated is the range of the session's copy. -/
theorem check_update_ok {loaded : ResponsePolicy} {dto : ResponsePolicyUpdate} {result : Unit}
    (h : loaded.check_update py_str dto = .ok result) (hloaded : loaded.InRange) (hdto : dto.has_numbers) :
    (loaded.updated dto).InRange := by
  obtain ⟨hmin, hmax⟩ := updated_numbers hloaded hdto
  unfold ResponsePolicy.check_update at h
  rw [bind_eq_ok_iff] at h
  obtain ⟨_, hrange, _⟩ := h
  exact check_range_ok hrange hmin hmax

/-- The value of a bound that is no NaN: it is written if it is given and differs from the loaded one. -/
theorem assign_bound {given : Option PyFloat} {loaded row : PyFloat} (h : given.getD loaded ≠ .nan) :
    (given.elim row fun value => assign PyFloat.py_eq loaded value row) =
      assign (· = ·) loaded (given.getD loaded) row := by
  cases given with
  | none => simp [assign]
  | some value =>
    simp only [Option.elim_some, Option.getD_some, assign, PyFloat.py_eq, decide_eq_true_eq] at h ⊢
    by_cases heq : loaded = value
    · rw [if_pos ⟨heq ▸ h, heq⟩, if_pos heq]
    · rw [if_neg fun hboth => heq hboth.2, if_neg heq]

/-- An update that was validated against a copy keeps the range of a row that has the other bound of that copy,
whenever it writes one bound only. -/
theorem flush_inRange {loaded row : ResponsePolicy} {dto : ResponsePolicyUpdate}
    (hvalid : (loaded.updated dto).InRange) (hrow : row.InRange)
    (hmax : (loaded.updated dto).min_score ≠ loaded.min_score ∧ (loaded.updated dto).max_score = loaded.max_score →
      row.max_score = loaded.max_score)
    (hmin : (loaded.updated dto).min_score = loaded.min_score ∧ (loaded.updated dto).max_score ≠ loaded.max_score →
      row.min_score = loaded.min_score) : (loaded.flush dto row).InRange := by
  have hlower : (loaded.flush dto row).min_score =
      assign (· = ·) loaded.min_score (loaded.updated dto).min_score row.min_score := assign_bound hvalid.numbers.1
  have hupper : (loaded.flush dto row).max_score =
      assign (· = ·) loaded.max_score (loaded.updated dto).max_score row.max_score := assign_bound hvalid.numbers.2
  unfold ResponsePolicy.InRange at hvalid hrow ⊢
  rw [hlower, hupper]
  simp only [assign, decide_eq_true_eq]
  by_cases hlow : loaded.min_score = (loaded.updated dto).min_score
  · by_cases hhigh : loaded.max_score = (loaded.updated dto).max_score
    · rw [if_pos hlow, if_pos hhigh]
      exact hrow
    · rw [if_pos hlow, if_neg hhigh, hmin ⟨hlow.symm, Ne.symm hhigh⟩, hlow]
      exact hvalid
  · by_cases hhigh : loaded.max_score = (loaded.updated dto).max_score
    · rw [if_neg hlow, if_pos hhigh, hmax ⟨Ne.symm hlow, hhigh.symm⟩, hhigh]
      exact hvalid
    · rw [if_neg hlow, if_neg hhigh]
      exact hvalid

/-- Every policy is in range, and so is every pending update with numbers for the copy that it has loaded. -/
structure Validated (s : PolicySessions) : Prop where
  stored : s.PoliciesInRange
  pending : ∀ sid call, s.calls sid = some call → call.dto.has_numbers → (call.loaded.updated call.dto).InRange

private theorem Validated.leave (h : self.Validated) (sid : ℕ) : (self.leave sid).Validated where
  stored := h.stored
  pending other call hcall := by
    simp only [PolicySessions.leave, Function.update_apply] at hcall
    split at hcall
    · cases hcall
    · exact h.pending other call hcall

private theorem Validated.get (h : self.Validated) (sid : ℕ) (policy_id : String) (dto : ResponsePolicyUpdate) :
    (self.get py_str sid policy_id dto).Validated := by
  unfold PolicySessions.get
  split
  · rename_i loaded hget
    split
    · rename_i hcheck
      refine ⟨h.stored, fun other call hcall hnumbers => ?_⟩
      simp only [Function.update_apply] at hcall
      split at hcall
      · obtain rfl := Option.some.inj hcall
        exact check_update_ok hcheck (h.stored policy_id loaded hget) hnumbers
      · exact h.pending other call hcall hnumbers
    · exact h
  · exact h

private theorem Validated.commit (h : self.Validated) {sid : ℕ} (hfresh : self.bounds_fresh (.commit sid)) :
    (self.commit sid).Validated := by
  unfold PolicySessions.commit
  split
  · rename_i call hcall
    split
    · refine ⟨fun id policy hpolicy => ?_, (h.leave sid).pending⟩
      simp only [Table.get_modify (ResponsePolicy.key_flush call.loaded call.dto)] at hpolicy
      split at hpolicy
      · obtain ⟨row, hrow, rfl⟩ := Option.map_eq_some_iff.mp hpolicy
        rename_i hid
        subst hid
        simp only [bounds_fresh, hcall, hrow, Option.all_some, Bool.and_eq_true, decide_eq_true_eq] at hfresh
        exact flush_inRange (h.pending sid call hcall hfresh.1) (h.stored _ row hrow) hfresh.2.1 hfresh.2.2
      · exact h.stored id policy hpolicy
    · exact h.leave sid
  · exact h

private theorem Validated.create_policy (h : self.Validated) {policy_id : String} {req : ResponsePolicyCreate}
    {db : Database} (hmin : req.min_score ≠ .nan) (hmax : req.max_score ≠ .nan)
    (hcreate : self.db.create_policy py_str policy_id req = .ok db) :
    ({ self with db } : PolicySessions).Validated := by
  refine ⟨fun id policy hpolicy => ?_, h.pending⟩
  simp only [Database.create_policy, bind_eq_ok_iff] at hcreate
  obtain ⟨_, hrange, _, _, _, _, hinsert⟩ := hcreate
  split at hinsert
  · cases hinsert
  · split at hinsert
    · rename_i response_policies hrows
      obtain rfl := Except.ok.inj hinsert
      simp only [Table.get_of_insert hrows] at hpolicy
      split at hpolicy
      · obtain rfl := Option.some.inj hpolicy
        exact check_range_ok hrange hmin hmax
      · exact h.stored id policy hpolicy
    · cases hinsert

theorem Validated.step (h : self.Validated) {next : PolicyStep} (hfresh : self.bounds_fresh next) :
    (self.step py_str next).Validated := by
  cases next with
  | create_policy policy_id req =>
    simp only [PolicySessions.step]
    split
    · rename_i db hcreate
      simp only [bounds_fresh, decide_eq_true_eq] at hfresh
      exact h.create_policy hfresh.1 hfresh.2 hcreate
    · exact h
  | get sid policy_id dto =>
    simp only [PolicySessions.step]
    split
    · exact h
    · exact h.get sid policy_id dto
  | commit sid => exact h.commit hfresh
  | abandon sid => exact h.leave sid

end Step

/-- Over every interleaving of the sessions in which no NaN is stored and no update of one bound misses a write of the
other, every stored policy is in range at every moment. -/
theorem policiesInRange_of_fresh (py_str : PyFloat → String) {db : Database}
    (hdb : ∀ id policy, db.response_policies.get id = some policy → policy.InRange) (steps : List PolicyStep)
    (hsteps : transition.Along (step py_str) (fun self next => self.bounds_fresh next) { db } steps) :
    transition.Along (step py_str) (fun self next => (self.step py_str next).PoliciesInRange) { db } steps :=
  transition.along_of_invariant (I := fun self => self.Validated) (fun _ _ h hfresh => h.step hfresh)
    (fun _ _ h hfresh => (h.step hfresh).stored) hsteps ⟨hdb, fun _ _ hnone => by cases hnone⟩

/-- A policy for the scores from 30 to 70 whose lower bound one session moves and then another one its
upper bound. -/
def one_after_the_other : List PolicyStep :=
  [.create_policy "pol_1" { name := "isolate", min_score := 30, max_score := 70, action_type := "isolate" },
    .get 0 "pol_1" { min_score := some 60 }, .commit 0, .get 1 "pol_1" { max_score := some 65 }, .commit 1]

theorem policiesInRange_one_after_the_other :
    transition.Along (step fun _ => "") (fun self next => (self.step (fun _ => "") next).PoliciesInRange) { db := {} }
      one_after_the_other :=
  policiesInRange_of_fresh (fun _ => "") (fun _ _ hnone => by cases hnone) one_after_the_other
    ⟨rfl, rfl, by decide +kernel, rfl, by decide +kernel, trivial⟩

/-- Each of the two updates is valid for the policy that its session has read. -/
theorem not_policiesInRange_write_skew :
    ¬ transition.Along (step fun _ => "") (fun self next => (self.step (fun _ => "") next).PoliciesInRange)
      { db := {} }
      [.create_policy "pol_1" { name := "isolate", min_score := 30, max_score := 70, action_type := "isolate" },
        .get 0 "pol_1" { min_score := some 60 }, .get 1 "pol_1" { max_score := some 40 }, .commit 0, .commit 1] := by
  intro h
  have hlast := h.2.2.2.2.1 "pol_1" _ (by rfl)
  exact absurd hlast (by unfold ResponsePolicy.InRange; decide +kernel)

end PolicySessions

end larp
