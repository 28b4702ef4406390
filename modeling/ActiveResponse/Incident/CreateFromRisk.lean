import ActiveResponse.Lib.ReadCommitted
import ActiveResponse.Lib.Run
import ActiveResponse.System

namespace larp

/-- An incident that is still being worked on. -/
def Incident.active (self : Incident) : Bool :=
  self.status = .OPEN ∨ self.status = .INVESTIGATING ∨ self.status = .CONTAINED

/-- The columns that a further spike of the risk score writes. -/
def Incident.spike (risk_score : ℚ) (severity : IncidentSeverity) (self : Incident) : Incident :=
  { self with risk_score, severity }

def Incident.set_status (status : IncidentStatus) (self : Incident) : Incident :=
  { self with status }

@[simp] theorem Incident.key_spike (risk_score : ℚ) (severity : IncidentSeverity) (self : Incident) :
    Keyed.key (self.spike risk_score severity) = Keyed.key self := rfl

@[simp] theorem Incident.key_set_status (status : IncidentStatus) (self : Incident) :
    Keyed.key (self.set_status status) = Keyed.key self := rfl

/-- The database, and which of its incidents `create_from_risk` has created. -/
structure IncidentStore where
  db : Database
  automated : String → Bool := fun _ => false

/-- The writes to the table of incidents. -/
inductive IncidentWrite where
  | insert (incident : Incident) (automated : Bool)
  | spike (id : String) (risk_score : ℚ) (severity : IncidentSeverity)
  | set_status (id : String) (status : IncidentStatus)

/-- The incident that a write inserts for the agent on behalf of `create_from_risk`. -/
def IncidentWrite.automated_insert (agent_id : String) : IncidentWrite → Option Incident
  | .insert incident true => if incident.agent_id = some agent_id then some incident else none
  | _ => none

theorem IncidentWrite.automated_insert_eq_some {w : IncidentWrite} {agent_id : String} {incident : Incident} :
    w.automated_insert agent_id = some incident ↔ w = .insert incident true ∧ incident.agent_id = some agent_id := by
  constructor
  · intro h
    unfold automated_insert at h
    split at h
    · split at h
      · rename_i hagent
        cases h
        exact ⟨rfl, hagent⟩
      · cases h
    · cases h
  · rintro ⟨rfl, hagent⟩
    exact if_pos hagent

/-- A write of the sessions: analysts alone change the status of an incident. -/
def IncidentWrite.by_session : IncidentWrite → Bool
  | .insert incident automated => automated → incident.status = .OPEN
  | .spike .. => true
  | .set_status .. => false

namespace IncidentStore

def set_incidents (self : IncidentStore) (incidents : Table Incident) : IncidentStore :=
  { self with db := { self.db with incidents } }

/-- An `INSERT` checks the foreign key to the agent and the primary key. -/
def apply (self : IncidentStore) : IncidentWrite → Option IncidentStore
  | .insert incident automated =>
    if incident.agent_id.any fun agent_id => (self.db.agents.get agent_id).isNone then none
    else
      (self.db.incidents.insert incident).map fun incidents =>
        { self.set_incidents incidents with automated := Function.update self.automated incident.id automated }
  | .spike id risk_score severity =>
    some (self.set_incidents (self.db.incidents.modify id (.spike risk_score severity)))
  | .set_status id status =>
    some (self.set_incidents (self.db.incidents.modify id (.set_status status)))

/-- The active incidents of the agent that `create_from_risk` has created. -/
def engaged (self : IncidentStore) (agent_id : String) : List String :=
  (self.db.incidents.rows.filter fun row =>
    self.automated row.id ∧ row.agent_id = some agent_id ∧ row.active).map Incident.id

theorem mem_engaged {self : IncidentStore} {agent_id id : String} :
    id ∈ self.engaged agent_id ↔ ∃ row, self.db.incidents.get id = some row ∧ self.automated id ∧
      row.agent_id = some agent_id ∧ row.active := by
  simp only [engaged, List.mem_map, List.mem_filter, decide_eq_true_eq]
  constructor
  · rintro ⟨row, ⟨hmem, hengaged⟩, rfl⟩
    exact ⟨row, Table.get_of_mem hmem, hengaged⟩
  · rintro ⟨row, hget, hengaged⟩
    obtain rfl : row.id = id := Table.key_of_get hget
    exact ⟨row, ⟨Table.get_mem hget, hengaged⟩, rfl⟩

private theorem apply_insert {store store' : IncidentStore} {incident : Incident} {automated : Bool}
    (h : store.apply (.insert incident automated) = some store') :
    store.db.incidents.insert incident = some store'.db.incidents ∧
      store'.automated = Function.update store.automated incident.id automated := by
  simp only [apply] at h
  split at h
  · cases h
  · obtain ⟨incidents, hinsert, rfl⟩ := Option.map_eq_some_iff.mp h
    exact ⟨hinsert, rfl⟩

/-- A write of a session adds the incident that it inserts to the active ones, and no other. -/
theorem mem_engaged_apply {store store' : IncidentStore} {w : IncidentWrite} (hsession : w.by_session)
    (h : store.apply w = some store') (agent_id id : String) :
    id ∈ store'.engaged agent_id ↔
      id ∈ store.engaged agent_id ∨ (w.automated_insert agent_id).any fun incident => incident.id = id := by
  simp only [mem_engaged]
  cases w with
  | set_status => cases hsession
  | spike target risk_score severity =>
    cases h
    simp only [set_incidents, IncidentWrite.automated_insert, Option.any_none, Bool.false_eq_true, or_false,
      Table.get_modify (Incident.key_spike risk_score severity)]
    split
    · simp only [Option.map_eq_some_iff]
      constructor
      · rintro ⟨_, ⟨row, hget, rfl⟩, hengaged⟩
        exact ⟨row, hget, hengaged⟩
      · rintro ⟨row, hget, hengaged⟩
        exact ⟨_, ⟨row, hget, rfl⟩, hengaged⟩
    · rfl
  | insert incident automated =>
    obtain ⟨hinsert, hautomated⟩ := apply_insert h
    have hfree := (Table.insert_eq_some_iff.mp hinsert).1
    rw [hautomated]
    simp only [Table.get_of_insert hinsert]
    by_cases hid : incident.id = id
    · subst hid
      have hkey : Keyed.key incident = incident.id := rfl
      rw [hkey] at hfree
      simp only [hkey, if_true, hfree, Function.update_self, Option.some.injEq, reduceCtorEq, false_and,
        exists_false, false_or, exists_eq_left']
      cases automated with
      | false => simp [IncidentWrite.automated_insert]
      | true =>
        have hactive : incident.active := by
          have hopen : incident.status = .OPEN := by simpa [IncidentWrite.by_session] using hsession
          simp [Incident.active, hopen]
        by_cases hagent : incident.agent_id = some agent_id <;>
          simp [IncidentWrite.automated_insert, hagent, hactive]
    · have hkey : ¬ Keyed.key incident = id := hid
      have hother : ¬ (IncidentWrite.automated_insert agent_id (.insert incident automated)).any
          fun incident => incident.id = id := by
        rw [Option.any_eq_true]
        rintro ⟨inserted, hsome, heq⟩
        cases (IncidentWrite.automated_insert_eq_some.mp hsome).1
        exact hid (of_decide_eq_true heq)
      simp [hkey, Function.update_of_ne (Ne.symm hid), hother]

end IncidentStore

/-- A call of `create_from_risk` between its query, which has found no active incident, and its
`INSERT`. -/
structure RiskCall where
  agent_id : String
  risk_score : ℚ

/-- The sessions of the message handlers. -/
structure RiskSessions where
  rc : ReadCommitted ℕ IncidentStore IncidentWrite
  calls : ℕ → Option RiskCall := fun _ => none

inductive RiskStep where
  | select (sid : ℕ) (call : RiskCall)
  | insert (sid : ℕ) (inc_id : String) (now : Time)
  | create_incident (sid : ℕ) (incident : Incident)
  | commit (sid : ℕ)
  | rollback (sid : ℕ)
  | update_incident (id : String) (status : IncidentStatus)

def RiskCall.incident (self : RiskCall) (inc_id : String) (now : Time) : Incident where
  id := inc_id
  severity := Database.risk_severity self.risk_score
  status := .OPEN
  agent_id := some self.agent_id
  risk_score := self.risk_score
  created_at := now

/-- The update of an incident that is already active. -/
def RiskCall.spike (self : RiskCall) (existing : Incident) : IncidentWrite :=
  .spike existing.id (max existing.risk_score self.risk_score)
    (if Database.risk_severity self.risk_score = .CRITICAL then .CRITICAL else existing.severity)

namespace RiskSessions

/-- A statement that fails ends its transaction: the handler rolls back. -/
def abort (self : RiskSessions) (sid : ℕ) : RiskSessions where
  rc := self.rc.rollback sid
  calls := Function.update self.calls sid none

/-- An `INSERT` by the session, checked against what the session sees. -/
def insert_row (self : RiskSessions) (sid : ℕ) (incident : Incident) (automated : Bool) : RiskSessions :=
  if ((self.rc.view IncidentStore.apply sid).bind fun view => view.apply (.insert incident automated)).isSome then
    { rc := self.rc.write sid (.insert incident automated), calls := Function.update self.calls sid none }
  else self.abort sid

/-- The first statement of `create_from_risk`. An active incident is updated, without one the call
goes on to its `INSERT`. -/
def select (self : RiskSessions) (sid : ℕ) (call : RiskCall) : RiskSessions :=
  match self.rc.view IncidentStore.apply sid with
  | none => self.abort sid
  | some view =>
    match view.db.active_incident call.agent_id with
    | some existing => { self with rc := self.rc.write sid (call.spike existing) }
    | none => { self with calls := Function.update self.calls sid (some call) }

/-- The steps of the sessions. What a session cannot do in the middle of a call, or outside of
one, is a step without effect. -/
def step (self : RiskSessions) : RiskStep → RiskSessions
  | .select sid call => if (self.calls sid).isSome then self else self.select sid call
  | .insert sid inc_id now =>
    match self.calls sid with
    | some call => self.insert_row sid (call.incident inc_id now) true
    | none => self
  | .create_incident sid incident =>
    if (self.calls sid).isSome then self else self.insert_row sid incident false
  | .commit sid =>
    if (self.calls sid).isSome then self else { self with rc := self.rc.commit IncidentStore.apply sid }
  | .rollback sid => self.abort sid
  | .update_incident id status =>
    match self.rc.store.apply (.set_status id status) with
    | some store => { self with rc := { self.rc with store } }
    | none => self

private theorem view_write_of_idle {rc : ReadCommitted ℕ IncidentStore IncidentWrite} {sid : ℕ}
    (hwrites : rc.writes sid = []) {w : IncidentWrite} {store : IncidentStore} (h : rc.store.apply w = some store) :
    (rc.write sid w).view IncidentStore.apply sid = some store := by
  simp [ReadCommitted.view, hwrites, h]

private theorem create_from_risk_new {db : Database} {call : RiskCall} (inc_id : String) (now : Time)
    (h : db.active_incident call.agent_id = none) :
    db.create_from_risk now inc_id call.agent_id call.risk_score =
      if (db.agents.get call.agent_id).isNone then .error (.IntegrityError "incidents_agent_id_fkey")
      else
        match db.incidents.insert (call.incident inc_id now) with
        | some incidents => .ok (inc_id, { db with incidents })
        | none => .error (.IntegrityError "incidents_pkey") := by
  rw [Database.create_from_risk, h]
  rfl

private theorem commit_rollback (rc : ReadCommitted ℕ IncidentStore IncidentWrite) (sid : ℕ) :
    ((rc.rollback sid).commit IncidentStore.apply sid).store = rc.store := by
  rw [ReadCommitted.commit_of_view (ReadCommitted.view_of_idle ReadCommitted.writes_rollback_self)]
  rfl

/-- A session that no other one interferes with performs `create_from_risk`. -/
theorem create_from_risk_alone (self : RiskSessions) (sid : ℕ) (call : RiskCall) (inc_id : String) (now : Time)
    (hidle : self.calls sid = none) (hwrites : self.rc.writes sid = []) :
    (transition.run step self [.select sid call, .insert sid inc_id now, .commit sid]).rc.store.db =
      match self.rc.store.db.create_from_risk now inc_id call.agent_id call.risk_score with
      | .ok (_, db) => db
      | .error _ => self.rc.store.db := by
  have hview : self.rc.view IncidentStore.apply sid = some self.rc.store := ReadCommitted.view_of_idle hwrites
  simp only [transition.run_cons, transition.run_nil, step, hidle, Option.isSome_none, Bool.false_eq_true,
    if_false, select, hview]
  cases hactive : self.rc.store.db.active_incident call.agent_id with
  | some existing =>
    have hexisting : self.rc.store.db.incidents.get existing.id = some existing :=
      Table.get_of_mem (Table.mem_of_latest hactive).1
    simp only [hidle, Option.isSome_none, Bool.false_eq_true, if_false, Database.create_from_risk, hactive]
    rw [ReadCommitted.commit_of_view (view_write_of_idle hwrites rfl)]
    simp only [IncidentStore.set_incidents, Table.modify, hexisting]
    rfl
  | none =>
    have hrow : self.rc.store.apply (.insert (call.incident inc_id now) true) =
        if (self.rc.store.db.agents.get call.agent_id).isNone then none
        else (self.rc.store.db.incidents.insert (call.incident inc_id now)).map fun incidents =>
          { self.rc.store.set_incidents incidents with
            automated := Function.update self.rc.store.automated inc_id true } := rfl
    rw [create_from_risk_new inc_id now hactive]
    simp only [Function.update_self, insert_row, hview, Option.bind_some]
    by_cases hagent : (self.rc.store.db.agents.get call.agent_id).isNone
    · simp [hrow, hagent, abort, commit_rollback]
    · cases hinsert : self.rc.store.db.incidents.insert (call.incident inc_id now) with
      | none => simp [hrow, hagent, hinsert, abort, commit_rollback]
      | some incidents =>
        simp only [hagent, hinsert, Bool.false_eq_true, if_false, Option.map_some] at hrow ⊢
        simp only [hrow, Option.isSome_some, if_true, Function.update_self, Option.isSome_none,
          Bool.false_eq_true, if_false, ReadCommitted.commit_of_view (view_write_of_idle hwrites hrow)]
        rfl

/-- The incidents that the open transaction of the session has inserted for the agent in
`create_from_risk`. -/
def pending (self : RiskSessions) (agent_id : String) (sid : ℕ) : List Incident :=
  (self.rc.writes sid).filterMap (IncidentWrite.automated_insert agent_id)

/-- The session is between the query of a call that creates an incident for the agent and its
commit. -/
def creating (self : RiskSessions) (agent_id : String) (sid : ℕ) : Prop :=
  (∃ call, self.calls sid = some call ∧ call.agent_id = agent_id) ∨ self.pending agent_id sid ≠ []

/-- An incident of `create_from_risk` becomes visible only while no other one is active for its
agent. -/
def OneActive (agent_id : String) (self : RiskSessions) : RiskStep → Prop
  | .commit sid => self.calls sid = none → ∀ view, self.rc.view IncidentStore.apply sid = some view →
      ∀ incident ∈ self.pending agent_id sid, ∀ id ∈ view.engaged agent_id, id = incident.id
  | _ => True

/-- The status update makes an incident of `create_from_risk` active again. -/
def Reopens (agent_id : String) (self : RiskSessions) (id : String) (status : IncidentStatus) : Prop :=
  ∃ row, self.rc.store.db.incidents.get id = some row ∧ self.rc.store.automated id ∧
    row.agent_id = some agent_id ∧ row.active = false ∧ (row.set_status status).active

/-- The condition on a step. A call that finds no active incident for the agent does not overlap
with another one, up to its commit, and meanwhile no analyst reopens an incident of the agent. -/
def Separate (agent_id : String) (self : RiskSessions) : RiskStep → Prop
  | .select sid call => call.agent_id = agent_id →
      (∀ view, self.rc.view IncidentStore.apply sid = some view → view.db.active_incident agent_id = none) →
      ∀ other, other ≠ sid → ¬ self.creating agent_id other
  | .update_incident id status => self.Reopens agent_id id status → ∀ sid, ¬ self.creating agent_id sid
  | _ => True

/-- At most one session is creating an incident for the agent, and then none is active. -/
structure Deduplicated (s : RiskSessions) (agent_id : String) : Prop where
  by_session : ∀ sid, ∀ w ∈ s.rc.writes sid, w.by_session
  free : ∀ sid, s.creating agent_id sid → s.rc.store.engaged agent_id = []
  alone : ∀ sid other, s.creating agent_id sid → s.creating agent_id other → sid = other
  single : ∀ sid, (s.pending agent_id sid).length ≤ 1
  fresh : ∀ sid call, s.calls sid = some call → call.agent_id = agent_id → s.pending agent_id sid = []

section Step

variable {self : RiskSessions} {agent_id : String} {sid : ℕ}

/-- What the session reads are the committed incidents and its own. -/
private theorem mem_engaged_view (h : self.Deduplicated agent_id) {view : IncidentStore}
    (hview : self.rc.view IncidentStore.apply sid = some view) (id : String) :
    id ∈ view.engaged agent_id ↔ id ∈ self.rc.store.engaged agent_id ∨
      ∃ incident ∈ self.pending agent_id sid, incident.id = id := by
  rw [ReadCommitted.view_iff (fun w hw d d' happly =>
    IncidentStore.mem_engaged_apply (h.by_session sid w hw) happly agent_id id) hview]
  simp only [Option.any_eq_true, decide_eq_true_eq, pending, List.mem_filterMap]
  refine or_congr_right ⟨?_, ?_⟩
  · rintro ⟨w, hw, incident, hinsert, hid⟩
    exact ⟨incident, ⟨w, hw, hinsert⟩, hid⟩
  · rintro ⟨incident, ⟨w, hw, hinsert⟩, hid⟩
    exact ⟨w, hw, incident, hinsert, hid⟩

private theorem engaged_of_no_active {view : IncidentStore} (h : view.db.active_incident agent_id = none) :
    view.engaged agent_id = [] := by
  rw [Database.active_incident, Table.latest_eq_none_iff] at h
  rw [List.eq_nil_iff_forall_not_mem]
  intro id hid
  obtain ⟨row, hget, _, hagent, hactive⟩ := IncidentStore.mem_engaged.mp hid
  refine h row (Table.get_mem hget) ?_
  simpa [Incident.active, hagent] using hactive

/-- A step that writes for one session only. -/
private theorem Deduplicated.of_session (h : self.Deduplicated agent_id) (sid : ℕ) {next : RiskSessions}
    (hstore : next.rc.store = self.rc.store)
    (hothers : ∀ other, other ≠ sid →
      next.rc.writes other = self.rc.writes other ∧ next.calls other = self.calls other)
    (hsession : ∀ w ∈ next.rc.writes sid, w.by_session)
    (hsingle : (next.pending agent_id sid).length ≤ 1)
    (hfresh : ∀ call, next.calls sid = some call → call.agent_id = agent_id → next.pending agent_id sid = [])
    (hcreating : next.creating agent_id sid → self.creating agent_id sid ∨
      self.rc.store.engaged agent_id = [] ∧ ∀ other, other ≠ sid → ¬ self.creating agent_id other) :
    next.Deduplicated agent_id := by
  have hother : ∀ other, other ≠ sid → (next.creating agent_id other ↔ self.creating agent_id other) := by
    intro other hne
    simp only [creating, pending, (hothers other hne).1, (hothers other hne).2]
  have hpending : ∀ other, other ≠ sid → next.pending agent_id other = self.pending agent_id other :=
    fun other hne => by simp only [pending, (hothers other hne).1]
  -- A session that starts to create an incident is alone, and no incident is active.
  have halone : ∀ other, other ≠ sid → next.creating agent_id sid → ¬ next.creating agent_id other := by
    intro other hne hsid hcreates
    rw [hother other hne] at hcreates
    rcases hcreating hsid with hbefore | ⟨_, hnobody⟩
    · exact hne (h.alone other sid hcreates hbefore)
    · exact hnobody other hne hcreates
  refine ⟨fun other => ?_, fun other hcreates => ?_, fun first second hfirst hsecond => ?_, fun other => ?_,
    fun other call hcall hagent => ?_⟩
  · by_cases hne : other = sid
    · subst hne
      exact hsession
    · rw [(hothers other hne).1]
      exact h.by_session other
  · rw [hstore]
    by_cases hne : other = sid
    · subst hne
      exact (hcreating hcreates).elim (h.free other) And.left
    · exact h.free other ((hother other hne).mp hcreates)
  · by_cases hne : first = sid
    · subst hne
      by_contra hsecond'
      exact halone second (Ne.symm hsecond') hfirst hsecond
    · by_cases hne' : second = sid
      · subst hne'
        exact absurd hfirst (halone first hne hsecond)
      · exact h.alone first second ((hother first hne).mp hfirst) ((hother second hne').mp hsecond)
  · by_cases hne : other = sid
    · subst hne
      exact hsingle
    · rw [hpending other hne]
      exact h.single other
  · by_cases hne : other = sid
    · subst hne
      exact hfresh call hcall hagent
    · rw [hpending other hne]
      rw [(hothers other hne).2] at hcall
      exact h.fresh other call hcall hagent

private theorem Deduplicated.abort (h : self.Deduplicated agent_id) (sid : ℕ) :
    (self.abort sid).Deduplicated agent_id := by
  have hpending : (self.abort sid).pending agent_id sid = [] := by simp [pending, RiskSessions.abort]
  have hcalls : (self.abort sid).calls sid = none := Function.update_self ..
  refine h.of_session sid rfl
    (fun other hne => ⟨ReadCommitted.writes_rollback_of_ne hne, Function.update_of_ne hne ..⟩) ?_ ?_ ?_ ?_
  · simp [RiskSessions.abort]
  · simp [hpending]
  · simp [hcalls]
  · rintro (⟨call, hcall, _⟩ | hne)
    · simp [hcalls] at hcall
    · exact absurd hpending hne

/-- A write that inserts nothing for the agent in `create_from_risk`. -/
private theorem pending_write (self : RiskSessions) (agent_id : String) (sid : ℕ) (w : IncidentWrite)
    (calls : ℕ → Option RiskCall) :
    ({ rc := self.rc.write sid w, calls } : RiskSessions).pending agent_id sid =
      self.pending agent_id sid ++ (w.automated_insert agent_id).toList := by
  simp only [pending, ReadCommitted.writes_write_self, List.filterMap_append]
  cases hinsert : w.automated_insert agent_id <;> simp [hinsert]

private theorem Deduplicated.insert_row (h : self.Deduplicated agent_id) {incident : Incident} {automated : Bool}
    (hsession : (IncidentWrite.insert incident automated).by_session)
    (hcall : automated = true → incident.agent_id = some agent_id →
      ∃ call, self.calls sid = some call ∧ call.agent_id = agent_id) :
    (self.insert_row sid incident automated).Deduplicated agent_id := by
  unfold RiskSessions.insert_row
  split
  · have hpending := pending_write self agent_id sid (.insert incident automated)
      (Function.update self.calls sid none)
    refine h.of_session sid rfl
      (fun other hne => ⟨ReadCommitted.writes_write_of_ne _ hne, Function.update_of_ne hne ..⟩) ?_ ?_ ?_ ?_
    · intro w hw
      rw [ReadCommitted.writes_write_self, List.mem_append, List.mem_singleton] at hw
      rcases hw with hw | rfl
      · exact h.by_session sid w hw
      · exact hsession
    · rw [hpending, List.length_append]
      cases hinsert : IncidentWrite.automated_insert agent_id (.insert incident automated) with
      | none => simpa using h.single sid
      | some inserted =>
        obtain ⟨heq, hagent⟩ := IncidentWrite.automated_insert_eq_some.mp hinsert
        cases heq
        obtain ⟨call, hcalls, hcall_agent⟩ := hcall rfl hagent
        simp [h.fresh sid call hcalls hcall_agent]
    · intro call hsome
      simp at hsome
    · rintro (⟨call, hsome, _⟩ | hne)
      · simp at hsome
      · rw [hpending] at hne
        cases hinsert : IncidentWrite.automated_insert agent_id (.insert incident automated) with
        | none => exact Or.inl (Or.inr (by simpa [hinsert] using hne))
        | some inserted =>
          obtain ⟨heq, hagent⟩ := IncidentWrite.automated_insert_eq_some.mp hinsert
          cases heq
          exact Or.inl (Or.inl (hcall rfl hagent))
  · exact h.abort sid

private theorem Deduplicated.select (h : self.Deduplicated agent_id) {call : RiskCall}
    (hidle : self.calls sid = none) (hseparate : self.Separate agent_id (.select sid call)) :
    (self.select sid call).Deduplicated agent_id := by
  unfold RiskSessions.select
  cases hview : self.rc.view IncidentStore.apply sid with
  | none => exact h.abort sid
  | some view =>
    dsimp only
    split
    · rename_i existing _
      have hpending := pending_write self agent_id sid (call.spike existing) self.calls
      simp only [RiskCall.spike, IncidentWrite.automated_insert, Option.toList_none, List.append_nil] at hpending
      refine h.of_session sid rfl (fun other hne => ⟨ReadCommitted.writes_write_of_ne _ hne, rfl⟩) ?_ ?_ ?_ ?_
      · intro w hw
        rw [ReadCommitted.writes_write_self, List.mem_append, List.mem_singleton] at hw
        rcases hw with hw | rfl
        · exact h.by_session sid w hw
        · rfl
      · simpa [RiskCall.spike, hpending] using h.single sid
      · intro call' hsome
        rw [hidle] at hsome
        cases hsome
      · rintro (hcalls | hne)
        · exact Or.inl (Or.inl hcalls)
        · exact Or.inl (Or.inr (by simpa [RiskCall.spike, hpending] using hne))
    · rename_i hnone
      -- The query sees the committed incidents and those of its own transaction.
      have hempty : call.agent_id = agent_id →
          self.rc.store.engaged agent_id = [] ∧ self.pending agent_id sid = [] := by
        rintro rfl
        have hfree := engaged_of_no_active hnone
        simp only [List.eq_nil_iff_forall_not_mem, mem_engaged_view h hview, not_or, not_exists, not_and] at hfree ⊢
        exact ⟨fun id => (hfree id).1, fun incident hincident => (hfree incident.id).2 incident hincident rfl⟩
      refine h.of_session sid rfl (fun other hne => ⟨rfl, Function.update_of_ne hne ..⟩) (h.by_session sid)
        (h.single sid) ?_ ?_
      · intro call' hsome hagent
        simp only [Function.update_self, Option.some.injEq] at hsome
        subst hsome
        exact (hempty hagent).2
      · rintro (⟨call', hsome, hagent⟩ | hne)
        · simp only [Function.update_self, Option.some.injEq] at hsome
          subst hsome
          exact Or.inr ⟨(hempty hagent).1, hseparate hagent fun view' hview' => by
            rw [hview] at hview'
            cases hview'
            rw [← hagent]
            exact hnone⟩
        · exact Or.inl (Or.inr hne)

/-- The end of a transaction of the session, which may be one that creates an incident. -/
private theorem Deduplicated.commit (h : self.Deduplicated agent_id) (hidle : self.calls sid = none) :
    ({ self with rc := self.rc.commit IncidentStore.apply sid } : RiskSessions).Deduplicated agent_id := by
  cases hview : self.rc.view IncidentStore.apply sid with
  | none =>
    have habort := h.abort sid
    rw [RiskSessions.abort, ← hidle, Function.update_eq_self] at habort
    simpa [ReadCommitted.commit, hview] using habort
  | some view =>
    rw [ReadCommitted.commit_of_view hview]
    have hother : ∀ other, other ≠ sid → Function.update self.rc.writes sid [] other = self.rc.writes other :=
      fun other hne => Function.update_of_ne hne ..
    have hended : ¬ ({ self with rc := { store := view, writes := Function.update self.rc.writes sid [] } } :
        RiskSessions).creating agent_id sid := by
      simp [creating, pending, hidle]
    have hcreating : ∀ other, other ≠ sid →
        (({ self with rc := { store := view, writes := Function.update self.rc.writes sid [] } } :
          RiskSessions).creating agent_id other ↔ self.creating agent_id other) := fun other hne => by
      simp only [creating, pending, hother other hne]
    refine ⟨fun other => ?_, fun other hcreates => ?_, fun first second hfirst hsecond => ?_, fun other => ?_,
      fun other call hcall hagent => ?_⟩
    · by_cases hne : other = sid
      · subst hne
        simp
      · simpa only [hother other hne] using h.by_session other
    · have hne : other ≠ sid := by
        rintro rfl
        exact hended hcreates
      rw [hcreating other hne] at hcreates
      have hnothing : self.pending agent_id sid = [] := by
        by_contra hpending
        exact hne (h.alone other sid hcreates (Or.inr hpending))
      rw [List.eq_nil_iff_forall_not_mem]
      intro id hid
      rw [mem_engaged_view h hview, h.free other hcreates, hnothing] at hid
      simp at hid
    · have hne : first ≠ sid := by
        rintro rfl
        exact hended hfirst
      have hne' : second ≠ sid := by
        rintro rfl
        exact hended hsecond
      exact h.alone first second ((hcreating first hne).mp hfirst) ((hcreating second hne').mp hsecond)
    · by_cases hne : other = sid
      · subst hne
        simp [pending]
      · simpa only [pending, hother other hne] using h.single other
    · by_cases hne : other = sid
      · subst hne
        simp [pending]
      · simpa only [pending, hother other hne] using h.fresh other call hcall hagent

/-- An analyst's update that reopens nothing leaves the active incidents active, or fewer of them. -/
private theorem engaged_set_status {store : IncidentStore} {id : String} {status : IncidentStatus}
    (hreopens : ¬ self.Reopens agent_id id status)
    (happly : self.rc.store.apply (.set_status id status) = some store) {other : String}
    (hother : other ∈ store.engaged agent_id) : other ∈ self.rc.store.engaged agent_id := by
  cases happly
  obtain ⟨row, hget, hautomated, hagent, hactive⟩ := IncidentStore.mem_engaged.mp hother
  simp only [IncidentStore.set_incidents, Table.get_modify (Incident.key_set_status status)] at hget
  split at hget
  · rename_i hid
    subst hid
    obtain ⟨old, hold, rfl⟩ := Option.map_eq_some_iff.mp hget
    refine IncidentStore.mem_engaged.mpr ⟨old, hold, hautomated, hagent, ?_⟩
    by_contra hinactive
    exact hreopens ⟨old, hold, hautomated, hagent, Bool.not_eq_true _ ▸ hinactive, hactive⟩
  · exact IncidentStore.mem_engaged.mpr ⟨row, hget, hautomated, hagent, hactive⟩

private theorem Deduplicated.update_incident (h : self.Deduplicated agent_id) {store : IncidentStore} {id : String}
    {status : IncidentStatus} (hseparate : self.Separate agent_id (.update_incident id status))
    (happly : self.rc.store.apply (.set_status id status) = some store) :
    ({ self with rc := { self.rc with store } } : RiskSessions).Deduplicated agent_id := by
  refine ⟨h.by_session, fun sid hcreates => ?_, h.alone, h.single, h.fresh⟩
  rw [List.eq_nil_iff_forall_not_mem]
  intro other hother
  have hreopens : ¬ self.Reopens agent_id id status := fun hreopens => hseparate hreopens sid hcreates
  have hengaged := engaged_set_status hreopens happly hother
  rw [h.free sid hcreates] at hengaged
  cases hengaged

/-- A step that keeps the calls apart keeps the invariant. -/
private theorem Deduplicated.step (h : self.Deduplicated agent_id) {op : RiskStep}
    (hseparate : self.Separate agent_id op) : (self.step op).Deduplicated agent_id := by
  cases op with
  | select sid call =>
    simp only [RiskSessions.step]
    split
    · exact h
    · rename_i hidle
      exact h.select (by simpa using hidle) hseparate
  | insert sid inc_id now =>
    simp only [RiskSessions.step]
    split
    · rename_i call hcall
      refine h.insert_row (by simp [IncidentWrite.by_session, RiskCall.incident]) fun _ hagent => ⟨call, hcall, ?_⟩
      simpa [RiskCall.incident] using hagent
    · exact h
  | create_incident sid incident =>
    simp only [RiskSessions.step]
    split
    · exact h
    · exact h.insert_row (by simp [IncidentWrite.by_session]) fun hautomated => by cases hautomated
  | commit sid =>
    simp only [RiskSessions.step]
    split
    · exact h
    · rename_i hidle
      exact h.commit (by simpa using hidle)
  | rollback sid => exact h.abort sid
  | update_incident id status =>
    simp only [RiskSessions.step]
    split
    · rename_i store happly
      exact h.update_incident hseparate happly
    · exact h

/-- The commit of a session that is alone shows the only active incident. -/
private theorem Deduplicated.oneActive (h : self.Deduplicated agent_id) (op : RiskStep) :
    self.OneActive agent_id op := by
  cases op with
  | commit sid =>
    intro _ view hview incident hincident id hid
    have hpending : self.pending agent_id sid = [incident] := by
      have hsome := List.length_pos_of_mem hincident
      have hsingle := h.single sid
      obtain ⟨only, honly⟩ := List.length_eq_one_iff.mp (show (self.pending agent_id sid).length = 1 by omega)
      rw [honly, List.mem_singleton] at hincident
      rw [honly, hincident]
    rw [mem_engaged_view h hview, h.free sid (Or.inr (by simp [hpending])), hpending] at hid
    simpa [eq_comm] using hid
  | _ => trivial

end Step

/-- Over every interleaving in which the calls for an agent that find no active incident do not
overlap, `create_from_risk` never adds an incident beside an active one of its own. -/
theorem oneActive_of_separate (store : IncidentStore) (agent_id : String) (steps : List RiskStep)
    (hsteps : transition.Along step (Separate agent_id) { rc := { store } } steps) :
    transition.Along step (OneActive agent_id) { rc := { store } } steps :=
  transition.along_of_invariant (I := fun self => self.Deduplicated agent_id)
    (fun _ _ h hseparate => h.step hseparate) (fun _ op h _ => h.oneActive op) hsteps
    ⟨by simp, by simp [creating, pending], by simp [creating, pending], by simp [pending], by simp⟩

/-- A message whose risk score opens an incident. -/
def risk_call : RiskCall where
  agent_id := "web-1"
  risk_score := 90

/-- Two messages of an agent, one after the other. -/
def separate_messages : List RiskStep :=
  [.select 0 risk_call, .insert 0 "inc_1" 0, .commit 0, .select 1 risk_call, .commit 1]

theorem oneActive_separate_messages : transition.Along step (OneActive "web-1")
    { rc := { store := { db := Database.one_agent } } } separate_messages := by
  refine oneActive_of_separate { db := Database.one_agent } "web-1" separate_messages
    ⟨fun _ _ => by simp [creating, pending], trivial, trivial, fun _ hnone => ?_, trivial, trivial⟩
  have hfound : ((transition.run step { rc := { store := { db := Database.one_agent } } }
      (separate_messages.take 3)).rc.view IncidentStore.apply 1).any fun view =>
        (view.db.active_incident "web-1").isSome := by decide +kernel
  obtain ⟨view, hview, hactive⟩ := (Option.any_eq_true _ _).mp hfound
  rw [hnone view hview] at hactive
  cases hactive

/-- Two messages of an agent whose handlers overlap. -/
def overlapping_messages : List RiskStep :=
  [.select 0 risk_call, .select 1 risk_call, .insert 0 "inc_1" 0, .insert 1 "inc_2" 1, .commit 0, .commit 1]

/-- Both handlers find no incident, and both insert one. -/
theorem not_oneActive_overlapping : ¬ transition.Along step (OneActive "web-1")
    { rc := { store := { db := Database.one_agent } } } overlapping_messages := by
  intro h
  have hlast := h.2.2.2.2.2.1
  have hfound : ((transition.run step { rc := { store := { db := Database.one_agent } } }
      (overlapping_messages.take 5)).rc.view IncidentStore.apply 1).any fun view =>
        "inc_1" ∈ view.engaged "web-1" := by decide +kernel
  have hpending : ((transition.run step { rc := { store := { db := Database.one_agent } } }
      (overlapping_messages.take 5)).pending "web-1" 1).any fun incident => incident.id = "inc_2" := by
    decide +kernel
  obtain ⟨view, hview, hengaged⟩ := (Option.any_eq_true _ _).mp hfound
  obtain ⟨incident, hincident, hid⟩ := List.any_eq_true.mp hpending
  have heq := hlast (by decide +kernel) view hview incident hincident "inc_1" (of_decide_eq_true hengaged)
  rw [of_decide_eq_true hid] at heq
  exact absurd heq (by decide)

end RiskSessions

end larp
