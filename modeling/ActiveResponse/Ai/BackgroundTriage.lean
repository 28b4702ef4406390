import ActiveResponse.Ai.Triage
import ActiveResponse.Incident.Service
import ActiveResponse.Lib.Run

namespace larp

/-- The committed tables of the incidents and their analyses. An analysis has its incident. -/
structure TriageTables extends IncidentTables where
  ai_analysis : List TriageRecord := []
  foreign_key : ∀ row ∈ ai_analysis, (incidents.get row.incident_id).isSome

/-- How far `analyze_incident` has come: `pulled` once it has found the incident, `answered` with what
`_parse_json_answer` makes of the answer, `failed` with an exception that it has caught, `returned` when it has come
to its end, and `aborted` if it is cancelled or cannot store anything. -/
inductive TriagePhase where
  | started
  | pulled
  | answered (answer : String) (parsed : Except AppException Dict)
  | failed (e : AppException) (answer : Option String)
  | returned
  | aborted

structure TriageTask where
  incident_id : String
  phase : TriagePhase := .started

inductive CreationState where
  | pending
  | committed
  | rolled_back

/-- A transaction that creates an incident, with the first note and the task that it has started. -/
structure Creation where
  inc : IncidentRecord
  content : String
  task : ℕ
  state : CreationState := .pending

/-- The transactions and the tasks have numbers that are not used twice. -/
structure TriageSystem where
  tables : TriageTables
  creations : ℕ → Option Creation := fun _ => none
  tasks : ℕ → Option TriageTask := fun _ => none

inductive TaskStep where
  | get
  | raise (e : AppException)
  | answer (answer : String) (parsed : Except AppException Dict)
  | store (id : String) (now : Time)
  | abort

inductive TriageStep where
  | create_incident (session task : ℕ) (now : Time) (dto : IncidentCreate)
  | create_from_risk (session task : ℕ) (now : Time) (inc_id agent_id : String) (spike : RiskSpike)
  | edit (now : Time) (incident_id : String) (op : IncidentOp)
  | commit (session : ℕ)
  | rollback (session : ℕ)
  | regenerate (task : ℕ) (incident_id : String)
  | analyze (task : ℕ) (next : TaskStep)

theorem IncidentTables.isSome_get_edit {self tables : IncidentTables} {now : Time} {incident_id : String}
    {op : IncidentOp} (h : self.edit now incident_id op = .ok tables) {id : String}
    (hsome : (self.incidents.get id).isSome) : (tables.incidents.get id).isSome := by
  unfold edit at h
  split at h
  · cases h
  · obtain ⟨⟨inc, note⟩, -, rfl⟩ := map_eq_ok_iff.mp h
    simp only [save, Table.get_put]
    split
    · simpa using hsome
    · exact hsome

theorem IncidentTables.get_create {self tables : IncidentTables} {inc : IncidentRecord} {content : String}
    (h : self.create inc content = .ok tables) :
    self.incidents.get inc.id = none ∧ (tables.incidents.get inc.id).isSome ∧
      ∀ id, (self.incidents.get id).isSome → (tables.incidents.get id).isSome := by
  unfold create at h
  split at h
  · rename_i incidents hinsert
    cases h
    refine ⟨(Table.insert_eq_some_iff.mp hinsert).1, ?_, fun id hsome => ?_⟩
    · rw [Table.get_of_insert hinsert]
      exact congrArg Option.isSome (if_pos rfl)
    · obtain ⟨old, hold⟩ := Option.isSome_iff_exists.mp hsome
      rw [Table.get_of_insert_of_get hinsert hold]
      rfl
  · cases h

namespace TriageTables

variable (self : TriageTables)

/-- A transaction on the incidents. One that raises is rolled back. -/
def edit (now : Time) (incident_id : String) (op : IncidentOp) : TriageTables :=
  match h : self.toIncidentTables.edit now incident_id op with
  | .ok tables =>
    { tables with
      ai_analysis := self.ai_analysis
      foreign_key := fun row hrow => IncidentTables.isSome_get_edit h (self.foreign_key row hrow) }
  | .error _ => self

/-- The commit of a new incident, unless its id is taken. -/
def create (inc : IncidentRecord) (content : String) : Option TriageTables :=
  match h : self.toIncidentTables.create inc content with
  | .ok tables =>
    some { tables with
      ai_analysis := self.ai_analysis
      foreign_key := fun row hrow => (IncidentTables.get_create h).2.2 _ (self.foreign_key row hrow) }
  | .error _ => none

/-- The commit of an analysis. -/
def store (row : TriageRecord) : Option TriageTables :=
  if h : (self.incidents.get row.incident_id).isSome then
    some { self with
      ai_analysis := self.ai_analysis ++ [row]
      foreign_key := by
        intro other hother
        rcases List.mem_append.mp hother with hbefore | hnew
        · exact self.foreign_key other hbefore
        · rw [List.mem_singleton.mp hnew]
          exact h }
  else none

variable {self} {tables : TriageTables}

theorem edit_spec (now : Time) (incident_id : String) (op : IncidentOp) :
    (∀ id, (self.incidents.get id).isSome → ((self.edit now incident_id op).incidents.get id).isSome) ∧
      (self.edit now incident_id op).ai_analysis = self.ai_analysis := by
  unfold edit
  split
  · rename_i hedit
    exact ⟨fun id hsome => IncidentTables.isSome_get_edit hedit hsome, rfl⟩
  · exact ⟨fun id hsome => hsome, rfl⟩

theorem create_eq_some {inc : IncidentRecord} {content : String} (h : self.create inc content = some tables) :
    self.incidents.get inc.id = none ∧ (tables.incidents.get inc.id).isSome ∧
      (∀ id, (self.incidents.get id).isSome → (tables.incidents.get id).isSome) ∧
      tables.ai_analysis = self.ai_analysis := by
  unfold create at h
  split at h
  · rename_i hcreate
    cases h
    obtain ⟨hfree, hnew, hmono⟩ := IncidentTables.get_create hcreate
    exact ⟨hfree, hnew, hmono, rfl⟩
  · cases h

theorem store_eq_some {row : TriageRecord} (h : self.store row = some tables) :
    tables.incidents = self.incidents ∧ tables.ai_analysis = self.ai_analysis ++ [row] := by
  unfold store at h
  split at h
  · cases h
    exact ⟨rfl, rfl⟩
  · cases h

end TriageTables

namespace TriageSystem

variable (self : TriageSystem)

def set_task (task : ℕ) (incident_id : String) (phase : TriagePhase) : TriageSystem :=
  { self with tasks := Function.update self.tasks task (some { incident_id, phase }) }

def set_creation (session : ℕ) (creation : Creation) : TriageSystem :=
  { self with creations := Function.update self.creations session (some creation) }

/-- The transaction up to `asyncio.create_task`: the incident and its note are not committed yet. -/
def create (session task : ℕ) (inc : IncidentRecord) (content : String) : TriageSystem :=
  if (self.creations session).isNone ∧ (self.tasks task).isNone then
    (self.set_task task inc.id .started).set_creation session { inc, content, task }
  else self

def commit (session : ℕ) : TriageSystem :=
  match self.creations session with
  | some { inc, content, task, state := .pending } =>
    match self.tables.create inc content with
    | some tables => { self with tables }.set_creation session { inc, content, task, state := .committed }
    | none => self.set_creation session { inc, content, task, state := .rolled_back }
  | _ => self

def rollback (session : ℕ) : TriageSystem :=
  match self.creations session with
  | some { inc, content, task, state := .pending } =>
    self.set_creation session { inc, content, task, state := .rolled_back }
  | _ => self

/-- The commit of a row is the end of the task. -/
def store (task : ℕ) (incident_id : String) (row : TriageRecord) : TriageSystem :=
  match self.tables.store row with
  | some tables => { self.set_task task incident_id .returned with tables }
  | none => self.set_task task incident_id .aborted

variable (kb : MitreKb) (py_str : Json → String)

/-- A step of `analyze_incident`. Its first query sees committed incidents only. An exception up to the commit of
the analysis is stored as a row of its own. -/
def advance (task : ℕ) (incident_id : String) : TriagePhase → TaskStep → TriageSystem
  | .started, .get =>
    self.set_task task incident_id (if (self.tables.incidents.get incident_id).isSome then .pulled else .returned)
  | .started, .raise e | .pulled, .raise e => self.set_task task incident_id (.failed e none)
  | .pulled, .answer answer parsed => self.set_task task incident_id (.answered answer parsed)
  | .answered answer parsed, .store id now =>
    match parsed.bind (triage_analysis kb py_str id incident_id now answer) with
    | .ok row => self.store task incident_id row
    | .error e => self.set_task task incident_id (.failed e (some answer))
  | .failed e answer, .store id now => self.store task incident_id (failed_analysis id incident_id now e answer)
  | .returned, _ => self
  | _, .abort => self.set_task task incident_id .aborted
  | _, _ => self

def step : TriageStep → TriageSystem
  | .create_incident session task now dto =>
    self.create session task (dto.record now)
      ("Incident created manually with severity " ++ dto.severity.str ++ ".")
  | .create_from_risk session task now inc_id agent_id spike =>
    match self.tables.active_incident agent_id with
    | some existing => { self with tables := self.tables.edit now existing.id (.risk_spike spike) }
    | none =>
      self.create session task (spike.record now inc_id agent_id)
        ("Automated incident created due to risk score " ++ spike.score_text ++ ".")
  | .edit now incident_id op => { self with tables := self.tables.edit now incident_id op }
  | .commit session => self.commit session
  | .rollback session => self.rollback session
  | .regenerate task incident_id =>
    if (self.tasks task).isNone ∧ (self.tables.incidents.get incident_id).isSome then
      self.set_task task incident_id .started
    else self
  | .analyze task next =>
    match self.tasks task with
    | some { incident_id, phase } => self.advance kb py_str task incident_id phase next
    | none => self

end TriageSystem

/-- The incident of a creation that has committed, and whose task has come to its end, has a triage. -/
def Creation.Triaged (creation : Creation) (tables : TriageTables) (tasks : ℕ → Option TriageTask) : Prop :=
  creation.state = .committed →
    (∃ incident_id, tasks creation.task = some { incident_id, phase := .returned }) →
      ∃ row ∈ tables.ai_analysis, row.incident_id = creation.inc.id ∧ row.analysis_type = "triage"

/-- The task of a creation analyzes its incident, and a committed one has its incident. -/
structure Creation.Linked (creation : Creation) (tables : TriageTables) (tasks : ℕ → Option TriageTask) : Prop where
  task : ∃ phase, tasks creation.task = some { incident_id := creation.inc.id, phase }
  committed : creation.state = .committed → (tables.incidents.get creation.inc.id).isSome

namespace TriageSystem

def Triaged (s : TriageSystem) : Prop :=
  ∀ session creation, s.creations session = some creation → creation.Triaged s.tables s.tasks

def Linked (s : TriageSystem) : Prop :=
  ∀ session creation, s.creations session = some creation → creation.Linked s.tables s.tasks

def has_returned (s : TriageSystem) (task : ℕ) : Bool :=
  match s.tasks task with
  | some { phase := .returned, .. } => true
  | _ => false

/-- The condition on a step. When the creation of an incident commits, the task that it has started has not come
to its end. -/
def in_time (s : TriageSystem) : TriageStep → Bool
  | .commit session =>
    match s.creations session with
    | some { inc, content, task, state := .pending } =>
      (s.tables.create inc content).isNone || !s.has_returned task
    | _ => true
  | _ => true

variable {s : TriageSystem} {kb : MitreKb} {py_str : Json → String}

theorem set_task_apply (task : ℕ) (incident_id : String) (phase : TriagePhase) (other : ℕ) :
    (s.set_task task incident_id phase).tasks other =
      if other = task then some { incident_id, phase } else s.tasks other := Function.update_apply ..

/-- A task keeps its incident. -/
theorem Linked.set_task (h : s.Linked) {task : ℕ} {incident_id : String} (phase : TriagePhase)
    (hsame : ∀ t, s.tasks task = some t → t.incident_id = incident_id) :
    (s.set_task task incident_id phase).Linked := by
  intro session creation hcreation
  refine ⟨?_, (h session creation hcreation).committed⟩
  obtain ⟨before, hbefore⟩ := (h session creation hcreation).task
  rw [set_task_apply]
  split
  · rename_i heq
    rw [heq] at hbefore
    have hid : creation.inc.id = incident_id := hsame _ hbefore
    exact ⟨phase, by rw [hid]⟩
  · exact ⟨before, hbefore⟩

/-- Incidents are not deleted. -/
theorem Linked.set_tables (h : s.Linked) {tables : TriageTables}
    (hmono : ∀ id, (s.tables.incidents.get id).isSome → (tables.incidents.get id).isSome) :
    Linked { s with tables } := by
  intro session creation hcreation
  have hlinked := h session creation hcreation
  exact ⟨hlinked.task, fun hstate => hmono _ (hlinked.committed hstate)⟩

theorem Linked.set_creation (h : s.Linked) (session : ℕ) {creation : Creation}
    (hcreation : creation.Linked s.tables s.tasks) : (s.set_creation session creation).Linked := by
  refine transition.forall_update h session ?_
  rintro _ ⟨⟩
  exact hcreation

theorem Linked.create (h : s.Linked) (session task : ℕ) (inc : IncidentRecord) (content : String) :
    (s.create session task inc content).Linked := by
  unfold TriageSystem.create
  split
  · rename_i hfree
    have hnone : s.tasks task = none := Option.isNone_iff_eq_none.mp hfree.2
    have hstarted : (s.set_task task inc.id .started).Linked := by
      refine h.set_task .started fun t ht => ?_
      rw [hnone] at ht
      cases ht
    refine hstarted.set_creation session ⟨⟨.started, ?_⟩, nofun⟩
    rw [set_task_apply, if_pos rfl]
  · exact h

section Advance

variable {task : ℕ} {incident_id : String} {phase : TriagePhase}

theorem Linked.set_phase (h : s.Linked) (htask : s.tasks task = some { incident_id, phase }) (next : TriagePhase) :
    (s.set_task task incident_id next).Linked := by
  refine h.set_task next fun t ht => ?_
  rw [htask] at ht
  cases ht
  rfl

theorem Linked.store (h : s.Linked) (htask : s.tasks task = some { incident_id, phase }) (row : TriageRecord) :
    (s.store task incident_id row).Linked := by
  unfold TriageSystem.store
  split
  · rename_i tables hstore
    refine (h.set_phase htask .returned).set_tables fun id hsome => ?_
    rw [(TriageTables.store_eq_some hstore).1]
    exact hsome
  · exact h.set_phase htask .aborted

theorem Linked.advance (h : s.Linked) (htask : s.tasks task = some { incident_id, phase }) (next : TaskStep) :
    (s.advance kb py_str task incident_id phase next).Linked := by
  unfold TriageSystem.advance
  split
  · exact h.set_phase htask _
  · exact h.set_phase htask _
  · exact h.set_phase htask _
  · exact h.set_phase htask _
  · split
    · exact h.store htask _
    · exact h.set_phase htask _
  · exact h.store htask _
  · exact h
  · exact h.set_phase htask _
  · exact h

/-- A task that comes to its end leaves a triage of its incident, if the incident has been committed. -/
theorem Triaged.set_task (h : s.Triaged) (hlinked : s.Linked) (htask : s.tasks task = some { incident_id, phase })
    {next : TriagePhase} (hnext : next = .returned → (s.tables.incidents.get incident_id).isSome →
      ∃ row ∈ s.tables.ai_analysis, row.incident_id = incident_id ∧ row.analysis_type = "triage") :
    (s.set_task task incident_id next).Triaged := by
  intro session creation hcreation hstate hreturned
  obtain ⟨id, hreturned⟩ := hreturned
  rw [set_task_apply] at hreturned
  split at hreturned
  · rename_i heq
    cases hreturned
    obtain ⟨before, hbefore⟩ := (hlinked session creation hcreation).task
    rw [heq, htask] at hbefore
    cases hbefore
    exact hnext rfl ((hlinked session creation hcreation).committed hstate)
  · exact h session creation hcreation hstate ⟨id, hreturned⟩

theorem Triaged.set_tables (h : s.Triaged) {tables : TriageTables}
    (hkept : ∀ row ∈ s.tables.ai_analysis, row ∈ tables.ai_analysis) : Triaged { s with tables } := by
  intro session creation hcreation hstate hreturned
  obtain ⟨row, hrow, htriage⟩ := h session creation hcreation hstate hreturned
  exact ⟨row, hkept row hrow, htriage⟩

theorem Triaged.store (h : s.Triaged) (hlinked : s.Linked) (htask : s.tasks task = some { incident_id, phase })
    {row : TriageRecord} (hrow : row.incident_id = incident_id ∧ row.analysis_type = "triage") :
    (s.store task incident_id row).Triaged := by
  unfold TriageSystem.store
  split
  · rename_i tables hstore
    obtain ⟨hincidents, hrows⟩ := TriageTables.store_eq_some hstore
    have hkept : Triaged { s with tables } := by
      refine h.set_tables fun other hother => ?_
      rw [hrows]
      exact List.mem_append_left _ hother
    have hmono : Linked { s with tables } := by
      refine hlinked.set_tables fun id hsome => ?_
      rw [hincidents]
      exact hsome
    have htask' : TriageSystem.tasks { s with tables } task = some { incident_id, phase } := htask
    refine hkept.set_task hmono htask' fun _ _ => ⟨row, ?_, hrow⟩
    rw [hrows]
    exact List.mem_append_right _ List.mem_cons_self
  · exact h.set_task hlinked htask nofun

theorem triage_analysis_eq_ok {id answer : String} {now : Time} {parsed : Dict} {row : TriageRecord}
    (h : triage_analysis kb py_str id incident_id now answer parsed = .ok row) :
    row.incident_id = incident_id ∧ row.analysis_type = "triage" := by
  obtain ⟨confidence, -, hrow⟩ := bind_eq_ok_iff.mp h
  cases hrow
  exact ⟨rfl, rfl⟩

theorem Triaged.advance (h : s.Triaged) (hlinked : s.Linked) (htask : s.tasks task = some { incident_id, phase })
    (next : TaskStep) : (s.advance kb py_str task incident_id phase next).Triaged := by
  unfold TriageSystem.advance
  split
  · refine h.set_task hlinked htask fun hreturned hsome => ?_
    rw [if_pos hsome] at hreturned
    cases hreturned
  · exact h.set_task hlinked htask nofun
  · exact h.set_task hlinked htask nofun
  · exact h.set_task hlinked htask nofun
  · split
    · rename_i row hrow
      obtain ⟨parsed, -, hanalysis⟩ := bind_eq_ok_iff.mp hrow
      exact h.store hlinked htask (triage_analysis_eq_ok hanalysis)
    · exact h.set_task hlinked htask nofun
  · exact h.store hlinked htask ⟨rfl, rfl⟩
  · exact h
  · exact h.set_task hlinked htask nofun
  · exact h

end Advance

theorem Linked.commit (h : s.Linked) (session : ℕ) : (s.commit session).Linked := by
  unfold TriageSystem.commit
  split
  · rename_i inc content task hpending
    have hlinked := h session _ hpending
    split
    · rename_i tables hcreate
      obtain ⟨-, hnew, hmono, -⟩ := TriageTables.create_eq_some hcreate
      exact (h.set_tables hmono).set_creation session ⟨hlinked.task, fun _ => hnew⟩
    · exact h.set_creation session ⟨hlinked.task, nofun⟩
  · exact h

theorem Linked.step (h : s.Linked) (next : TriageStep) : (s.step kb py_str next).Linked := by
  cases next with
  | create_incident session task now dto => exact h.create session task _ _
  | create_from_risk session task now inc_id agent_id spike =>
    unfold TriageSystem.step
    dsimp only
    split
    · exact h.set_tables (TriageTables.edit_spec now _ _).1
    · exact h.create session task _ _
  | edit now incident_id op => exact h.set_tables (TriageTables.edit_spec now incident_id op).1
  | commit session => exact h.commit session
  | rollback session =>
    unfold TriageSystem.step TriageSystem.rollback
    dsimp only
    split
    · rename_i inc content task hpending
      exact h.set_creation session ⟨(h session _ hpending).task, nofun⟩
    · exact h
  | regenerate task incident_id =>
    unfold TriageSystem.step
    dsimp only
    split
    · rename_i hfree
      refine h.set_task .started fun t ht => ?_
      rw [Option.isNone_iff_eq_none.mp hfree.1] at ht
      cases ht
    · exact h
  | analyze task next =>
    unfold TriageSystem.step
    dsimp only
    split
    · rename_i incident_id phase htask
      exact h.advance htask next
    · exact h

theorem Triaged.set_creation (h : s.Triaged) (session : ℕ) {creation : Creation}
    (hcreation : creation.Triaged s.tables s.tasks) : (s.set_creation session creation).Triaged := by
  refine transition.forall_update h session ?_
  rintro _ ⟨⟩
  exact hcreation

/-- A task that begins has not come to its end. -/
theorem Triaged.start (h : s.Triaged) (task : ℕ) (incident_id : String) :
    (s.set_task task incident_id .started).Triaged := by
  intro session creation hcreation hstate hreturned
  obtain ⟨id, hreturned⟩ := hreturned
  rw [set_task_apply] at hreturned
  split at hreturned
  · cases hreturned
  · exact h session creation hcreation hstate ⟨id, hreturned⟩

theorem Triaged.create (h : s.Triaged) (session task : ℕ) (inc : IncidentRecord) (content : String) :
    (s.create session task inc content).Triaged := by
  unfold TriageSystem.create
  split
  · refine (h.start task inc.id).set_creation session ?_
    exact fun hstate => by cases hstate
  · exact h

theorem Triaged.edit (h : s.Triaged) (now : Time) (incident_id : String) (op : IncidentOp) :
    Triaged { s with tables := s.tables.edit now incident_id op } := by
  refine h.set_tables fun row hrow => ?_
  rw [(TriageTables.edit_spec now incident_id op).2]
  exact hrow

theorem has_returned_iff {task : ℕ} :
    s.has_returned task = true ↔ ∃ incident_id, s.tasks task = some { incident_id, phase := .returned } := by
  unfold has_returned
  constructor
  · intro h
    split at h
    · rename_i incident_id htask
      exact ⟨incident_id, htask⟩
    · cases h
  · rintro ⟨incident_id, htask⟩
    rw [htask]

/-- An incident that has just been committed has no analysis yet. -/
theorem triaged_commit_iff (h : s.Triaged) (session : ℕ) :
    (s.commit session).Triaged ↔ s.in_time (.commit session) := by
  unfold TriageSystem.commit in_time
  dsimp only
  split
  · rename_i inc content task hpending
    split
    · rename_i tables hcreate
      obtain ⟨hfree, -, -, hrows⟩ := TriageTables.create_eq_some hcreate
      have hkept : Triaged { s with tables } := by
        refine h.set_tables fun row hrow => ?_
        rw [hrows]
        exact hrow
      have hnone : ¬∃ row ∈ tables.ai_analysis, row.incident_id = inc.id ∧ row.analysis_type = "triage" := by
        rintro ⟨row, hrow, hid, -⟩
        rw [hrows] at hrow
        have hsome := s.tables.foreign_key row hrow
        rw [hid, hfree] at hsome
        cases hsome
      rw [hcreate, Option.isNone_some, Bool.false_or, Bool.not_eq_true', ← Bool.not_eq_true, has_returned_iff]
      constructor
      · intro htriaged hended
        exact hnone (htriaged session _ (Function.update_self ..) rfl hended)
      · intro hended
        exact hkept.set_creation session fun _ hreturned => absurd hreturned hended
    · rename_i hcreate
      rw [hcreate]
      refine iff_of_true (h.set_creation session ?_) rfl
      exact fun hstate => by cases hstate
  · exact iff_of_true h rfl

/-- A step keeps the triages exactly if it is in time. -/
theorem triaged_step_iff (hlinked : s.Linked) (h : s.Triaged) (next : TriageStep) :
    (s.step kb py_str next).Triaged ↔ s.in_time next := by
  cases next with
  | create_incident session task now dto => exact iff_of_true (h.create session task _ _) rfl
  | create_from_risk session task now inc_id agent_id spike =>
    refine iff_of_true ?_ rfl
    unfold TriageSystem.step
    dsimp only
    split
    · exact h.edit now _ _
    · exact h.create session task _ _
  | edit now incident_id op => exact iff_of_true (h.edit now incident_id op) rfl
  | commit session => exact triaged_commit_iff h session
  | rollback session =>
    refine iff_of_true ?_ rfl
    unfold TriageSystem.step TriageSystem.rollback
    dsimp only
    split
    · exact h.set_creation session fun hstate => by cases hstate
    · exact h
  | regenerate task incident_id =>
    refine iff_of_true ?_ rfl
    unfold TriageSystem.step
    dsimp only
    split
    · exact h.start task incident_id
    · exact h
  | analyze task next =>
    refine iff_of_true ?_ rfl
    unfold TriageSystem.step
    dsimp only
    split
    · rename_i incident_id phase htask
      exact h.advance hlinked htask next
    · exact h

/-- In a run from any tables, every incident whose creation has committed and whose task has come to its end has a
triage, exactly if every creation commits before its task has come to its end. -/
theorem triaged_along_iff (kb : MitreKb) (py_str : Json → String) (tables : TriageTables) (steps : List TriageStep) :
    transition.Along (step · kb py_str ·) (fun s next => (s.step kb py_str next).Triaged) { tables := tables } steps ↔
      transition.Along (step · kb py_str ·) (fun s next => s.in_time next = true) { tables := tables } steps := by
  suffices h : ∀ s : TriageSystem, s.Linked → s.Triaged →
      (transition.Along (step · kb py_str ·) (fun s next => (s.step kb py_str next).Triaged) s steps ↔
        transition.Along (step · kb py_str ·) (fun s next => s.in_time next = true) s steps) from
    h { tables := tables } (fun _ _ hnone => by cases hnone) fun _ _ hnone => by cases hnone
  induction steps with
  | nil => exact fun _ _ _ => Iff.rfl
  | cons next steps ih =>
    intro s hlinked htriaged
    rw [transition.along_cons, transition.along_cons, ← triaged_step_iff hlinked htriaged next]
    exact and_congr_right fun hnext => ih _ (hlinked.step next) hnext

/-- The task looks for the incident before its creation commits. -/
theorem not_triaged_early_query :
    ¬ transition.Along (step · { techs := [] } (fun _ => "") ·)
      (fun s next => (s.step { techs := [] } (fun _ => "") next).Triaged)
      { tables := { foreign_key := List.forall_mem_nil _ } }
      [.create_incident 0 0 0 { id := "inc_1", title := "Spike", description := "" }, .analyze 0 .get,
        .commit 0] := by
  intro h
  obtain ⟨row, hrow, -⟩ := h.2.2.1 0 _ rfl rfl ⟨_, rfl⟩
  exact absurd hrow List.not_mem_nil

end TriageSystem

end larp
