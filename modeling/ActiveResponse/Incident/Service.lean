import ActiveResponse.Models.Incident
import ActiveResponse.System

namespace larp

structure IncidentCreate where
  id : String
  title : String
  description : String
  severity : IncidentSeverity := .MEDIUM
  agent_id : Option String := none
  assigned_to : Option String := none
  risk_score : ℚ := 0
  notes : Option String := none

/-- A field that is not set and one that is `null` are both left alone. -/
structure IncidentUpdate where
  title : Option String := none
  description : Option String := none
  severity : Option IncidentSeverity := none
  status : Option IncidentStatus := none
  assigned_to : Option String := none
  risk_score : Option ℚ := none
  notes : Option String := none
  label : Option String := none
  label_reason : Option String := none
  labeled_by : Option String := none

/-- A score spike as `create_from_risk` records it; the texts are the score and the factors as
Python prints them. -/
structure RiskSpike where
  risk_score : ℚ
  score_text : String
  factors_text : String

/-- The operations of `IncidentService` on an incident that exists. The `answer` of a quick action is what
the response services give it to print, or the exception that they raise. -/
inductive IncidentOp where
  | add_note (content user : String)
  | update_incident (dto : IncidentUpdate)
  | assign_incident (user_id : String)
  | contain_incident (user : String)
  | resolve_incident (user : String)
  | mark_false_positive (user : String)
  | close_incident (user : String)
  | execute_action (action_type : String) (params : Dict) (user : String) (answer : Except AppException String)
  | risk_spike (spike : RiskSpike)

namespace IncidentRecord

/-- The label of an update, with the time at which it is set. -/
def set_label (self : IncidentRecord) (now : Time) (dto : IncidentUpdate) : IncidentRecord :=
  if dto.label.isSome then
    { self with
      label := dto.label
      label_reason := dto.label_reason
      labeled_by := some (text_or dto.labeled_by "current_user")
      labeled_at := some now }
  else self

/-- `setattr` of every field that the update sets. -/
def set_fields (self : IncidentRecord) (dto : IncidentUpdate) : IncidentRecord :=
  { self with
    title := dto.title.getD self.title
    description := dto.description.getD self.description
    severity := dto.severity.getD self.severity
    status := dto.status.getD self.status
    assigned_to := dto.assigned_to.or self.assigned_to
    risk_score := dto.risk_score.getD self.risk_score
    notes := dto.notes.or self.notes }

/-- A further spike of the risk score. -/
def spike (self : IncidentRecord) (spike : RiskSpike) : IncidentRecord :=
  { self with
    risk_score := max self.risk_score spike.risk_score
    severity := if Database.risk_severity spike.risk_score = .CRITICAL then .CRITICAL else self.severity
    description := self.description ++ "\n\n[Auto Update] Additional Risk Telemetry Spike: Score " ++
      spike.score_text ++ ". Factors: " ++ spike.factors_text }

/-- The branches of `execute_action`: the row and `result_msg`. -/
def quick_action (self : IncidentRecord) (action_type : String) (params : Dict) (answer : Except AppException String) :
    Except AppException (IncidentRecord × String) :=
  let agent_id := text_or self.agent_id ""
  if agent_id = "" ∧ action_type ∈ ["isolate", "unisolate", "kill_process_tree"] then
    .error (.BadRequestError "Cannot execute agent action: Incident has no associated agent_id.")
  else if action_type = "isolate" then
    answer.map fun action_id =>
      ({ self with status := .CONTAINED },
        "Isolated Agent '" ++ agent_id ++ "' (Action: " ++ action_id ++ ") and updated status to CONTAINED.")
  else if action_type = "unisolate" then
    answer.map fun service => (self, "Unisolated Agent '" ++ agent_id ++ "'" ++ service ++ ".")
  else if action_type = "kill_process_tree" then
    if (params.get "pid").any Json.truthy then
      answer.map fun process =>
        (self, "Dispatched kill_process_tree for PID " ++ process ++ " on agent '" ++ agent_id ++ "'.")
    else .error (.BadRequestError "Parameter 'pid' is required for kill_process_tree action.")
  else if action_type = "block_ip" then
    if (params.get_or "ip" "target_ip").any Json.truthy then
      answer.map fun target_ip =>
        (self, "Blocked IP '" ++ target_ip ++ "' in firewall rules for Incident '" ++ self.id ++ "'.")
    else .error (.BadRequestError "Parameter 'ip' is required for block_ip action.")
  else .error (.BadRequestError ("Unknown action_type '" ++ action_type ++ "'."))

def note (self : IncidentRecord) (content user : String) : IncidentNote where
  incident_id := self.id
  user := user
  content := content

end IncidentRecord

/-- What an operation makes of the row that its session has loaded, and the note that it adds. -/
def IncidentOp.edit (now : Time) (inc : IncidentRecord) :
    IncidentOp → Except AppException (IncidentRecord × Option IncidentNote)
  | .add_note content user => .ok (inc, some (inc.note content user))
  | .update_incident dto =>
    .ok ((inc.set_label now dto).set_fields dto,
      (dto.status.filter fun status => status ≠ inc.status).map fun status =>
        inc.note
          ("Incident status updated from '" ++ inc.status.value ++ "' to '" ++ status.value ++ "'.")
          (text_or dto.assigned_to (text_or dto.labeled_by "admin")))
  | .assign_incident user_id =>
    .ok (inc.assign_to user_id,
      some (inc.note ("Incident assigned to analyst '" ++ user_id ++ "'. Status set to INVESTIGATING.") user_id))
  | .contain_incident user =>
    .ok ({ inc with status := .CONTAINED }, some (inc.note ("Incident marked as CONTAINED by " ++ user ++ ".") user))
  | .resolve_incident user =>
    .ok (inc.resolve now, some (inc.note ("Incident marked as RESOLVED by " ++ user ++ ".") user))
  | .mark_false_positive user =>
    .ok (inc.mark_false_positive, some (inc.note ("Incident flagged as FALSE_POSITIVE by " ++ user ++ ".") user))
  | .close_incident user =>
    .ok ({ inc with status := .CLOSED }, some (inc.note ("Incident CLOSED by " ++ user ++ ".") user))
  | .execute_action action_type params user answer =>
    (inc.quick_action action_type params answer).map fun (inc, result_msg) =>
      (inc, some (inc.note
        ("SOC Quick Action executed: [" ++ action_type.toUpper ++ "] - " ++ result_msg) user))
  | .risk_spike spike =>
    .ok (inc.spike spike,
      some (inc.note ("Automated risk spike recorded. Score: " ++ spike.score_text) "system"))

/-- An action that succeeds leaves the row alone, unless it contains the incident. -/
theorem IncidentRecord.quick_action_ok {inc edited : IncidentRecord} {action_type result_msg : String} {params : Dict}
    {answer : Except AppException String}
    (h : inc.quick_action action_type params answer = .ok (edited, result_msg)) :
    edited = if action_type = "isolate" then { inc with status := .CONTAINED } else inc := by
  unfold IncidentRecord.quick_action at h
  dsimp only at h
  split at h
  · cases h
  · split at h
    · rename_i hisolate
      obtain ⟨_, _, heq⟩ := map_eq_ok_iff.mp h
      rw [if_pos hisolate]
      exact (congrArg Prod.fst heq).symm
    · rename_i hisolate
      rw [if_neg hisolate]
      -- The other actions that succeed leave the row as it is.
      repeat' split at h
      all_goals first
        | cases h
        | obtain ⟨_, _, heq⟩ := map_eq_ok_iff.mp h
          exact (congrArg Prod.fst heq).symm

/-- The row of an incident that `create_incident` adds. -/
def IncidentCreate.record (self : IncidentCreate) (now : Time) : IncidentRecord where
  id := self.id
  title := self.title
  description := self.description
  severity := self.severity
  agent_id := self.agent_id
  assigned_to := self.assigned_to
  risk_score := self.risk_score
  notes := self.notes
  created_at := now

/-- The row of an incident that `create_from_risk` adds. -/
def RiskSpike.record (self : RiskSpike) (now : Time) (inc_id agent_id : String) : IncidentRecord where
  id := inc_id
  title := "High Risk Threat Spike on Agent '" ++ agent_id ++ "' (Score: " ++ self.score_text ++ ")"
  description := "Automated incident generated due to risk score " ++ self.score_text ++ ".\nFactors: " ++
    self.factors_text
  severity := Database.risk_severity self.risk_score
  status := .OPEN
  agent_id := some agent_id
  risk_score := self.risk_score
  notes := some "Auto-generated incident on risk assessment threshold breach."
  created_at := now

/-- The tables of the incident services. -/
structure IncidentTables where
  incidents : Table IncidentRecord := Table.empty
  incident_notes : List IncidentNote := []

/-- A transaction on incidents, with the failure that the database makes it end in, if any. -/
inductive IncidentCall where
  | create_incident (dto : IncidentCreate)
  | create_from_risk (inc_id agent_id : String) (spike : RiskSpike)
  | edit (incident_id : String) (op : IncidentOp)

namespace IncidentTables

/-- Write a row and, if there is one, add a note to it. -/
def save (self : IncidentTables) (inc : IncidentRecord) (note : Option IncidentNote) : IncidentTables where
  incidents := self.incidents.put (note.elim inc inc.append_note)
  incident_notes := self.incident_notes ++ note.toList

/-- The operations that begin with `get_incident`. -/
def edit (self : IncidentTables) (now : Time) (incident_id : String) (op : IncidentOp) :
    Except AppException IncidentTables :=
  match self.incidents.get incident_id with
  | none => .error (.NotFoundError ("Incident '" ++ incident_id ++ "' not found."))
  | some inc => (op.edit now inc).map fun (inc, note) => self.save inc note

/-- `INSERT` of an incident with its first note. -/
def create (self : IncidentTables) (inc : IncidentRecord) (content : String) : Except AppException IncidentTables :=
  match self.incidents.insert (inc.append_note (inc.note content "system")) with
  | some incidents => .ok { incidents, incident_notes := self.incident_notes ++ [inc.note content "system"] }
  | none => .error (.IntegrityError "incidents_pkey")

def create_incident (self : IncidentTables) (now : Time) (dto : IncidentCreate) : Except AppException IncidentTables :=
  self.create (dto.record now) ("Incident created manually with severity " ++ dto.severity.str ++ ".")

/-- The query of `create_from_risk`: the newest incident of the agent that is still worked on. -/
def active_incident (self : IncidentTables) (agent_id : String) : Option IncidentRecord :=
  self.incidents.latest
    (fun inc => inc.agent_id = some agent_id ∧
      (inc.status = .OPEN ∨ inc.status = .INVESTIGATING ∨ inc.status = .CONTAINED))
    fun inc => inc.created_at

def create_from_risk (self : IncidentTables) (now : Time) (inc_id agent_id : String) (spike : RiskSpike) :
    Except AppException IncidentTables :=
  match self.active_incident agent_id with
  | some existing => self.edit now existing.id (.risk_spike spike)
  | none =>
    self.create (spike.record now inc_id agent_id)
      ("Automated incident created due to risk score " ++ spike.score_text ++ ".")

def perform (self : IncidentTables) (now : Time) : IncidentCall → Except AppException IncidentTables
  | .create_incident dto => self.create_incident now dto
  | .create_from_risk inc_id agent_id spike => self.create_from_risk now inc_id agent_id spike
  | .edit incident_id op => self.edit now incident_id op

end IncidentTables

end larp
