import ActiveResponse.Core.Isoformat
import ActiveResponse.Incident.Factors
import ActiveResponse.Models.Agent
import ActiveResponse.Models.ResponseAction
import ActiveResponse.Models.StoredProcess
import ActiveResponse.Network.Suspicious
import Mathlib.Data.Prod.Lex

namespace larp

/-- The columns of an incident that its timeline shows. -/
structure TimelineIncident where
  id : String
  title : String
  description : String := ""
  severity : IncidentSeverity := .MEDIUM
  agent_id : Option String := none
  risk_score : PyFloat := .finite 0
  created_at : Time

instance : Keyed TimelineIncident String := ⟨TimelineIncident.id⟩

/-- A flow with the columns that only the timeline reads. -/
structure TimelineFlow extends FlowRecord where
  start_time : Time
  packets_sent : ℤ := 0

instance : Keyed TimelineFlow String := ⟨fun flow => flow.id⟩

/-- A risk record, whose score may be any float. -/
structure TimelineRisk where
  id : String
  agent_id : String
  score : PyFloat
  factors : Dict
  timestamp : Time

instance : Keyed TimelineRisk String := ⟨TimelineRisk.id⟩

/-- The tables that a timeline is built from. Their times are those that a `datetime` can hold. -/
structure TimelineTables where
  incidents : Table TimelineIncident
  process_info : Table StoredProcess
  flows : Table TimelineFlow
  risk_score_records : Table TimelineRisk
  response_actions : Table ResponseAction
  incident_times : ∀ incident ∈ incidents.rows, IsDatetime incident.created_at
  process_times : ∀ process ∈ process_info.rows, IsDatetime process.created_at
  flow_times : ∀ flow ∈ flows.rows, IsDatetime flow.start_time
  risk_times : ∀ record ∈ risk_score_records.rows, IsDatetime record.timestamp
  action_times : ∀ act ∈ response_actions.rows, IsDatetime (act.applied_at.getD act.created_at)

/-- What a timeline takes from Python: `str.lower`, `str.upper`, `str` of a JSON value, and the loaders, with keys and
values as `str` writes them. -/
structure TimelinePython where
  lower : String → String
  upper : String → String
  str : Json → String
  loaders : FactorLoaders String String

/-- The `details` of an entry. -/
inductive TimelineDetails where
  | process_spawn (pid : ℤ) (name path cmdline : String) (parent_pid : ℤ) (parent_name : String)
  | network (dst_ip : String) (dst_port : ℤ) (protocol : String) (bytes_packets_sent : Option (ℤ × ℤ))
      (pid : Option ℤ)
  | rule_trigger (rule : String) (score : PyFloat) (reason : String)
  | action (action_id action_type : String) (status : ResponseActionStatus) (triggered_by : String)
      (snapshot : Option Snapshot)

/-- The `type` of an entry is that of its details. -/
structure TimelineEntry where
  time : String
  severity : String
  title : String
  details : TimelineDetails

/-- The action that an entry is about. -/
def TimelineEntry.action_id (self : TimelineEntry) : Option String :=
  match self.details with
  | .action action_id .. => some action_id
  | _ => none

/-- `t - timedelta(seconds=n)`. -/
def time_before (t : Time) (n : ℤ) : Except AppException Time :=
  if IsDatetime (t - seconds n) then .ok (t - seconds n) else .error (.Fault "date value out of range")

/-- `int(x)` of a float. -/
def PyFloat.to_int : PyFloat → Except AppException ℤ
  | .finite q => .ok (truncate q)
  | .inf _ => .error (.Fault "cannot convert float infinity to integer")
  | .nan => .error (.ValueError "cannot convert float NaN to integer")

/-- `str(x)` of a float. -/
def PyFloat.str : PyFloat → String
  | .finite q => float_str q
  | .inf negative => if negative then "-inf" else "inf"
  | .nan => "nan"

/-- `x >= 70`. -/
def PyFloat.at_least_70 : PyFloat → Bool
  | .finite q => 70 ≤ q
  | .inf negative => !negative
  | .nan => false

namespace TimelineTables

variable (self : TimelineTables) (python : TimelinePython) (incident : TimelineIncident)

/-! ## Processes -/

/-- The processes of the agent, the suspicious ones first and then the newest. -/
def procs (agent_id : String) : List StoredProcess :=
  (self.process_info.select_desc (fun process => process.agent_id = agent_id)
    fun process => toLex (process.is_suspicious, process.created_at)).take 50

def culprit_proc (desc_lower : String) (procs : List StoredProcess) : Option StoredProcess :=
  (procs.find? fun p =>
    p.is_suspicious ∨ (python.lower p.name ≠ "" ∧ contains_text desc_lower (python.lower p.name))).or procs.head?

def parent_proc (procs : List StoredProcess) (culprit : StoredProcess) : Option StoredProcess :=
  match culprit.parent_pid with
  | some pid => if pid = 0 then none else procs.find? fun p => p.pid = pid
  | none => none

/-- A culprit that is younger than the incident is shown before it. -/
def spawn_time (culprit : StoredProcess) : Except AppException Time :=
  if incident.created_at < culprit.created_at then time_before incident.created_at 7 else .ok culprit.created_at

def spawn_entry (desc_lower : String) (procs : List StoredProcess) (culprit : StoredProcess) :
    Except AppException TimelineEntry := do
  let p_time ← spawn_time incident culprit
  let parent := parent_proc procs culprit
  let parent_name := (parent.map StoredProcess.name).getD
    (if contains_text desc_lower "windows" then "explorer.exe" else "bash")
  return {
    time := isoformat p_time
    severity := if culprit.is_suspicious then "critical" else "warning"
    title := parent_name ++ " spawned " ++ culprit.name
    details := .process_spawn culprit.pid culprit.name
      (text_or culprit.exe_path (text_or (some culprit.exe) ("/tmp/" ++ culprit.name)))
      (text_or (some culprit.cmdline) culprit.name)
      ((culprit.parent_pid.filter (· ≠ 0)).getD ((parent.map StoredProcess.pid).getD 1000)) parent_name }

/-- The entry of an incident without processes. -/
def fallback_spawn : Except AppException TimelineEntry := do
  let extracted_name :=
    if contains_text (python.lower (incident.title ++ incident.description)) "key" then "key_test.exe"
    else "suspicious_process"
  let t_spawn ← time_before incident.created_at 8
  return {
    time := isoformat t_spawn
    severity := "critical"
    title := "cmd.exe spawned " ++ extracted_name
    details := .process_spawn 4128 extracted_name ("C:\\Users\\AppData\\Local\\Temp\\" ++ extracted_name)
      (extracted_name ++ " --hidden") 3500 "cmd.exe" }

/-- The entry of the process that started the attack. -/
def process_entry (desc_lower : Option String) (procs : List StoredProcess) (culprit : Option StoredProcess) :
    Except AppException TimelineEntry :=
  match desc_lower, culprit with
  | some desc_lower, some culprit => spawn_entry incident desc_lower procs culprit
  | _, _ => fallback_spawn python incident

/-! ## Flows -/

/-- The newest flows of the agent. -/
def newest_flows (agent_id : String) : List TimelineFlow :=
  (self.flows.select_desc (fun flow => flow.agent_id = some agent_id) fun flow => flow.created_at).take 5

def flow_entry (culprit : Option StoredProcess) (fl : TimelineFlow) : TimelineEntry where
  time := isoformat fl.start_time
  severity := if fl.dst_port ∈ [4444, 5555, 1337, 8080, 23, 6667] then "critical" else "warning"
  title := "Outbound connection to " ++ fl.dst_ip ++ ":" ++ toString fl.dst_port
  details := .network fl.dst_ip fl.dst_port fl.protocol (some (fl.bytes_sent, fl.packets_sent))
    (culprit.map StoredProcess.pid)

/-- The entries of the flows, or of the description if there are none. The lowered description is a local variable
that only an incident with an agent has. -/
def network_entries (desc_lower : Option String) (culprit : Option StoredProcess) (flows : List TimelineFlow) :
    Except AppException (List TimelineEntry) :=
  if flows.isEmpty then
    match desc_lower with
    | none => .error (.Fault "cannot access local variable 'desc_lower' where it is not associated with a value")
    | some desc_lower =>
      if contains_text desc_lower "c2" ∨ contains_text desc_lower "network" ∨ contains_text desc_lower "port" then do
        let t_net ← time_before incident.created_at 4
        return [{
          time := isoformat t_net
          severity := "warning"
          title := "Outbound connection to 192.168.10.55:4444"
          details := .network "192.168.10.55" 4444 "TCP" none (some ((culprit.map StoredProcess.pid).getD 4128)) }]
      else .ok []
  else .ok (flows.map (flow_entry culprit))

/-! ## Rules -/

/-- The newest risk records of the agent. -/
def risk_records (agent_id : String) : List TimelineRisk :=
  (self.risk_score_records.select_desc (fun record => record.agent_id = agent_id) TimelineRisk.timestamp).take 3

/-- The factors that name a rule. -/
def rule_factors {V : Type} (factors : List (String × V)) : List (String × V) :=
  factors.filter fun factor => factor.1 ∉ ["total_score", "score"]

def rule_entry (time : Time) (severity : String) (score : PyFloat) (r_name reason : String) :
    Except AppException TimelineEntry := do
  let points ← score.to_int
  return {
    time := isoformat time
    severity := severity
    title := "Rule " ++ r_name ++ " triggered (+" ++ toString points ++ ")"
    details := .rule_trigger r_name score reason }

/-- The entries of the newest record with factors, or else of the factors in the description. -/
def rule_entries (records : List TimelineRisk) : Except AppException (List TimelineEntry) :=
  match records.find? fun record => !record.factors.isEmpty with
  | some record =>
    let severity := if incident.severity = .CRITICAL ∨ incident.severity = .HIGH then "critical" else "warning"
    (rule_factors record.factors).mapM fun factor =>
      rule_entry record.timestamp severity record.score factor.1 (python.str factor.2)
  | none =>
    let parsed_factors := parse_factors python.loaders incident.description
    if parsed_factors.isEmpty then do
      let t_rule ← time_before incident.created_at 2
      return [{
        time := isoformat t_rule
        severity := "critical"
        title := "Risk Threshold Exceeded (Score: " ++ incident.risk_score.str ++ "/100)"
        details := .rule_trigger "composite_risk_spike" incident.risk_score
          (if incident.description = "" then "High risk threat anomaly"
            else String.ofList (incident.description.toList.takeWhile (· ≠ '\n'))) }]
    else
      let severity := if incident.risk_score.at_least_70 then "critical" else "warning"
      (rule_factors parsed_factors).mapM fun factor => do
        let t_rule ← time_before incident.created_at 2
        rule_entry t_rule severity incident.risk_score factor.1 factor.2

/-! ## Response actions -/

/-- The actions of the incident, and those of its agent from five minutes before it on. -/
def Linked (act : ResponseAction) : Prop :=
  act.incident_id = some incident.id ∨
    (some act.agent_id = incident.agent_id ∧ incident.created_at - seconds 300 ≤ act.created_at)

instance (act : ResponseAction) : Decidable (Linked incident act) := inferInstanceAs (Decidable (_ ∨ _))

def action_entry (act : ResponseAction) : TimelineEntry :=
  let automatic := ((act.action_params.get "policy_id").any Json.truthy : Bool) ∨
    contains_text (((act.action_params.get "reason").map python.str).getD "") "Auto"
  { time := isoformat (act.applied_at.getD act.created_at)
    severity := if act.status = .applied then "success" else if act.status = .reverted then "warning" else "info"
    title := (if automatic then "Auto-" else "") ++ python.upper act.action_type ++ " " ++ act.status.value
    details := .action act.id act.action_type act.status (if automatic then "policy_engine" else "analyst")
      act.snapshot }

def action_entries : Except AppException (List TimelineEntry) := do
  let _ ← time_before incident.created_at 300
  return (self.response_actions.select_asc (Linked incident) ResponseAction.created_at).map (action_entry python)

/-! ## The timeline -/

/-- The entries of the timeline before they are sorted. -/
def collect : Except AppException (List TimelineEntry) := do
  let agent_id := incident.agent_id.filter (· ≠ "")
  let procs := (agent_id.map self.procs).getD []
  let desc_lower := agent_id.map fun _ => python.lower incident.description
  let culprit := desc_lower.bind fun desc_lower => culprit_proc python desc_lower procs
  let spawn ← process_entry python incident desc_lower procs culprit
  let network ← network_entries incident desc_lower culprit ((agent_id.map self.newest_flows).getD [])
  let rules ← rule_entries python incident ((agent_id.map self.risk_records).getD [])
  let actions ← self.action_entries python incident
  return spawn :: (network ++ rules ++ actions)

/-- `build_timeline`. -/
def build_timeline (incident_id : String) : Except AppException (String × List TimelineEntry) :=
  match self.incidents.get incident_id with
  | none => .error (.NotFoundError ("Incident '" ++ incident_id ++ "' not found."))
  | some incident => do
    let timeline ← self.collect python incident
    return (incident.id, timeline.insertionSort fun a b => a.time ≤ b.time)

end TimelineTables

end larp
