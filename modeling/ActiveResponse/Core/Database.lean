import Mathlib.Data.String.Basic
import ActiveResponse.Models.Agent
import ActiveResponse.Models.Command
import ActiveResponse.Models.ResponseAction

namespace larp

/-- The committed rows of the manager's database. -/
structure Database where
  agents : Table Agent := Table.empty
  commands : Table Command := Table.empty
  response_actions : Table ResponseAction := Table.empty
  action_audit_logs : List ActionAuditLog := []
  response_policies : Table ResponsePolicy := Table.empty
  agent_groups : Table AgentGroup := Table.empty
  agent_group_members : List AgentGroupMember := []
  system_settings : Table SystemSetting := Table.empty
  incidents : Table Incident := Table.empty
  whitelist : Table WhitelistEntry := Table.empty
  risk_score_records : Table RiskScoreRecord := Table.empty

namespace Database

/-! ## Inserts -/

/-- `INSERT INTO commands`: the primary key and the foreign key to the agent are checked. -/
def add_command (db : Database) (cmd : Command) : Except AppException Database :=
  if (db.agents.get cmd.agent_id).isNone then
    .error (.IntegrityError "commands_agent_id_fkey")
  else
    match db.commands.insert cmd with
    | some commands => .ok { db with commands }
    | none => .error (.IntegrityError "commands_pkey")

def add_response_action (db : Database) (action : ResponseAction) : Except AppException Database :=
  if action.incident_id.any fun incident_id => (db.incidents.get incident_id).isNone then
    .error (.IntegrityError "response_actions_incident_id_fkey")
  else if (db.agents.get action.agent_id).isNone then
    .error (.IntegrityError "response_actions_agent_id_fkey")
  else
    match db.response_actions.insert action with
    | some response_actions => .ok { db with response_actions }
    | none => .error (.IntegrityError "response_actions_pkey")

/-- A value bound to a nullable `VARCHAR(limit)` column: only text that fits is accepted. -/
def varchar (limit : ℕ) : Option Json → Except AppException (Option String)
  | none | some .null => .ok none
  | some (.str text) =>
    if text.length ≤ limit then .ok (some text)
    else .error (.DataError ("value too long for type character varying(" ++ toString limit ++ ")"))
  | some _ => .error (.DataError "invalid input for query argument (expected str)")

theorem varchar_str_ok {limit : ℕ} {text : String} (h : text.length ≤ limit) :
    varchar limit (some (.str text)) = .ok (some text) := if_pos h

theorem varchar_str_error {limit : ℕ} {text : String} (h : ¬ text.length ≤ limit) :
    ∃ e, varchar limit (some (.str text)) = .error e := ⟨_, if_neg h⟩

/-- `ActionAuditLogService.record_event`. -/
def record_event (db : Database) (action_id event actor : String) (reason : Option Json)
    (metadata : Dict) : Except AppException Database := do
  let reason ← varchar 512 reason
  return { db with
    action_audit_logs := db.action_audit_logs ++ [{ action_id, event, actor, reason, metadata }] }

/-! ## Repository queries -/

/-- `CommandRepository.get_pending_by_agent`. -/
def get_pending_by_agent (db : Database) (agent_id : String) : List Command :=
  db.commands.rows.filter fun cmd => cmd.agent_id = agent_id ∧ cmd.status = .PENDING

/-- `ResponseActionRepository.get_active_cooldown`: the row whose cooldown ends last. -/
def get_active_cooldown (db : Database) (agent_id action_type : String) (now : Time) :
    Option ResponseAction :=
  db.response_actions.latest
    (fun action =>
      action.agent_id = agent_id ∧ action.action_type = action_type ∧
        (action.status = .applied ∨ action.status = .reverted) ∧ ∃ u ∈ action.cooldown_until, now < u)
    fun action => action.cooldown_until.getD 0

/-- `ResponseActionRepository.get_expired_actions`. -/
def get_expired_actions (db : Database) (current_time : Time) : List ResponseAction :=
  db.response_actions.select_asc
    (fun action => action.status = .applied ∧ ∃ t ∈ action.auto_rollback_at, t ≤ current_time)
    fun action => action.auto_rollback_at.getD 0

/-- The rows in status applied that `select` picks, newest first: the common shape of
`get_active_applied_by_incident`, `_by_agent` and `_by_agents`. -/
def get_active_applied (db : Database) (select : ResponseAction → Bool) : List ResponseAction :=
  db.response_actions.select_desc (fun action => select action ∧ action.status = .applied)
    ResponseAction.created_at

def get_active_applied_by_incident (db : Database) (incident_id : String) : List ResponseAction :=
  db.get_active_applied fun action => action.incident_id = some incident_id

def get_active_applied_by_agent (db : Database) (agent_id : String) : List ResponseAction :=
  db.get_active_applied fun action => action.agent_id = agent_id

def get_active_applied_by_agents (db : Database) (agent_ids : List String) : List ResponseAction :=
  db.get_active_applied fun action => agent_ids.contains action.agent_id

/-- `AgentGroupRepository.get_agents_in_group`. -/
def get_agents_in_group (db : Database) (group_id : String) : List Agent :=
  db.agents.select_asc (fun agent => ⟨group_id, agent.id⟩ ∈ db.agent_group_members) Agent.hostname

/-- `AgentGroupRepository.get_groups_for_agent`. -/
def get_groups_for_agent (db : Database) (agent_id : String) : List AgentGroup :=
  db.agent_groups.select_asc (fun group => ⟨group.id, agent_id⟩ ∈ db.agent_group_members) AgentGroup.name

/-- `AgentRepository.get_dead_agents`: only ACTIVE and ISOLATED agents can go dead. -/
def is_dead_agent (cutoff : Time) (agent : Agent) : Bool :=
  agent.last_seen < cutoff ∧ (agent.status = .ACTIVE ∨ agent.status = .ISOLATED)

/-! ## Settings -/

/-- `SettingService.get_setting`: a stored value is unwrapped when it has a `data` entry. -/
def get_setting (db : Database) (key : String) : Option Json :=
  (db.system_settings.get key).map fun setting =>
    (setting.value.get "data").getD (.obj setting.value)

/-- `value if isinstance(value, dict) else {"data": value}`. -/
def val_dict : Json → Dict
  | .obj entries => entries
  | value => [("data", value)]

/-- `SystemSettingRepository.set_key`. The database has no texts with a NUL, and no keys of more than 128 characters.
Of a row that exists the value is written only if it is not `==` to the one that was loaded. -/
def set_key (db : Database) (key : String) (value : Json) : Except AppException Database :=
  if '\x00' ∈ key.toList then .error (.DataError "invalid byte sequence for encoding \"UTF8\": 0x00")
  else
    match db.system_settings.insert { key, value := val_dict value } with
    | some system_settings => (varchar 128 (some (.str key))).map fun _ => { db with system_settings }
    | none =>
      .ok { db with
        system_settings := db.system_settings.modify key fun row =>
          { row with value := assign (fun a b => (Json.obj a).py_eq (.obj b)) row.value (val_dict value) row.value } }

structure AutoRollbackSettings where
  timeout_seconds : ℤ
  enabled : Bool
  cooldown_seconds : ℤ

/-- A setting that may itself be wrapped in a `value` entry. -/
def rollback_setting (db : Database) (key : String) (default : Json) : Json :=
  match (db.get_setting key).getD default with
  | .obj entries => (Dict.get entries "value").getD default
  | value => value

/-- `SettingService.get_auto_rollback_settings`. The conversions raise on a value that is not a
number. -/
def get_auto_rollback_settings (db : Database) : Except AppException AutoRollbackSettings := do
  let timeout_seconds ← (db.rollback_setting "auto_rollback_timeout_seconds" (.num 300)).to_int
  let enabled := (db.rollback_setting "auto_rollback_enabled" (.bool true)).truthy
  let cooldown_seconds ← (db.rollback_setting "rollback_cooldown_seconds" (.num 600)).to_int
  return { timeout_seconds, enabled, cooldown_seconds }

structure RiskThresholds where
  incident_creation_threshold : ℚ
  auto_kill_threshold : ℚ
  auto_isolate : ℚ
  alert_with_buttons : ℚ
  alert : ℚ
  log : ℚ

def default_risk_thresholds : RiskThresholds where
  incident_creation_threshold := 50
  auto_kill_threshold := 85
  auto_isolate := 85
  alert_with_buttons := 70
  alert := 50
  log := 20

/-- `SettingService.get_risk_thresholds`. -/
def get_risk_thresholds (db : Database) : Except AppException RiskThresholds :=
  match db.get_setting "risk_thresholds" with
  | some (.obj thresholds) => do
    let read (key : String) (default : ℚ) : Except AppException ℚ :=
      ((Dict.get thresholds key).getD (.num default)).to_float
    return {
      incident_creation_threshold := ← read "incident_creation_threshold" 50
      auto_kill_threshold := ← read "auto_kill_threshold" 85
      auto_isolate := ← read "auto_isolate" 85
      alert_with_buttons := ← read "alert_with_buttons" 70
      alert := ← read "alert" 50
      log := ← read "log" 20 }
  | _ => .ok default_risk_thresholds

/-! ## What the inserts do -/

theorem add_command_ok {db db' : Database} {cmd : Command} (h : db.add_command cmd = .ok db') :
    (db.agents.get cmd.agent_id).isSome ∧
      ∃ commands, db.commands.insert cmd = some commands ∧ db' = { db with commands } := by
  unfold add_command at h
  split at h
  · cases h
  · rename_i hagent
    split at h
    · rename_i commands hinsert
      exact ⟨by simpa [Option.isSome_iff_ne_none] using hagent, commands, hinsert, (Except.ok.inj h).symm⟩
    · cases h

theorem add_response_action_ok {db db' : Database} {action : ResponseAction}
    (h : db.add_response_action action = .ok db') :
    ∃ response_actions, db.response_actions.insert action = some response_actions ∧
      db' = { db with response_actions } := by
  unfold add_response_action at h
  split at h
  · cases h
  · split at h
    · cases h
    · split at h
      · rename_i response_actions hinsert
        exact ⟨response_actions, hinsert, (Except.ok.inj h).symm⟩
      · cases h

/-- Logging an event changes the audit log only. -/
theorem record_event_ok {db db' : Database} {action_id event actor : String} {reason : Option Json}
    {metadata : Dict} (h : db.record_event action_id event actor reason metadata = .ok db') :
    ∃ action_audit_logs, db' = { db with action_audit_logs } := by
  unfold record_event at h
  rw [bind_eq_ok_iff] at h
  obtain ⟨text, _, h⟩ := h
  exact ⟨_, (Except.ok.inj h).symm⟩

/-- A setting that is written changes the settings only. -/
theorem set_key_ok {db db' : Database} {key : String} {value : Json} (h : db.set_key key value = .ok db') :
    ∃ system_settings, db' = { db with system_settings } := by
  unfold set_key at h
  split at h
  · cases h
  · split at h
    · obtain ⟨_, _, rfl⟩ := map_eq_ok_iff.mp h
      exact ⟨_, rfl⟩
    · exact ⟨_, (Except.ok.inj h).symm⟩

theorem mem_get_expired_actions {db : Database} {now : Time} {action : ResponseAction} :
    action ∈ db.get_expired_actions now ↔
      action ∈ db.response_actions.rows ∧ action.status = .applied ∧
        ∃ t ∈ action.auto_rollback_at, t ≤ now := by
  simp [get_expired_actions]

theorem mem_get_agents_in_group {db : Database} {group_id : String} {agent : Agent} :
    agent ∈ db.get_agents_in_group group_id ↔
      agent ∈ db.agents.rows ∧ ⟨group_id, agent.id⟩ ∈ db.agent_group_members := by
  simp [get_agents_in_group]

theorem mem_get_groups_for_agent {db : Database} {agent_id : String} {group : AgentGroup} :
    group ∈ db.get_groups_for_agent agent_id ↔
      group ∈ db.agent_groups.rows ∧ ⟨group.id, agent_id⟩ ∈ db.agent_group_members := by
  simp [get_groups_for_agent]

/-- A manager with one registered agent and nothing else. -/
def one_agent : Database where
  agents := ⟨[{
    id := "web-1", hostname := "web-1", ip_address := "10.0.0.5", mac_address := "02:00:00:00:00:05"
    last_seen := 0 }], by decide⟩

end Database

end larp
