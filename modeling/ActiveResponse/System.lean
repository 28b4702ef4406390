import ActiveResponse.Lib.Run
import ActiveResponse.Response.Action
import ActiveResponse.Response.Rollback
import ActiveResponse.Websocket.CommandAck

namespace larp

structure HeartbeatDTO where
  agent_id : String
  cpu : ℚ := 0
  ram : ℚ := 0
  disk : ℚ := 0
  ip_address : String := "127.0.0.1"
  mac_address : String := "00:00:00:00:00:00"
  hostname : Option String := none
  timestamp : Time

/-- The arguments of a command that is queued without a `ResponseAction`. -/
structure RawCommand where
  id : String
  agent_id : String
  payload : Dict := []
  max_retries : ℕ := 3

def RawCommand.command (self : RawCommand) (action : String) : Command where
  id := self.id
  agent_id := self.agent_id
  action := action
  payload := self.payload
  status := .PENDING
  max_retries := self.max_retries

/-- `dto.hostname or default`. -/
def HeartbeatDTO.hostname_or (self : HeartbeatDTO) (default : String) : String :=
  match self.hostname with
  | some hostname => if hostname = "" then default else hostname
  | none => default

/-- The metrics of a heartbeat, written to the record of an agent. -/
def HeartbeatDTO.refresh (self : HeartbeatDTO) (agent : Agent) : Agent :=
  ({ agent with hostname := self.hostname_or agent.hostname } : Agent).update_heartbeat self.cpu self.ram
    self.disk self.timestamp self.ip_address self.mac_address

/-- The record registered for an agent that was unknown before its heartbeat. -/
def HeartbeatDTO.agent (self : HeartbeatDTO) : Agent where
  id := self.agent_id
  hostname := self.hostname_or ("agent-" ++ String.ofList (self.agent_id.toList.take 8))
  ip_address := self.ip_address
  mac_address := self.mac_address
  status := .ACTIVE
  last_seen := self.timestamp

namespace Database

/-! ## The other transactions of the manager -/

/-- `AgentService.update_heartbeat`: an unknown agent is registered as active. -/
def update_heartbeat (db : Database) (dto : HeartbeatDTO) : Database :=
  match db.agents.get dto.agent_id with
  | some agent => { db with agents := db.agents.put (dto.refresh agent) }
  | none =>
    match db.agents.insert (dto.refresh dto.agent) with
    | some agents => { db with agents }
    | none => db

/-- `_handle_heartbeat`: the record of the agent is refreshed and its pending commands are pulled. -/
def handle_heartbeat (db : Database) (dto : HeartbeatDTO) : List Command × Database :=
  (db.update_heartbeat dto).pull_pending_commands dto.agent_id

/-- `AgentService.sweep_dead_agents`. -/
def sweep_dead_agents (db : Database) (cutoff : Time) : Database :=
  { db with
    agents := db.agents.update
      (fun agent => if is_dead_agent cutoff agent then { agent with status := .DEAD } else agent)
      (by intro agent; split <;> rfl) }

/-- Write the record of an agent and queue a command for it in one transaction. -/
def write_and_queue (db : Database) (write : Agent → Agent) (raw : RawCommand) (action : String) :
    Except AppException Database := do
  let db ← db.add_command (raw.command action)
  return { db with agents := db.agents.modify raw.agent_id write }

/-- The raw fallback of `process_risk`: the agent is marked isolated before it has confirmed. -/
def isolate_fallback (db : Database) (raw : RawCommand) : Except AppException Database :=
  db.write_and_queue Agent.isolate raw "isolate"

/-- `IncidentService.execute_action("unisolate")` for an incident without applied isolations. -/
def activate_fallback (db : Database) (raw : RawCommand) : Except AppException Database :=
  db.write_and_queue Agent.activate raw "unisolate"

/-- The quarantine endpoint. -/
def quarantine_agent (db : Database) (raw : RawCommand) : Except AppException Database := do
  let _agent ← db.require_agent raw.agent_id
  db.write_and_queue (fun agent => { agent with status := .QUARANTINE, is_isolated := true }) raw "quarantine"

/-- The release-quarantine endpoint. -/
def release_quarantine_agent (db : Database) (raw : RawCommand) : Except AppException Database := do
  let _agent ← db.require_agent raw.agent_id
  db.write_and_queue (fun agent => { agent with status := .ACTIVE, is_isolated := false }) raw
    "release_quarantine"

/-- The incident that `create_from_risk` updates instead of opening another one. -/
def active_incident (db : Database) (agent_id : String) : Option Incident :=
  db.incidents.latest
    (fun incident =>
      incident.agent_id = some agent_id ∧
        (incident.status = .OPEN ∨ incident.status = .INVESTIGATING ∨ incident.status = .CONTAINED))
    Incident.created_at

def risk_severity (risk_score : ℚ) : IncidentSeverity :=
  if 85 ≤ risk_score then .CRITICAL else if 70 ≤ risk_score then .HIGH else .MEDIUM

/-- `IncidentService.create_from_risk`. -/
def create_from_risk (db : Database) (now : Time) (inc_id agent_id : String) (risk_score : ℚ) :
    Except AppException (String × Database) :=
  match db.active_incident agent_id with
  | some existing =>
    .ok (existing.id, { db with
      incidents := db.incidents.put { existing with
        risk_score := max existing.risk_score risk_score
        severity := if risk_severity risk_score = .CRITICAL then .CRITICAL else existing.severity } })
  | none =>
    if (db.agents.get agent_id).isNone then .error (.IntegrityError "incidents_agent_id_fkey")
    else
      match db.incidents.insert {
          id := inc_id, severity := risk_severity risk_score, status := .OPEN
          agent_id := some agent_id, risk_score, created_at := now } with
      | some incidents => .ok (inc_id, { db with incidents })
      | none => .error (.IntegrityError "incidents_pkey")

def add_risk_record (db : Database) (record : RiskScoreRecord) : Except AppException Database :=
  if (db.agents.get record.agent_id).isNone then
    .error (.IntegrityError "risk_score_records_agent_id_fkey")
  else
    match db.risk_score_records.insert record with
    | some risk_score_records => .ok { db with risk_score_records }
    | none => .error (.IntegrityError "risk_score_records_pkey")

theorem add_risk_record_ok {db db' : Database} {record : RiskScoreRecord}
    (h : db.add_risk_record record = .ok db') :
    (db.agents.get record.agent_id).isSome ∧ ∃ risk_score_records, db' = { db with risk_score_records } := by
  unfold add_risk_record at h
  split at h
  · cases h
  · rename_i hagent
    split at h
    · exact ⟨by simpa [Option.isSome_iff_ne_none] using hagent, _, (Except.ok.inj h).symm⟩
    · cases h

end Database

/-- The transactions of the manager. Message handlers, background tasks and the composite
services are sequences of these. -/
inductive Op where
  | create_and_apply_action (now : Time) (action_id cmd_id : String) (req : ActionRequest)
  | command_ack (now : Time) (agent_id : String) (payload : Json)
  | rollback_action (now : Time) (cmd_id action_id reason actor : String)
  | queue_command (raw : RawCommand) (action : String)
  | isolate_fallback (raw : RawCommand)
  | activate_fallback (raw : RawCommand)
  | quarantine_agent (raw : RawCommand)
  | release_quarantine_agent (raw : RawCommand)
  | heartbeat (dto : HeartbeatDTO)
  | sweep_dead_agents (cutoff : Time)
  | create_from_risk (now : Time) (inc_id agent_id : String) (risk_score : ℚ)
  | add_risk_record (record : RiskScoreRecord)
  | set_key (key : String) (value : Json)

/-- A transaction together with the failure that the database makes it end in, if any. -/
structure Call where
  op : Op
  fault : Option AppException := none

namespace Database

/-- The id of the row that a transaction is about and the database once it is committed; a
transaction that raises is rolled back. -/
def committed (db : Database) (result : Except AppException (String × Database)) :
    Except AppException String × Database :=
  match result with
  | .ok (id, db') => (.ok id, db')
  | .error e => (.error e, db)

def perform (is_datetime : Json → Bool) (db : Database) : Op → Except AppException String × Database
  | .create_and_apply_action now action_id cmd_id req =>
    db.committed ((db.create_and_apply_action now action_id cmd_id req).map fun r => (r.1.id, r.2))
  | .command_ack now agent_id payload =>
    db.committed ((handle_command_ack is_datetime db now agent_id payload).map fun r => (agent_id, r.2))
  | .rollback_action now cmd_id action_id reason actor =>
    (((db.rollback_action now cmd_id action_id reason actor).1).map ResponseAction.id,
      (db.rollback_action now cmd_id action_id reason actor).2)
  | .queue_command raw action => db.committed ((db.add_command (raw.command action)).map (raw.id, ·))
  | .isolate_fallback raw => db.committed ((db.isolate_fallback raw).map (raw.id, ·))
  | .activate_fallback raw => db.committed ((db.activate_fallback raw).map (raw.id, ·))
  | .quarantine_agent raw => db.committed ((db.quarantine_agent raw).map (raw.id, ·))
  | .release_quarantine_agent raw => db.committed ((db.release_quarantine_agent raw).map (raw.id, ·))
  | .heartbeat dto => (.ok dto.agent_id, (db.handle_heartbeat dto).2)
  | .sweep_dead_agents cutoff => (.ok "", db.sweep_dead_agents cutoff)
  | .create_from_risk now inc_id agent_id risk_score =>
    db.committed (db.create_from_risk now inc_id agent_id risk_score)
  | .add_risk_record record => db.committed ((db.add_risk_record record).map (record.id, ·))
  | .set_key key value => db.committed ((db.set_key key value).map (key, ·))

/-- A call that the database refuses raises and changes nothing. -/
def answer (is_datetime : Json → Bool) (db : Database) (call : Call) : Except AppException String × Database :=
  match call.fault with
  | some e => (.error e, db)
  | none => db.perform is_datetime call.op

def step (is_datetime : Json → Bool) (db : Database) (call : Call) : Database :=
  (db.answer is_datetime call).2

end Database

/-! ## What a heartbeat does -/

theorem Database.handle_heartbeat_response_actions (db : Database) (dto : HeartbeatDTO) :
    (db.handle_heartbeat dto).2.response_actions = db.response_actions := by
  simp only [handle_heartbeat, pull_pending_commands, update_heartbeat]
  split
  · rfl
  · split <;> rfl

theorem Database.update_heartbeat_commands (db : Database) (dto : HeartbeatDTO) :
    (db.update_heartbeat dto).commands = db.commands := by
  unfold update_heartbeat
  split
  · rfl
  · split <;> rfl

/-- A heartbeat refreshes the record of its agent, or registers it. -/
theorem Database.get_handle_heartbeat (db : Database) (dto : HeartbeatDTO) (id : String) :
    (db.handle_heartbeat dto).2.agents.get id =
      if dto.agent_id = id then some (dto.refresh ((db.agents.get id).getD dto.agent))
      else db.agents.get id := by
  simp only [handle_heartbeat, pull_pending_commands, update_heartbeat]
  cases hget : db.agents.get dto.agent_id with
  | some agent =>
    have hkey : Keyed.key (dto.refresh agent) = dto.agent_id := by
      have hagent := Table.key_of_get hget
      exact hagent
    simp only [Table.get_put, hkey]
    split
    · rename_i hid
      subst hid
      simp [hget]
    · rfl
  | none =>
    have hkey : Keyed.key (dto.refresh dto.agent) = dto.agent_id := rfl
    obtain ⟨agents, hinsert⟩ := Table.exists_insert (show db.agents.get (Keyed.key (dto.refresh dto.agent)) = none by
      rw [hkey]; exact hget)
    simp only [hinsert, Table.get_of_insert hinsert, hkey]
    split
    · rename_i hid
      subst hid
      simp [hget]
    · rfl

/-- The transactions that write the record of an agent together with queueing a command for
it: the arguments of the command, its name and the write. -/
def Op.agent_write : Op → Option (RawCommand × String × (Agent → Agent))
  | .isolate_fallback raw => some (raw, "isolate", Agent.isolate)
  | .activate_fallback raw => some (raw, "unisolate", Agent.activate)
  | .quarantine_agent raw =>
    some (raw, "quarantine", fun agent => { agent with status := .QUARANTINE, is_isolated := true })
  | .release_quarantine_agent raw =>
    some (raw, "release_quarantine", fun agent => { agent with status := .ACTIVE, is_isolated := false })
  | _ => none

/-- The transactions that write incidents, risk records and settings only. -/
def Op.keeps_records : Op → Bool
  | .create_from_risk .. | .add_risk_record .. | .set_key .. => true
  | _ => false

/-- Everything a transaction can do to the database, with the answer its caller gets. -/
inductive Effect (is_datetime : Json → Bool) (db : Database) : Op → Except AppException String × Database → Prop where
  | refused {op : Op} (e : AppException) : Effect is_datetime db op (.error e, db)
  | created {now : Time} {action_id cmd_id : String} {req : ActionRequest} {agent : Agent}
      {settings : Database.AutoRollbackSettings} {response_actions : Table ResponseAction}
      {commands : Table Command} {action_audit_logs : List ActionAuditLog}
      (hagent : db.agents.get req.agent_id = some agent)
      (haction : db.response_actions.insert (req.response_action db settings now action_id cmd_id) =
        some response_actions)
      (hcommand : db.commands.insert (req.command action_id cmd_id) = some commands) :
      Effect is_datetime db (.create_and_apply_action now action_id cmd_id req)
        (.ok action_id, { db with response_actions, commands, action_audit_logs })
  | unknown_ack {now : Time} {agent_id : String} {payload : Json}
      (hack : db.resolve_ack is_datetime agent_id payload = none) :
      Effect is_datetime db (.command_ack now agent_id payload) (.ok agent_id, db)
  | acked {now : Time} {agent_id : String} {payload : Json} {dto : CommandAckDTO} {cmd : Command}
      {action : Option ResponseAction} {action_audit_logs : List ActionAuditLog}
      (hack : db.resolve_ack is_datetime agent_id payload = some (dto, cmd, action)) :
      Effect is_datetime db (.command_ack now agent_id payload)
        (.ok agent_id, { db with
          action_audit_logs
          commands := db.commands.put (cmd.acked now dto.status dto.error_message)
          response_actions := db.acked_actions now dto.status action
          agents :=
            if dto.status = .SUCCESS then db.agents.modify agent_id (.confirm cmd.action)
            else db.agents })
  | undo_failed {now : Time} {cmd_id reason actor : String} {action : ResponseAction} {e : AppException}
      {commands : Table Command} {action_audit_logs : List ActionAuditLog}
      (hget : db.response_actions.get action.id = some action) (happlied : action.status = .applied)
      (hcooldown : db.rollback_cooldown now action.action_type = .error e)
      (hcommands : db.Compensated action cmd_id commands) :
      Effect is_datetime db (.rollback_action now cmd_id action.id reason actor)
        (.error e, { db with
          commands, action_audit_logs
          agents := db.agents.modify action.agent_id action.compensation.restore
          response_actions := db.response_actions.modify action.id (.set_status .applied) })
  | undone {now : Time} {cmd_id reason actor : String} {action : ResponseAction}
      {cooldown_until : Option Time} {commands : Table Command} {action_audit_logs : List ActionAuditLog}
      (hget : db.response_actions.get action.id = some action) (happlied : action.status = .applied)
      (hcooldown : db.rollback_cooldown now action.action_type = .ok cooldown_until)
      (hcommands : db.Compensated action cmd_id commands) :
      Effect is_datetime db (.rollback_action now cmd_id action.id reason actor)
        (.ok action.id, { db with
          commands, action_audit_logs
          agents := db.agents.modify action.agent_id action.compensation.restore
          response_actions := db.response_actions.modify action.id
            (.revert now actor reason cooldown_until) })
  | queued {raw : RawCommand} {action : String} {commands : Table Command}
      (hagent : (db.agents.get raw.agent_id).isSome)
      (hcommand : db.commands.insert (raw.command action) = some commands) :
      Effect is_datetime db (.queue_command raw action) (.ok raw.id, { db with commands })
  | written {op : Op} {raw : RawCommand} {action : String} {write : Agent → Agent} {commands : Table Command}
      (hop : op.agent_write = some (raw, action, write)) (hagent : (db.agents.get raw.agent_id).isSome)
      (hcommand : db.commands.insert (raw.command action) = some commands) :
      Effect is_datetime db op
        (.ok raw.id, { db with commands, agents := db.agents.modify raw.agent_id write })
  | heartbeat {dto : HeartbeatDTO} :
      Effect is_datetime db (.heartbeat dto) (.ok dto.agent_id, (db.handle_heartbeat dto).2)
  | swept {cutoff : Time} :
      Effect is_datetime db (.sweep_dead_agents cutoff) (.ok "", db.sweep_dead_agents cutoff)
  | recorded {op : Op} {id : String} {incidents : Table Incident}
      {risk_score_records : Table RiskScoreRecord} {system_settings : Table SystemSetting}
      (hop : op.keeps_records) :
      Effect is_datetime db op (.ok id, { db with incidents, risk_score_records, system_settings })

namespace Database

variable {is_datetime : Json → Bool} {db : Database}

/-- A transaction without rollback of its own either raises, or commits its result. -/
private theorem effect_committed {op : Op} {result : Except AppException (String × Database)}
    (h : ∀ id db', result = .ok (id, db') → Effect is_datetime db op (.ok id, db')) :
    Effect is_datetime db op (db.committed result) := by
  cases result with
  | error e => exact .refused e
  | ok r => exact h r.1 r.2 rfl

private theorem effect_write_and_queue {op : Op} {raw : RawCommand} {action : String} {write : Agent → Agent}
    (hop : op.agent_write = some (raw, action, write)) {db' : Database}
    (h : db.write_and_queue write raw action = .ok db') :
    Effect is_datetime db op (.ok raw.id, db') := by
  unfold write_and_queue at h
  rw [bind_eq_ok_iff] at h
  obtain ⟨db₁, hadd, h⟩ := h
  obtain ⟨hagent, commands, hinsert, rfl⟩ := add_command_ok hadd
  cases h
  exact .written hop hagent hinsert

private theorem effect_rollback {now : Time} {cmd_id action_id reason actor : String} :
    Effect is_datetime db (.rollback_action now cmd_id action_id reason actor)
      (((db.rollback_action now cmd_id action_id reason actor).1).map ResponseAction.id,
        (db.rollback_action now cmd_id action_id reason actor).2) := by
  unfold rollback_action
  split
  · exact .refused _
  · rename_i action hget
    obtain rfl : action.id = action_id := Table.key_of_get hget
    generalize hresult : db.rollback_loaded action now cmd_id reason actor = result
    obtain ⟨r, db'⟩ := result
    rcases rollback_loaded_cases hresult with ⟨e, rfl, rfl⟩ |
      ⟨happlied, commands, logs, hrows, ⟨e, rfl, hcooldown⟩, rfl⟩ |
      ⟨happlied, commands, logs, cooldown_until, hrows, ⟨row, rfl, hrow⟩, hcooldown, rfl⟩
    · exact .refused e
    · exact .undo_failed hget happlied hcooldown hrows
    · simp only [Except.map, hrow]
      exact .undone hget happlied hcooldown hrows

/-- Every answer of the manager is one of the effects above. -/
theorem perform_effect (op : Op) : Effect is_datetime db op (db.perform is_datetime op) := by
  cases op with
  | create_and_apply_action now action_id cmd_id req =>
    refine effect_committed fun id db' h => ?_
    obtain ⟨⟨action, db₁⟩, hok, heq⟩ := map_eq_ok_iff.mp h
    obtain ⟨agent, settings, response_actions, commands, logs, hagent, _, rfl, haction, hcommand, rfl⟩ :=
      create_and_apply_action_ok hok
    obtain ⟨rfl, rfl⟩ := Prod.mk.inj heq
    exact .created hagent haction hcommand
  | command_ack now agent_id payload =>
    refine effect_committed fun id db' h => ?_
    obtain ⟨⟨reply, db₁⟩, hok, heq⟩ := map_eq_ok_iff.mp h
    obtain ⟨rfl, rfl⟩ := Prod.mk.inj heq
    rcases handle_command_ack_ok hok with ⟨hack, rfl⟩ | ⟨dto, cmd, action, logs, hack, rfl⟩
    · exact .unknown_ack hack
    · exact .acked hack
  | rollback_action now cmd_id action_id reason actor => exact effect_rollback
  | queue_command raw action =>
    refine effect_committed fun id db' h => ?_
    obtain ⟨db₁, hok, heq⟩ := map_eq_ok_iff.mp h
    obtain ⟨rfl, rfl⟩ := Prod.mk.inj heq
    obtain ⟨hagent, commands, hinsert, rfl⟩ := add_command_ok hok
    exact .queued hagent hinsert
  | isolate_fallback raw =>
    refine effect_committed fun id db' h => ?_
    obtain ⟨db₁, hok, heq⟩ := map_eq_ok_iff.mp h
    obtain ⟨rfl, rfl⟩ := Prod.mk.inj heq
    exact effect_write_and_queue rfl hok
  | activate_fallback raw =>
    refine effect_committed fun id db' h => ?_
    obtain ⟨db₁, hok, heq⟩ := map_eq_ok_iff.mp h
    obtain ⟨rfl, rfl⟩ := Prod.mk.inj heq
    exact effect_write_and_queue rfl hok
  | quarantine_agent raw =>
    refine effect_committed fun id db' h => ?_
    obtain ⟨db₁, hok, heq⟩ := map_eq_ok_iff.mp h
    obtain ⟨rfl, rfl⟩ := Prod.mk.inj heq
    unfold quarantine_agent at hok
    rw [bind_eq_ok_iff] at hok
    obtain ⟨_, _, hok⟩ := hok
    exact effect_write_and_queue rfl hok
  | release_quarantine_agent raw =>
    refine effect_committed fun id db' h => ?_
    obtain ⟨db₁, hok, heq⟩ := map_eq_ok_iff.mp h
    obtain ⟨rfl, rfl⟩ := Prod.mk.inj heq
    unfold release_quarantine_agent at hok
    rw [bind_eq_ok_iff] at hok
    obtain ⟨_, _, hok⟩ := hok
    exact effect_write_and_queue rfl hok
  | heartbeat dto => exact .heartbeat
  | sweep_dead_agents cutoff => exact .swept
  | create_from_risk now inc_id agent_id risk_score =>
    refine effect_committed fun id db' h => ?_
    unfold create_from_risk at h
    split at h
    · obtain ⟨rfl, rfl⟩ := Prod.mk.inj (Except.ok.inj h)
      exact .recorded rfl
    · split at h
      · cases h
      · split at h
        · obtain ⟨rfl, rfl⟩ := Prod.mk.inj (Except.ok.inj h)
          exact .recorded rfl
        · cases h
  | add_risk_record record =>
    refine effect_committed fun id db' h => ?_
    obtain ⟨db₁, hok, heq⟩ := map_eq_ok_iff.mp h
    obtain ⟨rfl, rfl⟩ := Prod.mk.inj heq
    unfold add_risk_record at hok
    split at hok
    · cases hok
    · split at hok
      · cases hok
        exact .recorded rfl
      · cases hok
  | set_key key value =>
    refine effect_committed fun id db' h => ?_
    obtain ⟨db₁, hok, heq⟩ := map_eq_ok_iff.mp h
    obtain ⟨rfl, rfl⟩ := Prod.mk.inj heq
    obtain ⟨system_settings, rfl⟩ := set_key_ok hok
    exact .recorded rfl

theorem answer_effect (is_datetime : Json → Bool) (db : Database) (call : Call) :
    Effect is_datetime db call.op (db.answer is_datetime call) := by
  unfold answer
  split
  · rename_i e _
    exact .refused e
  · exact perform_effect call.op

end Database

/-- The foreign key of the commands to their agents. -/
def Database.CommandsHaveAgents (db : Database) : Prop :=
  ∀ cmd ∈ db.commands.rows, (db.agents.get cmd.agent_id).isSome

theorem Op.key_agent_write {op : Op} {raw : RawCommand} {action : String} {write : Agent → Agent}
    (h : op.agent_write = some (raw, action, write)) (agent : Agent) :
    Keyed.key (write agent) = Keyed.key agent := by
  cases op <;> cases h <;> rfl

/-- No transaction removes an agent. -/
theorem Effect.agents_persist {is_datetime : Json → Bool} {db db' : Database} {op : Op}
    {result : Except AppException String} (h : Effect is_datetime db op (result, db')) {id : String}
    (hagent : (db.agents.get id).isSome) : (db'.agents.get id).isSome := by
  cases h with
  | refused e | created | unknown_ack | queued | recorded => exact hagent
  | @acked now agent_id payload dto cmd action logs hack =>
    dsimp only
    split
    · exact Table.isSome_get_modify (Agent.key_confirm cmd.action) hagent
    · exact hagent
  | undo_failed | undone => exact Table.isSome_get_modify (Compensation.key_restore _) hagent
  | written hop => exact Table.isSome_get_modify (Op.key_agent_write hop) hagent
  | heartbeat =>
    rw [Database.get_handle_heartbeat]
    split
    · rfl
    · exact hagent
  | swept =>
    simp only [Database.sweep_dead_agents, Table.get_update]
    simpa using hagent

/-- Every transaction keeps the foreign key. -/
theorem Effect.commandsHaveAgents {is_datetime : Json → Bool} {db db' : Database} {op : Op}
    {result : Except AppException String} (h : Effect is_datetime db op (result, db'))
    (hkeys : db.CommandsHaveAgents) : db'.CommandsHaveAgents := by
  have hpersist := fun id (hagent : (db.agents.get id).isSome) => h.agents_persist hagent
  have hold := fun cmd hcmd => hpersist _ (hkeys cmd hcmd)
  intro cmd hcmd
  cases h with
  | refused e | unknown_ack | swept | recorded => exact hold cmd hcmd
  | created hagent haction hcommand =>
    rcases (Table.mem_of_insert hcommand).mp hcmd with hcmd | rfl
    · exact hold cmd hcmd
    · exact hpersist _ (by simp [ActionRequest.command, hagent])
  | @acked now agent_id payload dto target action logs hack =>
    rcases Table.mem_put.mp hcmd with ⟨rfl, _⟩ | ⟨hcmd, _⟩
    · rw [Command.acked_agent_id]
      exact hold target (Table.get_mem (Database.resolve_ack_some hack).2.1)
    · exact hold cmd hcmd
  | undo_failed hget happlied hcooldown hcommands | undone hget happlied hcooldown hcommands =>
    rw [hcommands.rows, List.mem_append, Option.mem_toList] at hcmd
    rcases hcmd with hcmd | hcmd
    · exact hold cmd hcmd
    · obtain ⟨_, _, rfl⟩ := Option.map_eq_some_iff.mp hcmd
      exact hpersist _ (hcommands.agent (by rw [hcmd]; rfl))
  | queued hagent hcommand | written hop hagent hcommand =>
    rcases (Table.mem_of_insert hcommand).mp hcmd with hcmd | rfl
    · exact hold cmd hcmd
    · exact hpersist _ hagent
  | heartbeat =>
    simp only [Database.handle_heartbeat, Database.pull_pending_commands, Table.rows_update,
      Database.update_heartbeat_commands, List.mem_map] at hcmd
    obtain ⟨target, htarget, rfl⟩ := hcmd
    have hagent := hold target htarget
    split <;> exact hagent

/-- The foreign key of the actions to their agents. -/
def Database.ActionsHaveAgents (db : Database) : Prop :=
  ∀ action ∈ db.response_actions.rows, (db.agents.get action.agent_id).isSome

private theorem agent_id_of_modify {actions : Table ResponseAction} {target : String}
    {f : ResponseAction → ResponseAction} (hkey : ∀ action, Keyed.key (f action) = Keyed.key action)
    (hagent : ∀ action, (f action).agent_id = action.agent_id) {action : ResponseAction}
    (h : action ∈ (actions.modify target f).rows) :
    ∃ old ∈ actions.rows, action.agent_id = old.agent_id := by
  obtain ⟨old, hold, rfl⟩ := (Table.mem_modify hkey).mp h
  refine ⟨old, hold, ?_⟩
  split
  · exact hagent old
  · rfl

theorem ResponseAction.acked_agent_id (now : Time) (status : CommandStatus) (self : ResponseAction) :
    (self.acked now status).agent_id = self.agent_id := by
  unfold acked
  split <;> rfl

theorem Effect.actionsHaveAgents {is_datetime : Json → Bool} {db db' : Database} {op : Op}
    {result : Except AppException String} (h : Effect is_datetime db op (result, db'))
    (hkeys : db.ActionsHaveAgents) : db'.ActionsHaveAgents := by
  have hpersist := fun id (hagent : (db.agents.get id).isSome) => h.agents_persist hagent
  have hold := fun action haction => hpersist _ (hkeys action haction)
  intro action haction
  cases h with
  | refused e | unknown_ack | queued | written | swept | recorded => exact hold action haction
  | created hagent hinsert hcommand =>
    rcases (Table.mem_of_insert hinsert).mp haction with haction | rfl
    · exact hold action haction
    · exact hpersist _ (by simp [ActionRequest.response_action, hagent])
  | @acked now agent_id payload dto cmd target logs hack =>
    cases target with
    | none => exact hold action haction
    | some target =>
      obtain ⟨old, hmem, heq⟩ :=
        agent_id_of_modify (ResponseAction.key_acked now dto.status)
          (ResponseAction.acked_agent_id now dto.status) haction
      rw [heq]
      exact hold old hmem
  | undo_failed =>
    obtain ⟨old, hmem, heq⟩ := agent_id_of_modify (ResponseAction.key_set_status _) (fun _ => rfl) haction
    rw [heq]
    exact hold old hmem
  | undone =>
    obtain ⟨old, hmem, heq⟩ := agent_id_of_modify (ResponseAction.key_revert _ _ _ _) (fun _ => rfl) haction
    rw [heq]
    exact hold old hmem
  | heartbeat =>
    rw [Database.handle_heartbeat_response_actions] at haction
    exact hold action haction

/-- A `COMMAND_ACK` payload without an error message. -/
def ack_payload (command_id status : String) : Json :=
  .obj [("command_id", .str command_id), ("status", .str status)]

/-- An isolation that is queued, confirmed and undone. -/
def isolate_and_undo : List Call :=
  [{ op := .create_and_apply_action 0 "act_1" "cmd_1" { agent_id := "web-1", action_type := "isolate" } },
    { op := .command_ack 1 "web-1" (ack_payload "cmd_1" "success") },
    { op := .rollback_action 2 "cmd_2" "act_1" "false alarm" "analyst" }]

end larp
