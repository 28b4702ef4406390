import ActiveResponse.Response.Snapshot

namespace larp

/-- Actions that can be toggled back and forth, and so need a cooldown. -/
def COOLDOWN_ACTIONS : List String := ["isolate", "unisolate", "quarantine"]

/-- One-shot actions: neither a cooldown nor an automatic rollback. -/
def NO_ROLLBACK_ACTIONS : List String := ["kill_process", "kill_process_tree", "block_ip"]

/-- The arguments of `ResponseActionService.create_and_apply_action`. -/
structure ActionRequest where
  agent_id : String
  action_type : String
  action_params : Dict := []
  incident_id : Option String := none
  actor : String := "analyst"
  auto_rollback_seconds : Option ℤ := none

/-- The agent of a request, which must be registered. -/
def Database.require_agent (db : Database) (agent_id : String) : Except AppException Agent :=
  match db.agents.get agent_id with
  | some agent => .ok agent
  | none => .error (.NotFoundError ("Agent with ID '" ++ agent_id ++ "' was not found."))

theorem Database.require_agent_eq_ok_iff {db : Database} {agent_id : String} {agent : Agent} :
    db.require_agent agent_id = .ok agent ↔ db.agents.get agent_id = some agent := by
  unfold require_agent
  split <;> simp_all

/-- A stateful action is refused while an earlier one of its type is cooling down. -/
def Database.check_cooldown (db : Database) (now : Time) (agent_id action_type : String) :
    Except AppException Unit :=
  if action_type ∈ COOLDOWN_ACTIONS then
    match (db.get_active_cooldown agent_id action_type now).bind ResponseAction.cooldown_until with
    | some cooldown_until =>
      if now < cooldown_until then
        .error (.FlappingCooldownError
          ("Agent '" ++ agent_id ++ "' is in response cooldown for '" ++ action_type ++ "' until " ++
            isoformat cooldown_until ++ " (" ++ toString ((cooldown_until - now) / 1000000) ++
            "s remaining). Action rejected to prevent flapping."))
      else .ok ()
    | none => .ok ()
  else .ok ()

def ActionRequest.auto_rollback_at (self : ActionRequest) (settings : Database.AutoRollbackSettings)
    (now : Time) : Option Time :=
  if self.action_type ∈ NO_ROLLBACK_ACTIONS then none
  else
    match self.auto_rollback_seconds with
    | some secs => if 0 < secs then some (now + seconds secs) else none
    | none =>
      if settings.enabled ∧ 0 < settings.timeout_seconds then
        some (now + seconds settings.timeout_seconds)
      else none

def ActionRequest.cooldown_until (self : ActionRequest) (settings : Database.AutoRollbackSettings)
    (now : Time) : Option Time :=
  if self.action_type ∈ NO_ROLLBACK_ACTIONS then none
  else if 0 < settings.cooldown_seconds then some (now + seconds settings.cooldown_seconds)
  else none

/-- The times above are computed before anything is written, and a time that is no `datetime` raises. -/
def ActionRequest.check_times (self : ActionRequest) (settings : Database.AutoRollbackSettings) (now : Time) :
    Except AppException Unit :=
  if self.action_type ∈ NO_ROLLBACK_ACTIONS then .ok ()
  else do
    match self.auto_rollback_seconds with
    | some secs => if 0 < secs then let _auto_rollback_at ← add_seconds now secs
    | none =>
      if settings.enabled ∧ 0 < settings.timeout_seconds then
        let _auto_rollback_at ← add_seconds now settings.timeout_seconds
    if 0 < settings.cooldown_seconds then let _cooldown_until ← add_seconds now settings.cooldown_seconds

/-- The row inserted for a request: pending until the agent acknowledges its command. -/
def ActionRequest.response_action (self : ActionRequest) (db : Database)
    (settings : Database.AutoRollbackSettings) (now : Time) (action_id cmd_id : String) :
    ResponseAction where
  id := action_id
  incident_id := self.incident_id
  agent_id := self.agent_id
  action_type := self.action_type
  action_params := self.action_params.set "command_id" (.str cmd_id)
  status := .pending
  snapshot := some (db.capture_snapshot now self.agent_id self.action_type self.action_params)
  auto_rollback_at := self.auto_rollback_at settings now
  cooldown_until := self.cooldown_until settings now
  created_at := now
  updated_at := now

/-- The id of the command that was created together with the action. -/
def ResponseAction.command_id (self : ResponseAction) : Option String :=
  match self.action_params.get "command_id" with
  | some (.str id) => some id
  | _ => none

/-- The command queued for a request carries the id of the action it belongs to. -/
def ActionRequest.command (self : ActionRequest) (action_id cmd_id : String) : Command where
  id := cmd_id
  agent_id := self.agent_id
  action := if self.action_type = "auto_isolate" then "isolate" else self.action_type
  payload := (self.action_params.set "command_id" (.str cmd_id)).set "action_id" (.str action_id)
  status := .PENDING

/-- `ResponseActionService.create_and_apply_action`: snapshot, pending action and queued
command are committed together. The agent's record is not touched. -/
def Database.create_and_apply_action (db : Database) (now : Time) (action_id cmd_id : String)
    (req : ActionRequest) : Except AppException (ResponseAction × Database) := do
  let _agent ← db.require_agent req.agent_id
  db.check_cooldown now req.agent_id req.action_type
  let settings ← db.get_auto_rollback_settings
  req.check_times settings now
  let action := req.response_action db settings now action_id cmd_id
  let db ← db.add_response_action action
  let db ← db.record_event action_id "created" req.actor
    (some ((action.action_params.get "reason").getD (.str ("Initiated " ++ req.action_type ++ " response"))))
    [("action_type", .str req.action_type), ("command_id", .str cmd_id),
      ("auto_rollback_at", (action.auto_rollback_at.map fun t => .str (isoformat t)).getD .null)]
  let db ← db.add_command (req.command action_id cmd_id)
  return (action, db)

/-- A request that succeeds inserts one pending action and one pending command under
fresh ids and appends to the audit log; nothing else changes. -/
theorem Database.create_and_apply_action_ok {db db' : Database} {now : Time} {action_id cmd_id : String}
    {req : ActionRequest} {action : ResponseAction}
    (h : db.create_and_apply_action now action_id cmd_id req = .ok (action, db')) :
    ∃ agent settings response_actions commands action_audit_logs,
      db.agents.get req.agent_id = some agent ∧
        db.get_auto_rollback_settings = .ok settings ∧
        action = req.response_action db settings now action_id cmd_id ∧
        db.response_actions.insert action = some response_actions ∧
        db.commands.insert (req.command action_id cmd_id) = some commands ∧
        db' = { db with response_actions, commands, action_audit_logs } := by
  unfold create_and_apply_action at h
  rw [bind_eq_ok_iff] at h
  obtain ⟨agent, hagent, h⟩ := h
  rw [require_agent_eq_ok_iff] at hagent
  rw [bind_eq_ok_iff] at h
  obtain ⟨_, _, h⟩ := h
  rw [bind_eq_ok_iff] at h
  obtain ⟨settings, hsettings, h⟩ := h
  rw [bind_eq_ok_iff] at h
  obtain ⟨_, _, h⟩ := h
  rw [bind_eq_ok_iff] at h
  obtain ⟨db₁, hadd, h⟩ := h
  rw [bind_eq_ok_iff] at h
  obtain ⟨db₂, hlog, h⟩ := h
  rw [bind_eq_ok_iff] at h
  obtain ⟨db₃, hcmd, h⟩ := h
  obtain ⟨response_actions, hinsert, rfl⟩ := add_response_action_ok hadd
  obtain ⟨action_audit_logs, rfl⟩ := record_event_ok hlog
  obtain ⟨_, commands, hcommands, rfl⟩ := add_command_ok hcmd
  obtain ⟨rfl, rfl⟩ := Prod.mk.inj (Except.ok.inj h)
  exact ⟨agent, settings, response_actions, commands, _, hagent, hsettings, rfl, hinsert, hcommands, rfl⟩

end larp
