import ActiveResponse.Core.Dispatcher
import ActiveResponse.Response.Snapshot

namespace larp

/-- What a successful command of this kind does to the record of the agent that confirms it. -/
def Agent.confirm (action : String) (self : Agent) : Agent :=
  if action ∈ ["isolate", "auto_isolate"] then self.isolate
  else if action = "unisolate" then self.unisolate
  else if action = "quarantine" then { self with status := .QUARANTINE }
  else self

@[simp] theorem Agent.key_confirm (action : String) (self : Agent) :
    Keyed.key (self.confirm action) = Keyed.key self := by
  unfold confirm
  split
  · rfl
  · split
    · rfl
    · split <;> rfl

/-- The columns written when an acknowledgement confirms an action. -/
def ResponseAction.apply (now : Time) (self : ResponseAction) : ResponseAction :=
  { self with status := .applied, applied_at := some now }

def ResponseAction.fail (self : ResponseAction) : ResponseAction :=
  { self with status := .failed }

/-- The columns of an action that an acknowledgement with this status writes. -/
def ResponseAction.acked (now : Time) (status : CommandStatus) (self : ResponseAction) : ResponseAction :=
  if status = .SUCCESS then self.apply now else self.fail

@[simp] theorem ResponseAction.key_acked (now : Time) (status : CommandStatus) (self : ResponseAction) :
    Keyed.key (self.acked now status) = Keyed.key self := by
  unfold acked
  split <;> rfl

theorem ResponseAction.acked_success (now : Time) : ResponseAction.acked now .SUCCESS = .apply now := by
  funext self
  simp [acked]

theorem ResponseAction.acked_of_ne_success (now : Time) {status : CommandStatus} (h : status ≠ .SUCCESS) :
    ResponseAction.acked now status = .fail := by
  funext self
  simp [acked, h]

namespace Database

/-- The fallback of `_handle_command_ack`: the newest pending action of the connection's agent
whose type is the name of the acknowledged command. -/
def latest_pending (db : Database) (agent_id action_type : String) : Option ResponseAction :=
  db.response_actions.latest
    (fun action =>
      action.agent_id = agent_id ∧ action.action_type = action_type ∧ action.status = .pending)
    ResponseAction.created_at

/-- The action named in the payload of the command, if that names a row. -/
def action_of_payload (db : Database) (cmd : Command) : Except AppException (Option ResponseAction) :=
  match cmd.payload.get "action_id" with
  | none => .ok none
  | some (.str action_id) => .ok (if action_id = "" then none else db.response_actions.get action_id)
  | some value =>
    if value.truthy then .error (.DataError "invalid input for query argument (expected str)")
    else .ok none

/-- Find the `ResponseAction` that an acknowledged command belongs to. -/
def associated_action (db : Database) (agent_id : String) (cmd : Command) :
    Except AppException (Option ResponseAction) := do
  let named ← db.action_of_payload cmd
  return named.or (db.latest_pending agent_id cmd.action)

/-- The part of `_handle_command_ack` after the lookups. -/
def apply_ack (db : Database) (now : Time) (agent_id : String) (status : CommandStatus) (cmd : Command)
    (action : Option ResponseAction) : Except AppException Database :=
  if status = .SUCCESS then do
    let db ← (match action with
      | some action =>
        ({ db with response_actions := db.response_actions.modify action.id (.apply now) } : Database).record_event
          action.id "applied" "agent" (action.action_params.get "reason")
          [("command_id", .str cmd.id), ("action_type", .str action.action_type)]
      | none => .ok db)
    return { db with agents := db.agents.modify agent_id (.confirm cmd.action) }
  else
    .ok (match action with
      | some action => { db with response_actions := db.response_actions.modify action.id .fail }
      | none => db)

/-- `_handle_command_ack`. `agent_id` is the agent of the connection. -/
def handle_command_ack (is_datetime : Json → Bool) (db : Database) (now : Time) (agent_id : String)
    (payload : Json) : Except AppException (Dict × Database) := do
  let dto ← CommandAckDTO.of_payload is_datetime payload
  let (found, db) ← db.verify_execution now dto
  match found with
  | none =>
    return ([("status", .str "ack"), ("message", .str "Command ack recorded (command not found)")], db)
  | some cmd =>
    let action ← db.associated_action agent_id cmd
    let db ← db.apply_ack now agent_id dto.status cmd action
    return ([("status", .str "ack"), ("message", .str "Command ack recorded")], db)

/-- The fallback finds a pending action of the agent and type, and none of these is newer. -/
theorem latest_pending_some {db : Database} {agent_id action_type : String} {action : ResponseAction}
    (h : db.latest_pending agent_id action_type = some action) :
    action ∈ db.response_actions.rows ∧
      (action.agent_id = agent_id ∧ action.action_type = action_type ∧ action.status = .pending) ∧
      ∀ other ∈ db.response_actions.rows, other.agent_id = agent_id → other.action_type = action_type →
        other.status = .pending → other.created_at ≤ action.created_at := by
  have hmem := Table.mem_of_latest h
  refine ⟨hmem.1, by simpa using hmem.2, fun other hother hagent htype hstatus => ?_⟩
  exact Table.le_of_latest h hother (by simp [hagent, htype, hstatus])

/-- A truthy `action_id` in the payload is a name, and the row it names is found by key. -/
theorem action_of_payload_some {db : Database} {cmd : Command} {action : ResponseAction}
    (h : db.action_of_payload cmd = .ok (some action)) :
    cmd.payload.get "action_id" = some (.str action.id) ∧ db.response_actions.get action.id = some action := by
  unfold action_of_payload at h
  split at h
  · cases h
  · rename_i action_id hid
    split at h
    · cases h
    · have hget := Except.ok.inj h
      have hkey : action.id = action_id := Table.key_of_get hget
      subst hkey
      exact ⟨hid, hget⟩
  · split at h <;> cases h

/-- The associated action is the one named by the command or, when that names no row, the newest
pending one. -/
theorem associated_action_some {db : Database} {agent_id : String} {cmd : Command} {action : ResponseAction}
    (h : db.associated_action agent_id cmd = .ok (some action)) :
    (cmd.payload.get "action_id" = some (.str action.id) ∨
      (db.action_of_payload cmd = .ok none ∧ db.latest_pending agent_id cmd.action = some action)) ∧
      db.response_actions.get action.id = some action := by
  unfold associated_action at h
  rw [bind_eq_ok_iff] at h
  obtain ⟨named, hnamed, h⟩ := h
  have hor := Except.ok.inj h
  cases named with
  | some other =>
    obtain rfl : other = action := by simpa using hor
    obtain ⟨hpayload, hget⟩ := action_of_payload_some hnamed
    exact ⟨Or.inl hpayload, hget⟩
  | none =>
    have hlatest : db.latest_pending agent_id cmd.action = some action := by simpa using hor
    exact ⟨Or.inr ⟨hnamed, hlatest⟩, Table.get_of_mem (latest_pending_some hlatest).1⟩

/-- What an acknowledgement is about: the validated payload, the command it names and the action
found for it. `none` when the message is refused or names no command. -/
def resolve_ack (is_datetime : Json → Bool) (db : Database) (agent_id : String) (payload : Json) :
    Option (CommandAckDTO × Command × Option ResponseAction) :=
  match CommandAckDTO.of_payload is_datetime payload with
  | .error _ => none
  | .ok dto =>
    match db.commands.get dto.command_id with
    | none => none
    | some cmd =>
      match db.associated_action agent_id cmd with
      | .error _ => none
      | .ok action => some (dto, cmd, action)

/-- The table of actions once an acknowledgement is applied to the action found for it. -/
def acked_actions (db : Database) (now : Time) (status : CommandStatus) (action : Option ResponseAction) :
    Table ResponseAction :=
  match action with
  | some action => db.response_actions.modify action.id (.acked now status)
  | none => db.response_actions

theorem associated_action_acked (db : Database) (commands : Table Command) (now : Time) (agent_id : String)
    (cmd : Command) (status : CommandStatus) (error_message : Option String) :
    ({ db with commands } : Database).associated_action agent_id (cmd.acked now status error_message) =
      db.associated_action agent_id cmd := by
  simp only [associated_action, action_of_payload, latest_pending, Command.acked_payload, Command.acked_action]

/-- What the part of the handler after the lookups writes. -/
theorem apply_ack_ok {db db' : Database} {now : Time} {agent_id : String} {status : CommandStatus}
    {cmd : Command} {action : Option ResponseAction}
    (h : db.apply_ack now agent_id status cmd action = .ok db') :
    ∃ action_audit_logs, db' = { db with
      action_audit_logs
      response_actions := db.acked_actions now status action
      agents :=
        if status = .SUCCESS then db.agents.modify agent_id (.confirm cmd.action) else db.agents } := by
  unfold apply_ack at h
  split at h
  · rename_i hsuccess
    subst hsuccess
    rw [bind_eq_ok_iff] at h
    obtain ⟨db₁, haction, h⟩ := h
    have hdb := (Except.ok.inj h).symm
    cases action with
    | none =>
      cases haction
      exact ⟨db.action_audit_logs, by simpa [acked_actions] using hdb⟩
    | some action =>
      obtain ⟨logs, rfl⟩ := record_event_ok haction
      exact ⟨logs, by simpa [acked_actions, ResponseAction.acked_success] using hdb⟩
  · rename_i hfailure
    have hdb := (Except.ok.inj h).symm
    refine ⟨db.action_audit_logs, ?_⟩
    cases action with
    | none => simpa [acked_actions, hfailure] using hdb
    | some action => simpa [acked_actions, hfailure, ResponseAction.acked_of_ne_success now hfailure] using hdb

/-- An acknowledgement that is not refused either names no command and changes nothing, or
records the result on the command it names, on the action found for it and on the record of
the connection's agent. -/
theorem handle_command_ack_ok {is_datetime : Json → Bool} {db db' : Database} {now : Time}
    {agent_id : String} {payload : Json} {reply : Dict}
    (h : handle_command_ack is_datetime db now agent_id payload = .ok (reply, db')) :
    (db.resolve_ack is_datetime agent_id payload = none ∧ db' = db) ∨
    ∃ dto cmd action action_audit_logs,
      db.resolve_ack is_datetime agent_id payload = some (dto, cmd, action) ∧
      db' = { db with
        action_audit_logs
        commands := db.commands.put (cmd.acked now dto.status dto.error_message)
        response_actions := db.acked_actions now dto.status action
        agents :=
          if dto.status = .SUCCESS then db.agents.modify agent_id (.confirm cmd.action)
          else db.agents } := by
  unfold handle_command_ack at h
  rw [bind_eq_ok_iff] at h
  obtain ⟨dto, hdto, h⟩ := h
  rw [bind_eq_ok_iff] at h
  obtain ⟨⟨found, db₁⟩, hverify, h⟩ := h
  rcases verify_execution_ok hverify with ⟨rfl, rfl, hget⟩ | ⟨cmd, hget, rfl, rfl⟩
  · left
    exact ⟨by simp [resolve_ack, hdto, hget], (Prod.mk.inj (Except.ok.inj h)).2.symm⟩
  · right
    simp only at h
    rw [bind_eq_ok_iff] at h
    obtain ⟨action, haction, h⟩ := h
    rw [bind_eq_ok_iff] at h
    obtain ⟨db₂, happly, h⟩ := h
    obtain ⟨logs, hdb₂⟩ := apply_ack_ok happly
    rw [associated_action_acked] at haction
    refine ⟨dto, cmd, action, logs, ?_, ?_⟩
    · simp [resolve_ack, hdto, hget, haction]
    · rw [← (Prod.mk.inj (Except.ok.inj h)).2, hdb₂]
      simp only [acked_actions, Command.acked_action]

/-- The parts of a resolved acknowledgement. -/
theorem resolve_ack_some {is_datetime : Json → Bool} {db : Database} {agent_id : String} {payload : Json}
    {dto : CommandAckDTO} {cmd : Command} {action : Option ResponseAction}
    (h : db.resolve_ack is_datetime agent_id payload = some (dto, cmd, action)) :
    CommandAckDTO.of_payload is_datetime payload = .ok dto ∧
      db.commands.get dto.command_id = some cmd ∧ db.associated_action agent_id cmd = .ok action := by
  unfold resolve_ack at h
  split at h
  · cases h
  · rename_i dto' hdto
    split at h
    · cases h
    · rename_i cmd' hget
      split at h
      · cases h
      · rename_i action' haction
        obtain ⟨rfl, rfl, rfl⟩ := by simpa using h
        exact ⟨hdto, hget, haction⟩

/-- The action found for an acknowledgement is a row of the table. -/
theorem get_of_resolve_ack {is_datetime : Json → Bool} {db : Database} {agent_id : String} {payload : Json}
    {dto : CommandAckDTO} {cmd : Command} {action : ResponseAction}
    (h : db.resolve_ack is_datetime agent_id payload = some (dto, cmd, some action)) :
    db.response_actions.get action.id = some action :=
  (associated_action_some (resolve_ack_some h).2.2).2

end Database

end larp
