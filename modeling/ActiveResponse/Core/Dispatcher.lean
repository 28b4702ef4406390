import ActiveResponse.Core.Database

namespace larp

structure CommandAckDTO where
  command_id : String
  status : CommandStatus
  error_message : Option String := none

/-- Validation of a `COMMAND_ACK` payload. Whether a value is accepted as a datetime is pydantic's
decision, so it is a parameter; the parsed `executed_at` is not used afterwards. -/
def CommandAckDTO.of_payload (is_datetime : Json → Bool) (payload : Json) :
    Except AppException CommandAckDTO :=
  match payload with
  | .obj fields =>
    match Dict.get fields "command_id" with
    | some (.str command_id) =>
      match (match Dict.get fields "status" with
        | some (.str value) => CommandStatus.of_value value
        | _ => none) with
      | some status =>
        match Dict.get fields "error_message" with
        | none | some .null => check_executed_at fields { command_id, status }
        | some (.str text) => check_executed_at fields { command_id, status, error_message := some text }
        | some _ => .error (.ValidationError "error_message" "Input should be a valid string")
      | none =>
        .error (.ValidationError "status"
          (if (Dict.get fields "status").isNone then "Field required"
          else "Input should be 'pending', 'sent', 'success', 'failed' or 'timeout'"))
    | some _ => .error (.ValidationError "command_id" "Input should be a valid string")
    | none => .error (.ValidationError "command_id" "Field required")
  | _ => .error (.TypeError "argument after ** must be a mapping")
where
  check_executed_at (fields : Dict) (dto : CommandAckDTO) : Except AppException CommandAckDTO :=
    match Dict.get fields "executed_at" with
    | none => .ok dto
    | some value =>
      if is_datetime value then .ok dto
      else .error (.ValidationError "executed_at" "Input should be a valid datetime")

private theorem CommandAckDTO.check_executed_at_ok {is_datetime : Json → Bool} {fields : Dict}
    {dto dto' : CommandAckDTO} (h : CommandAckDTO.of_payload.check_executed_at is_datetime fields dto = .ok dto') :
    dto' = dto := by
  unfold CommandAckDTO.of_payload.check_executed_at at h
  split at h
  · exact (Except.ok.inj h).symm
  · split at h
    · exact (Except.ok.inj h).symm
    · cases h

/-- An accepted payload names its status by the value of the enum. -/
theorem CommandAckDTO.status_of_payload {is_datetime : Json → Bool} {fields : Dict} {dto : CommandAckDTO}
    (h : CommandAckDTO.of_payload is_datetime (.obj fields) = .ok dto) :
    Dict.get fields "status" = some (.str dto.status.value) := by
  unfold CommandAckDTO.of_payload at h
  simp only at h
  split at h
  · split at h
    · rename_i status hstatus
      have hdto : dto.status = status := by
        split at h
        · rw [check_executed_at_ok h]
        · rw [check_executed_at_ok h]
        · rw [check_executed_at_ok h]
        · cases h
      split at hstatus
      · rename_i value hvalue
        rw [hdto, hvalue, CommandStatus.value_of_of_value hstatus]
      · cases hstatus
    · cases h
  · cases h
  · cases h

namespace Database

/-- `CommandDispatcher.pull_pending_commands`: the pending commands of an agent are handed out
and marked as sent. -/
def pull_pending_commands (db : Database) (agent_id : String) : List Command × Database :=
  ((db.get_pending_by_agent agent_id).map Command.send_to_agent,
    { db with
      commands := db.commands.update
        (fun cmd => if cmd.agent_id = agent_id ∧ cmd.status = .PENDING then cmd.send_to_agent else cmd)
        (by intro cmd; split <;> rfl) })

/-- The row of a command is written only if its error message fits the column. -/
def flush_command (db : Database) (cmd : Command) : Except AppException Database := do
  let _error_message ← varchar 512 (cmd.error_message.map Json.str)
  return { db with commands := db.commands.put cmd }

/-- `CommandDispatcher.verify_execution`. The command is looked up by its id alone. -/
def verify_execution (db : Database) (now : Time) (ack_data : CommandAckDTO) :
    Except AppException (Option Command × Database) :=
  match db.commands.get ack_data.command_id with
  | none => .ok (none, db)
  | some cmd => do
    let cmd := cmd.acked now ack_data.status ack_data.error_message
    let db ← db.flush_command cmd
    return (some cmd, db)

theorem flush_command_ok {db db' : Database} {cmd : Command} (h : db.flush_command cmd = .ok db') :
    db' = { db with commands := db.commands.put cmd } := by
  unfold flush_command at h
  rw [bind_eq_ok_iff] at h
  obtain ⟨_, _, h⟩ := h
  exact (Except.ok.inj h).symm

/-- An acknowledgement is recorded on the named command, or finds none. -/
theorem verify_execution_ok {db db' : Database} {now : Time} {ack_data : CommandAckDTO}
    {found : Option Command} (h : db.verify_execution now ack_data = .ok (found, db')) :
    (found = none ∧ db' = db ∧ db.commands.get ack_data.command_id = none) ∨
    ∃ cmd, db.commands.get ack_data.command_id = some cmd ∧
      found = some (cmd.acked now ack_data.status ack_data.error_message) ∧
      db' = { db with
        commands := db.commands.put (cmd.acked now ack_data.status ack_data.error_message) } := by
  unfold verify_execution at h
  split at h
  · rename_i hget
    obtain ⟨rfl, rfl⟩ := Prod.mk.inj (Except.ok.inj h)
    exact Or.inl ⟨rfl, rfl, hget⟩
  · rename_i cmd hget
    rw [bind_eq_ok_iff] at h
    obtain ⟨db₁, hflush, h⟩ := h
    have hdb := flush_command_ok hflush
    obtain ⟨rfl, rfl⟩ := Prod.mk.inj (Except.ok.inj h)
    exact Or.inr ⟨cmd, hget, rfl, hdb⟩

/-- Only pending commands of the agent are delivered, each in status sent. -/
theorem mem_pull_pending_commands {db : Database} {agent_id : String} {cmd : Command} :
    cmd ∈ (db.pull_pending_commands agent_id).1 ↔
      ∃ pending ∈ db.commands.rows, pending.agent_id = agent_id ∧ pending.status = .PENDING ∧
        cmd = pending.send_to_agent := by
  simp only [pull_pending_commands, get_pending_by_agent, List.mem_map, List.mem_filter, decide_eq_true_eq]
  constructor
  · rintro ⟨pending, ⟨hmem, hagent, hpending⟩, rfl⟩
    exact ⟨pending, hmem, hagent, hpending, rfl⟩
  · rintro ⟨pending, hmem, hagent, hpending, rfl⟩
    exact ⟨pending, ⟨hmem, hagent, hpending⟩, rfl⟩

end Database

end larp
