import ActiveResponse.Agent.Commands
import ActiveResponse.System

namespace larp

/-- A payload entry that `session.get` accepts as a key, or that is not looked up at all. -/
def Dict.text_or_falsy (self : Dict) (key : String) : Prop :=
  ∀ value, self.get key = some value → (∃ text, value = .str text) ∨ value.truthy = false

/-- The text of the result fits the column it is stored in; a failure that is retried stores none. -/
def CommandResult.storable (self : CommandResult) (cmd : Command) : Prop :=
  (∀ message ∈ self.message, message.length ≤ 512) ∨
    (self.status = "failed" ∧ cmd.retry_count < cmd.max_retries)

/-- The reason of an action is accepted by the audit log. -/
def ResponseAction.loggable (action : ResponseAction) : Prop :=
  ∃ reason, Database.varchar 512 (action.action_params.get "reason") = .ok reason

namespace Database

/-- The manager accepts an acknowledgement with this payload, the command leaves SENT for the
status that the result calls for, and the action linked to it leaves pending. -/
def Understood (is_datetime : Json → Bool) (db : Database) (now : Time) (agent_id : String)
    (cmd : Command) (result : CommandResult) (payload : Json) : Prop :=
  ∃ reply db', handle_command_ack is_datetime db now agent_id payload = .ok (reply, db') ∧
    (∃ cmd', db'.commands.get cmd.id = some cmd' ∧
      if result.status = "success" then cmd'.status = .SUCCESS
      else cmd'.status = .PENDING ∨ cmd'.status = .FAILED) ∧
    ∀ action, db.associated_action agent_id cmd = .ok (some action) →
      ∃ action', db'.response_actions.get action.id = some action' ∧ action'.status ≠ .pending

/-- The report of a command that the manager can take in: its status is one that the manager
knows, and what is written down with it fits. -/
structure Reportable (db : Database) (agent_id : String) (host : Host) (cmd : Command)
    (result : CommandResult) : Prop where
  completes : host.completes cmd.action cmd.payload
  storable : result.storable cmd
  action_id : cmd.payload.text_or_falsy "action_id"
  loggable : result.status = "success" → ∀ action,
    db.associated_action agent_id cmd = .ok (some action) → action.loggable

/-! ## When the parts of the handler succeed -/

private theorem varchar_text (limit : ℕ) (text : Option String) :
    (∃ stored, varchar limit (text.map Json.str) = .ok stored) ↔ ∀ message ∈ text, message.length ≤ limit := by
  cases text with
  | none => simp [varchar]
  | some message =>
    simp only [Option.map_some, varchar, Option.mem_def, Option.some.injEq, forall_eq']
    split <;> simp_all

private theorem flush_command_accepts (db : Database) (cmd : Command) :
    (∃ db', db.flush_command cmd = .ok db') ↔ ∀ message ∈ cmd.error_message, message.length ≤ 512 := by
  rw [← varchar_text]
  unfold flush_command
  constructor
  · rintro ⟨db', h⟩
    rw [bind_eq_ok_iff] at h
    obtain ⟨stored, hstored, _⟩ := h
    exact ⟨stored, hstored⟩
  · rintro ⟨stored, hstored⟩
    exact ⟨_, bind_eq_ok_iff.mpr ⟨stored, hstored, rfl⟩⟩

private theorem associated_action_accepts (db : Database) (agent_id : String) (cmd : Command) :
    (∃ action, db.associated_action agent_id cmd = .ok action) ↔ cmd.payload.text_or_falsy "action_id" := by
  have hbind : (∃ action, db.associated_action agent_id cmd = .ok action) ↔
      ∃ named, db.action_of_payload cmd = .ok named := by
    unfold associated_action
    constructor
    · rintro ⟨action, h⟩
      obtain ⟨named, hnamed, _⟩ := bind_eq_ok_iff.mp h
      exact ⟨named, hnamed⟩
    · rintro ⟨named, hnamed⟩
      exact ⟨_, bind_eq_ok_iff.mpr ⟨named, hnamed, rfl⟩⟩
  rw [hbind]
  unfold action_of_payload Dict.text_or_falsy
  split
  · rename_i hid
    simp [hid]
  · rename_i action_id hid
    simp [hid]
  · rename_i value hstr hid
    cases htruthy : value.truthy with
    | false => simp [hid, htruthy]
    | true => simpa [hid, htruthy] using hstr

private theorem apply_ack_accepts (db : Database) (now : Time) (agent_id : String) (status : CommandStatus)
    (cmd : Command) (action : Option ResponseAction) :
    (∃ db', db.apply_ack now agent_id status cmd action = .ok db') ↔
      (status = .SUCCESS → ∀ linked ∈ action, linked.loggable) := by
  unfold apply_ack
  split
  · rename_i hsuccess
    cases action with
    | none => simp [hsuccess, Bind.bind, Except.bind, Pure.pure, Except.pure]
    | some linked =>
      simp only [hsuccess, true_implies, Option.mem_def, Option.some.injEq, forall_eq', ResponseAction.loggable]
      constructor
      · rintro ⟨db', h⟩
        obtain ⟨_, hlog, _⟩ := bind_eq_ok_iff.mp h
        obtain ⟨reason, hreason, _⟩ := bind_eq_ok_iff.mp hlog
        exact ⟨reason, hreason⟩
      · rintro ⟨reason, hreason⟩
        exact ⟨_, bind_eq_ok_iff.mpr ⟨_, bind_eq_ok_iff.mpr ⟨reason, hreason, rfl⟩, rfl⟩⟩
  · rename_i hfailure
    simp [hfailure]

/-- An acknowledgement of a command on record is accepted exactly when the parts of the handler are. -/
private theorem handle_command_ack_accepts {is_datetime : Json → Bool} {db : Database} (now : Time)
    (agent_id : String) {payload : Json} {dto : CommandAckDTO} {cmd : Command}
    (hdto : CommandAckDTO.of_payload is_datetime payload = .ok dto)
    (hcmd : db.commands.get dto.command_id = some cmd) :
    (∃ reply db', handle_command_ack is_datetime db now agent_id payload = .ok (reply, db')) ↔
      (∀ message ∈ (cmd.acked now dto.status dto.error_message).error_message, message.length ≤ 512) ∧
      cmd.payload.text_or_falsy "action_id" ∧
      (dto.status = .SUCCESS → ∀ action, db.associated_action agent_id cmd = .ok (some action) →
        action.loggable) := by
  rw [← flush_command_accepts db, ← associated_action_accepts db agent_id]
  constructor
  · rintro ⟨reply, db', h⟩
    unfold handle_command_ack at h
    obtain ⟨dto', hdto', h⟩ := bind_eq_ok_iff.mp h
    obtain rfl : dto = dto' := Except.ok.inj (hdto.symm.trans hdto')
    obtain ⟨⟨found, db₁⟩, hverify, h⟩ := bind_eq_ok_iff.mp h
    unfold verify_execution at hverify
    rw [hcmd] at hverify
    obtain ⟨db₂, hflush, hverify⟩ := bind_eq_ok_iff.mp hverify
    obtain ⟨rfl, rfl⟩ := Prod.mk.inj (Except.ok.inj hverify)
    obtain ⟨action, haction, h⟩ := bind_eq_ok_iff.mp h
    obtain ⟨db₃, happly, _⟩ := bind_eq_ok_iff.mp h
    rw [flush_command_ok hflush, associated_action_acked] at haction
    refine ⟨⟨_, hflush⟩, ⟨action, haction⟩, fun hsuccess linked hlinked => ?_⟩
    obtain rfl : action = some linked := Except.ok.inj (haction.symm.trans hlinked)
    exact (apply_ack_accepts _ _ _ _ _ _).mp ⟨db₃, happly⟩ hsuccess linked rfl
  · rintro ⟨⟨db₁, hflush⟩, ⟨action, haction⟩, hloggable⟩
    have hassociated : db₁.associated_action agent_id (cmd.acked now dto.status dto.error_message) =
        .ok action := by
      rw [flush_command_ok hflush, associated_action_acked]
      exact haction
    obtain ⟨db₂, happly⟩ := (apply_ack_accepts db₁ now agent_id dto.status
      (cmd.acked now dto.status dto.error_message) action).mpr fun hsuccess linked hlinked => by
        obtain rfl : action = some linked := hlinked
        exact hloggable hsuccess linked haction
    have hverify : db.verify_execution now dto =
        .ok (some (cmd.acked now dto.status dto.error_message), db₁) := by
      unfold verify_execution
      rw [hcmd]
      exact bind_eq_ok_iff.mpr ⟨db₁, hflush, rfl⟩
    exact ⟨_, db₂, bind_eq_ok_iff.mpr ⟨dto, hdto, bind_eq_ok_iff.mpr ⟨_, hverify,
      bind_eq_ok_iff.mpr ⟨action, hassociated, bind_eq_ok_iff.mpr ⟨db₂, happly, rfl⟩⟩⟩⟩⟩

/-! ## Reports and acknowledgements -/

private theorem of_payload_known {is_datetime : Json → Bool} {executed_at : Time}
    (hiso : is_datetime (.str (isoformat executed_at)) = true) (command_id : String) {result : CommandResult}
    (hknown : result.known) :
    CommandAckDTO.of_payload is_datetime (command_ack command_id result executed_at) =
      .ok { command_id, error_message := result.message
            status := if result.status = "success" then .SUCCESS else .FAILED } := by
  obtain ⟨status, message⟩ := result
  rcases hknown with rfl | rfl
  · cases message <;>
      simp [command_ack, CommandAckDTO.of_payload, CommandAckDTO.of_payload.check_executed_at, Dict.get,
        CommandStatus.of_value, CommandStatus.value, List.lookup_cons, hiso]
  · cases message <;>
      simp [command_ack, CommandAckDTO.of_payload, CommandAckDTO.of_payload.check_executed_at, Dict.get,
        CommandStatus.of_value, CommandStatus.value, List.lookup_cons, hiso]

/-- The agent's third status is none of the manager's. -/
private theorem of_payload_error (is_datetime : Json → Bool) (executed_at : Time) (command_id : String)
    {result : CommandResult} (herror : result.status = "error") :
    ∃ e, CommandAckDTO.of_payload is_datetime (command_ack command_id result executed_at) = .error e := by
  simp [command_ack, CommandAckDTO.of_payload, Dict.get, CommandStatus.of_value, CommandStatus.value,
    List.lookup_cons, herror]

/-- What an accepted acknowledgement leaves of the command and of the action linked to it. -/
private theorem understood_of_accepted {is_datetime : Json → Bool} {db db' : Database} {now : Time}
    {agent_id : String} {payload : Json} {dto : CommandAckDTO} {cmd : Command} {result : CommandResult}
    {reply : Dict} (hdto : CommandAckDTO.of_payload is_datetime payload = .ok dto)
    (hcmd : db.commands.get dto.command_id = some cmd)
    (hstatus : dto.status = if result.status = "success" then .SUCCESS else .FAILED)
    (h : handle_command_ack is_datetime db now agent_id payload = .ok (reply, db')) :
    db.Understood is_datetime now agent_id cmd result payload := by
  have hid : cmd.id = dto.command_id := Table.key_of_get hcmd
  have haccepted := (handle_command_ack_accepts now agent_id hdto hcmd).mp ⟨reply, db', h⟩
  obtain ⟨action, haction⟩ := (associated_action_accepts db agent_id cmd).mpr haccepted.2.1
  have hack : db.resolve_ack is_datetime agent_id payload = some (dto, cmd, action) := by
    simp [resolve_ack, hdto, hcmd, haction]
  rcases handle_command_ack_ok h with ⟨hnone, _⟩ | ⟨dto', cmd', action', logs, hsome, rfl⟩
  · simp [hnone] at hack
  · rw [hack] at hsome
    obtain ⟨rfl, rfl, rfl⟩ := by simpa using hsome
    refine ⟨reply, _, h, ⟨cmd.acked now dto.status dto.error_message, ?_, ?_⟩, fun linked hlinked => ?_⟩
    · simp [Table.get_put, Keyed.key, hid, hcmd]
    · rw [hstatus]
      split
      · simp [Command.acked_of_ne_failed]
      · by_cases hretry : cmd.retry_count < cmd.max_retries
        · simp [Command.acked_failed_retry _ _ _ hretry]
        · simp [Command.acked_failed_exhausted _ _ _ (Nat.le_of_not_lt hretry)]
    · obtain rfl : action = some linked := Except.ok.inj (haction.symm.trans hlinked)
      refine ⟨linked.acked now dto.status, ?_, ?_⟩
      · simp [acked_actions, Table.get_modify, get_of_resolve_ack hack]
      · unfold ResponseAction.acked
        split
        · simp [ResponseAction.apply]
        · simp [ResponseAction.fail]

/-- A report with the agent's third status is refused as a whole. -/
private theorem not_understood_of_error (is_datetime : Json → Bool) (db : Database) (now : Time)
    (agent_id : String) (cmd : Command) (executed_at : Time) {result : CommandResult}
    (herror : result.status = "error") :
    ¬ db.Understood is_datetime now agent_id cmd result (command_ack cmd.id result executed_at) := by
  obtain ⟨e, hrefused⟩ := of_payload_error is_datetime executed_at cmd.id herror
  rintro ⟨reply, db', h, _⟩
  obtain ⟨dto, hdto, _⟩ := bind_eq_ok_iff.mp h
  rw [hrefused] at hdto
  cases hdto

private theorem storable_iff (cmd : Command) (now : Time) {result : CommandResult} (hknown : result.known) :
    result.storable cmd ↔ ∀ message ∈ (cmd.acked now
      (if result.status = "success" then .SUCCESS else .FAILED) result.message).error_message,
        message.length ≤ 512 := by
  unfold CommandResult.storable
  rcases hknown with hsuccess | hfailed
  · simp [hsuccess, Command.acked_of_ne_failed]
  · by_cases hretry : cmd.retry_count < cmd.max_retries
    · simp [hfailed, hretry, Command.acked_failed_retry]
    · simp [hfailed, hretry, Command.acked_failed_exhausted _ _ _ (Nat.le_of_not_lt hretry)]

/-- The manager understands the report of a command exactly when the handler exists and does
not end in its `error` result, and what has to be stored with the report fits. -/
theorem understood_iff_reportable {is_datetime : Json → Bool} {db : Database} (now : Time)
    (agent_id : String) {host : Host} {cmd : Command} {result : CommandResult} {executed_at : Time}
    (hiso : is_datetime (.str (isoformat executed_at)) = true)
    (hcmd : db.commands.get cmd.id = some cmd)
    (hresult : execute_command host cmd.action cmd.payload = .ok result) :
    db.Understood is_datetime now agent_id cmd result (command_ack cmd.id result executed_at) ↔
      db.Reportable agent_id host cmd result := by
  rcases execute_command_reports hresult with ⟨hcompletes, hknown⟩ | ⟨hincomplete, herror⟩
  · have hdto := of_payload_known hiso cmd.id hknown
    have haccepts := handle_command_ack_accepts now agent_id hdto hcmd
    have hstorable := storable_iff cmd now hknown
    constructor
    · rintro ⟨reply, db', h, _⟩
      obtain ⟨hmessage, haction_id, hloggable⟩ := haccepts.mp ⟨reply, db', h⟩
      exact ⟨hcompletes, hstorable.mpr hmessage, haction_id, fun hsuccess => hloggable (by simp [hsuccess])⟩
    · rintro ⟨_, hmessage, haction_id, hloggable⟩
      obtain ⟨reply, db', h⟩ := haccepts.mpr ⟨hstorable.mp hmessage, haction_id, fun hsuccess =>
        hloggable (by simpa using hsuccess)⟩
      exact understood_of_accepted hdto hcmd rfl h
  · exact iff_of_false (not_understood_of_error is_datetime db now agent_id cmd executed_at herror)
      fun h => hincomplete h.completes

/-- An isolation that has been handed to its agent. -/
def sent_isolation : Database :=
  transition.run (step fun _ => true) one_agent
    [{ op := .create_and_apply_action 0 "act_1" "cmd_1" { agent_id := "web-1", action_type := "isolate" } },
      { op := .heartbeat { agent_id := "web-1", timestamp := 1 } }]

private theorem get_sent_isolation : ∃ cmd, sent_isolation.commands.get "cmd_1" = some cmd ∧
    cmd.id = "cmd_1" ∧ cmd.action = "isolate" ∧ cmd.status = .SENT := by
  have h : (sent_isolation.commands.get "cmd_1").map (fun cmd => (cmd.id, cmd.action, cmd.status)) =
      some ("cmd_1", "isolate", .SENT) := by decide
  obtain ⟨cmd, hget, hfields⟩ := Option.map_eq_some_iff.mp h
  exact ⟨cmd, hget, by simpa using hfields⟩

theorem understood_iff_reportable_isolated : ∃ cmd, sent_isolation.commands.get "cmd_1" = some cmd ∧
    (sent_isolation.Understood (fun _ => true) 2 "web-1" cmd
      { status := "success", message := some "Network isolated successfully" }
      (command_ack cmd.id { status := "success", message := some "Network isolated successfully" } 2) ↔
    sent_isolation.Reportable "web-1" (machine (.ok ())) cmd
      { status := "success", message := some "Network isolated successfully" }) := by
  obtain ⟨cmd, hget, hid, haction, _⟩ := get_sent_isolation
  refine ⟨cmd, hget, understood_iff_reportable 2 "web-1" rfl (by rw [hid]; exact hget) ?_⟩
  rw [haction]
  rfl

/-- Where `iptables` is missing the handler turns the exception into the status `error`, the
manager refuses the acknowledgement, and the command stays in SENT. -/
theorem not_understood_isolate_error : ∃ cmd result,
    sent_isolation.commands.get "cmd_1" = some cmd ∧ cmd.status = .SENT ∧
      execute_command (machine (.error "[Errno 2] No such file or directory: 'iptables'")) cmd.action
        cmd.payload = .ok result ∧
      ¬ sent_isolation.Understood (fun _ => true) 2 "web-1" cmd result (command_ack cmd.id result 2) := by
  obtain ⟨cmd, hget, _, haction, hsent⟩ := get_sent_isolation
  refine ⟨cmd, { status := "error", message := some "[Errno 2] No such file or directory: 'iptables'" },
    hget, hsent, ?_, not_understood_of_error _ _ _ _ _ _ rfl⟩
  rw [haction]
  rfl

end Database

end larp
