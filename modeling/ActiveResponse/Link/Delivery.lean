import ActiveResponse.Lib.Run
import ActiveResponse.Link.Model

namespace larp

/-- A result that the manager does not follow up. -/
def Command.finished (self : Command) : Bool :=
  self.status = .SUCCESS ∨ (self.status = .FAILED ∧ self.max_retries ≤ self.retry_count)

/-- The command has been handed out and the manager has not recorded its result. -/
def Database.unfinished (db : Database) (cmd : Command) : Bool :=
  (db.commands.get cmd.id).any fun row => row.status ≠ .PENDING ∧ row.finished = false

/-- An acknowledged success or failure is a result, or puts the command back into the queue. -/
theorem Command.settled_of_acked (self : Command) (now : Time) {status : CommandStatus}
    (error_message : Option String) (h : status = .SUCCESS ∨ status = .FAILED) :
    (self.acked now status error_message).finished = true ∨
      (self.acked now status error_message).status = .PENDING := by
  rcases h with rfl | rfl
  · left
    simp [Command.acked_of_ne_failed, finished]
  · by_cases hretry : self.retry_count < self.max_retries
    · right
      rw [Command.acked_failed_retry _ _ _ hretry]
    · left
      simp [Command.acked_failed_exhausted _ _ _ (Nat.le_of_not_lt hretry), finished, Nat.le_of_not_lt hretry]

/-- The acknowledgements that the agent builds report a success or a failure, or are refused. -/
theorem CommandAckDTO.status_of_command_ack {is_datetime : Json → Bool} {command_id : String}
    {result : CommandResult} {executed_at : Time} {dto : CommandAckDTO}
    (h : CommandAckDTO.of_payload is_datetime (command_ack command_id result executed_at) = .ok dto)
    (hresult : result.known ∨ result.status = "error") : dto.status = .SUCCESS ∨ dto.status = .FAILED := by
  have hvalue : result.status = dto.status.value := by
    simpa [Dict.get, List.lookup_cons] using CommandAckDTO.status_of_payload h
  rw [CommandResult.known, hvalue] at hresult
  cases hdto : dto.status with
  | SUCCESS => exact Or.inl rfl
  | FAILED => exact Or.inr rfl
  | PENDING => simp [hdto, CommandStatus.value] at hresult
  | SENT => simp [hdto, CommandStatus.value] at hresult
  | TIMEOUT => simp [hdto, CommandStatus.value] at hresult

namespace Link

/-- Every command of the agent has a result, waits to be handed out, or is with a live connection. -/
def NothingLost (self : Link) (agent_id : String) : Prop :=
  ∀ row ∈ self.db.commands.rows, row.agent_id = agent_id →
    row.finished = true ∨ row.status = .PENDING ∨
      (self.connected = true ∧ ∃ cmd ∈ self.held, cmd.id = row.id)

/-- The condition on a step: the commands that it discards have a result. A lost connection discards
everything that is on its way or in hand, the end of a wait for an acknowledgement's reply the
command and what that reply lists, an exception in a handler the rest of the loop. -/
def keeps_commands (self : Link) : LinkStep → Bool
  | .disconnect => self.held.all fun cmd => !self.db.unfinished cmd
  | .recv =>
    match self.task, self.to_agent with
    | .awaiting_ack _ cmd _, reply :: _ =>
      (cmd :: reply.body.pending_commands).all fun cmd => !self.db.unfinished cmd
    | _, _ => true
  | .timeout =>
    match self.task with
    | .awaiting_ack _ cmd _ => !self.db.unfinished cmd
    | _ => true
  | .execute host _ =>
    match self.task with
    | .executing cmd rest =>
      (execute_command host cmd.action cmd.payload).isOk ||
        (cmd :: rest).all fun cmd => !self.db.unfinished cmd
    | _ => true
  | _ => true

/-- The acknowledgements on their way report results of the agent's handlers. -/
def Reported (self : Link) : Prop :=
  ∀ message ∈ self.to_manager, ∀ payload, message.body = .COMMAND_ACK payload →
    ∃ command_id result executed_at, payload = command_ack command_id result executed_at ∧
      (result.known ∨ result.status = "error")

section Step

variable {is_datetime : Json → Bool} {agent_id : String} {self other : Link}

/-- A step that writes no command and discards only commands with a result loses none. -/
private theorem NothingLost.of_held (h : self.NothingLost agent_id)
    (hrows : other.db.commands = self.db.commands)
    (hheld : ∀ cmd ∈ self.held, self.db.unfinished cmd = false ∨
      (self.connected = true → other.connected = true ∧ cmd ∈ other.held)) :
    other.NothingLost agent_id := by
  intro row hrow hagent
  rw [hrows] at hrow
  rcases h row hrow hagent with hfinished | hpending | ⟨hlive, cmd, hcmd, hid⟩
  · exact Or.inl hfinished
  · exact Or.inr (Or.inl hpending)
  · rcases hheld cmd hcmd with hsettled | hkept
    · have hget : self.db.commands.get cmd.id = some row := by
        rw [hid]
        exact Table.get_of_mem hrow
      simp only [Database.unfinished, hget, Option.any_some, decide_eq_false_iff_not, not_and,
        Bool.not_eq_false] at hsettled
      by_cases hpending : row.status = .PENDING
      · exact Or.inr (Or.inl hpending)
      · exact Or.inl (hsettled hpending)
    · exact Or.inr (Or.inr ⟨(hkept hlive).1, cmd, (hkept hlive).2, hid⟩)

/-- A heartbeat lists every command that it takes out of the queue. -/
private theorem NothingLost.of_heartbeat (h : self.NothingLost agent_id) (stats : HeartbeatDTO)
    (hdb : other.db = (self.db.handle_heartbeat { stats with agent_id }).2)
    (hheld : ∀ cmd, cmd ∈ self.held ∨ cmd ∈ (self.db.handle_heartbeat { stats with agent_id }).1 →
      cmd ∈ other.held)
    (hother : other.connected = true) : other.NothingLost agent_id := by
  intro row hrow hagent
  simp only [hdb, Database.handle_heartbeat, Database.pull_pending_commands, Table.rows_update,
    Database.update_heartbeat_commands, List.mem_map] at hrow
  obtain ⟨before, hbefore, rfl⟩ := hrow
  by_cases hpulled : before.agent_id = agent_id ∧ before.status = .PENDING
  · rw [if_pos hpulled]
    refine Or.inr (Or.inr ⟨hother, before.send_to_agent, hheld _ (Or.inr ?_), rfl⟩)
    refine Database.mem_pull_pending_commands.mpr ⟨before, ?_, hpulled.1, hpulled.2, rfl⟩
    rw [Database.update_heartbeat_commands]
    exact hbefore
  · rw [if_neg hpulled] at hagent ⊢
    rcases h before hbefore hagent with hfinished | hpending | ⟨_, cmd, hcmd, hid⟩
    · exact Or.inl hfinished
    · exact Or.inr (Or.inl hpending)
    · exact Or.inr (Or.inr ⟨hother, cmd, hheld cmd (Or.inl hcmd), hid⟩)

/-- An acknowledgement that the manager accepts records the result of its command. -/
private theorem NothingLost.of_ack (h : self.NothingLost agent_id) {now : Time} {payload : Json}
    {reply : Dict} {db' : Database}
    (hack : Database.handle_command_ack is_datetime self.db now agent_id payload = .ok (reply, db'))
    (hreported : ∃ command_id result executed_at, payload = command_ack command_id result executed_at ∧
      (result.known ∨ result.status = "error"))
    (hdb : other.db = db') (hheld : ∀ cmd ∈ self.held, cmd ∈ other.held)
    (hother : other.connected = true) : other.NothingLost agent_id := by
  intro row hrow hagent
  rw [hdb] at hrow
  have hkept : row ∈ self.db.commands.rows → row.finished = true ∨ row.status = .PENDING ∨
      (other.connected = true ∧ ∃ cmd ∈ other.held, cmd.id = row.id) := by
    intro hbefore
    rcases h row hbefore hagent with hfinished | hpending | ⟨_, cmd, hcmd, hid⟩
    · exact Or.inl hfinished
    · exact Or.inr (Or.inl hpending)
    · exact Or.inr (Or.inr ⟨hother, cmd, hheld cmd hcmd, hid⟩)
  rcases Database.handle_command_ack_ok hack with ⟨_, rfl⟩ | ⟨dto, cmd, action, logs, hresolved, rfl⟩
  · exact hkept hrow
  · obtain ⟨command_id, result, executed_at, rfl, hresult⟩ := hreported
    have hstatus := CommandAckDTO.status_of_command_ack (Database.resolve_ack_some hresolved).1 hresult
    rcases Table.mem_put.mp hrow with ⟨rfl, _⟩ | ⟨hbefore, _⟩
    · rcases cmd.settled_of_acked now dto.error_message hstatus with hfinished | hpending
      · exact Or.inl hfinished
      · exact Or.inr (Or.inl hpending)
    · exact hkept hbefore

/-- Nothing is lost, and the acknowledgements on their way report results. -/
structure Delivering (s : Link) (agent_id : String) : Prop where
  kept : s.NothingLost agent_id
  reported : s.Reported

private theorem Delivering.queue_command (h : self.Delivering agent_id) {raw : RawCommand} {action : String}
    {db' : Database} (hqueued : self.db.add_command (raw.command action) = .ok db') :
    ({ self with db := db' } : Link).Delivering agent_id := by
  obtain ⟨_, commands, hinsert, rfl⟩ := Database.add_command_ok hqueued
  refine ⟨fun row hrow hagent => ?_, h.reported⟩
  rcases (Table.mem_of_insert hinsert).mp hrow with hbefore | rfl
  · exact h.kept row hbefore hagent
  · exact Or.inr (Or.inl rfl)

private theorem Delivering.disconnect (h : self.Delivering agent_id)
    (hkeeps : self.keeps_commands .disconnect = true) :
    (self.step is_datetime agent_id .disconnect).Delivering agent_id := by
  refine ⟨h.kept.of_held rfl fun cmd hcmd => Or.inl ?_, fun _ hmessage => by cases hmessage⟩
  simpa using List.all_eq_true.mp hkeeps cmd hcmd

private theorem Delivering.send_heartbeat (h : self.Delivering agent_id) (stats : HeartbeatDTO) :
    (self.send_heartbeat stats).Delivering agent_id := by
  unfold Link.send_heartbeat
  split
  · rename_i htask
    refine ⟨h.kept.of_held rfl fun cmd hcmd => Or.inr fun hlive => ⟨hlive, ?_⟩, ?_⟩
    · simpa [held, Link.send, htask, AgentTask.commands] using hcmd
    · intro message hmessage payload hbody
      rcases List.mem_append.mp hmessage with hbefore | hnew
      · exact h.reported message hbefore payload hbody
      · rw [List.mem_singleton.mp hnew] at hbody
        cases hbody
  · exact h

private theorem Delivering.send_no_wait (h : self.Delivering agent_id) :
    (self.send .no_wait).Delivering agent_id := by
  refine ⟨h.kept.of_held rfl fun cmd hcmd => Or.inr fun hlive => ⟨hlive, hcmd⟩, ?_⟩
  intro message hmessage payload hbody
  rcases List.mem_append.mp hmessage with hbefore | hnew
  · exact h.reported message hbefore payload hbody
  · rw [List.mem_singleton.mp hnew] at hbody
    cases hbody

/-- The commit comes before the reply is sent; from then on the commands are in the reply. -/
private theorem Delivering.handle (h : self.Delivering agent_id) (hlive : self.connected = true) (now : Time)
    (fault : Option AppException) : (self.handle is_datetime agent_id now fault).Delivering agent_id := by
  unfold Link.handle
  split
  · rename_i request to_manager hpayload hmessages
    refine ⟨?_, fun message hmessage => h.reported message (by simp [hmessages, hmessage])⟩
    cases fault with
    | some e =>
      refine h.kept.of_held rfl fun cmd hcmd => Or.inr fun _ => ⟨hlive, ?_⟩
      simpa [held, hpayload, Database.respond, ReplyBody.pending_commands] using hcmd
    | none =>
      cases hbody : request.body with
      | HEARTBEAT stats =>
        refine h.kept.of_heartbeat stats rfl (fun cmd hcmd => ?_) hlive
        simp only [held, hpayload, Option.toList_none, List.flatMap_nil, List.append_nil] at hcmd
        simp only [held, Database.respond, Option.map_some, Option.toList_some, List.flatMap_cons,
          List.flatMap_nil, List.append_nil, ReplyBody.pending_commands, List.mem_append] at hcmd ⊢
        tauto
      | COMMAND_ACK payload =>
        have hreported := h.reported request (by simp [hmessages]) payload hbody
        simp only [Database.respond]
        split
        · rename_i reply db' hack
          refine h.kept.of_ack hack hreported rfl (fun cmd hcmd => ?_) hlive
          simpa [held, hpayload, ReplyBody.pending_commands] using hcmd
        · refine h.kept.of_held rfl fun cmd hcmd => Or.inr fun _ => ⟨hlive, ?_⟩
          simpa [held, hpayload, ReplyBody.pending_commands] using hcmd
      | no_wait =>
        refine h.kept.of_held rfl fun cmd hcmd => Or.inr fun _ => ⟨hlive, ?_⟩
        simpa [held, hpayload, Database.respond] using hcmd
  · exact h

private theorem Delivering.send_json (h : self.Delivering agent_id) : self.send_json.Delivering agent_id := by
  unfold Link.send_json
  split
  · rename_i reply hpayload
    refine ⟨h.kept.of_held rfl fun cmd hcmd => Or.inr fun hlive => ⟨hlive, ?_⟩, h.reported⟩
    simpa [held, hpayload, or_assoc, or_and_right, exists_or] using hcmd
  · exact h

private theorem Delivering.recv (h : self.Delivering agent_id) (hkeeps : self.keeps_commands .recv = true) :
    self.recv.Delivering agent_id := by
  unfold Link.recv
  split
  · rename_i reply to_agent request harrived htask
    refine ⟨h.kept.of_held rfl fun cmd hcmd => Or.inr fun hlive => ⟨hlive, ?_⟩, h.reported⟩
    simp only [held, harrived, htask, AgentTask.commands, List.flatMap_cons, List.append_nil,
      List.mem_append] at hcmd
    simp only [held, AgentTask.commands_run_commands, List.mem_append]
    tauto
  · rename_i reply to_agent request current rest harrived htask
    simp only [keeps_commands, harrived, htask, List.all_cons, Bool.and_eq_true, Bool.not_eq_true',
      List.all_eq_true] at hkeeps
    refine ⟨h.kept.of_held rfl fun cmd hcmd => ?_, h.reported⟩
    simp only [held, harrived, htask, AgentTask.commands, List.flatMap_cons, List.mem_append,
      List.mem_cons] at hcmd
    simp only [held, AgentTask.commands_run_commands, List.mem_append]
    rcases hcmd with ((hlisted | hflight) | hpayload) | rfl | hrest
    · exact Or.inl (hkeeps.2 cmd hlisted)
    · exact Or.inr fun hlive => ⟨hlive, Or.inl (Or.inl hflight)⟩
    · exact Or.inr fun hlive => ⟨hlive, Or.inl (Or.inr hpayload)⟩
    · exact Or.inl hkeeps.1
    · exact Or.inr fun hlive => ⟨hlive, Or.inr hrest⟩
  · exact h

private theorem Delivering.timeout (h : self.Delivering agent_id)
    (hkeeps : self.keeps_commands .timeout = true) : self.timeout.Delivering agent_id := by
  unfold Link.timeout
  split
  · rename_i request htask
    refine ⟨h.kept.of_held rfl fun cmd hcmd => Or.inr fun hlive => ⟨hlive, ?_⟩, h.reported⟩
    simpa [held, htask, AgentTask.commands] using hcmd
  · rename_i request current rest htask
    simp only [keeps_commands, htask, Bool.not_eq_true'] at hkeeps
    refine ⟨h.kept.of_held rfl fun cmd hcmd => ?_, h.reported⟩
    simp only [held, htask, AgentTask.commands, List.mem_append, List.mem_cons] at hcmd
    simp only [held, AgentTask.commands_run_commands, List.mem_append]
    rcases hcmd with hflight | rfl | hrest
    · exact Or.inr fun hlive => ⟨hlive, Or.inl hflight⟩
    · exact Or.inl hkeeps
    · exact Or.inr fun hlive => ⟨hlive, Or.inr hrest⟩
  · exact h

private theorem Delivering.execute (h : self.Delivering agent_id) {host : Host} {now : Time}
    (hkeeps : self.keeps_commands (.execute host now) = true) :
    (self.execute host now).Delivering agent_id := by
  unfold Link.execute
  split
  · rename_i current rest htask
    split
    · rename_i result hresult
      refine ⟨h.kept.of_held rfl fun cmd hcmd => Or.inr fun hlive => ⟨hlive, ?_⟩, ?_⟩
      · simpa [held, Link.send, htask, AgentTask.commands] using hcmd
      · intro message hmessage payload hbody
        rcases List.mem_append.mp hmessage with hbefore | hnew
        · exact h.reported message hbefore payload hbody
        · rw [List.mem_singleton.mp hnew] at hbody
          cases hbody
          refine ⟨current.id, result, now, rfl, ?_⟩
          exact (execute_command_reports hresult).imp (·.2) (·.2)
    · rename_i e herror
      simp only [keeps_commands, htask, herror, Except.isOk, Except.toBool, Bool.false_or] at hkeeps
      refine ⟨h.kept.of_held rfl fun cmd hcmd => ?_, h.reported⟩
      simp only [held, htask, AgentTask.commands, List.mem_append] at hcmd
      simp only [held, AgentTask.commands, List.append_nil, List.mem_append]
      rcases hcmd with hflight | hhand
      · exact Or.inr fun hlive => ⟨hlive, hflight⟩
      · exact Or.inl (by simpa using List.all_eq_true.mp hkeeps cmd hhand)
  · exact h

private theorem Delivering.step (h : self.Delivering agent_id) {op : LinkStep}
    (hkeeps : self.keeps_commands op = true) : (self.step is_datetime agent_id op).Delivering agent_id := by
  cases op with
  | queue_command raw action =>
    simp only [Link.step]
    split
    · rename_i db' hqueued
      exact h.queue_command hqueued
    · exact h
  | connect => exact ⟨h.kept.of_held rfl fun cmd hcmd => Or.inr fun _ => ⟨rfl, hcmd⟩, h.reported⟩
  | disconnect => exact h.disconnect hkeeps
  | send_heartbeat stats => exact when_connected (P := (Delivering · agent_id)) h fun _ => h.send_heartbeat stats
  | send_no_wait => exact when_connected (P := (Delivering · agent_id)) h fun _ => h.send_no_wait
  | handle now fault => exact when_connected (P := (Delivering · agent_id)) h fun hlive => h.handle hlive now fault
  | send_json => exact when_connected (P := (Delivering · agent_id)) h fun _ => h.send_json
  | recv => exact when_connected (P := (Delivering · agent_id)) h fun _ => h.recv hkeeps
  | timeout => exact when_connected (P := (Delivering · agent_id)) h fun _ => h.timeout hkeeps
  | execute host now => exact when_connected (P := (Delivering · agent_id)) h fun _ => h.execute hkeeps

end Step

/-- No command is lost over any run in which every step that discards commands discards only
commands with a recorded result. -/
theorem nothingLost_of_keeps (is_datetime : Json → Bool) (db : Database) (agent_id : String)
    (steps : List LinkStep)
    (hinit : ∀ row ∈ db.commands.rows, row.agent_id = agent_id → row.finished = true ∨ row.status = .PENDING)
    (hkeeps : transition.Along (step is_datetime agent_id) (fun s op => s.keeps_commands op)
      { db, connected := false } steps) :
    (transition.run (step is_datetime agent_id) { db, connected := false } steps).NothingLost agent_id := by
  have hdelivering : ({ db, connected := false } : Link).Delivering agent_id :=
    ⟨fun row hrow hagent => (hinit row hrow hagent).imp_right Or.inl, fun _ hmessage => by cases hmessage⟩
  exact (transition.run_invariant (I := (Delivering · agent_id)) (fun _ _ h hop => h.step hop) hkeeps hdelivering).kept

/-- A command that is queued and handed out, with the reply still to be sent. -/
def hand_out : List LinkStep :=
  [.connect, .queue_command { id := "cmd_1", agent_id := "web-1" } "isolate",
    .send_heartbeat { agent_id := "web-1", timestamp := 1 }, .handle 1 none]

/-- The command is executed and its result recorded before the connection is lost. -/
theorem nothingLost_deliver_disconnect :
    (transition.run (step (fun _ => true) "web-1") { db := Database.one_agent, connected := false }
      (hand_out ++ [.send_json, .recv, .execute (machine (.ok ())) 2, .handle 2 none, .disconnect])).NothingLost
      "web-1" :=
  nothingLost_of_keeps (fun _ => true) Database.one_agent "web-1" _ (fun _ hrow => by cases hrow)
    ⟨by decide, by decide, by decide, by decide, by decide, by decide, by decide, by decide, by decide, trivial⟩

/-- The connection breaks between the commit and the reply: the command stays SENT, with nobody. -/
theorem not_nothingLost_break_before_send :
    ¬ (transition.run (step (fun _ => true) "web-1") { db := Database.one_agent, connected := false }
      (hand_out ++ [.disconnect])).NothingLost "web-1" := by
  intro h
  have hrow : ((transition.run (step (fun _ => true) "web-1") { db := Database.one_agent, connected := false }
      (hand_out ++ [.disconnect])).db.commands.get "cmd_1").map (fun row => (row.agent_id, row.status)) =
        some ("web-1", .SENT) := by decide
  have hconnected : (transition.run (step (fun _ => true) "web-1")
      { db := Database.one_agent, connected := false } (hand_out ++ [.disconnect])).connected = false := by decide
  obtain ⟨row, hget, hfields⟩ := Option.map_eq_some_iff.mp hrow
  obtain ⟨hagent, hsent⟩ := Prod.mk.inj hfields
  rcases h row (Table.get_mem hget) hagent with hfinished | hpending | ⟨hlive, _⟩
  · simp [Command.finished, hsent] at hfinished
  · rw [hsent] at hpending
    cases hpending
  · rw [hconnected] at hlive
    cases hlive

end Link

end larp
