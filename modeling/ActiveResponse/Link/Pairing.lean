import ActiveResponse.Lib.Run
import ActiveResponse.Link.Model

namespace larp

namespace Link

/-- Every wait has returned the reply to its own request, and every command listed in a reply has
been executed once or is still to be: the lists agree in order. -/
structure PairingLaw (s : Link) : Prop where
  paired : ∀ wait ∈ s.returned, wait.2.request = wait.1
  executed : s.listed = s.executed ++ s.task.unexecuted ++ s.to_agent.flatMap (·.body.pending_commands)

/-- The condition on a step of one connection: no wait times out, no message that asks for no reply
is answered with an error, and no handler raises while commands of the same reply are left. -/
def prompt (self : Link) : LinkStep → Bool
  | .disconnect => false
  | .timeout => self.task.awaited.isNone
  | .handle _ fault => fault.isNone || self.to_manager.head?.all Message.waits
  | .execute host _ =>
    match self.task with
    | .executing cmd rest => rest.isEmpty || (execute_command host cmd.action cmd.payload).isOk
    | _ => true
  | _ => true

/-- The requests that have not been answered to the agent yet, oldest first. -/
def unanswered (self : Link) : List Message :=
  self.to_agent.map Reply.request ++ self.response_payload.toList.map Reply.request ++
    self.to_manager.filter Message.waits

/-- The replies that are on their way. -/
def replies (self : Link) : List Reply :=
  self.to_agent ++ self.response_payload.toList

def Message.is_heartbeat (self : Message) : Prop := ∃ stats, self.body = .HEARTBEAT stats

/-- What the agent waits for is the only request that is not answered yet, and only replies to
heartbeats carry commands. -/
structure Paired (s : Link) : Prop where
  law : s.PairingLaw
  unanswered : s.unanswered = s.task.awaited.toList
  heartbeat : ∀ reply ∈ s.replies, reply.body.pending_commands ≠ [] → Message.is_heartbeat reply.request
  acks : ∀ request cmd rest, s.task = .awaiting_ack request cmd rest → ¬ Message.is_heartbeat request

variable {is_datetime : Json → Bool} {agent_id : String} {self : Link}

/-- A reply that arrives during a wait answers the awaited request, and is the only one. -/
private theorem Paired.received (h : self.Paired) {reply : Reply} {to_agent : List Reply} {request : Message}
    (harrived : self.to_agent = reply :: to_agent) (hawaited : self.task.awaited = some request) :
    reply.request = request ∧ to_agent = [] ∧ self.response_payload = none ∧
      self.to_manager.filter Message.waits = [] := by
  have hunanswered := h.unanswered
  simp only [Link.unanswered, harrived, hawaited, List.map_cons, List.cons_append, Option.toList_some,
    List.cons.injEq, List.append_eq_nil_iff, List.map_eq_nil_iff, Option.toList_eq_nil_iff] at hunanswered
  obtain ⟨hrequest, ⟨hrest, hpayload⟩, hmessages⟩ := hunanswered
  exact ⟨hrequest, hrest, hpayload, hmessages⟩

private theorem Paired.send_heartbeat (h : self.Paired) (stats : HeartbeatDTO) :
    (self.send_heartbeat stats).Paired := by
  unfold Link.send_heartbeat
  split
  · rename_i htask
    have hunanswered := h.unanswered
    have hexecuted := h.law.executed
    rw [htask] at hunanswered hexecuted
    refine ⟨⟨h.law.paired, hexecuted⟩, ?_, h.heartbeat, fun _ _ _ hack => by cases hack⟩
    simp only [Link.unanswered, AgentTask.awaited, Option.toList_none] at hunanswered
    simp only [Link.unanswered, Link.send, List.filter_append, ← List.append_assoc, hunanswered,
      List.nil_append]
    rfl
  · exact h

private theorem Paired.send_no_wait (h : self.Paired) : (self.send .no_wait).Paired := by
  refine ⟨⟨h.law.paired, h.law.executed⟩, ?_, h.heartbeat, h.acks⟩
  simpa [Link.unanswered, Link.send, Message.waits] using h.unanswered

/-- Handling a message answers it in its turn. -/
private theorem Paired.handle (h : self.Paired) {now : Time} {fault : Option AppException}
    (hprompt : self.prompt (.handle now fault) = true) :
    (self.handle is_datetime agent_id now fault).Paired := by
  unfold Link.handle
  split
  · rename_i request to_manager hpayload hmessages
    simp only [prompt, hmessages, List.head?_cons, Option.all_some, Bool.or_eq_true,
      Option.isNone_iff_eq_none] at hprompt
    have hunanswered := h.unanswered
    simp only [Link.unanswered, hpayload, hmessages, Option.toList_none, List.map_nil, List.append_nil,
      List.filter_cons] at hunanswered
    refine ⟨⟨h.law.paired, h.law.executed⟩, ?_, fun reply hreply hcmds => ?_, h.acks⟩
    · cases hwaits : request.waits with
      | true =>
        obtain ⟨body, hbody⟩ := self.db.respond_waits is_datetime agent_id now fault hwaits
        simpa [Link.unanswered, hbody, hwaits] using hunanswered
      | false =>
        obtain rfl : fault = none := by simpa [hwaits] using hprompt
        simpa [Link.unanswered, Database.respond_no_wait is_datetime self.db agent_id now hwaits, hwaits]
          using hunanswered
    · simp only [replies, List.mem_append, Option.mem_toList, Option.map_eq_some_iff] at hreply
      rcases hreply with hsent | ⟨body, hbody, rfl⟩
      · exact h.heartbeat reply (by simp [replies, hsent]) hcmds
      · exact Database.respond_commands hbody hcmds
  · exact h

private theorem Paired.send_json (h : self.Paired) : self.send_json.Paired := by
  unfold Link.send_json
  split
  · rename_i reply hpayload
    refine ⟨⟨h.law.paired, ?_⟩, ?_, fun other hother => h.heartbeat other ?_, h.acks⟩
    · simp only [h.law.executed, List.flatMap_append, List.append_assoc, List.flatMap_cons,
        List.flatMap_nil, List.append_nil]
    · simpa [Link.unanswered, hpayload] using h.unanswered
    · simpa [replies, hpayload] using hother
  · exact h

/-- The wait that ends with a reply has got the reply to its request. -/
private theorem Paired.paired_append (h : self.Paired) {request : Message} {reply : Reply}
    (hrequest : reply.request = request) :
    ∀ wait ∈ self.returned ++ [(request, reply)], wait.2.request = wait.1 := by
  intro wait hwait
  rcases List.mem_append.mp hwait with hbefore | hnew
  · exact h.law.paired wait hbefore
  · rw [List.mem_singleton.mp hnew]
    exact hrequest

private theorem Paired.recv (h : self.Paired) : self.recv.Paired := by
  unfold Link.recv
  split
  · rename_i reply to_agent request harrived htask
    obtain ⟨hrequest, rfl, hpayload, hmessages⟩ := h.received harrived (by rw [htask]; rfl)
    have hexecuted := h.law.executed
    rw [harrived, htask] at hexecuted
    refine ⟨⟨h.paired_append hrequest, ?_⟩, ?_, ?_, fun _ _ _ hack => ?_⟩
    · simp only [AgentTask.unexecuted_run_commands]
      simpa [AgentTask.unexecuted] using hexecuted
    · simp [Link.unanswered, hpayload, hmessages]
    · simp [replies, hpayload]
    · exact absurd hack (AgentTask.run_commands_ne _ _ _ _)
  · -- The reply to an acknowledgement carries no commands, so that none are thrown away.
    rename_i reply to_agent request cmd rest harrived htask
    obtain ⟨hrequest, rfl, hpayload, hmessages⟩ := h.received harrived (by rw [htask]; rfl)
    have hnone : reply.body.pending_commands = [] := by
      by_contra hcmds
      have hheartbeat := h.heartbeat reply (by simp [replies, harrived]) hcmds
      rw [hrequest] at hheartbeat
      exact h.acks request cmd rest htask hheartbeat
    have hexecuted := h.law.executed
    rw [harrived, htask] at hexecuted
    refine ⟨⟨h.paired_append hrequest, ?_⟩, ?_, ?_, fun _ _ _ hack => ?_⟩
    · simp only [AgentTask.unexecuted_run_commands]
      simpa [AgentTask.unexecuted, hnone] using hexecuted
    · simp [Link.unanswered, hpayload, hmessages]
    · simp [replies, hpayload]
    · exact absurd hack (AgentTask.run_commands_ne _ _ _ _)
  · exact h

private theorem Paired.timeout (h : self.Paired) (hprompt : self.prompt .timeout = true) :
    self.timeout.Paired := by
  have hnone : self.task.awaited = none := by simpa [prompt] using hprompt
  unfold Link.timeout
  split
  · rename_i htask
    simp [htask, AgentTask.awaited] at hnone
  · rename_i htask
    simp [htask, AgentTask.awaited] at hnone
  · exact h

private theorem Paired.execute (h : self.Paired) {host : Host} {now : Time}
    (hprompt : self.prompt (.execute host now) = true) : (self.execute host now).Paired := by
  unfold Link.execute
  split
  · rename_i cmd rest htask
    have hunanswered := h.unanswered
    have hexecuted := h.law.executed
    simp only [htask, AgentTask.awaited, Option.toList_none, Link.unanswered] at hunanswered
    simp only [htask, AgentTask.unexecuted] at hexecuted
    split
    · refine ⟨⟨h.law.paired, ?_⟩, ?_, h.heartbeat, ?_⟩
      · simpa [AgentTask.unexecuted, Link.send] using hexecuted
      · simp only [Link.unanswered, Link.send, List.filter_append, ← List.append_assoc, hunanswered,
          List.nil_append]
        rfl
      · rintro request cmd' rest' hack ⟨stats, hbody⟩
        cases hack
        cases hbody
    · rename_i e herror
      have hrest : rest = [] := by
        simpa [prompt, htask, herror, Except.isOk, Except.toBool] using hprompt
      refine ⟨⟨h.law.paired, ?_⟩, ?_, h.heartbeat, fun _ _ _ hack => by cases hack⟩
      · simpa [AgentTask.unexecuted, hrest] using hexecuted
      · simpa [Link.unanswered, AgentTask.awaited] using hunanswered
  · exact h

private theorem Paired.step (h : self.Paired) {op : LinkStep} (hprompt : self.prompt op = true) :
    (self.step is_datetime agent_id op).Paired := by
  cases op with
  | queue_command raw action =>
    simp only [Link.step]
    split
    · exact ⟨⟨h.law.paired, h.law.executed⟩, h.unanswered, h.heartbeat, h.acks⟩
    · exact h
  | connect => exact ⟨⟨h.law.paired, h.law.executed⟩, h.unanswered, h.heartbeat, h.acks⟩
  | disconnect => cases hprompt
  | send_heartbeat stats => exact when_connected h fun _ => h.send_heartbeat stats
  | send_no_wait => exact when_connected h fun _ => h.send_no_wait
  | handle now fault => exact when_connected h fun _ => h.handle hprompt
  | send_json => exact when_connected h fun _ => h.send_json
  | recv => exact when_connected h fun _ => h.recv
  | timeout => exact when_connected h fun _ => h.timeout hprompt
  | execute host now => exact when_connected h fun _ => h.execute hprompt

/-- On one connection every wait returns the reply to its own request and every listed command is
executed once, over every run of prompt steps. -/
theorem pairingLaw_of_prompt (is_datetime : Json → Bool) (db : Database) (agent_id : String)
    (steps : List LinkStep)
    (hprompt : transition.Along (step is_datetime agent_id) (fun s op => s.prompt op) { db } steps) :
    (transition.run (step is_datetime agent_id) { db } steps).PairingLaw := by
  have hinit : ({ db } : Link).Paired :=
    ⟨⟨fun _ hwait => (by cases hwait), rfl⟩, rfl, fun _ hreply => (by cases hreply),
      fun _ _ _ hack => (by cases hack)⟩
  exact (transition.run_invariant (I := Paired) (fun _ _ h hop => h.step hop) hprompt hinit).law

/-- A command that is queued, delivered, executed and acknowledged. -/
def deliver_one : List LinkStep :=
  [.queue_command { id := "cmd_1", agent_id := "web-1" } "isolate",
    .send_heartbeat { agent_id := "web-1", timestamp := 1 }, .handle 1 none, .send_json, .recv,
    .execute (machine (.ok ())) 2, .handle 2 none, .send_json, .recv]

theorem pairingLaw_deliver_one :
    (transition.run (step (fun _ => true) "web-1") { db := Database.one_agent } deliver_one).PairingLaw :=
  pairingLaw_of_prompt (fun _ => true) Database.one_agent "web-1" deliver_one
    ⟨by decide, by decide, by decide, by decide, by decide, by decide, by decide, by decide, by decide, trivial⟩

/-- A telemetry message whose handler raises, and the heartbeat after it. -/
def telemetry_error : List LinkStep :=
  [.send_no_wait, .handle 1 (some (.DataError "value too long")), .send_json,
    .send_heartbeat { agent_id := "web-1", timestamp := 2 }, .recv]

/-- The heartbeat gets the error reply to the telemetry message, which asked for none. -/
theorem not_pairingLaw_telemetry_error :
    ¬ (transition.run (step (fun _ => true) "web-1") { db := Database.one_agent } telemetry_error).PairingLaw := by
  intro h
  have hreturned : (transition.run (step (fun _ => true) "web-1") { db := Database.one_agent }
      telemetry_error).returned.map (fun wait => (wait.1.seq, wait.2.request.seq)) = [(1, 0)] := by decide
  obtain ⟨wait, hwait, hseqs⟩ := List.mem_map.mp (hreturned ▸ List.mem_singleton_self (1, 0))
  obtain ⟨hrequest, hreply⟩ := Prod.mk.inj hseqs
  rw [h.paired wait hwait, hrequest] at hreply
  cases hreply

end Link

end larp
