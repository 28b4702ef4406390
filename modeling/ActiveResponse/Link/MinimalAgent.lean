import ActiveResponse.Lib.Run
import ActiveResponse.Link.Model

namespace larp

namespace WinAgentMinimal

/-- The actions that have a handler. -/
def COMMAND_HANDLERS : List String :=
  ["isolate", "unisolate", "auto_isolate", "kill", "kill_process", "kill_tree", "kill_process_tree", "quarantine"]

/-- The payload of the acknowledgement that `_execute_and_ack` sends: of a result, or of the text of an exception. -/
def ack_payload (command_id action : String) (result : Except String CommandResult) (executed_at : ℚ) : Dict :=
  if action ∈ COMMAND_HANDLERS then
    match result with
    | .ok result =>
      let error := if result.status = "failed" then result.message.filter (· ≠ "") else none
      [("command_id", .str command_id), ("status", .str result.status), ("executed_at", .num executed_at)] ++
        (error.map fun e => ("error_message", Json.str e)).toList
    | .error error_msg =>
      [("command_id", .str command_id), ("status", .str "failed"), ("error_message", .str error_msg)]
  else
    [("command_id", .str command_id), ("status", .str "failed"),
      ("error_message", .str ("No handler registered for action '" ++ action ++ "'"))]

/-- The commands in a reply that `_execute_and_ack` does not pass over: they have an id. -/
def commands (reply : ReplyBody) : List Command := reply.pending_commands.filter (·.id ≠ "")

/-- Where the loop of `send_telemetry` stands. -/
inductive Task where
  | sleeping
  | awaiting (request : Message)
  | executing (cmd : Command) (rest : List Command)

namespace Task

def run_commands : List Command → Task
  | [] => .sleeping
  | cmd :: rest => .executing cmd rest

/-- The commands still to be executed. -/
def unexecuted : Task → List Command
  | .executing cmd rest => cmd :: rest
  | _ => []

/-- The heartbeat whose reply the loop waits for. -/
def awaited : Task → Option Message
  | .awaiting request => some request
  | _ => none

/-- What a lost connection leaves of the loop: the commands in hand are executed all the same. -/
def cut : Task → Task
  | .awaiting _ => .sleeping
  | task => task

@[simp] theorem unexecuted_awaiting (request : Message) : (awaiting request).unexecuted = [] := rfl

@[simp] theorem unexecuted_executing (cmd : Command) (rest : List Command) :
    (executing cmd rest).unexecuted = cmd :: rest := rfl

@[simp] theorem unexecuted_run_commands (cmds : List Command) : (run_commands cmds).unexecuted = cmds := by
  cases cmds <;> rfl

@[simp] theorem awaited_sleeping : sleeping.awaited = none := rfl

@[simp] theorem awaited_awaiting (request : Message) : (awaiting request).awaited = some request := rfl

@[simp] theorem awaited_executing (cmd : Command) (rest : List Command) : (executing cmd rest).awaited = none := rfl

@[simp] theorem awaited_run_commands (cmds : List Command) : (run_commands cmds).awaited = none := by
  cases cmds <;> rfl

@[simp] theorem unexecuted_cut (self : Task) : self.cut.unexecuted = self.unexecuted := by
  cases self <;> rfl

@[simp] theorem awaited_cut (self : Task) : self.cut.awaited = none := by
  cases self <;> rfl

end Task

end WinAgentMinimal

open WinAgentMinimal

/-- The manager's database and an agent that reads one reply for each heartbeat. The counters are of the current
connection; the last two fields record which commands were pulled and which were executed. -/
structure MinimalLink where
  db : Database
  connected : Bool := false
  to_manager : List Message := []
  response_payload : Option Reply := none
  to_agent : List Reply := []
  task : Task := .sleeping
  sent : ℕ := 0
  acks : ℕ := 0
  timeouts : ℕ := 0
  errors : ℕ := 0
  pulled : List Command := []
  executed : List Command := []

inductive MinimalStep where
  | queue_command (raw : RawCommand) (action : String)
  | connect
  | disconnect
  /-- The endpoint finds the connection closed. -/
  | close
  | send_heartbeat (stats : HeartbeatDTO)
  | send_no_wait
  | handle (now : Time) (fault : Option AppException)
  | send_json
  | recv
  | timeout
  | execute (result : Except String CommandResult) (now : ℚ)

namespace MinimalLink

/-- `ws.send`: what is sent on a closed connection is lost. -/
def send (self : MinimalLink) (body : MessageBody) : MinimalLink :=
  if self.connected then { self with to_manager := self.to_manager ++ [⟨self.sent, body⟩], sent := self.sent + 1 }
  else self

/-- The loop begins when the one of the connection before has ended on both sides. -/
def connect (self : MinimalLink) : MinimalLink :=
  match self.connected, self.task, self.to_manager, self.response_payload with
  | false, .sleeping, [], none => { self with connected := true, sent := 0, acks := 0, timeouts := 0, errors := 0 }
  | _, _, _, _ => self

def disconnect (self : MinimalLink) : MinimalLink :=
  { self with connected := false, to_agent := [], task := self.task.cut }

def close (self : MinimalLink) : MinimalLink :=
  if self.connected then self else { self with to_manager := [], response_payload := none }

def send_heartbeat (self : MinimalLink) (stats : HeartbeatDTO) : MinimalLink :=
  match self.connected, self.task with
  | true, .sleeping => { self.send (.HEARTBEAT stats) with task := .awaiting ⟨self.sent, .HEARTBEAT stats⟩ }
  | _, _ => self

/-- The process list and the telemetry, behind the commands of the reply. -/
def send_no_wait (self : MinimalLink) : MinimalLink :=
  match self.task with
  | .sleeping => self.send .no_wait
  | _ => self

/-- One round of the endpoint's loop up to `session.commit`, also for what had arrived before the connection broke. -/
def handle (is_datetime : Json → Bool) (agent_id : String) (self : MinimalLink) (now : Time)
    (fault : Option AppException) : MinimalLink :=
  match self.response_payload, self.to_manager with
  | none, request :: to_manager =>
    let reply := (self.db.respond is_datetime agent_id now request.body fault).1
    { self with
      to_manager
      db := (self.db.respond is_datetime agent_id now request.body fault).2
      response_payload := reply.map fun body => ⟨request, body⟩
      errors := self.errors + if request.waits || fault.isNone then 0 else 1
      pulled := self.pulled ++ reply.toList.flatMap commands }
  | _, _ => self

def send_json (self : MinimalLink) : MinimalLink :=
  match self.response_payload, self.connected with
  | some reply, true => { self with response_payload := none, to_agent := self.to_agent ++ [reply] }
  | _, _ => self

/-- `ws.recv()`: the next reply, whichever message it answers. -/
def recv (self : MinimalLink) : MinimalLink :=
  match self.to_agent, self.task with
  | reply :: to_agent, .awaiting _ => { self with to_agent, task := .run_commands (commands reply.body) }
  | _, _ => self

/-- The wait of 5 seconds ends without a reply. -/
def timeout (self : MinimalLink) : MinimalLink :=
  match self.task with
  | .awaiting _ => { self with task := .sleeping, timeouts := self.timeouts + 1 }
  | _ => self

/-- `_execute_and_ack`, which raises nothing. -/
def execute (self : MinimalLink) (result : Except String CommandResult) (now : ℚ) : MinimalLink :=
  match self.task with
  | .executing cmd rest =>
    { self.send (.COMMAND_ACK (.obj (WinAgentMinimal.ack_payload cmd.id cmd.action result now))) with
      task := .run_commands rest
      acks := self.acks + if self.connected then 1 else 0
      executed := self.executed ++ [cmd] }
  | _ => self

def step (is_datetime : Json → Bool) (agent_id : String) (self : MinimalLink) : MinimalStep → MinimalLink
  | .queue_command raw action =>
    match self.db.add_command (raw.command action) with
    | .ok db => { self with db }
    | .error _ => self
  | .connect => self.connect
  | .disconnect => self.disconnect
  | .close => self.close
  | .send_heartbeat stats => self.send_heartbeat stats
  | .send_no_wait => self.send_no_wait
  | .handle now fault => self.handle is_datetime agent_id now fault
  | .send_json => self.send_json
  | .recv => self.recv
  | .timeout => self.timeout
  | .execute result now => self.execute result now

/-! ## Commands -/

/-- The commands that were executed, those in hand and those in the replies on their way, in order. -/
def accounted (self : MinimalLink) : List Command :=
  self.executed ++ (self.task.unexecuted ++
    (self.to_agent.flatMap (commands ·.body) ++ self.response_payload.toList.flatMap (commands ·.body)))

section Step

variable (is_datetime : Json → Bool) (agent_id : String) {self : MinimalLink}

@[simp] theorem accounted_send (body : MessageBody) : (self.send body).accounted = self.accounted := by
  unfold send
  split <;> rfl

@[simp] theorem pulled_send (body : MessageBody) : (self.send body).pulled = self.pulled := by
  unfold send
  split <;> rfl

/-- What a step adds to the commands that were pulled, it also adds to those that are accounted for. -/
def Adds (self other : MinimalLink) (added : List Command) : Prop :=
  other.pulled = self.pulled ++ added ∧ other.accounted = self.accounted ++ added

theorem Adds.refl : self.Adds self [] := ⟨(List.append_nil _).symm, (List.append_nil _).symm⟩

theorem Adds.of_eq {other : MinimalLink} (hpulled : other.pulled = self.pulled)
    (haccounted : other.accounted = self.accounted) : self.Adds other [] := by
  rw [Adds, hpulled, haccounted]
  exact Adds.refl

theorem adds_connect : self.Adds self.connect [] := by
  unfold connect
  split
  · exact Adds.refl
  · exact Adds.refl

theorem adds_send_heartbeat (stats : HeartbeatDTO) : self.Adds (self.send_heartbeat stats) [] := by
  unfold send_heartbeat
  split
  · rename_i hconnected htask
    rw [send, if_pos hconnected]
    exact .of_eq rfl (by rw [accounted, accounted, htask]; rfl)
  · exact Adds.refl

theorem adds_send_no_wait : self.Adds self.send_no_wait [] := by
  unfold send_no_wait
  split
  · exact .of_eq (pulled_send _) (accounted_send _)
  · exact Adds.refl

/-- Only the handler of a message pulls commands; they are in its reply. -/
theorem adds_handle (now : Time) (fault : Option AppException) :
    ∃ added, self.Adds (self.handle is_datetime agent_id now fault) added := by
  unfold handle
  split
  · rename_i request to_manager hpayload hmessages
    refine ⟨_, rfl, ?_⟩
    simp only [accounted, hpayload, Option.toList_none, List.flatMap_nil, List.append_nil, List.append_assoc]
    cases (self.db.respond is_datetime agent_id now request.body fault).1 <;> simp
  · exact ⟨[], Adds.refl⟩

theorem adds_send_json : self.Adds self.send_json [] := by
  unfold send_json
  split
  · rename_i reply hpayload hconnected
    refine .of_eq rfl ?_
    simp [accounted, hpayload]
  · exact Adds.refl

theorem adds_recv : self.Adds self.recv [] := by
  unfold recv
  split
  · rename_i reply to_agent request harrived htask
    refine .of_eq rfl ?_
    simp [accounted, harrived, htask]
  · exact Adds.refl

theorem adds_timeout : self.Adds self.timeout [] := by
  unfold timeout
  split
  · rename_i request htask
    exact .of_eq rfl (by rw [accounted, accounted, htask]; rfl)
  · exact Adds.refl

theorem adds_execute (result : Except String CommandResult) (now : ℚ) : self.Adds (self.execute result now) [] := by
  unfold execute send
  split
  · rename_i cmd rest htask
    split
    · exact .of_eq rfl (by simp [accounted, htask])
    · exact .of_eq rfl (by simp [accounted, htask])
  · exact Adds.refl

theorem adds_step {op : MinimalStep} (hdisconnect : op ≠ .disconnect) (hclose : op ≠ .close) :
    ∃ added, self.Adds (self.step is_datetime agent_id op) added := by
  cases op with
  | queue_command raw action =>
    rw [step]
    split
    · exact ⟨[], Adds.refl⟩
    · exact ⟨[], Adds.refl⟩
  | connect => exact ⟨[], adds_connect⟩
  | disconnect => exact absurd rfl hdisconnect
  | close => exact absurd rfl hclose
  | send_heartbeat stats => exact ⟨[], adds_send_heartbeat stats⟩
  | send_no_wait => exact ⟨[], adds_send_no_wait⟩
  | handle now fault => exact adds_handle is_datetime agent_id now fault
  | send_json => exact ⟨[], adds_send_json⟩
  | recv => exact ⟨[], adds_recv⟩
  | timeout => exact ⟨[], adds_timeout⟩
  | execute result now => exact ⟨[], adds_execute result now⟩

/-- Every command that was executed or may still be was pulled, once for each time, in this order. -/
def InOrder (self : MinimalLink) : Prop := self.accounted.Sublist self.pulled

theorem InOrder.step (h : self.InOrder) (op : MinimalStep) : (self.step is_datetime agent_id op).InOrder := by
  by_cases hdisconnect : op = .disconnect
  · -- What was on its way is lost, but not what the agent has in hand.
    rw [hdisconnect]
    refine List.Sublist.trans ?_ h
    simp only [MinimalLink.step, disconnect, accounted, Task.unexecuted_cut, List.flatMap_nil, List.nil_append]
    exact (List.Sublist.append_left (List.Sublist.append_left (List.sublist_append_right _ _) _) _)
  · by_cases hclose : op = .close
    · rw [hclose, MinimalLink.step, close]
      split
      · exact h
      · refine List.Sublist.trans ?_ h
        simp only [accounted, Option.toList_none, List.flatMap_nil]
        exact (List.Sublist.append_left (List.Sublist.append_left
          (List.Sublist.append_left (List.nil_sublist _) _) _) _)
    · obtain ⟨added, hpulled, haccounted⟩ := adds_step is_datetime agent_id hdisconnect hclose
      rw [InOrder, hpulled, haccounted]
      exact h.append_right added

end Step

/-- Over any run the executed commands are a part of those that were pulled, in the order in which they were pulled,
and none is executed more often than it was pulled. As long as the connection lasts, every command that was pulled has
been executed or is still to be, also if waits have ended without a reply or replies were read too late. -/
theorem executed_as_pulled (is_datetime : Json → Bool) (agent_id : String) (db : Database)
    (steps : List MinimalStep) :
    let self := transition.run (step is_datetime agent_id) { db } steps
    self.executed.Sublist self.pulled ∧
      ((∀ op ∈ steps, op ≠ .disconnect ∧ op ≠ .close) → self.pulled = self.accounted) := by
  constructor
  · have hinit : ({ db } : MinimalLink).InOrder := List.Sublist.refl []
    have horder := transition.run_preserves (I := InOrder)
      (fun _ op h => InOrder.step is_datetime agent_id h op) hinit steps
    exact (List.sublist_append_left _ _).trans horder
  · intro hsteps
    have hkeeps : transition.Along (step is_datetime agent_id)
        (fun _ op => op ≠ .disconnect ∧ op ≠ .close) { db } steps := transition.Along.of_forall hsteps _
    refine transition.run_invariant (I := fun s => s.pulled = s.accounted) (fun s op h hop => ?_) hkeeps rfl
    obtain ⟨added, hpulled, haccounted⟩ := adds_step is_datetime agent_id hop.1 hop.2
    rw [hpulled, haccounted, h]

/-! ## Replies -/

/-- The messages on their way and those whose replies are, oldest first. -/
def line (self : MinimalLink) : List Message :=
  self.to_agent.map Reply.request ++ (self.response_payload.toList.map Reply.request ++ self.to_manager)

/-- The messages whose replies the agent has not read yet. -/
def unread (self : MinimalLink) : List Message :=
  self.to_agent.map Reply.request ++ (self.response_payload.toList.map Reply.request ++
    self.to_manager.filter Message.waits)

/-- What keeps the agent from reading the reply to its last heartbeat. -/
def arrears (self : MinimalLink) : ℕ := self.acks + self.timeouts + self.errors

/-- Each acknowledgement, each wait without a reply and each error that was not asked for leaves one more reply unread
than there are waits. -/
structure Backlog (s : MinimalLink) : Prop where
  count : s.unread.length = s.arrears + s.task.awaited.toList.length
  last : ∀ request, s.task.awaited = some request → request.waits ∧ s.line.getLast? = some request
  ordered : s.line.Pairwise (·.seq < ·.seq)
  bounded : ∀ message ∈ s.line, message.seq < s.sent

/-- The replies of a connection are accounted for as long as it lasts, and lost with it. -/
structure Live (s : MinimalLink) : Prop where
  backlog : s.connected = true → s.Backlog
  lost : s.connected = false → s.to_agent = []

section Backlog

variable (is_datetime : Json → Bool) (agent_id : String) {self other : MinimalLink}

theorem Backlog.congr (h : self.Backlog) (hunread : other.unread = self.unread) (hline : other.line = self.line)
    (harrears : other.arrears = self.arrears) (htask : other.task = self.task) (hsent : other.sent = self.sent) :
    other.Backlog where
  count := by rw [hunread, harrears, htask, h.count]
  last := by rw [htask, hline]; exact h.last
  ordered := by rw [hline]; exact h.ordered
  bounded := by rw [hline, hsent]; exact h.bounded

/-- A new message stands at the end of the line. -/
theorem Backlog.append (h : self.Backlog) (message : Message) (hseq : message.seq = self.sent) :
    (self.line ++ [message]).Pairwise (·.seq < ·.seq) ∧
      ∀ other ∈ self.line ++ [message], other.seq < self.sent + 1 := by
  constructor
  · refine List.pairwise_append.mpr ⟨h.ordered, List.pairwise_singleton _ _, fun before hbefore last hlast => ?_⟩
    rw [List.mem_singleton.mp hlast, hseq]
    exact h.bounded before hbefore
  · intro other hother
    obtain hbefore | hnew := List.mem_append.mp hother
    · exact (h.bounded other hbefore).trans (Nat.lt_succ_self _)
    · rw [List.mem_singleton.mp hnew, hseq]
      exact Nat.lt_succ_self _

theorem line_append (to_agent : List Reply) (response_payload : Option Reply) (to_manager : List Message)
    (message : Message) :
    to_agent.map Reply.request ++ (response_payload.toList.map Reply.request ++ (to_manager ++ [message])) =
      (to_agent.map Reply.request ++ (response_payload.toList.map Reply.request ++ to_manager)) ++ [message] := by
  simp only [List.append_assoc]

theorem Live.connect (h : self.Live) : self.connect.Live := by
  unfold MinimalLink.connect
  split
  · rename_i hconnected htask hmessages hpayload
    have harrived := h.lost hconnected
    have hline : ({ self with connected := true, sent := 0, acks := 0, timeouts := 0, errors := 0 } :
        MinimalLink).line = [] := by
      simp [line, harrived, hmessages, hpayload]
    refine ⟨fun _ => ⟨?_, fun request hrequest => ?_, ?_, ?_⟩, nofun⟩
    · simp [unread, arrears, harrived, hmessages, hpayload, htask]
    · rw [htask] at hrequest
      cases hrequest
    · rw [hline]
      exact List.Pairwise.nil
    · rw [hline]
      exact nofun
  · exact h

theorem Live.send_heartbeat (h : self.Live) (stats : HeartbeatDTO) : (self.send_heartbeat stats).Live := by
  unfold MinimalLink.send_heartbeat
  split
  · rename_i hconnected htask
    have hbacklog := h.backlog hconnected
    have hcount := hbacklog.count
    rw [htask] at hcount
    obtain ⟨hordered, hbounded⟩ := hbacklog.append ⟨self.sent, .HEARTBEAT stats⟩ rfl
    rw [send, if_pos hconnected]
    refine ⟨fun _ => ⟨?_, fun request hrequest => ?_, ?_, ?_⟩, fun hlost => ?_⟩
    · simp only [unread, arrears, Task.awaited_sleeping, Task.awaited_awaiting, List.filter_append,
        List.length_append, Option.toList_none, Option.toList_some, List.length_nil, List.length_singleton] at hcount ⊢
      have hwaits : (List.filter Message.waits [⟨self.sent, .HEARTBEAT stats⟩]).length = 1 := rfl
      omega
    · obtain rfl := Option.some.inj hrequest
      refine ⟨rfl, ?_⟩
      rw [line, line_append, List.getLast?_append]
      rfl
    · rw [line, line_append]
      exact hordered
    · rw [line, line_append]
      exact hbounded
    · change self.connected = false at hlost
      rw [hconnected] at hlost
      cases hlost
  · exact h

theorem Live.send_no_wait (h : self.Live) : self.send_no_wait.Live := by
  unfold MinimalLink.send_no_wait
  split
  · rename_i htask
    unfold send
    split
    · rename_i hconnected
      have hbacklog := h.backlog hconnected
      obtain ⟨hordered, hbounded⟩ := hbacklog.append ⟨self.sent, .no_wait⟩ rfl
      refine ⟨fun _ => ⟨?_, fun request hrequest => ?_, ?_, ?_⟩, h.lost⟩
      · have hunread : (self.to_manager ++ [(⟨self.sent, .no_wait⟩ : Message)]).filter Message.waits =
            self.to_manager.filter Message.waits := by
          rw [List.filter_append]
          exact List.append_nil _
        have hcount := hbacklog.count
        rw [unread] at hcount ⊢
        rw [hunread]
        exact hcount
      · rw [htask] at hrequest
        cases hrequest
      · rw [line, line_append]
        exact hordered
      · rw [line, line_append]
        exact hbounded
    · exact h
  · exact h

/-- A message that nothing replies to leaves the line, but the last one is a heartbeat. -/
theorem getLast?_skip {before after : List Message} {message request : Message} (hne : message ≠ request)
    (h : (before ++ message :: after).getLast? = some request) : (before ++ after).getLast? = some request := by
  cases after with
  | nil =>
    rw [List.getLast?_append, List.getLast?_singleton, Option.some_or] at h
    exact absurd (Option.some.inj h) hne
  | cons next after =>
    rw [List.getLast?_append, List.getLast?_cons_cons] at h
    rw [List.getLast?_append]
    exact h

theorem Live.handle (h : self.Live) (now : Time) (fault : Option AppException) :
    (self.handle is_datetime agent_id now fault).Live := by
  unfold MinimalLink.handle
  split
  · rename_i request to_manager hpayload hmessages
    refine ⟨fun hconnected => ?_, h.lost⟩
    have hbacklog := h.backlog hconnected
    cases hwaits : request.waits with
    | true =>
      obtain ⟨body, hbody⟩ := self.db.respond_waits is_datetime agent_id now fault hwaits
      refine hbacklog.congr ?_ ?_ rfl rfl rfl
      · simp [unread, hpayload, hmessages, hbody, hwaits]
      · simp [line, hpayload, hmessages, hbody]
    | false =>
      have hunread : self.unread = self.to_agent.map Reply.request ++ to_manager.filter Message.waits := by
        simp [unread, hpayload, hmessages, hwaits]
      have hline : self.line = self.to_agent.map Reply.request ++ request :: to_manager := by
        simp [line, hpayload, hmessages]
      cases fault with
      | none =>
        rw [Database.respond_no_wait is_datetime self.db agent_id now hwaits]
        have hsub : (self.to_agent.map Reply.request ++ to_manager).Sublist self.line := by
          rw [hline]
          exact List.Sublist.append_left (List.sublist_cons_self _ _) _
        refine ⟨?_, fun awaited hawaited => ?_, hbacklog.ordered.sublist hsub, fun message hmessage =>
          hbacklog.bounded message (hsub.subset hmessage)⟩
        · exact (congrArg List.length hunread.symm).trans hbacklog.count
        · obtain ⟨hreplied, hlast⟩ := hbacklog.last awaited hawaited
          refine ⟨hreplied, getLast?_skip ?_ (hline ▸ hlast)⟩
          rintro rfl
          rw [hreplied] at hwaits
          cases hwaits
      | some e =>
        -- The message that asked for no reply stands in the line for the error.
        have hcount := hbacklog.count
        have hlast := hbacklog.last
        have hordered := hbacklog.ordered
        have hbounded := hbacklog.bounded
        rw [hunread, arrears, List.length_append] at hcount
        rw [hline] at hlast hordered hbounded
        refine ⟨?_, hlast, hordered, hbounded⟩
        change (self.to_agent.map Reply.request ++ request :: to_manager.filter Message.waits).length =
          self.acks + self.timeouts + (self.errors + 1) + self.task.awaited.toList.length
        rw [List.length_append, List.length_cons]
        omega
  · exact h

theorem Live.send_json (h : self.Live) : self.send_json.Live := by
  unfold MinimalLink.send_json
  split
  · rename_i reply hpayload hconnected
    refine ⟨fun _ => (h.backlog hconnected).congr ?_ ?_ rfl rfl rfl, fun hlost => ?_⟩
    · simp [unread, hpayload]
    · simp [line, hpayload]
    · change self.connected = false at hlost
      rw [hconnected] at hlost
      cases hlost
  · exact h

theorem Live.recv (h : self.Live) : self.recv.Live := by
  unfold MinimalLink.recv
  split
  · rename_i reply to_agent request harrived htask
    refine ⟨fun hconnected => ?_, fun hlost => ?_⟩
    · have hbacklog := h.backlog hconnected
      have hcount := hbacklog.count
      have hordered := hbacklog.ordered
      have hbounded := hbacklog.bounded
      simp only [unread, line, harrived, List.map_cons, List.cons_append] at hcount hordered hbounded
      refine ⟨?_, ?_, (List.pairwise_cons.mp hordered).2, fun message hmessage =>
        hbounded message (List.mem_cons_of_mem _ hmessage)⟩
      · rw [Task.awaited_run_commands]
        rw [htask] at hcount
        exact Nat.succ.inj hcount
      · rw [Task.awaited_run_commands]
        exact nofun
    · rw [h.lost hlost] at harrived
      cases harrived
  · exact h

theorem Live.timeout (h : self.Live) : self.timeout.Live := by
  unfold MinimalLink.timeout
  split
  · rename_i request htask
    refine ⟨fun hconnected => ?_, h.lost⟩
    have hbacklog := h.backlog hconnected
    have hcount := hbacklog.count
    rw [htask] at hcount
    refine ⟨?_, nofun, hbacklog.ordered, hbacklog.bounded⟩
    simp only [unread, arrears, Task.awaited_sleeping, Task.awaited_awaiting, Option.toList_none,
      Option.toList_some, List.length_nil, List.length_singleton] at hcount ⊢
    omega
  · exact h

theorem Live.execute (h : self.Live) (result : Except String CommandResult) (now : ℚ) :
    (self.execute result now).Live := by
  unfold MinimalLink.execute send
  split
  · rename_i cmd rest htask
    split
    · rename_i hconnected
      have hbacklog := h.backlog hconnected
      have hcount := hbacklog.count
      rw [htask] at hcount
      obtain ⟨hordered, hbounded⟩ := hbacklog.append
        ⟨self.sent, .COMMAND_ACK (.obj (WinAgentMinimal.ack_payload cmd.id cmd.action result now))⟩ rfl
      refine ⟨fun _ => ⟨?_, ?_, ?_, ?_⟩, h.lost⟩
      · have hwaits (payload : Json) : ([⟨self.sent, .COMMAND_ACK payload⟩] : List Message).filter Message.waits =
            [⟨self.sent, .COMMAND_ACK payload⟩] := rfl
        simp only [unread, arrears, Task.awaited_executing, Task.awaited_run_commands, List.filter_append, hwaits,
          List.length_append, Option.toList_none, List.length_nil, List.length_singleton] at hcount ⊢
        omega
      · rw [Task.awaited_run_commands]
        exact nofun
      · rw [line, line_append]
        exact hordered
      · rw [line, line_append]
        exact hbounded
    · rename_i hlost
      exact ⟨fun hconnected => absurd hconnected hlost, h.lost⟩
  · exact h

theorem Live.step (h : self.Live) (op : MinimalStep) : (self.step is_datetime agent_id op).Live := by
  cases op with
  | queue_command raw action =>
    rw [MinimalLink.step]
    split
    · exact ⟨fun hconnected => (h.backlog hconnected).congr rfl rfl rfl rfl rfl, h.lost⟩
    · exact h
  | connect => exact h.connect
  | disconnect => exact ⟨nofun, fun _ => rfl⟩
  | close =>
    rw [MinimalLink.step, MinimalLink.close]
    split
    · exact h
    · rename_i hlost
      exact ⟨fun hconnected => absurd hconnected hlost, h.lost⟩
  | send_heartbeat stats => exact h.send_heartbeat stats
  | send_no_wait => exact h.send_no_wait
  | handle now fault => exact h.handle is_datetime agent_id now fault
  | send_json => exact h.send_json
  | recv => exact h.recv
  | timeout => exact h.timeout
  | execute result now => exact h.execute result now

/-- The next reply answers the heartbeat that the agent waits for only if no reply is in arrears. -/
theorem Backlog.answers_iff (h : self.Backlog) {request : Message} {reply : Reply} {to_agent : List Reply}
    (htask : self.task = .awaiting request) (harrived : self.to_agent = reply :: to_agent) :
    reply.request = request ↔ self.arrears = 0 := by
  have hawaited : self.task.awaited = some request := by
    rw [htask]
    rfl
  have hcount := h.count
  have hordered := h.ordered
  obtain ⟨hreplied, hlast⟩ := h.last request hawaited
  rw [hawaited] at hcount
  simp only [line, unread, harrived, List.map_cons, List.cons_append, List.length_cons, Option.toList_some,
    List.length_nil] at hcount hordered hlast
  constructor
  · -- The last message has the largest number, so that it is the first only if it is alone.
    intro hrequest
    have halone : to_agent.map Reply.request ++ (self.response_payload.toList.map Reply.request ++ self.to_manager) =
        [] := by
      cases hrest : to_agent.map Reply.request ++ (self.response_payload.toList.map Reply.request ++
          self.to_manager) with
      | nil => rfl
      | cons next rest =>
        rw [hrest] at hlast hordered
        rw [List.getLast?_cons_cons] at hlast
        have hless := (List.pairwise_cons.mp hordered).1 request (List.mem_of_getLast? hlast)
        rw [hrequest] at hless
        exact absurd hless (lt_irrefl _)
    obtain ⟨hagent, hothers⟩ := List.append_eq_nil_iff.mp halone
    obtain ⟨hpayload, hmessages⟩ := List.append_eq_nil_iff.mp hothers
    rw [hagent, hpayload, hmessages] at hcount
    simpa using hcount.symm
  · intro hzero
    rw [hzero] at hcount
    have hnone : to_agent.map Reply.request ++ (self.response_payload.toList.map Reply.request ++
        self.to_manager.filter Message.waits) = [] := List.length_eq_zero_iff.mp (by omega)
    obtain ⟨hagent, hothers⟩ := List.append_eq_nil_iff.mp hnone
    obtain ⟨hpayload, hmessages⟩ := List.append_eq_nil_iff.mp hothers
    rw [hagent, hpayload, List.nil_append, List.nil_append] at hlast
    cases hmanager : self.to_manager with
    | nil =>
      rw [hmanager] at hlast
      exact Option.some.inj hlast
    | cons next rest =>
      rw [hmanager, List.getLast?_cons_cons] at hlast
      have hmem : request ∈ self.to_manager.filter Message.waits :=
        List.mem_filter.mpr ⟨hmanager ▸ List.mem_of_getLast? hlast, hreplied⟩
      rw [hmessages] at hmem
      cases hmem

end Backlog

/-- On a connection that has lasted, as many replies are unread as there were acknowledgements, waits without a reply
and errors that were not asked for, besides the one that is waited for. So the reply that is read next is the one to
the heartbeat that the agent waits for exactly if none of these has happened since the connection began. -/
theorem replies_in_arrears (is_datetime : Json → Bool) (agent_id : String) (db : Database)
    (steps : List MinimalStep) :
    let self := transition.run (step is_datetime agent_id) { db } steps
    self.connected = true →
      self.unread.length = self.acks + self.timeouts + self.errors + self.task.awaited.toList.length ∧
        ∀ request reply to_agent, self.task = .awaiting request → self.to_agent = reply :: to_agent →
          (reply.request = request ↔ self.acks + self.timeouts + self.errors = 0) := by
  intro self hconnected
  have hinit : ({ db } : MinimalLink).Live := ⟨nofun, fun _ => rfl⟩
  have hlive := transition.run_preserves (I := Live) (fun _ op h => Live.step is_datetime agent_id h op) hinit steps
  have hbacklog := hlive.backlog hconnected
  exact ⟨hbacklog.count, fun request reply to_agent htask harrived => hbacklog.answers_iff htask harrived⟩

/-- A command is executed, and the next heartbeat finds the reply to its acknowledgement. -/
theorem replies_in_arrears_second_heartbeat :
    let self := transition.run (step (fun _ => true) "web-1") { db := Database.one_agent }
      [.connect, .queue_command { id := "cmd_1", agent_id := "web-1" } "isolate",
        .send_heartbeat { agent_id := "web-1", timestamp := 1 }, .handle 1 none, .send_json, .recv,
        .execute (.ok { status := "success" }) 2, .send_heartbeat { agent_id := "web-1", timestamp := 3 },
        .handle 3 none, .send_json]
    self.unread.length = self.acks + self.timeouts + self.errors + self.task.awaited.toList.length ∧
      ∀ request reply to_agent, self.task = .awaiting request → self.to_agent = reply :: to_agent →
        (reply.request = request ↔ self.acks + self.timeouts + self.errors = 0) :=
  replies_in_arrears (fun _ => true) "web-1" Database.one_agent _ (by decide)

end MinimalLink

end larp
