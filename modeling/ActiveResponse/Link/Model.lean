import ActiveResponse.Agent.Commands
import ActiveResponse.System

namespace larp

/-- What an agent sends. The messages with `wait_ack` false are alike here: none of their handlers
replies, unless it raises. -/
inductive MessageBody where
  | HEARTBEAT (stats : HeartbeatDTO)
  | COMMAND_ACK (payload : Json)
  | no_wait

/-- A message on its way. The number, which the real message does not carry, tells it from every
other message of the connection. -/
structure Message where
  seq : ℕ
  body : MessageBody

/-- The agent waits for a reply to this message. -/
def Message.waits (self : Message) : Bool :=
  match self.body with
  | .no_wait => false
  | _ => true

inductive ReplyBody where
  | heartbeat (pending_commands : List Command)
  | ack (reply : Dict)
  | error (e : AppException)

/-- `response["pending_commands"]`, for the replies that have it. -/
def ReplyBody.pending_commands : ReplyBody → List Command
  | .heartbeat pending_commands => pending_commands
  | _ => []

/-- A reply, together with the message that it answers, which the real reply does not name. -/
structure Reply where
  request : Message
  body : ReplyBody

/-- Where the loop of `send_stats` stands. -/
inductive AgentTask where
  | sleeping
  | awaiting_heartbeat (request : Message)
  | executing (cmd : Command) (rest : List Command)
  | awaiting_ack (request : Message) (cmd : Command) (rest : List Command)

/-- `for cmd in response["pending_commands"]`. -/
def AgentTask.run_commands : List Command → AgentTask
  | [] => .sleeping
  | cmd :: rest => .executing cmd rest

/-- The commands that the loop has in hand, with the one whose acknowledgement is on its way. -/
def AgentTask.commands : AgentTask → List Command
  | .executing cmd rest | .awaiting_ack _ cmd rest => cmd :: rest
  | _ => []

/-- The commands that the loop has still to execute. -/
def AgentTask.unexecuted : AgentTask → List Command
  | .executing cmd rest => cmd :: rest
  | .awaiting_ack _ _ rest => rest
  | _ => []

/-- The request whose reply the loop waits for. -/
def AgentTask.awaited : AgentTask → Option Message
  | .awaiting_heartbeat request | .awaiting_ack request _ _ => some request
  | _ => none

@[simp] theorem AgentTask.commands_run_commands (cmds : List Command) :
    (AgentTask.run_commands cmds).commands = cmds := by
  cases cmds <;> rfl

@[simp] theorem AgentTask.unexecuted_run_commands (cmds : List Command) :
    (AgentTask.run_commands cmds).unexecuted = cmds := by
  cases cmds <;> rfl

@[simp] theorem AgentTask.awaited_run_commands (cmds : List Command) :
    (AgentTask.run_commands cmds).awaited = none := by
  cases cmds <;> rfl

theorem AgentTask.run_commands_ne (cmds : List Command) (request : Message) (cmd : Command)
    (rest : List Command) : AgentTask.run_commands cmds ≠ .awaiting_ack request cmd rest := by
  cases cmds <;> simp [run_commands]

/-- The manager's database and one agent with its connection. The last three fields record what
the waits of the agent returned, which commands the replies listed and which were executed. -/
structure Link where
  db : Database
  connected : Bool := true
  to_manager : List Message := []
  response_payload : Option Reply := none
  to_agent : List Reply := []
  task : AgentTask := .sleeping
  sent : ℕ := 0
  returned : List (Message × Reply) := []
  listed : List Command := []
  executed : List Command := []

inductive LinkStep where
  | queue_command (raw : RawCommand) (action : String)
  | connect
  | disconnect
  | send_heartbeat (stats : HeartbeatDTO)
  | send_no_wait
  | handle (now : Time) (fault : Option AppException)
  | send_json
  | recv
  | timeout
  | execute (host : Host) (now : Time)

/-- The handler of a message and the commit of its session. An exception rolls the session back
and is answered with an error, whether or not the agent waits for a reply. -/
def Database.respond (is_datetime : Json → Bool) (db : Database) (agent_id : String) (now : Time)
    (body : MessageBody) (fault : Option AppException) : Option ReplyBody × Database :=
  match fault, body with
  | some e, _ => (some (.error e), db)
  | none, .HEARTBEAT stats =>
    (some (.heartbeat (db.handle_heartbeat { stats with agent_id }).1),
      (db.handle_heartbeat { stats with agent_id }).2)
  | none, .COMMAND_ACK payload =>
    match handle_command_ack is_datetime db now agent_id payload with
    | .ok (reply, db') => (some (.ack reply), db')
    | .error e => (some (.error e), db)
  | none, .no_wait => (none, db)

/-- A message that the agent waits on is always answered. -/
theorem Database.respond_waits (is_datetime : Json → Bool) (db : Database) (agent_id : String) (now : Time)
    {request : Message} (fault : Option AppException) (h : request.waits = true) :
    ∃ body, (db.respond is_datetime agent_id now request.body fault).1 = some body := by
  unfold respond
  split
  · exact ⟨_, rfl⟩
  · exact ⟨_, rfl⟩
  · split <;> exact ⟨_, rfl⟩
  · rename_i hbody
    simp [Message.waits, hbody] at h

theorem Database.respond_no_wait (is_datetime : Json → Bool) (db : Database) (agent_id : String) (now : Time)
    {request : Message} (h : request.waits = false) :
    db.respond is_datetime agent_id now request.body none = (none, db) := by
  unfold Message.waits at h
  split at h
  · rename_i hbody
    rw [hbody]
    rfl
  · cases h

/-- Only the answer to a heartbeat carries commands: those that it has pulled. -/
theorem Database.respond_commands {is_datetime : Json → Bool} {db : Database} {agent_id : String} {now : Time}
    {body : MessageBody} {fault : Option AppException} {reply : ReplyBody}
    (h : (db.respond is_datetime agent_id now body fault).1 = some reply) (hcmds : reply.pending_commands ≠ []) :
    ∃ stats, body = .HEARTBEAT stats := by
  unfold respond at h
  split at h
  · cases h
    exact absurd rfl hcmds
  · exact ⟨_, rfl⟩
  · split at h
    · cases h
      exact absurd rfl hcmds
    · cases h
      exact absurd rfl hcmds
  · cases h

namespace Link

/-- The commands contained in replies that are on their way, or in hand of the agent. -/
def held (self : Link) : List Command :=
  self.to_agent.flatMap (·.body.pending_commands) ++
    self.response_payload.toList.flatMap (·.body.pending_commands) ++ self.task.commands

/-- Put a message on the wire. -/
def send (self : Link) (body : MessageBody) : Link :=
  { self with to_manager := self.to_manager ++ [⟨self.sent, body⟩], sent := self.sent + 1 }

def send_heartbeat (self : Link) (stats : HeartbeatDTO) : Link :=
  match self.task with
  | .sleeping =>
    { self.send (.HEARTBEAT stats) with task := .awaiting_heartbeat ⟨self.sent, .HEARTBEAT stats⟩ }
  | _ => self

/-- One round of the endpoint's loop up to `session.commit`. The reply is sent afterwards. -/
def handle (is_datetime : Json → Bool) (agent_id : String) (self : Link) (now : Time)
    (fault : Option AppException) : Link :=
  match self.response_payload, self.to_manager with
  | none, request :: to_manager =>
    { self with
      to_manager
      db := (self.db.respond is_datetime agent_id now request.body fault).2
      response_payload :=
        (self.db.respond is_datetime agent_id now request.body fault).1.map fun body => ⟨request, body⟩ }
  | _, _ => self

/-- `websocket.send_json(response_payload)`. -/
def send_json (self : Link) : Link :=
  match self.response_payload with
  | some reply =>
    { self with
      response_payload := none
      to_agent := self.to_agent ++ [reply]
      listed := self.listed ++ reply.body.pending_commands }
  | none => self

/-- `websocket.recv()` in `send_ws_json_and_wait`: the next reply, whichever message it answers. Only
the wait for a heartbeat looks at the commands in it. -/
def recv (self : Link) : Link :=
  match self.to_agent, self.task with
  | reply :: to_agent, .awaiting_heartbeat request =>
    { self with
      to_agent
      returned := self.returned ++ [(request, reply)]
      task := .run_commands reply.body.pending_commands }
  | reply :: to_agent, .awaiting_ack request _ rest =>
    { self with to_agent, returned := self.returned ++ [(request, reply)], task := .run_commands rest }
  | _, _ => self

/-- The wait ends with `None`. -/
def timeout (self : Link) : Link :=
  match self.task with
  | .awaiting_heartbeat _ => { self with task := .sleeping }
  | .awaiting_ack _ _ rest => { self with task := .run_commands rest }
  | _ => self

/-- One turn of the loop over the commands: execute the next one and send its acknowledgement. An
exception leaves the loop. -/
def execute (self : Link) (host : Host) (now : Time) : Link :=
  match self.task with
  | .executing cmd rest =>
    match execute_command host cmd.action cmd.payload with
    | .ok result =>
      { self.send (.COMMAND_ACK (command_ack cmd.id result now)) with
        task := .awaiting_ack ⟨self.sent, .COMMAND_ACK (command_ack cmd.id result now)⟩ cmd rest
        executed := self.executed ++ [cmd] }
    | .error _ => { self with task := .sleeping, executed := self.executed ++ [cmd] }
  | _ => self

/-- The steps that need the connection. -/
def connected_step (is_datetime : Json → Bool) (agent_id : String) (self : Link) : LinkStep → Link
  | .send_heartbeat stats => self.send_heartbeat stats
  | .send_no_wait => self.send .no_wait
  | .handle now fault => self.handle is_datetime agent_id now fault
  | .send_json => self.send_json
  | .recv => self.recv
  | .timeout => self.timeout
  | .execute host now => self.execute host now
  | _ => self

/-- A connection that breaks loses what is on its way in both directions, and the agent drops what
it was doing. -/
def step (is_datetime : Json → Bool) (agent_id : String) (self : Link) : LinkStep → Link
  | .queue_command raw action =>
    match self.db.add_command (raw.command action) with
    | .ok db => { self with db }
    | .error _ => self
  | .connect => { self with connected := true }
  | .disconnect =>
    { self with
      connected := false, to_manager := [], response_payload := none, to_agent := [], task := .sleeping }
  | op => if self.connected then self.connected_step is_datetime agent_id op else self

/-- Without a connection the steps that need one do nothing. -/
theorem when_connected {is_datetime : Json → Bool} {agent_id : String} {self : Link} {P : Link → Prop}
    {op : LinkStep} (h : P self) (hop : self.connected = true → P (self.connected_step is_datetime agent_id op)) :
    P (if self.connected then self.connected_step is_datetime agent_id op else self) := by
  split
  · rename_i hconnected
    exact hop hconnected
  · exact h

end Link

end larp
