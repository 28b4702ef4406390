import ActiveResponse.Lib.Locks
import ActiveResponse.Lib.OneShot
import ActiveResponse.System

namespace larp

/-- The columns of the record that differ from those of a copy. A session writes nothing if there are none. -/
def Agent.differs (self copy : Agent) : Bool :=
  self.hostname ≠ copy.hostname ∨ self.ip_address ≠ copy.ip_address ∨ self.mac_address ≠ copy.mac_address ∨
    self.status ≠ copy.status ∨ self.cpu ≠ copy.cpu ∨ self.ram ≠ copy.ram ∨ self.disk ≠ copy.disk ∨
    self.last_seen ≠ copy.last_seen

/-- The `UPDATE` of a record that was loaded as `self` and changed to `value`. -/
def Agent.write_changes (self value row : Agent) : Agent :=
  { row with
    hostname := assign (· = ·) self.hostname value.hostname row.hostname
    ip_address := assign (· = ·) self.ip_address value.ip_address row.ip_address
    mac_address := assign (· = ·) self.mac_address value.mac_address row.mac_address
    status := assign (· = ·) self.status value.status row.status
    cpu := assign (· = ·) self.cpu value.cpu row.cpu
    ram := assign (· = ·) self.ram value.ram row.ram
    disk := assign (· = ·) self.disk value.disk row.disk
    last_seen := assign (· = ·) self.last_seen value.last_seen row.last_seen }

@[simp] theorem Agent.key_write_changes (self value row : Agent) :
    Keyed.key (self.write_changes value row) = Keyed.key row := rfl

/-- How far the handler of a heartbeat has come. The commands that it has pulled are kept with the
count of their episodes at that moment. -/
inductive PullPhase where
  | loaded
  | refreshed
  | pulled (cmds : List Command) (episode : String → ℕ)
  | sent (cmds : List Command) (episode : String → ℕ)

/-- A heartbeat that is being handled, and the record of its agent as its session has loaded it. -/
structure HeartbeatCall where
  dto : HeartbeatDTO
  agent : Option Agent
  phase : PullPhase := .loaded

namespace HeartbeatCall

/-- The heartbeat inserts the record of its agent, or updates it. -/
def changes_agent (self : HeartbeatCall) : Bool :=
  match self.agent with
  | some agent => (self.dto.refresh agent).differs agent
  | none => true

def write_agent (self : HeartbeatCall) (db : Database) : Database :=
  match self.agent with
  | some agent => { db with agents := db.agents.modify agent.id (agent.write_changes (self.dto.refresh agent)) }
  | none =>
    match db.agents.insert (self.dto.refresh self.dto.agent) with
    | some agents => { db with agents }
    | none => db

/-- The commands that the response will carry. -/
def cmds (self : HeartbeatCall) : List Command :=
  match self.phase with
  | .pulled cmds _ | .sent cmds _ => cmds
  | _ => []

/-- The episodes of these commands. -/
def tokens (self : HeartbeatCall) : List (String × ℕ) :=
  match self.phase with
  | .pulled cmds episode | .sent cmds episode => cmds.map fun cmd => (cmd.id, episode cmd.id)
  | _ => []

end HeartbeatCall

namespace Database

def is_pending (db : Database) (id : String) : Bool :=
  (db.commands.get id).any fun cmd => cmd.status = .PENDING

/-- `UPDATE commands SET status = 'SENT'` of the commands with these ids. -/
def mark_sent (db : Database) (ids : List String) : Database :=
  { db with
    commands := db.commands.update (fun cmd => if cmd.id ∈ ids then cmd.send_to_agent else cmd)
      (by intro cmd; split <;> rfl) }

end Database

/-- The commands stay, each with its agent. -/
def Database.KeepsCommands (db db' : Database) : Prop :=
  ∀ id cmd, db.commands.get id = some cmd → ∃ cmd', db'.commands.get id = some cmd' ∧ cmd'.agent_id = cmd.agent_id

private theorem keepsCommands_of_eq {db db' : Database} (h : db'.commands = db.commands) : db.KeepsCommands db' :=
  fun _ cmd hget => ⟨cmd, by rw [h, hget], rfl⟩

private theorem keepsCommands_of_rows {db db' : Database} {new : List Command}
    (h : db'.commands.rows = db.commands.rows ++ new) : db.KeepsCommands db' := by
  intro id cmd hget
  refine ⟨cmd, ?_, rfl⟩
  rw [Table.get_eq_some_iff] at hget ⊢
  rw [h]
  exact hget.imp_left (List.mem_append_left new)

private theorem keepsCommands_of_update {db db' : Database} {f : Command → Command}
    (hf : ∀ cmd, Keyed.key (f cmd) = Keyed.key cmd) (hagent : ∀ cmd, (f cmd).agent_id = cmd.agent_id)
    (h : db'.commands = db.commands.update f hf) : db.KeepsCommands db' := by
  intro id cmd hget
  exact ⟨f cmd, by rw [h, Table.get_update, hget]; rfl, hagent cmd⟩

theorem Effect.keepsCommands {is_datetime : Json → Bool} {db db' : Database} {op : Op}
    {result : Except AppException String} (h : Effect is_datetime db op (result, db')) : db.KeepsCommands db' := by
  cases h with
  | refused e | unknown_ack | swept | recorded => exact keepsCommands_of_eq rfl
  | created hagent haction hcommand => exact keepsCommands_of_rows (Table.insert_eq_some_iff.mp hcommand).2
  | queued hagent hcommand => exact keepsCommands_of_rows (Table.insert_eq_some_iff.mp hcommand).2
  | written hop hagent hcommand => exact keepsCommands_of_rows (Table.insert_eq_some_iff.mp hcommand).2
  | undo_failed hget happlied hcooldown hcommands => exact keepsCommands_of_rows hcommands.rows
  | undone hget happlied hcooldown hcommands => exact keepsCommands_of_rows hcommands.rows
  | @acked now agent_id payload dto target action logs hack =>
    intro id cmd hget
    have htarget := (Database.resolve_ack_some hack).2.1
    simp only [Table.get_put]
    split
    · rename_i hid
      have hkey : target.id = id := by simpa [Keyed.key] using hid
      have hsame : cmd = target := by
        have hrow := Table.get_of_mem (Table.get_mem htarget)
        rw [show Keyed.key target = target.id from rfl, hkey, hget] at hrow
        exact Option.some.inj hrow
      subst hsame
      exact ⟨_, by rw [hget]; rfl, Command.acked_agent_id ..⟩
    · exact ⟨cmd, hget, rfl⟩
  | @heartbeat dto =>
    refine keepsCommands_of_update (fun cmd => ?_) (fun cmd => ?_)
      (show (db.handle_heartbeat dto).2.commands = db.commands.update (fun cmd =>
        if cmd.agent_id = dto.agent_id ∧ cmd.status = .PENDING then cmd.send_to_agent else cmd) _ by
          simp only [Database.handle_heartbeat, Database.pull_pending_commands, Database.update_heartbeat_commands])
    · split <;> rfl
    · split <;> rfl

/-- The sessions that handle heartbeats, with the row locks that they hold until their transactions
end. The writes of a session are those of its call, which become visible with the commit. An
episode of a command starts when the command becomes pending. -/
structure HeartbeatSessions where
  db : Database
  agent_locks : Locks String ℕ := Locks.free
  command_locks : Locks String ℕ := Locks.free
  calls : ℕ → Option HeartbeatCall := fun _ => none
  episode : String → ℕ := fun _ => 0
  handed_out : List (String × ℕ) := []
  responses : List (List Command) := []

inductive HeartbeatStep where
  | get_agent (sid : ℕ) (dto : HeartbeatDTO)
  | flush_agent (sid : ℕ)
  | get_pending (sid : ℕ)
  | flush_commands (sid : ℕ)
  | commit (sid : ℕ)
  | fail (sid : ℕ)
  | post_heartbeat (dto : HeartbeatDTO)
  | other (call : Call)

/-- The session that takes the step, if it is one of these. -/
def HeartbeatStep.session : HeartbeatStep → Option ℕ
  | .get_agent sid _ | .flush_agent sid | .get_pending sid | .flush_commands sid | .commit sid | .fail sid => some sid
  | .post_heartbeat _ | .other _ => none

namespace HeartbeatSessions

def set_call (self : HeartbeatSessions) (sid : ℕ) (call : Option HeartbeatCall) : HeartbeatSessions :=
  { self with calls := Function.update self.calls sid call }

/-- The end of a transaction. -/
def release (self : HeartbeatSessions) (sid : ℕ) : HeartbeatSessions :=
  { self.set_call sid none with
    agent_locks := self.agent_locks.release_all sid
    command_locks := self.command_locks.release_all sid }

/-- The database after a transaction, with the episodes that start there. -/
def set_db (self : HeartbeatSessions) (db : Database) : HeartbeatSessions :=
  { self with
    db
    episode := fun id =>
      if db.is_pending id ∧ ¬ self.db.is_pending id then self.episode id + 1 else self.episode id }

/-- A statement of the call that the session is in. -/
def resume (self : HeartbeatSessions) (sid : ℕ) (next : HeartbeatCall → HeartbeatSessions) : HeartbeatSessions :=
  match self.calls sid with
  | some call => next call
  | none => self

/-- The `UPDATE` of the record waits for its lock. A record that another session has inserted
meanwhile ends the transaction. -/
def flush_agent (self : HeartbeatSessions) (sid : ℕ) (call : HeartbeatCall) : HeartbeatSessions :=
  match call.phase with
  | .loaded =>
    if ¬ call.changes_agent then self.set_call sid (some { call with phase := .refreshed })
    else if ¬ self.agent_locks.available sid call.dto.agent_id then self
    else if call.agent.isNone ∧ (self.db.agents.get call.dto.agent_id).isSome then self.release sid
    else
      { self.set_call sid (some { call with phase := .refreshed }) with
        agent_locks := self.agent_locks.acquire sid call.dto.agent_id }
  | _ => self

def get_pending (self : HeartbeatSessions) (sid : ℕ) (call : HeartbeatCall) : HeartbeatSessions :=
  match call.phase with
  | .refreshed =>
    self.set_call sid (some { call with
      phase := .pulled (self.db.get_pending_by_agent call.dto.agent_id) self.episode })
  | _ => self

/-- The `UPDATE` of the commands waits for their locks. -/
def flush_commands (self : HeartbeatSessions) (sid : ℕ) (call : HeartbeatCall) : HeartbeatSessions :=
  match call.phase with
  | .pulled cmds episode =>
    if ∀ cmd ∈ cmds, self.command_locks.available sid cmd.id then
      { self.set_call sid (some { call with phase := .sent cmds episode }) with
        command_locks := cmds.foldl (fun locks cmd => locks.acquire sid cmd.id) self.command_locks }
    else self
  | _ => self

/-- The commit, after which the response is sent. -/
def commit (self : HeartbeatSessions) (sid : ℕ) (call : HeartbeatCall) : HeartbeatSessions :=
  match call.phase with
  | .sent cmds _ =>
    { (self.set_db ((call.write_agent self.db).mark_sent (cmds.map Command.id))).release sid with
      handed_out := self.handed_out ++ call.tokens
      responses := self.responses ++ [cmds.map Command.send_to_agent] }
  | _ => self

variable (is_datetime : Json → Bool)

/-- The steps of the sessions. A step that does not come next in its session has no effect. -/
def step (self : HeartbeatSessions) : HeartbeatStep → HeartbeatSessions
  | .get_agent sid dto =>
    if (self.calls sid).isSome then self
    else self.set_call sid (some { dto, agent := self.db.agents.get dto.agent_id })
  | .flush_agent sid => self.resume sid (self.flush_agent sid)
  | .get_pending sid => self.resume sid (self.get_pending sid)
  | .flush_commands sid => self.resume sid (self.flush_commands sid)
  | .commit sid => self.resume sid (self.commit sid)
  | .fail sid => self.release sid
  | .post_heartbeat dto => self.set_db (self.db.update_heartbeat dto)
  | .other call =>
    match call.op with
    | .heartbeat _ => self
    | _ => self.set_db (self.db.step is_datetime call)

/-- A step of one session leaves the calls of the others alone. -/
theorem calls_step_of_ne {self : HeartbeatSessions} {op : HeartbeatStep} {other : ℕ}
    (h : op.session ≠ some other) : (self.step is_datetime op).calls other = self.calls other := by
  have hset : ∀ {sid : ℕ} (call : Option HeartbeatCall), some sid ≠ some other →
      (self.set_call sid call).calls other = self.calls other :=
    fun call hne => Function.update_of_ne (fun heq => hne (congrArg some heq.symm)) ..
  cases op with
  | get_agent sid dto =>
    simp only [step]
    split
    · rfl
    · exact hset _ h
  | flush_agent sid =>
    simp only [step, resume]
    split
    · unfold flush_agent
      split
      · split
        · exact hset _ h
        · split
          · rfl
          · split <;> exact hset _ h
      · rfl
    · rfl
  | get_pending sid =>
    simp only [step, resume]
    split
    · unfold get_pending
      split
      · exact hset _ h
      · rfl
    · rfl
  | flush_commands sid =>
    simp only [step, resume]
    split
    · unfold flush_commands
      split
      · split
        · exact hset _ h
        · rfl
      · rfl
    · rfl
  | commit sid =>
    simp only [step, resume]
    split
    · unfold commit
      split
      · exact hset none h
      · rfl
    · rfl
  | fail sid => exact hset none h
  | post_heartbeat dto => rfl
  | other call =>
    simp only [step]
    split <;> rfl

/-- Every pending episode of a command has been handed out in at most one response. -/
def DeliveredOnce (self : HeartbeatSessions) : Prop :=
  self.handed_out.Nodup

/-- The condition on a step. Two pulls that read commands of the same agent overlap only if both
heartbeats have changed its record. -/
def Serialized (self : HeartbeatSessions) : HeartbeatStep → Prop
  | .get_pending sid => ∀ call, self.calls sid = some call → call.phase = .refreshed →
      self.db.get_pending_by_agent call.dto.agent_id ≠ [] →
      ∀ other ≠ sid, ∀ call', self.calls other = some call' → call'.dto.agent_id = call.dto.agent_id →
        call'.cmds ≠ [] → call.changes_agent ∧ call'.changes_agent
  | _ => True

@[simp] theorem commands_write_agent (call : HeartbeatCall) (db : Database) :
    (call.write_agent db).commands = db.commands := by
  unfold HeartbeatCall.write_agent
  split
  · rfl
  · split <;> rfl

private theorem write_agent_loaded {dto : HeartbeatDTO} {db : Database} {phase : PullPhase} :
    ({ dto, agent := db.agents.get dto.agent_id, phase } : HeartbeatCall).write_agent db = db.update_heartbeat dto := by
  unfold HeartbeatCall.write_agent Database.update_heartbeat
  cases hget : db.agents.get dto.agent_id with
  | none => rfl
  | some agent =>
    have hagent : db.agents.get agent.id = some agent := Table.get_of_mem (Table.get_mem hget)
    have hwritten : agent.write_changes (dto.refresh agent) agent = dto.refresh agent := by
      simp only [Agent.write_changes, assign_loaded]
      rfl
    simp only [Table.modify, hagent, hwritten]

private theorem mark_sent_pending (db : Database) (agent_id : String) :
    db.mark_sent ((db.get_pending_by_agent agent_id).map Command.id) = (db.pull_pending_commands agent_id).2 := by
  simp only [Database.mark_sent, Database.pull_pending_commands]
  congr 1
  refine Table.ext_rows (List.map_congr_left fun cmd hcmd => ?_)
  have hiff : cmd.id ∈ (db.get_pending_by_agent agent_id).map Command.id ↔
      cmd.agent_id = agent_id ∧ cmd.status = .PENDING := by
    simp only [Database.get_pending_by_agent, List.mem_map, List.mem_filter, decide_eq_true_eq]
    constructor
    · rintro ⟨other, ⟨hother, hpending⟩, hid⟩
      have hget : db.commands.get cmd.id = some cmd := Table.get_of_mem hcmd
      have hsame : db.commands.get other.id = some other := Table.get_of_mem hother
      rw [hid, hget] at hsame
      cases hsame
      exact hpending
    · exact fun hpending => ⟨cmd, ⟨hcmd, hpending⟩, rfl⟩
  simp only [hiff]

private theorem flush_loaded (self : HeartbeatSessions) (sid : ℕ) (dto : HeartbeatDTO)
    (hagent : self.agent_locks.available sid dto.agent_id) :
    ∃ agent_locks, (self.set_call sid (some { dto, agent := self.db.agents.get dto.agent_id })).flush_agent sid
        { dto, agent := self.db.agents.get dto.agent_id } =
      { self.set_call sid (some { dto, agent := self.db.agents.get dto.agent_id, phase := .refreshed }) with
        agent_locks } := by
  have hfound : ¬ ((self.db.agents.get dto.agent_id).isNone ∧ (self.db.agents.get dto.agent_id).isSome) := by
    cases self.db.agents.get dto.agent_id <;> simp
  simp only [flush_agent, set_call, Function.update_idem]
  split
  · exact ⟨self.agent_locks, rfl⟩
  · exact ⟨_, rfl⟩

/-- The statements of one heartbeat. -/
def heartbeat_steps (sid : ℕ) (dto : HeartbeatDTO) : List HeartbeatStep :=
  [.get_agent sid dto, .flush_agent sid, .get_pending sid, .flush_commands sid, .commit sid]

/-- A session that has to wait for no other one handles its heartbeat. -/
theorem handle_heartbeat_alone (self : HeartbeatSessions) (sid : ℕ) (dto : HeartbeatDTO)
    (hidle : self.calls sid = none) (hagent : self.agent_locks.available sid dto.agent_id)
    (hcommands : ∀ cmd ∈ self.db.get_pending_by_agent dto.agent_id, self.command_locks.available sid cmd.id) :
    (transition.run (step is_datetime) self (heartbeat_steps sid dto)).db = (self.db.handle_heartbeat dto).2 ∧
      (transition.run (step is_datetime) self (heartbeat_steps sid dto)).responses =
        self.responses ++ [(self.db.handle_heartbeat dto).1] := by
  obtain ⟨agent_locks, hflush⟩ := flush_loaded self sid dto hagent
  have hpending : (self.db.update_heartbeat dto).get_pending_by_agent dto.agent_id =
      self.db.get_pending_by_agent dto.agent_id := by
    simp only [Database.get_pending_by_agent, Database.update_heartbeat_commands]
  have hloaded : (self.step is_datetime (.get_agent sid dto)).step is_datetime (.flush_agent sid) =
      { self.set_call sid (some { dto, agent := self.db.agents.get dto.agent_id, phase := .refreshed }) with
        agent_locks } := by
    rw [← hflush]
    simp [step, hidle, resume, set_call]
  rw [← hpending] at hcommands
  simp only [heartbeat_steps, transition.run_cons, transition.run_nil, hloaded]
  simp only [step, resume, get_pending, flush_commands, commit, set_call, Function.update_self, if_pos hcommands,
    release, set_db, write_agent_loaded, ← hpending, mark_sent_pending]
  exact ⟨rfl, rfl⟩

/-! ## The pending commands as tokens -/

def tokens_of (call : Option HeartbeatCall) : List (String × ℕ) :=
  (call.map HeartbeatCall.tokens).getD []

/-- The episodes of the commands are claimed by the query of a pull, and used and spent by its commit. -/
def one_shot (self : HeartbeatSessions) : OneShot ℕ String where
  episode := self.episode
  spent := fun id => ¬ self.db.is_pending id
  claims := tokens_of ∘ self.calls
  owed := fun _ => []
  used := self.handed_out

/-- The sessions refine the tokens: a step is a run of allowed steps of these. -/
def Refines (self next : HeartbeatSessions) : Prop :=
  ∃ ops, transition.Along OneShot.step OneShot.Allowed self.one_shot ops ∧
    next.one_shot = transition.run OneShot.step self.one_shot ops

variable {self : HeartbeatSessions} {sid : ℕ} {call : HeartbeatCall}

private theorem resume_cases {next : HeartbeatCall → HeartbeatSessions} {P : HeartbeatSessions → Prop}
    (hcall : ∀ call, self.calls sid = some call → P (next call)) (hidle : P self) : P (self.resume sid next) := by
  unfold resume
  split
  · rename_i call hcalls
    exact hcall call hcalls
  · exact hidle

private theorem claims_set_call (call : Option HeartbeatCall) :
    tokens_of ∘ (self.set_call sid call).calls = Function.update (tokens_of ∘ self.calls) sid (tokens_of call) := by
  simp only [set_call, Function.comp_update]

/-- A call that goes on with the commands that it has pulled, if any. -/
private theorem claims_next (hcall : self.calls sid = some call) {next : HeartbeatCall}
    (htokens : next.tokens = call.tokens) :
    tokens_of ∘ (self.set_call sid (some next)).calls = tokens_of ∘ self.calls := by
  rw [claims_set_call, Function.update_eq_self_iff]
  simp [tokens_of, hcall, htokens]

private theorem one_shot_next (hcall : self.calls sid = some call) {next : HeartbeatCall}
    (htokens : next.tokens = call.tokens) : (self.set_call sid (some next)).one_shot = self.one_shot := by
  simp only [one_shot, claims_next hcall htokens]
  rfl

/-- A transaction that is rolled back gives up the commands that it has pulled. -/
private theorem refines_release (self : HeartbeatSessions) (sid : ℕ) : self.Refines (self.release sid) := by
  refine transition.Reaches.of_step (.release sid) (by simp [OneShot.Allowed, one_shot]) ?_
  simp only [one_shot, release, claims_set_call, OneShot.step, OneShot.mk.injEq, tokens_of, Option.map_none,
    Option.getD_none, true_and]
  exact ⟨rfl, rfl, (Function.update_eq_self_iff.mpr rfl).symm, rfl⟩

private theorem refines_set_db (self : HeartbeatSessions) (db : Database) : self.Refines (self.set_db db) := by
  refine transition.Reaches.of_step (.renew (fun id => db.is_pending id ∧ ¬ self.db.is_pending id)
    fun id => ¬ db.is_pending id) (fun id hspent => ?_) ?_
  · by_cases hpending : db.is_pending id
    · exact Or.inl (by simpa [hpending, one_shot] using hspent)
    · exact Or.inr hpending
  · simp [one_shot, set_db, OneShot.step]

private theorem refines_flush_agent (hcall : self.calls sid = some call) :
    self.Refines (self.flush_agent sid call) := by
  unfold flush_agent
  split
  · rename_i hphase
    have htokens : ({ call with phase := .refreshed } : HeartbeatCall).tokens = call.tokens := by
      simp [HeartbeatCall.tokens, hphase]
    split
    · exact transition.Reaches.of_eq (one_shot_next hcall htokens)
    · split
      · exact transition.Reaches.of_eq rfl
      · split
        · exact refines_release self sid
        · exact transition.Reaches.of_eq (one_shot_next hcall htokens)
  · exact transition.Reaches.of_eq rfl

private theorem refines_flush_commands (hcall : self.calls sid = some call) :
    self.Refines (self.flush_commands sid call) := by
  unfold flush_commands
  split
  · rename_i cmds episode hphase
    split
    · exact transition.Reaches.of_eq (one_shot_next hcall (by simp [HeartbeatCall.tokens, hphase]))
    · exact transition.Reaches.of_eq rfl
  · exact transition.Reaches.of_eq rfl

theorem is_pending_mark_sent (db : Database) (ids : List String) (id : String) :
    (db.mark_sent ids).is_pending id = (db.is_pending id && decide (id ∉ ids)) := by
  simp only [Database.is_pending, Database.mark_sent, Table.get_update, Option.any_map]
  cases hget : db.commands.get id with
  | none => rfl
  | some cmd =>
    have hkey : cmd.id = id := Table.key_of_get hget
    by_cases hmem : id ∈ ids
    · simp [hkey, hmem, Command.send_to_agent]
    · simp [hkey, hmem]

private theorem refines_commit (hcall : self.calls sid = some call) : self.Refines (self.commit sid call) := by
  unfold commit
  split
  · rename_i cmds episode hphase
    have htokens : call.tokens = cmds.map fun cmd => (cmd.id, episode cmd.id) := by
      simp [HeartbeatCall.tokens, hphase]
    have hclaims : self.one_shot.claims sid = call.tokens := by simp [one_shot, tokens_of, hcall]
    have hpending : ∀ id, ((call.write_agent self.db).mark_sent (cmds.map Command.id)).is_pending id =
        (self.db.is_pending id && decide (id ∉ cmds.map Command.id)) := by
      intro id
      rw [is_pending_mark_sent, Database.is_pending, commands_write_agent, Database.is_pending]
    refine ⟨[.use sid, .settle sid], ⟨rfl, trivial, trivial⟩, ?_⟩
    simp only [transition.run_cons, transition.run_nil, OneShot.step, hclaims]
    simp only [one_shot, release, set_db, set_call, Function.comp_update, OneShot.mk.injEq, Function.update_self,
      Function.update_idem, and_true]
    refine ⟨funext fun id => if_neg ?_, funext fun id => propext ?_, rfl, ?_⟩
    · rw [hpending]
      simp +contextual
    · rw [hpending, htokens]
      by_cases hsent : id ∈ cmds.map Command.id
      · obtain ⟨cmd, hcmd, rfl⟩ := List.mem_map.mp hsent
        simp only [hsent, List.mem_map, Prod.mk.injEq]
        simp only [not_true_eq_false, decide_false, Bool.and_false, Bool.false_eq_true, not_false_eq_true, true_iff]
        exact Or.inr ⟨_, cmd, hcmd, rfl, rfl⟩
      · have hother : ¬ ∃ n, (id, n) ∈ cmds.map fun cmd => (cmd.id, episode cmd.id) := by
          rintro ⟨n, hn⟩
          obtain ⟨cmd, hcmd, heq⟩ := List.mem_map.mp hn
          exact hsent (List.mem_map.mpr ⟨cmd, hcmd, (Prod.mk.inj heq).1⟩)
        rw [or_iff_left hother, decide_eq_true hsent, Bool.and_true]
    · exact (Function.update_eq_self_iff.mpr rfl).symm
  · exact transition.Reaches.of_eq rfl

/-- A heartbeat that has changed the record of its agent holds the lock of the record. -/
def Locked (self : HeartbeatSessions) : Prop :=
  ∀ sid call, self.calls sid = some call → call.phase ≠ .loaded → call.changes_agent →
    self.agent_locks call.dto.agent_id = some sid

/-- The commands that a session has pulled are commands of its agent. -/
def Own (self : HeartbeatSessions) : Prop :=
  ∀ sid call, self.calls sid = some call → ∀ cmd ∈ call.cmds,
    ∃ row, self.db.commands.get cmd.id = some row ∧ row.agent_id = call.dto.agent_id

private theorem mem_tokens {t : String × ℕ} (h : t ∈ call.tokens) : ∃ cmd ∈ call.cmds, cmd.id = t.1 := by
  unfold HeartbeatCall.tokens at h
  unfold HeartbeatCall.cmds
  cases hphase : call.phase with
  | loaded | refreshed =>
    rw [hphase] at h
    cases h
  | pulled cmds episode | sent cmds episode =>
    rw [hphase] at h
    obtain ⟨cmd, hcmd, rfl⟩ := List.mem_map.mp h
    exact ⟨cmd, hcmd, rfl⟩

private theorem pending_of_mem {db : Database} {agent_id : String} {cmd : Command}
    (h : cmd ∈ db.get_pending_by_agent agent_id) :
    db.commands.get cmd.id = some cmd ∧ cmd.agent_id = agent_id ∧ cmd.status = .PENDING := by
  simp only [Database.get_pending_by_agent, List.mem_filter, decide_eq_true_eq] at h
  exact ⟨Table.get_of_mem h.1, h.2⟩

/-- The query of a pull claims commands that no other session has pulled: the locks of the record keep the
heartbeats of the agent apart. -/
private theorem refines_get_pending (hlocked : self.Locked) (hown : self.Own) (hcall : self.calls sid = some call)
    (hserialized : self.Serialized (.get_pending sid)) : self.Refines (self.get_pending sid call) := by
  unfold get_pending
  split
  · rename_i hphase
    refine transition.Reaches.of_step (.claim sid ((self.db.get_pending_by_agent call.dto.agent_id).map Command.id))
      ⟨?_, fun id hid => ?_⟩ ?_
    · exact List.Nodup.sublist (List.filter_sublist.map Command.id) self.db.commands.nodup
    · obtain ⟨cmd, hcmd, rfl⟩ := List.mem_map.mp hid
      obtain ⟨hget, hagent, hstatus⟩ := pending_of_mem hcmd
      refine ⟨by simp [one_shot, Database.is_pending, hget, hstatus], by simp [one_shot], fun other hne => ?_⟩
      refine ⟨fun hclaimed => ?_, by simp [one_shot]⟩
      cases hother : self.calls other with
      | none => simp [one_shot, tokens_of, hother] at hclaimed
      | some call' =>
        have htoken : self.one_shot.token cmd.id ∈ call'.tokens := by
          simpa [one_shot, tokens_of, hother] using hclaimed
        obtain ⟨pulled, hpulled, hid'⟩ := mem_tokens htoken
        obtain ⟨row, hrow, hrow_agent⟩ := hown other call' hother pulled hpulled
        rw [hid', show (self.one_shot.token cmd.id).1 = cmd.id from rfl, hget] at hrow
        cases hrow
        have hsame : call'.dto.agent_id = call.dto.agent_id := hrow_agent.symm.trans hagent
        have hsome := List.ne_nil_of_mem hpulled
        have hflushed' : call'.phase ≠ .loaded := by
          intro hloaded
          simp [HeartbeatCall.cmds, hloaded] at hpulled
        obtain ⟨hchanged, hchanged'⟩ := hserialized call hcall hphase (List.ne_nil_of_mem hcmd) other hne call'
          hother hsame hsome
        have hlock := hlocked sid call hcall (by simp [hphase]) hchanged
        have hlock' := hlocked other call' hother hflushed' hchanged'
        rw [hsame, hlock] at hlock'
        exact hne (Option.some.inj hlock').symm
    · simp only [one_shot, claims_set_call, OneShot.step, OneShot.mk.injEq, true_and]
      refine ⟨rfl, rfl, ?_, rfl⟩
      simp [tokens_of, HeartbeatCall.tokens, OneShot.token, Function.comp_def]
  · exact transition.Reaches.of_eq rfl

private theorem Locked.set_call (h : self.Locked) {next : HeartbeatCall}
    (hnext : next.phase ≠ .loaded → next.changes_agent → self.agent_locks next.dto.agent_id = some sid) :
    (self.set_call sid (some next)).Locked := by
  intro other call' hother hphase hchanged
  by_cases hne : other = sid
  · subst hne
    obtain rfl : next = call' := by simpa [HeartbeatSessions.set_call] using hother
    exact hnext hphase hchanged
  · exact h other call' (by simpa [HeartbeatSessions.set_call, Function.update_of_ne hne] using hother) hphase hchanged

private theorem Locked.release (h : self.Locked) (sid : ℕ) : (self.release sid).Locked := by
  intro other call' hother hphase hchanged
  by_cases hne : other = sid
  · subst hne
    simp [HeartbeatSessions.release, HeartbeatSessions.set_call] at hother
  · have hcall : self.calls other = some call' := by
      simpa [HeartbeatSessions.release, HeartbeatSessions.set_call, Function.update_of_ne hne] using hother
    exact Locks.release_all_of_ne (h other call' hcall hphase hchanged) hne

private theorem Locked.flush_agent (h : self.Locked) (hcall : self.calls sid = some call) :
    (self.flush_agent sid call).Locked := by
  unfold HeartbeatSessions.flush_agent
  split
  · split
    · rename_i hunchanged
      exact h.set_call fun _ hchanged => absurd hchanged hunchanged
    · split
      · exact h
      · rename_i havailable
        rw [not_not] at havailable
        split
        · exact h.release sid
        · intro other call' hother hphase hchanged
          by_cases hne : other = sid
          · subst hne
            obtain rfl : { call with phase := .refreshed } = call' := by
              simpa [HeartbeatSessions.set_call] using hother
            exact Locks.acquire_self ..
          · have hold := h other call'
              (by simpa [HeartbeatSessions.set_call, Function.update_of_ne hne] using hother) hphase hchanged
            -- The lock was free, so that no other session holds it.
            have hkey : call'.dto.agent_id ≠ call.dto.agent_id := by
              intro heq
              exact hne (havailable other (heq ▸ hold))
            simpa [Locks.acquire_of_ne _ _ hkey] using hold
  · exact h

private theorem Locked.step (h : self.Locked) (op : HeartbeatStep) : (self.step is_datetime op).Locked := by
  cases op with
  | get_agent sid dto =>
    simp only [HeartbeatSessions.step]
    split
    · exact h
    · exact h.set_call fun hphase => absurd rfl hphase
  | flush_agent sid => exact resume_cases (fun call hcall => h.flush_agent hcall) h
  | get_pending sid =>
    refine resume_cases (fun call hcall => ?_) h
    unfold HeartbeatSessions.get_pending
    split
    · rename_i hphase
      exact h.set_call fun _ hchanged => h sid call hcall (by simp [hphase]) hchanged
    · exact h
  | flush_commands sid =>
    refine resume_cases (fun call hcall => ?_) h
    unfold HeartbeatSessions.flush_commands
    split
    · rename_i hphase
      split
      · exact h.set_call fun _ hchanged => h sid call hcall (by simp [hphase]) hchanged
      · exact h
    · exact h
  | commit sid =>
    refine resume_cases (fun call hcall => ?_) h
    unfold HeartbeatSessions.commit
    split
    · exact h.release sid
    · exact h
  | fail sid => exact h.release sid
  | post_heartbeat dto => exact h
  | other call =>
    simp only [HeartbeatSessions.step]
    split <;> exact h

private theorem Own.set_call (h : self.Own) (next : HeartbeatCall)
    (hnext : ∀ cmd ∈ next.cmds, ∃ row, self.db.commands.get cmd.id = some row ∧ row.agent_id = next.dto.agent_id) :
    (self.set_call sid (some next)).Own := by
  intro other call' hother
  by_cases hne : other = sid
  · subst hne
    obtain rfl : next = call' := by simpa [HeartbeatSessions.set_call] using hother
    exact hnext
  · exact h other call' (by simpa [HeartbeatSessions.set_call, Function.update_of_ne hne] using hother)

private theorem Own.release (h : self.Own) (sid : ℕ) : (self.release sid).Own := by
  intro other call' hother
  by_cases hne : other = sid
  · subst hne
    simp [HeartbeatSessions.release, HeartbeatSessions.set_call] at hother
  · exact h other call' (by
      simpa [HeartbeatSessions.release, HeartbeatSessions.set_call, Function.update_of_ne hne] using hother)

private theorem Own.set_db (h : self.Own) {db : Database} (hdb : self.db.KeepsCommands db) : (self.set_db db).Own := by
  intro sid call hcall cmd hcmd
  obtain ⟨row, hget, hagent⟩ := h sid call hcall cmd hcmd
  obtain ⟨row', hget', hsame⟩ := hdb cmd.id row hget
  exact ⟨row', hget', hsame.trans hagent⟩

private theorem keepsCommands_mark_sent (db : Database) (call : HeartbeatCall) (ids : List String) :
    db.KeepsCommands ((call.write_agent db).mark_sent ids) := by
  refine keepsCommands_of_update (fun cmd => ?_) (fun cmd => ?_)
    (show ((call.write_agent db).mark_sent ids).commands =
      db.commands.update (fun cmd => if cmd.id ∈ ids then cmd.send_to_agent else cmd) _ by
        simp only [Database.mark_sent, commands_write_agent])
  · split <;> rfl
  · split <;> rfl

private theorem Own.step (h : self.Own) (op : HeartbeatStep) : (self.step is_datetime op).Own := by
  cases op with
  | get_agent sid dto =>
    simp only [HeartbeatSessions.step]
    split
    · exact h
    · exact h.set_call _ fun cmd hcmd => by cases hcmd
  | flush_agent sid =>
    refine resume_cases (fun call hcall => ?_) h
    have hnext : (self.set_call sid (some { call with phase := .refreshed })).Own :=
      h.set_call _ fun cmd hcmd => by cases hcmd
    unfold HeartbeatSessions.flush_agent
    split
    · split
      · exact hnext
      · split
        · exact h
        · split
          · exact h.release sid
          · exact hnext
    · exact h
  | get_pending sid =>
    refine resume_cases (fun call hcall => ?_) h
    unfold HeartbeatSessions.get_pending
    split
    · refine h.set_call _ fun cmd hcmd => ?_
      obtain ⟨hget, hagent, _⟩ := pending_of_mem hcmd
      exact ⟨cmd, hget, hagent⟩
    · exact h
  | flush_commands sid =>
    refine resume_cases (fun call hcall => ?_) h
    unfold HeartbeatSessions.flush_commands
    split
    · rename_i cmds episode hphase
      split
      · refine h.set_call { call with phase := .sent cmds episode } fun cmd hcmd => h sid call hcall cmd ?_
        simpa [HeartbeatCall.cmds, hphase] using hcmd
      · exact h
    · exact h
  | commit sid =>
    refine resume_cases (fun call hcall => ?_) h
    unfold HeartbeatSessions.commit
    split
    · exact (h.set_db (keepsCommands_mark_sent self.db call _)).release sid
    · exact h
  | fail sid => exact h.release sid
  | post_heartbeat dto => exact h.set_db (keepsCommands_of_eq (self.db.update_heartbeat_commands dto))
  | other call =>
    simp only [HeartbeatSessions.step]
    split
    · exact h
    · exact h.set_db (Database.answer_effect is_datetime self.db call).keepsCommands

/-- Every step of the sessions that meets the condition is allowed for the tokens. -/
theorem refines_step (hlocked : self.Locked) (hown : self.Own) (op : HeartbeatStep)
    (hserialized : self.Serialized op) : self.Refines (self.step is_datetime op) := by
  cases op with
  | get_agent sid dto =>
    simp only [step]
    split
    · exact transition.Reaches.of_eq rfl
    · rename_i hidle
      have hcall : self.calls sid = none := by simpa using hidle
      refine transition.Reaches.of_eq ?_
      simp only [one_shot, claims_set_call]
      rw [Function.update_eq_self_iff.mpr (by simp [tokens_of, hcall, HeartbeatCall.tokens])]
      rfl
  | flush_agent sid => exact resume_cases (fun _ hcall => refines_flush_agent hcall) (transition.Reaches.of_eq rfl)
  | get_pending sid =>
    exact resume_cases (fun _ hcall => refines_get_pending hlocked hown hcall hserialized)
      (transition.Reaches.of_eq rfl)
  | flush_commands sid =>
    exact resume_cases (fun _ hcall => refines_flush_commands hcall) (transition.Reaches.of_eq rfl)
  | commit sid => exact resume_cases (fun _ hcall => refines_commit hcall) (transition.Reaches.of_eq rfl)
  | fail sid => exact refines_release self sid
  | post_heartbeat dto => exact refines_set_db self _
  | other call =>
    simp only [step]
    split
    · exact transition.Reaches.of_eq rfl
    · exact refines_set_db self _

/-- The sessions before any heartbeat. -/
theorem sound_start (db : Database) : ({ db } : HeartbeatSessions).one_shot.Sound := by
  constructor <;> simp [one_shot, tokens_of]

/-- Over every interleaving in which pulls that overlap have changed the record of their agent, each pending
episode of a command is handed out in at most one response. -/
theorem deliveredOnce_of_serialized (db : Database) (steps : List HeartbeatStep)
    (hsteps : transition.Along (step is_datetime) Serialized { db } steps) :
    (transition.run (step is_datetime) { db } steps).DeliveredOnce := by
  have hinvariant := transition.run_invariant
    (I := fun self : HeartbeatSessions => self.Locked ∧ self.Own ∧ self.one_shot.Sound)
    (fun self op h hserialized => by
      have hrefines := refines_step is_datetime h.1 h.2.1 op hserialized
      exact ⟨h.1.step is_datetime op, h.2.1.step is_datetime op, h.2.2.reaches hrefines⟩)
    hsteps ⟨by simp [Locked], by simp [Own], sound_start db⟩
  exact hinvariant.2.2.used_nodup

/-- An agent for which a command is pending. -/
def one_pending : Database where
  agents := Database.one_agent.agents
  commands := ⟨[{ id := "cmd_1", agent_id := "web-1", action := "block_ip" }], by decide⟩

/-- A heartbeat that reports what the record of the agent already says, or a later moment. -/
def heartbeat_at (timestamp : Time) : HeartbeatDTO where
  agent_id := "web-1"
  ip_address := "10.0.0.5"
  mac_address := "02:00:00:00:00:05"
  timestamp

/-- Two connections of the agent: the second heartbeat waits until the first has been committed. -/
def waiting_heartbeats : List HeartbeatStep :=
  [.get_agent 0 (heartbeat_at 1), .flush_agent 0, .get_pending 0, .get_agent 1 (heartbeat_at 2), .flush_agent 1,
    .flush_commands 0, .commit 0, .flush_agent 1, .get_pending 1, .flush_commands 1, .commit 1]

theorem deliveredOnce_waiting_heartbeats : (transition.run (step fun _ => false) { db := one_pending }
    waiting_heartbeats).DeliveredOnce := by
  refine deliveredOnce_of_serialized (fun _ => false) one_pending waiting_heartbeats
    ⟨trivial, trivial, fun _ _ _ _ other hne call' hother => ?_, trivial, trivial, trivial, trivial, trivial,
      fun call _ _ hpending => ?_, trivial, trivial, trivial⟩
  · rw [calls_step_of_ne _ (by simpa [HeartbeatStep.session] using hne.symm),
      calls_step_of_ne _ (by simpa [HeartbeatStep.session] using hne.symm)] at hother
    cases hother
  · have hsent : (transition.run (step fun _ => false) { db := one_pending }
        (waiting_heartbeats.take 8)).db.commands.rows.all fun cmd => cmd.status ≠ .PENDING := by decide +kernel
    have hnone : (transition.run (step fun _ => false) { db := one_pending }
        (waiting_heartbeats.take 8)).db.get_pending_by_agent call.dto.agent_id = [] :=
      List.filter_eq_nil_iff.mpr fun cmd hcmd => by
        have hstatus : cmd.status ≠ .PENDING := of_decide_eq_true (List.all_eq_true.mp hsent cmd hcmd)
        simp [hstatus]
    exact absurd hnone hpending

/-- A heartbeat that has been stored is sent again on two connections. -/
def repeated_heartbeats : List HeartbeatStep :=
  [.get_agent 0 (heartbeat_at 0), .get_agent 1 (heartbeat_at 0), .flush_agent 0, .flush_agent 1, .get_pending 0,
    .get_pending 1, .flush_commands 0, .commit 0, .flush_commands 1, .commit 1]

/-- Neither heartbeat locks the record, and both responses carry the command. -/
theorem not_deliveredOnce_repeated_heartbeats : ¬ (transition.run (step fun _ => false) { db := one_pending }
    repeated_heartbeats).DeliveredOnce := by
  unfold DeliveredOnce
  decide +kernel

end HeartbeatSessions

end larp
