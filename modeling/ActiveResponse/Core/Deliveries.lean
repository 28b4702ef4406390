import ActiveResponse.Core.Dispatcher
import ActiveResponse.Lib.Run

namespace larp

/-- The calls on the dispatcher that reach the commands of the database. -/
inductive DispatcherOp where
  | pull_pending_commands (agent_id : String)
  | verify_execution (now : Time) (ack_data : CommandAckDTO)

/-- The acknowledgement reports a result of a delivery: a success, or anything but `pending` for a
command that has been handed out and has not succeeded. A command that waits to be handed out
again may only be reported as it is, or as failed once it has no retries left. -/
def Command.expects (cmd : Command) (status : CommandStatus) : Bool :=
  match cmd.status with
  | .SUCCESS => status = .SUCCESS
  | .PENDING =>
    status = .SUCCESS ∨ status = .PENDING ∨ (status = .FAILED ∧ cmd.max_retries ≤ cmd.retry_count)
  | _ => status ≠ .PENDING

namespace Database

/-- The database together with the deliveries of one command: how many there were, whether the
last one has not been queued again since, and how many were queued again after they failed. -/
structure Watched where
  db : Database
  delivered : ℕ := 0
  outstanding : Bool := false
  requeued : ℕ := 0

/-- `schedule_retry` puts the command with this id back into the queue. -/
def requeues (db : Database) (id : String) (now : Time) (ack_data : CommandAckDTO) : Bool :=
  ack_data.command_id = id ∧ ack_data.status = .FAILED ∧
    (db.commands.get id).any fun cmd => (cmd.acknowledge now ack_data.status ack_data.error_message).retry.1

/-- One call, seen from the command with this id. A call that raises is rolled back. -/
def watch (id : String) (s : Watched) : DispatcherOp → Watched
  | .pull_pending_commands agent_id =>
    let handed_out := (s.db.pull_pending_commands agent_id).1.filter fun cmd => cmd.id = id
    { s with
      db := (s.db.pull_pending_commands agent_id).2
      delivered := s.delivered + handed_out.length
      outstanding := s.outstanding || !handed_out.isEmpty }
  | .verify_execution now ack_data =>
    match s.db.verify_execution now ack_data with
    | .error _ => s
    | .ok (_, db) =>
      if s.db.requeues id now ack_data then
        { s with db, outstanding := false, requeued := s.requeued + s.outstanding.toNat }
      else { s with db }

def status_of (db : Database) (id : String) : Option CommandStatus :=
  (db.commands.get id).map Command.status

/-- The state machine of a command over a run of the dispatcher. -/
structure MachineLaw (db : Database) (id : String) (ops : List DispatcherOp) : Prop where
  terminal : ∀ first second, ops = first ++ second →
    (transition.run (watch id) { db } first).db.status_of id = some .SUCCESS →
    (transition.run (watch id) { db } ops).db.status_of id = some .SUCCESS ∧
      (transition.run (watch id) { db } ops).delivered = (transition.run (watch id) { db } first).delivered
  deliveries : ∀ cmd, (transition.run (watch id) { db } ops).db.commands.get id = some cmd →
    (transition.run (watch id) { db } ops).delivered ≤ cmd.max_retries + 1
  retries : ∀ cmd, (transition.run (watch id) { db } ops).db.commands.get id = some cmd →
    cmd.retry_count ≤ cmd.max_retries ∧ cmd.retry_count = (transition.run (watch id) { db } ops).requeued

/-- The condition on a call: acknowledgements of the command are ones that it expects. -/
def expected (id : String) (s : Watched) : DispatcherOp → Bool
  | .pull_pending_commands _ => true
  | .verify_execution _ ack_data =>
    ack_data.command_id ≠ id ∨ (s.db.commands.get id).all fun cmd => cmd.expects ack_data.status

/-! ## What one call does to the command -/

section Step

variable {id : String} {s : Watched} {cmd : Command}

private theorem pulled_with_id (hget : s.db.commands.get id = some cmd) (agent_id : String) :
    (s.db.pull_pending_commands agent_id).1.filter (fun pulled => pulled.id = id) =
      if cmd.agent_id = agent_id ∧ cmd.status = .PENDING then [cmd.send_to_agent] else [] := by
  have hkey : s.db.commands.rows.filter (fun row => decide (row.id = id)) = [cmd] := by
    have hfilter := Table.filter_key s.db.commands id
    rwa [hget] at hfilter
  have hswap : ∀ row : Command, decide (row.send_to_agent.id = id) = decide (row.id = id) := fun _ => rfl
  rw [pull_pending_commands, get_pending_by_agent, List.filter_map, List.filter_filter]
  simp only [Function.comp_def, hswap]
  rw [← List.filter_filter, List.filter_comm, hkey]
  split <;> simp_all

/-- A call leaves the command as it is, hands it out if it is pending, or records an acknowledgement. -/
theorem watch_cases (hget : s.db.commands.get id = some cmd) (op : DispatcherOp) :
    ((watch id s op).db.commands.get id = some cmd ∧ (watch id s op).delivered = s.delivered ∧
      (watch id s op).outstanding = s.outstanding ∧ (watch id s op).requeued = s.requeued) ∨
    (cmd.status = .PENDING ∧ (watch id s op).db.commands.get id = some cmd.send_to_agent ∧
      (watch id s op).delivered = s.delivered + 1 ∧ (watch id s op).outstanding = true ∧
      (watch id s op).requeued = s.requeued) ∨
    ∃ now ack_data, op = .verify_execution now ack_data ∧ ack_data.command_id = id ∧
      (watch id s op).db.commands.get id = some (cmd.acked now ack_data.status ack_data.error_message) ∧
      (watch id s op).delivered = s.delivered ∧
      if ack_data.status = .FAILED ∧ cmd.retry_count < cmd.max_retries then
        (watch id s op).outstanding = false ∧ (watch id s op).requeued = s.requeued + s.outstanding.toNat
      else (watch id s op).outstanding = s.outstanding ∧ (watch id s op).requeued = s.requeued := by
  cases op with
  | pull_pending_commands agent_id =>
    simp only [watch, pulled_with_id hget]
    simp only [pull_pending_commands, Table.get_update, hget, Option.map_some]
    by_cases hpending : cmd.agent_id = agent_id ∧ cmd.status = .PENDING
    · right; left
      simp [hpending]
    · left
      simp [hpending]
  | verify_execution now ack_data =>
    cases hverify : s.db.verify_execution now ack_data with
    | error e =>
      left
      simp [watch, hverify, hget]
    | ok result =>
      obtain ⟨found, db⟩ := result
      simp only [watch, hverify]
      rcases verify_execution_ok hverify with ⟨_, rfl, hnone⟩ | ⟨other, hother, _, rfl⟩
      · have hid : ack_data.command_id ≠ id := by
          rintro rfl
          simp [hnone] at hget
        left
        simp [requeues, hid, hget]
      · by_cases hid : ack_data.command_id = id
        · subst hid
          obtain rfl : cmd = other := Option.some.inj (hget.symm.trans hother)
          have hkey : cmd.id = ack_data.command_id := Table.key_of_get hget
          right; right
          refine ⟨now, ack_data, rfl, rfl, ?_⟩
          have hrow : (s.db.commands.put (cmd.acked now ack_data.status ack_data.error_message)).get
              ack_data.command_id = some (cmd.acked now ack_data.status ack_data.error_message) := by
            simp [Table.get_put, Keyed.key, hkey, hget]
          have hrequeues : s.db.requeues ack_data.command_id now ack_data =
              decide (ack_data.status = .FAILED ∧ cmd.retry_count < cmd.max_retries) := by
            simp [requeues, hget, Command.retry_granted, Command.acknowledge]
          rw [hrequeues]
          by_cases hretry : ack_data.status = .FAILED ∧ cmd.retry_count < cmd.max_retries
          · simpa [hretry] using hrow
          · simpa [hretry] using hrow
        · have hkey : other.id = ack_data.command_id := Table.key_of_get hother
          left
          simp [requeues, hid, Table.get_put, Keyed.key, hkey, hget]

/-- The deliveries of a command agree with its row. A command that was handed out and has neither
succeeded nor been queued again has an outstanding delivery, or no retries left. -/
structure Watched.Sound (id : String) (s : Watched) (cmd : Command) : Prop where
  row : s.db.commands.get id = some cmd
  requeued : s.requeued = cmd.retry_count
  retry_count : cmd.retry_count ≤ cmd.max_retries
  delivered : s.delivered ≤ cmd.retry_count + 1
  waiting : cmd.status = .PENDING → s.delivered ≤ cmd.retry_count
  handed_out : cmd.status ≠ .PENDING → cmd.status ≠ .SUCCESS →
    s.outstanding = true ∨ cmd.max_retries ≤ cmd.retry_count

/-- A failure with retries left is expected only from a command that has been handed out. -/
private theorem Command.handed_out_of_expects (h : cmd.expects .FAILED = true)
    (hretry : cmd.retry_count < cmd.max_retries) : cmd.status ≠ .PENDING ∧ cmd.status ≠ .SUCCESS := by
  unfold Command.expects at h
  constructor
  · intro hpending
    simp [hpending] at h
    omega
  · intro hsuccess
    simp [hsuccess] at h

/-- A report without a success that a command expects and that does not queue it again leaves it
handed out, or as it was. -/
private theorem Command.handed_out_of_reported {status : CommandStatus} (h : cmd.expects status = true)
    (hstatus : status ≠ .SUCCESS) :
    (cmd.status ≠ .PENDING ∧ cmd.status ≠ .SUCCESS ∧ status ≠ .PENDING) ∨
      (cmd.status = .PENDING ∧ (status = .PENDING ∨ (status = .FAILED ∧ cmd.max_retries ≤ cmd.retry_count))) := by
  unfold Command.expects at h
  cases hcmd : cmd.status <;> simp_all

private theorem Watched.Sound.acked {s' : Watched} (hsound : s.Sound id cmd) {now : Time}
    {status : CommandStatus} {error_message : Option String} (hexpects : cmd.expects status = true)
    (hrow : s'.db.commands.get id = some (cmd.acked now status error_message))
    (hdelivered : s'.delivered = s.delivered)
    (hghost : if status = .FAILED ∧ cmd.retry_count < cmd.max_retries then
      s'.outstanding = false ∧ s'.requeued = s.requeued + s.outstanding.toNat
      else s'.outstanding = s.outstanding ∧ s'.requeued = s.requeued) :
    s'.Sound id (cmd.acked now status error_message) := by
  by_cases hretry : status = .FAILED ∧ cmd.retry_count < cmd.max_retries
  · -- The outstanding delivery is the one that is queued again.
    obtain ⟨rfl, hleft⟩ := hretry
    obtain ⟨hpending, hsuccess⟩ := Command.handed_out_of_expects hexpects hleft
    have houtstanding : s.outstanding = true :=
      (hsound.handed_out hpending hsuccess).resolve_right (Nat.not_le.mpr hleft)
    simp only [hleft, and_self, if_true, houtstanding] at hghost
    rw [Command.acked_failed_retry _ _ _ hleft] at hrow ⊢
    refine ⟨hrow, ?_, hleft, ?_, fun _ => ?_, fun h => absurd rfl h⟩
    · simp [hghost.2, hsound.requeued]
    · have := hsound.delivered
      simp only [hdelivered]
      omega
    · simpa [hdelivered] using hsound.delivered
  · rw [if_neg hretry] at hghost
    have hkept : (cmd.acked now status error_message).retry_count = cmd.retry_count ∧
        (cmd.acked now status error_message).status = status := by
      by_cases hfailed : status = .FAILED
      · subst hfailed
        rw [Command.acked_failed_exhausted _ _ _ (by simpa using hretry)]
        exact ⟨rfl, rfl⟩
      · rw [Command.acked_of_ne_failed _ _ _ hfailed]
        exact ⟨rfl, rfl⟩
    refine ⟨hrow, ?_, ?_, ?_, fun hpending => ?_, fun hpending hsuccess => ?_⟩
    · rw [hghost.2, hkept.1, hsound.requeued]
    · simpa [hkept.1] using hsound.retry_count
    · rw [hdelivered, hkept.1]
      exact hsound.delivered
    · rw [hkept.2] at hpending
      rw [hdelivered, hkept.1]
      rcases Command.handed_out_of_reported hexpects (by simp [hpending]) with ⟨_, _, hne⟩ | ⟨hwaiting, _⟩
      · exact absurd hpending hne
      · exact hsound.waiting hwaiting
    · rw [hkept.2] at hpending hsuccess
      rw [hghost.1, Command.acked_max_retries, hkept.1]
      rcases Command.handed_out_of_reported hexpects hsuccess with ⟨hne, hnot, _⟩ | ⟨_, hsame | ⟨_, hleft⟩⟩
      · exact hsound.handed_out hne hnot
      · exact absurd hsame hpending
      · exact Or.inr hleft

/-- An expected call keeps the deliveries in step with the row, and a succeeded command as it is. -/
private theorem Watched.Sound.watch (hsound : s.Sound id cmd) {op : DispatcherOp}
    (hexpected : expected id s op = true) :
    ∃ cmd', (watch id s op).Sound id cmd' ∧ (cmd.status = .SUCCESS →
      cmd'.status = .SUCCESS ∧ (Database.watch id s op).delivered = s.delivered) := by
  rcases watch_cases hsound.row op with ⟨hrow, hdelivered, houtstanding, hrequeued⟩ |
    ⟨hpending, hrow, hdelivered, houtstanding, hrequeued⟩ |
    ⟨now, ack_data, rfl, rfl, hrow, hdelivered, hghost⟩
  · refine ⟨cmd, ⟨hrow, ?_, hsound.retry_count, ?_, ?_, ?_⟩, fun hsuccess => ⟨hsuccess, hdelivered⟩⟩
    · rw [hrequeued, hsound.requeued]
    · simpa only [hdelivered] using hsound.delivered
    · simpa only [hdelivered] using hsound.waiting
    · simpa only [houtstanding] using hsound.handed_out
  · refine ⟨cmd.send_to_agent, ⟨hrow, ?_, hsound.retry_count, ?_, ?_, ?_⟩, fun hsuccess => ?_⟩
    · exact hrequeued.trans hsound.requeued
    · have := hsound.waiting hpending
      simp only [hdelivered, Command.send_to_agent]
      omega
    · intro h
      cases h
    · exact fun _ _ => Or.inl houtstanding
    · rw [hpending] at hsuccess
      cases hsuccess
  · have hexpects : cmd.expects ack_data.status = true := by
      simpa [expected, hsound.row] using hexpected
    refine ⟨_, hsound.acked hexpects hrow hdelivered hghost, fun hsuccess => ⟨?_, hdelivered⟩⟩
    have hagain : ack_data.status = .SUCCESS := by simpa [Command.expects, hsuccess] using hexpects
    rw [Command.acked_of_ne_failed _ _ _ (by simp [hagain])]
    exact hagain

/-- Along a run of expected calls the deliveries agree with the row. -/
private theorem Watched.Sound.run (hsound : s.Sound id cmd) {ops : List DispatcherOp}
    (hexpected : transition.Along (Database.watch id) (fun s op => expected id s op) s ops) :
    ∃ cmd', (transition.run (Database.watch id) s ops).Sound id cmd' :=
  transition.run_invariant (I := fun s => ∃ cmd, s.Sound id cmd)
    (fun _ _ ⟨_, h⟩ hop => (h.watch hop).imp fun _ h => h.1) hexpected ⟨cmd, hsound⟩

/-- A command that has succeeded is left alone by a run of expected calls. -/
private theorem Watched.Sound.run_succeeded {ops : List DispatcherOp} (hsound : s.Sound id cmd)
    (hsuccess : cmd.status = .SUCCESS)
    (hexpected : transition.Along (Database.watch id) (fun s op => expected id s op) s ops) :
    (transition.run (Database.watch id) s ops).db.status_of id = some .SUCCESS ∧
      (transition.run (Database.watch id) s ops).delivered = s.delivered := by
  induction ops generalizing s cmd with
  | nil => exact ⟨by simp [status_of, hsound.row, hsuccess], rfl⟩
  | cons op ops ih =>
    obtain ⟨cmd', hsound', hkept⟩ := hsound.watch hexpected.1
    obtain ⟨hsuccess', hdelivered⟩ := hkept hsuccess
    obtain ⟨hstatus, hrest⟩ := ih hsound' hsuccess' hexpected.2
    exact ⟨hstatus, hrest.trans hdelivered⟩

end Step

/-- The state machine of a fresh command is respected by every run of the dispatcher in which the
acknowledgements of the command are ones that it expects. -/
theorem machineLaw_of_expected {db : Database} {id : String} {cmd : Command} {ops : List DispatcherOp}
    (hget : db.commands.get id = some cmd) (hpending : cmd.status = .PENDING) (hfresh : cmd.retry_count = 0)
    (hexpected : transition.Along (watch id) (fun s op => expected id s op) { db } ops) :
    MachineLaw db id ops := by
  have hinit : ({ db } : Watched).Sound id cmd :=
    ⟨hget, hfresh.symm, by omega, by simp, fun _ => by simp, fun h => absurd hpending h⟩
  obtain ⟨last, hlast⟩ := hinit.run hexpected
  refine ⟨?_, fun found hfound => ?_, fun found hfound => ?_⟩
  · rintro first second rfl hstatus
    obtain ⟨hfirst, hsecond⟩ := transition.along_append.mp hexpected
    obtain ⟨mid, hmid⟩ := hinit.run hfirst
    have hsuccess : mid.status = .SUCCESS := by simpa [status_of, hmid.row] using hstatus
    rw [transition.run_append]
    exact hmid.run_succeeded hsuccess hsecond
  · obtain rfl : last = found := Option.some.inj (hlast.row.symm.trans hfound)
    have hdelivered := hlast.delivered
    have hretry := hlast.retry_count
    omega
  · obtain rfl : last = found := Option.some.inj (hlast.row.symm.trans hfound)
    exact ⟨hlast.retry_count, hlast.requeued.symm⟩

/-- A command that waits for its first delivery. -/
def one_command : Database where
  agents := one_agent.agents
  commands := ⟨[{ id := "cmd_1", agent_id := "web-1", action := "isolate" }], by decide⟩

/-- A delivery that fails once and succeeds when it is repeated. -/
def fail_then_succeed : List DispatcherOp :=
  [.pull_pending_commands "web-1", .verify_execution 1 { command_id := "cmd_1", status := .FAILED },
    .pull_pending_commands "web-1", .verify_execution 2 { command_id := "cmd_1", status := .SUCCESS }]

theorem machineLaw_fail_then_succeed : MachineLaw one_command "cmd_1" fail_then_succeed :=
  machineLaw_of_expected (show one_command.commands.get "cmd_1" = some _ from rfl) rfl rfl
    ⟨by decide, by decide, by decide, by decide, trivial⟩

/-- A failure reported after the success queues the command again. -/
theorem not_machineLaw_late_failure :
    ¬ MachineLaw one_command "cmd_1"
      (fail_then_succeed ++ [.verify_execution 3 { command_id := "cmd_1", status := .FAILED }]) := by
  intro hlaw
  have hbefore : (transition.run (watch "cmd_1") { db := one_command } fail_then_succeed).db.status_of
      "cmd_1" = some .SUCCESS := by decide
  have hafter : (transition.run (watch "cmd_1") { db := one_command } (fail_then_succeed ++
      [.verify_execution 3 { command_id := "cmd_1", status := .FAILED }])).db.status_of "cmd_1" =
        some .PENDING := by decide
  have hterminal := (hlaw.terminal _ _ rfl hbefore).1
  rw [hafter] at hterminal
  cases hterminal

end Database

end larp
