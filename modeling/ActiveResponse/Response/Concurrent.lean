import ActiveResponse.Lib.Locks
import ActiveResponse.Lib.Run
import ActiveResponse.Response.Rollback
import ActiveResponse.System

namespace larp

/-- The arguments of one call of `RollbackService.rollback_action`. -/
structure RollbackCall where
  now : Time
  cmd_id : String
  action_id : String
  reason : String
  actor : String

/-- The queries that load actions into a session before any of them is locked. -/
inductive BatchQuery where
  | incident (incident_id : String)
  | agent (agent_id : String)
  | agents (agent_ids : List String)
  | expired (now : Time)

def BatchQuery.rows (db : Database) : BatchQuery → List ResponseAction
  | .incident incident_id => db.get_active_applied_by_incident incident_id
  | .agent agent_id => db.get_active_applied_by_agent agent_id
  | .agents agent_ids => db.get_active_applied_by_agents agent_ids
  | .expired now => db.get_expired_actions now

/-- A session with the objects it has loaded and the call that holds the lock of its row. -/
structure Session where
  identity_map : String → Option ResponseAction := fun _ => none
  current : Option RollbackCall := none
  broken : Bool := false

/-- The result of a `SELECT`: a row that the session has already loaded is not refreshed. -/
def Session.load (self : Session) (rows : List ResponseAction) : Session :=
  { self with identity_map := fun id => (self.identity_map id).or (rows.find? fun row => row.id = id) }

/-- `session.refresh`. -/
def Session.refresh (self : Session) (row : ResponseAction) : Session :=
  { self with identity_map := Function.update self.identity_map row.id (some row) }

/-- A call that has ended: its action, its result and the commands that it created. -/
structure CallLog where
  action_id : String
  result : Except AppException String
  created : List Command

def CallLog.returned (self : CallLog) : Bool := self.result.isOk

/-- The database, the row locks and the sessions that share them. -/
structure Shared where
  db : Database
  locks : Locks String ℕ := Locks.free
  sessions : ℕ → Session := fun _ => {}
  log : List CallLog := []

/-- The steps of the sessions between which others may run. -/
inductive SessionStep where
  | query (sid : ℕ) (query : BatchQuery)
  | get_for_update (sid : ℕ) (call : RollbackCall)
  | finish (sid : ℕ)
  | close (sid : ℕ)

/-- The committed row of the action is in status applied. -/
def Database.Applied (db : Database) (action_id : String) : Prop :=
  ∃ row, db.response_actions.get action_id = some row ∧ row.status = .applied

namespace Shared

def set_session (self : Shared) (sid : ℕ) (session : Session) : Shared :=
  { self with sessions := Function.update self.sessions sid session }

def record (self : Shared) (call : RollbackCall) (result : Except AppException String)
    (created : List Command) : Shared :=
  { self with log := self.log ++ [{ action_id := call.action_id, result, created }] }

/-- The locked read at the head of `rollback_action`. It blocks, which here is a step without
effect, while another session holds the lock. -/
def get_for_update (self : Shared) (sid : ℕ) (call : RollbackCall) : Shared :=
  if (self.sessions sid).current.isSome then self
  else if (self.sessions sid).broken then self.record call (.error .PendingRollbackError) []
  else if ¬ self.locks.available sid call.action_id then self
  else
    match self.db.response_actions.get call.action_id with
    | none =>
      self.record call (.error (.NotFoundError
        ("ResponseAction with ID '" ++ call.action_id ++ "' was not found."))) []
    | some row =>
      { self with locks := self.locks.acquire sid call.action_id }.set_session sid
        { (self.sessions sid).load [row] with current := some call }

/-- The end of a call once its body has run: a call that fails the status tests leaves its
transaction open, every other one commits or is rolled back by the database. -/
def settle (self : Shared) (sid : ℕ) (call : RollbackCall) (action : ResponseAction)
    (outcome : Except AppException ResponseAction × Database) : Shared :=
  let session := { self.sessions sid with current := none }
  let created := outcome.2.commands.rows.drop self.db.commands.rows.length
  match action.check_undoable, outcome.1 with
  | .error e, _ => (self.set_session sid session).record call (.error e) []
  | .ok (), .ok row =>
    ({ self with db := outcome.2, locks := self.locks.release_all sid }.set_session sid
      (session.refresh row)).record call (.ok row.id) created
  | .ok (), .error e =>
    ({ self with db := outcome.2, locks := self.locks.release_all sid }.set_session sid
      { session with broken := e.breaks_session }).record call (.error e) created

/-- The rest of `rollback_action`, on the copy of the action that the session holds. -/
def finish (self : Shared) (sid : ℕ) : Shared :=
  match (self.sessions sid).current with
  | none => self
  | some call =>
    match (self.sessions sid).identity_map call.action_id with
    | none => self
    | some action =>
      self.settle sid call action
        (self.db.rollback_loaded action call.now call.cmd_id call.reason call.actor)

def step (self : Shared) : SessionStep → Shared
  | .query sid query =>
    if (self.sessions sid).current.isSome ∨ (self.sessions sid).broken then self
    else self.set_session sid ((self.sessions sid).load (query.rows self.db))
  | .get_for_update sid call => self.get_for_update sid call
  | .finish sid => self.finish sid
  | .close sid => { self with locks := self.locks.release_all sid }.set_session sid {}

/-- The calls on an action that returned. -/
def returned (self : Shared) (action_id : String) : List CallLog :=
  self.log.filter fun call => call.action_id = action_id ∧ call.returned

/-- The commands created by the calls on an action. -/
def created (self : Shared) (action_id : String) : List Command :=
  (self.log.filter fun call => call.action_id = action_id).flatMap CallLog.created

/-- At most one call on the action returns, at most one command is created for it, and a call that
raises creates none. -/
structure AtMostOnce (s : Shared) (action_id : String) : Prop where
  returned : (s.returned action_id).length ≤ 1
  created : (s.created action_id).length ≤ 1
  raised : ∀ call ∈ s.log, call.action_id = action_id → call.returned = false → call.created = []

/-- The condition on a step: a locked read does not meet a copy that says applied of a row that no
longer is, and a call whose compensation is a command can tell the cooldown: the rollback settings
are readable and the cooldown ends at a `datetime`. -/
def undisturbed (action_id : String) (self : Shared) : SessionStep → Bool
  | .get_for_update sid call =>
    call.action_id ≠ action_id ∨ ((self.sessions sid).identity_map action_id).all fun copy =>
      copy.status ≠ .applied ∨
        (self.db.response_actions.get action_id).any fun row => row.status = .applied
  | .finish sid =>
    (self.sessions sid).current.all fun call =>
      call.action_id ≠ action_id ∨ ((self.sessions sid).identity_map action_id).all fun action =>
        action.compensation.command_action = none ∨
          (self.db.rollback_cooldown call.now action.action_type).isOk
  | _ => true

/-! ## The lock invariant -/

/-- A session in the middle of a call on the action holds its lock, and its copy says applied only
if the committed row does. Once a call has returned the action is out of force. -/
structure Exclusive (s : Shared) (action_id : String) : Prop where
  keyed : ∀ sid id copy, (s.sessions sid).identity_map id = some copy → copy.id = id
  holding : ∀ sid call, (s.sessions sid).current = some call → call.action_id = action_id →
    s.locks action_id = some sid ∧ ∀ copy, (s.sessions sid).identity_map action_id = some copy →
      copy.status = .applied → s.db.Applied action_id
  settled : s.returned action_id ≠ [] → ¬ s.db.Applied action_id
  once : (s.returned action_id).length ≤ 1
  commands : (s.created action_id).length ≤ (s.returned action_id).length
  raised : ∀ call ∈ s.log, call.action_id = action_id → call.returned = false → call.created = []

section Step

variable {self : Shared} {action_id : String} {sid : ℕ}

@[simp] private theorem sessions_set_session (self : Shared) (sid : ℕ) (session : Session) (other : ℕ) :
    (self.set_session sid session).sessions other = if other = sid then session else self.sessions other := by
  simp [set_session, Function.update_apply]

@[simp] private theorem locks_set_session (self : Shared) (sid : ℕ) (session : Session) :
    (self.set_session sid session).locks = self.locks := rfl

@[simp] private theorem db_set_session (self : Shared) (sid : ℕ) (session : Session) :
    (self.set_session sid session).db = self.db := rfl

@[simp] private theorem db_record (self : Shared) (call : RollbackCall) (result : Except AppException String)
    (created : List Command) : (self.record call result created).db = self.db := rfl

private theorem returned_record (self : Shared) (call : RollbackCall) (result : Except AppException String)
    (created : List Command) (action_id : String) :
    (self.record call result created).returned action_id = self.returned action_id ++
      if call.action_id = action_id ∧ result.isOk then [{ action_id := call.action_id, result, created }]
      else [] := by
  by_cases h : call.action_id = action_id ∧ result.isOk = true
  · simp [returned, record, CallLog.returned, h]
  · simp only [returned, record, List.filter_append, CallLog.returned, h]
    simp [h]

private theorem created_record (self : Shared) (call : RollbackCall) (result : Except AppException String)
    (created : List Command) (action_id : String) :
    (self.record call result created).created action_id = self.created action_id ++
      if call.action_id = action_id then created else [] := by
  simp only [Shared.created, record, List.filter_append, List.filter_cons, List.filter_nil,
    List.flatMap_append, decide_eq_true_eq]
  split <;> simp

/-- A call that raises without creating a command leaves the counts as they are. -/
private theorem Exclusive.record_error (h : self.Exclusive action_id) (call : RollbackCall) (e : AppException) :
    (self.record call (.error e) []).Exclusive action_id := by
  refine ⟨h.keyed, h.holding, ?_, ?_, ?_, ?_⟩
  · simpa [returned_record, Except.isOk, Except.toBool] using h.settled
  · simpa [returned_record, Except.isOk, Except.toBool] using h.once
  · simpa [returned_record, created_record, Except.isOk, Except.toBool] using h.commands
  · intro logged hlogged
    simp only [record, List.mem_append, List.mem_singleton] at hlogged
    rcases hlogged with hlogged | rfl
    · exact h.raised logged hlogged
    · exact fun _ _ => rfl

/-- A session that is not in the middle of a call may load rows and give up its locks. -/
private theorem Exclusive.set_idle (h : self.Exclusive action_id) (session : Session)
    (hidle : session.current = none)
    (hkeyed : ∀ id copy, session.identity_map id = some copy → copy.id = id) :
    (self.set_session sid session).Exclusive action_id := by
  refine ⟨fun other id copy hcopy => ?_, fun other call hcall haction => ?_, h.settled, h.once, h.commands,
    h.raised⟩
  · rw [sessions_set_session] at hcopy
    split at hcopy
    · exact hkeyed id copy hcopy
    · exact h.keyed other id copy hcopy
  · rw [sessions_set_session] at hcall ⊢
    split at hcall
    · rw [hidle] at hcall
      cases hcall
    · rename_i hother
      simpa [hother] using h.holding other call hcall haction

private theorem keyed_load (h : self.Exclusive action_id) (rows : List ResponseAction) (id : String)
    (copy : ResponseAction) (hcopy : ((self.sessions sid).load rows).identity_map id = some copy) :
    copy.id = id := by
  simp only [Session.load, Option.or_eq_some_iff] at hcopy
  rcases hcopy with hloaded | ⟨_, hfound⟩
  · exact h.keyed sid id copy hloaded
  · simpa using List.find?_some hfound

/-- The locked read of the action itself: the copy it leaves in the session is not stale. -/
private theorem Exclusive.lock (h : self.Exclusive action_id) {call : RollbackCall} {row : ResponseAction}
    (hundisturbed : self.undisturbed action_id (.get_for_update sid call) = true)
    (havailable : self.locks.available sid call.action_id)
    (hrow : self.db.response_actions.get call.action_id = some row) :
    ({ self with locks := self.locks.acquire sid call.action_id }.set_session sid
      { (self.sessions sid).load [row] with current := some call }).Exclusive action_id := by
  refine ⟨fun other id copy hcopy => ?_, fun other current hcurrent haction => ?_, h.settled, h.once,
    h.commands, h.raised⟩
  · rw [sessions_set_session] at hcopy
    split at hcopy
    · exact keyed_load h [row] id copy hcopy
    · exact h.keyed other id copy hcopy
  · rw [sessions_set_session] at hcurrent ⊢
    split at hcurrent
    · rename_i hsid
      obtain rfl : call = current := Option.some.inj hcurrent
      subst haction hsid
      refine ⟨by simp [set_session], fun copy hcopy happlied => ?_⟩
      simp only [if_true, Session.load, Option.or_eq_some_iff] at hcopy
      rcases hcopy with hloaded | ⟨_, hfound⟩
      · simpa [undisturbed, hloaded, happlied, Database.Applied, Option.any_eq_true, set_session] using hundisturbed
      · obtain rfl : copy = row := by simpa using List.mem_of_find?_eq_some hfound
        exact ⟨copy, hrow, happlied⟩
    · rename_i hother
      obtain ⟨hlock, hcopies⟩ := h.holding other current hcurrent haction
      have hne : action_id ≠ call.action_id := by
        rintro rfl
        exact hother (havailable other hlock)
      refine ⟨?_, by simpa [hother] using hcopies⟩
      simpa [set_session, Locks.acquire_of_ne _ _ hne] using hlock

/-- A call on another action leaves the counts as they are. -/
private theorem Exclusive.record_other (h : self.Exclusive action_id) {call : RollbackCall}
    (hother : call.action_id ≠ action_id) (result : Except AppException String) (created : List Command) :
    (self.record call result created).Exclusive action_id := by
  refine ⟨h.keyed, h.holding, ?_, ?_, ?_, ?_⟩
  · simpa [returned_record, hother] using h.settled
  · simpa [returned_record, hother] using h.once
  · simpa [returned_record, created_record, hother] using h.commands
  · intro logged hlogged haction
    simp only [record, List.mem_append, List.mem_singleton] at hlogged
    rcases hlogged with hlogged | rfl
    · exact h.raised logged hlogged haction
    · exact absurd haction hother

/-- The first call that returns takes the action out of force. -/
private theorem Exclusive.record_returned (h : self.Exclusive action_id) {call : RollbackCall} (id : String)
    {created : List Command} (hfirst : self.returned action_id = []) (hcreated : created.length ≤ 1)
    (hsettled : ¬ self.db.Applied action_id) :
    (self.record call (.ok id) created).Exclusive action_id := by
  have hnone : self.created action_id = [] := by
    have hcommands := h.commands
    rw [hfirst] at hcommands
    simpa using hcommands
  refine ⟨h.keyed, h.holding, fun _ => hsettled, ?_, ?_, ?_⟩
  · rw [returned_record, hfirst]
    split <;> simp
  · rw [returned_record, created_record, hfirst, hnone]
    by_cases haction : call.action_id = action_id
    · simpa [haction, Except.isOk, Except.toBool] using hcreated
    · simp [haction]
  · intro logged hlogged
    simp only [record, List.mem_append, List.mem_singleton] at hlogged
    rcases hlogged with hlogged | rfl
    · exact h.raised logged hlogged
    · intro _ hraised
      cases hraised

/-- The end of a transaction. The locks of the other sessions stay, and a row whose lock the session
did not hold is as it was. -/
private theorem Exclusive.commit (h : self.Exclusive action_id) (session : Session) {db' : Database}
    (hidle : session.current = none)
    (hkeyed : ∀ id copy, session.identity_map id = some copy → copy.id = id)
    (hframe : self.locks action_id = some sid ∨
      db'.response_actions.get action_id = self.db.response_actions.get action_id)
    (hsettled : self.returned action_id ≠ [] → ¬ db'.Applied action_id) :
    ({ self with db := db', locks := self.locks.release_all sid }.set_session sid session).Exclusive
      action_id := by
  refine ⟨fun other id copy hcopy => ?_, fun other current hcurrent haction => ?_, hsettled, h.once,
    h.commands, h.raised⟩
  · rw [sessions_set_session] at hcopy
    split at hcopy
    · exact hkeyed id copy hcopy
    · exact h.keyed other id copy hcopy
  · rw [sessions_set_session] at hcurrent ⊢
    split at hcurrent
    · rw [hidle] at hcurrent
      cases hcurrent
    · rename_i hother
      obtain ⟨hlock, hcopies⟩ := h.holding other current hcurrent haction
      have hrow : db'.response_actions.get action_id = self.db.response_actions.get action_id := by
        rcases hframe with hheld | hrow
        · rw [hlock] at hheld
          exact absurd (Option.some.inj hheld) hother
        · exact hrow
      refine ⟨Locks.release_all_of_ne hlock hother, fun copy hcopy happlied => ?_⟩
      rw [if_neg hother] at hcopy
      simpa [Database.Applied, hrow] using hcopies copy hcopy happlied

private theorem keyed_refresh (h : self.Exclusive action_id) (row : ResponseAction) (id : String)
    (copy : ResponseAction) (hcopy : ((self.sessions sid).refresh row).identity_map id = some copy) :
    copy.id = id := by
  simp only [Session.refresh, Function.update_apply] at hcopy
  split at hcopy
  · rename_i hid
    rw [hid, Option.some.inj hcopy]
  · exact h.keyed sid id copy hcopy

/-- The body of a call writes no row but that of its action. -/
private theorem get_of_rollback_loaded {db db' : Database} {action : ResponseAction} {now : Time}
    {cmd_id reason actor : String} {result : Except AppException ResponseAction}
    (h : db.rollback_loaded action now cmd_id reason actor = (result, db')) (hother : action.id ≠ action_id) :
    db'.response_actions.get action_id = db.response_actions.get action_id := by
  rcases Database.rollback_loaded_cases h with ⟨_, _, rfl⟩ | ⟨_, _, _, _, _, rfl⟩ | ⟨_, _, _, _, _, _, _, rfl⟩
  · rfl
  · simp [Table.get_modify (ResponseAction.key_set_status .applied), hother]
  · simp [Table.get_modify (ResponseAction.key_revert _ _ _ _), hother]

/-- The commands that a body with a readable cooldown, or without a command to send, creates. -/
private theorem drop_compensated {db : Database} {action : ResponseAction} {cmd_id : String}
    {commands : Table Command} (h : db.Compensated action cmd_id commands) :
    commands.rows.drop db.commands.rows.length = (action.compensation_command cmd_id).toList := by
  rw [h.rows]
  simp

private theorem Exclusive.settle (h : self.Exclusive action_id) {call : RollbackCall} {action : ResponseAction}
    (hcurrent : (self.sessions sid).current = some call)
    (hcopy : (self.sessions sid).identity_map call.action_id = some action)
    (hreadable : call.action_id = action_id → action.compensation.command_action = none ∨
      (self.db.rollback_cooldown call.now action.action_type).isOk = true) :
    (self.settle sid call action
      (self.db.rollback_loaded action call.now call.cmd_id call.reason call.actor)).Exclusive action_id := by
  have hid : action.id = call.action_id := h.keyed sid _ _ hcopy
  have hheld : call.action_id = action_id → self.locks action_id = some sid := fun haction =>
    (h.holding sid call hcurrent haction).1
  cases hbody : self.db.rollback_loaded action call.now call.cmd_id call.reason call.actor with
  | mk result db' =>
  have hframe : self.locks action_id = some sid ∨
      db'.response_actions.get action_id = self.db.response_actions.get action_id := by
    by_cases haction : call.action_id = action_id
    · exact Or.inl (hheld haction)
    · exact Or.inr (get_of_rollback_loaded hbody (by rw [hid]; exact haction))
  -- The copy that passed the tests is not stale, so no call has returned before.
  have hfirst : call.action_id = action_id → action.status = .applied → self.returned action_id = [] := by
    rintro rfl happlied
    by_contra hreturned
    exact h.settled hreturned ((h.holding sid call hcurrent rfl).2 action hcopy happlied)
  rcases Database.rollback_loaded_cases hbody with ⟨e, rfl, rfl⟩ |
    ⟨happlied, commands, logs, hcommands, ⟨e, rfl, hcooldown⟩, rfl⟩ |
    ⟨happlied, commands, logs, cooldown_until, hcommands, ⟨row, rfl, hrow⟩, hcooldown, rfl⟩
  · unfold Shared.settle
    cases hcheck : action.check_undoable with
    | error e' =>
      exact (h.set_idle { self.sessions sid with current := none } rfl (h.keyed sid)).record_error call e'
    | ok =>
      simp only [List.drop_length]
      exact (h.commit { self.sessions sid with current := none, broken := e.breaks_session } rfl (h.keyed sid)
        hframe h.settled).record_error call e
  · have hcheck := ResponseAction.check_undoable_eq_ok_iff.mpr happlied
    simp only [Shared.settle, hcheck]
    have hcommit := h.commit { self.sessions sid with current := none, broken := e.breaks_session } rfl
      (h.keyed sid) hframe
    by_cases haction : call.action_id = action_id
    · have hnone : action.compensation_command call.cmd_id = none := by
        rcases hreadable haction with hnone | hok
        · simp [ResponseAction.compensation_command, hnone]
        · simp [hcooldown, Except.isOk, Except.toBool] at hok
      simp only [drop_compensated hcommands, hnone, Option.toList_none]
      exact (hcommit fun hreturned => absurd (hfirst haction happlied) hreturned).record_error call e
    · refine (hcommit fun hreturned => ?_).record_other haction _ _
      have hother : action.id ≠ action_id := by rw [hid]; exact haction
      simpa [Database.Applied, get_of_rollback_loaded hbody hother] using h.settled hreturned
  · have hcheck := ResponseAction.check_undoable_eq_ok_iff.mpr happlied
    simp only [Shared.settle, hcheck]
    have hcommit := h.commit ({ self.sessions sid with current := none }.refresh row) rfl
      (keyed_refresh h row) hframe
    by_cases haction : call.action_id = action_id
    · have hsettled : ¬ ({ self.db with
          commands, action_audit_logs := logs
          agents := self.db.agents.modify action.agent_id action.compensation.restore
          response_actions := self.db.response_actions.modify action.id
            (.revert call.now call.actor call.reason cooldown_until) } : Database).Applied action_id := by
        rintro ⟨after, hget, hstatus⟩
        rw [Table.get_modify (ResponseAction.key_revert _ _ _ _), hid, if_pos haction] at hget
        obtain ⟨before, _, rfl⟩ := Option.map_eq_some_iff.mp hget
        cases hstatus
      refine (hcommit fun hreturned => hsettled).record_returned _ (hfirst haction happlied) ?_ hsettled
      rw [drop_compensated hcommands]
      cases action.compensation_command call.cmd_id <;> simp
    · refine (hcommit fun hreturned => ?_).record_other haction _ _
      have hother : action.id ≠ action_id := by rw [hid]; exact haction
      simpa [Database.Applied, get_of_rollback_loaded hbody hother] using h.settled hreturned

/-- An undisturbed step keeps the lock invariant. -/
private theorem Exclusive.step (h : self.Exclusive action_id) {op : SessionStep}
    (hundisturbed : self.undisturbed action_id op = true) : (self.step op).Exclusive action_id := by
  cases op with
  | query sid query =>
    simp only [Shared.step]
    split
    · exact h
    · rename_i hidle
      simp only [not_or, Bool.not_eq_true, Option.isSome_eq_false_iff, Option.isNone_iff_eq_none] at hidle
      exact h.set_idle _ hidle.1 (keyed_load h _)
  | get_for_update sid call =>
    simp only [Shared.step, Shared.get_for_update]
    split
    · exact h
    · split
      · exact h.record_error call _
      · split
        · exact h
        · rename_i havailable
          split
          · exact h.record_error call _
          · rename_i row hrow
            exact h.lock hundisturbed (not_not.mp havailable) hrow
  | finish sid =>
    simp only [Shared.step, Shared.finish]
    split
    · exact h
    · rename_i call hcurrent
      split
      · exact h
      · rename_i action hcopy
        refine h.settle hcurrent hcopy fun haction => ?_
        subst haction
        simpa [undisturbed, hcurrent, hcopy] using hundisturbed
  | close sid =>
    exact h.commit {} rfl (fun _ _ hcopy => by cases hcopy) (Or.inr rfl) h.settled

end Step

/-- Sessions that have just been opened on a database. -/
private theorem exclusive_init (db : Database) (action_id : String) :
    ({ db } : Shared).Exclusive action_id where
  keyed _ _ _ hcopy := by cases hcopy
  holding _ _ hcurrent := by cases hcurrent
  settled hreturned := absurd rfl hreturned
  once := by simp [Shared.returned]
  commands := by simp [Shared.returned, Shared.created]
  raised _ hlogged := by cases hlogged

/-- An action is undone at most once over every interleaving of the sessions in which its locked
reads meet no stale copy and its rollbacks can tell the cooldown. -/
theorem atMostOnce_of_undisturbed (db : Database) (action_id : String) (steps : List SessionStep)
    (hsteps : transition.Along step (fun self op => self.undisturbed action_id op) { db } steps) :
    (transition.run step { db } steps).AtMostOnce action_id := by
  have hexclusive : (transition.run step { db } steps).Exclusive action_id :=
    transition.run_invariant (I := fun self => self.Exclusive action_id) (fun _ _ h hop => h.step hop) hsteps
      (exclusive_init db action_id)
  exact ⟨hexclusive.once, hexclusive.commands.trans hexclusive.once, hexclusive.raised⟩

/-- An isolation of the agent that has been confirmed. -/
def isolated_agent : Database :=
  transition.run (Database.step fun _ => true) Database.one_agent (isolate_and_undo.take 2)

def undo_call (cmd_id actor : String) : RollbackCall where
  now := 2
  cmd_id := cmd_id
  action_id := "act_1"
  reason := "false alarm"
  actor := actor

/-- Two analysts undo the action, each in a session that loads it with the lock. -/
def two_undos : List SessionStep :=
  [.get_for_update 0 (undo_call "cmd_2" "first"), .get_for_update 1 (undo_call "cmd_3" "second"), .finish 0,
    .get_for_update 1 (undo_call "cmd_3" "second"), .finish 1, .close 1]

theorem atMostOnce_two_undos : (transition.run step { db := isolated_agent } two_undos).AtMostOnce "act_1" :=
  atMostOnce_of_undisturbed isolated_agent "act_1" two_undos
    ⟨by decide, by decide, by decide, by decide, by decide, by decide, trivial⟩

/-- A batch undo loads the action before a single undo reverts it. The locked read of the batch
keeps the copy that says applied. -/
def preloaded_undo : List SessionStep :=
  [.query 1 (.agent "web-1"), .get_for_update 0 (undo_call "cmd_2" "first"), .finish 0,
    .get_for_update 1 (undo_call "cmd_3" "second"), .finish 1]

/-- Both undos return, and each creates a compensation command. -/
theorem not_atMostOnce_preloaded :
    ¬ (transition.run step { db := isolated_agent } preloaded_undo).AtMostOnce "act_1" := by
  intro h
  have htwice : ((transition.run step { db := isolated_agent } preloaded_undo).returned "act_1").length = 2 := by
    decide
  have honce := h.returned
  omega

end Shared

end larp
