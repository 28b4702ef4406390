import ActiveResponse.Response.Concurrent
import ActiveResponse.Response.History

namespace larp

/-- The seconds that an action is meant to stay in force: those of the request, or the configured
timeout. -/
def ActionRequest.window (self : ActionRequest) (settings : Database.AutoRollbackSettings) : Option ℤ :=
  if self.action_type ∈ NO_ROLLBACK_ACTIONS then none
  else
    match self.auto_rollback_seconds with
    | some secs => if 0 < secs then some secs else none
    | none => if settings.enabled ∧ 0 < settings.timeout_seconds then some settings.timeout_seconds else none

/-- The window runs from the moment the action is queued. -/
theorem ActionRequest.auto_rollback_at_eq (self : ActionRequest) (settings : Database.AutoRollbackSettings)
    (now : Time) : self.auto_rollback_at settings now = (self.window settings).map fun w => now + seconds w := by
  unfold auto_rollback_at window
  split
  · rfl
  · cases self.auto_rollback_seconds with
    | some secs =>
      dsimp only
      split <;> rfl
    | none =>
      dsimp only
      split <;> rfl

/-- A request that created an action, with the window it was given. -/
structure Queued where
  action_id : String
  created_at : Time
  window : Option ℤ
deriving DecidableEq

/-- An action that the scheduler has reverted: when, and since when it had been applied. -/
structure AutoUndone where
  action_id : String
  applied_at : Option Time
  undone_at : Time
deriving DecidableEq

/-- The manager with its clock and the pass of `periodic_auto_rollback` that is under way: the
actions that it has loaded and not yet reverted. -/
structure Scheduled where
  db : Database
  clock : Time := 0
  expired : List ResponseAction := []
  queued : List Queued := []
  undone : List AutoUndone := []

inductive SchedulerStep where
  | advance (microseconds : ℕ)
  | call (call : Call)
  | load_expired
  | rollback_next (cmd_id : String)

namespace Scheduled

/-- The action created by a call, if the call is a request that was answered. -/
def queued_by (is_datetime : Json → Bool) (self : Scheduled) (call : Call) : List Queued :=
  match call.op, (self.db.answer is_datetime call).1, self.db.get_auto_rollback_settings with
  | .create_and_apply_action now action_id _ req, .ok _, .ok settings =>
    [{ action_id, created_at := now, window := req.window settings }]
  | _, _, _ => []

/-- The head of a pass: nothing is loaded while auto-rollback is disabled, and an error ends the
pass. -/
def load_expired (self : Scheduled) : Scheduled :=
  match self.expired, self.db.get_auto_rollback_settings with
  | [], .ok settings =>
    if settings.enabled then { self with expired := self.db.get_expired_actions self.clock } else self
  | _, _ => self

/-- One round of the loop of a pass. An error is logged and the loop goes on, unless it has left
the session unusable: then every later round fails as well. -/
def rollback_next (self : Scheduled) (cmd_id : String) : Scheduled :=
  match self.expired with
  | [] => self
  | action :: rest =>
    match self.db.rollback_loaded action self.clock cmd_id
        ("Auto-rollback timeout expired (scheduled for " ++ datetime_str action.auto_rollback_at ++ ")")
        "system" with
    | (.ok _, db) =>
      { self with
        db, expired := rest
        undone := self.undone ++ [{
          action_id := action.id
          applied_at := (self.db.response_actions.get action.id).bind ResponseAction.applied_at
          undone_at := self.clock }] }
    | (.error e, db) => { self with db, expired := if e.breaks_session then [] else rest }

def step (is_datetime : Json → Bool) (self : Scheduled) : SchedulerStep → Scheduled
  | .advance microseconds => { self with clock := self.clock + microseconds }
  | .call call =>
    { self with
      db := self.db.step is_datetime call
      queued := self.queued ++ self.queued_by is_datetime call }
  | .load_expired => self.load_expired
  | .rollback_next cmd_id => self.rollback_next cmd_id

/-- No action is reverted by the scheduler before its window, counted from its acknowledgement,
is over. -/
def InForceForWindow (self : Scheduled) : Prop :=
  ∀ queued ∈ self.queued, ∀ undone ∈ self.undone, undone.action_id = queued.action_id →
    ∀ w ∈ queued.window, ∀ applied_at ∈ undone.applied_at, applied_at + seconds w ≤ undone.undone_at

/-- No action is reverted by the scheduler before its window, counted from its request, is over. -/
def UndoneAfterWindow (self : Scheduled) : Prop :=
  ∀ queued ∈ self.queued, ∀ undone ∈ self.undone, undone.action_id = queued.action_id →
    ∀ w ∈ queued.window, queued.created_at + seconds w ≤ undone.undone_at

/-- The row of a queued action has the deadline that its request asked for. -/
def Promised (db : Database) (queued : Queued) : Prop :=
  ∃ row, db.response_actions.get queued.action_id = some row ∧
    row.auto_rollback_at = queued.window.map fun w => queued.created_at + seconds w

/-- The row of the action has a deadline, and it lies before `t`. -/
def Due (db : Database) (action_id : String) (t : Time) : Prop :=
  ∃ row deadline, db.response_actions.get action_id = some row ∧ row.auto_rollback_at = some deadline ∧
    deadline ≤ t

/-- The deadlines in the table are those of the requests, and the scheduler keeps to them. -/
structure OnSchedule (s : Scheduled) : Prop where
  queued : ∀ queued ∈ s.queued, Promised s.db queued
  expired : ∀ action ∈ s.expired, Due s.db action.id s.clock
  undone : ∀ undone ∈ s.undone, Due s.db undone.action_id undone.undone_at

theorem OnSchedule.undoneAfterWindow {self : Scheduled} (h : self.OnSchedule) : self.UndoneAfterWindow := by
  intro queued hqueued undone hundone hid w hw
  obtain ⟨row, hrow, hdeadline⟩ := h.queued queued hqueued
  obtain ⟨row', deadline, hrow', hdue, hle⟩ := h.undone undone hundone
  rw [hid, hrow] at hrow'
  cases hrow'
  rw [hdeadline, hw] at hdue
  cases hdue
  exact hle

/-- Every action of the first database is in the second one, with its deadline. -/
def KeepsDeadlines (db db' : Database) : Prop :=
  ∀ id row, db.response_actions.get id = some row → ∃ row', db'.response_actions.get id = some row' ∧
    row'.auto_rollback_at = row.auto_rollback_at

theorem Promised.kept {db db' : Database} (hkeeps : KeepsDeadlines db db') {queued : Queued}
    (h : Promised db queued) : Promised db' queued := by
  obtain ⟨row, hrow, hdeadline⟩ := h
  obtain ⟨row', hrow', hsame⟩ := hkeeps _ _ hrow
  exact ⟨row', hrow', hsame.trans hdeadline⟩

theorem Due.kept {db db' : Database} (hkeeps : KeepsDeadlines db db') {action_id : String} {t : Time}
    (h : Due db action_id t) : Due db' action_id t := by
  obtain ⟨row, deadline, hrow, hdeadline, hle⟩ := h
  obtain ⟨row', hrow', hsame⟩ := hkeeps _ _ hrow
  exact ⟨row', deadline, hrow', hsame.trans hdeadline, hle⟩

theorem Due.later {db : Database} {action_id : String} {t t' : Time} (ht : t ≤ t') (h : Due db action_id t) :
    Due db action_id t' := by
  obtain ⟨row, deadline, hrow, hdeadline, hle⟩ := h
  exact ⟨row, deadline, hrow, hdeadline, hle.trans ht⟩

theorem keepsDeadlines_step (is_datetime : Json → Bool) (db : Database) (call : Call) :
    KeepsDeadlines db (db.step is_datetime call) := by
  intro id row hrow
  obtain ⟨row', hrow', hchange⟩ := Database.action_change_step is_datetime call hrow
  exact ⟨row', hrow', hchange.sameRequest.auto_rollback_at⟩

private theorem keepsDeadlines_modify (db : Database) {actions : Table ResponseAction}
    {target : String} {f : ResponseAction → ResponseAction}
    (hkey : ∀ row, Keyed.key (f row) = Keyed.key row)
    (hdeadline : ∀ row, (f row).auto_rollback_at = row.auto_rollback_at)
    (hactions : actions = db.response_actions.modify target f) (db' : Database)
    (hdb' : db'.response_actions = actions) : KeepsDeadlines db db' := by
  intro id row hrow
  rw [hdb', hactions, Table.get_modify hkey, hrow]
  split
  · exact ⟨f row, rfl, hdeadline row⟩
  · exact ⟨row, rfl, rfl⟩

/-- A rollback on a copy of an action, however old the copy is. -/
theorem keepsDeadlines_rollback {db db' : Database} {action : ResponseAction} {now : Time}
    {cmd_id reason actor : String} {result : Except AppException ResponseAction}
    (h : db.rollback_loaded action now cmd_id reason actor = (result, db')) : KeepsDeadlines db db' := by
  rcases Database.rollback_loaded_cases h with ⟨_, _, rfl⟩ | ⟨_, _, _, _, _, rfl⟩ |
    ⟨_, _, _, cooldown_until, _, _, _, rfl⟩
  · exact fun id row hrow => ⟨row, hrow, rfl⟩
  · exact keepsDeadlines_modify db (ResponseAction.key_set_status .applied) (fun _ => rfl) rfl _ rfl
  · exact keepsDeadlines_modify db (ResponseAction.key_revert now actor reason cooldown_until) (fun _ => rfl)
      rfl _ rfl

section Step

variable {is_datetime : Json → Bool} {self : Scheduled}

/-- The row of a new action carries the deadline of its request. -/
private theorem deadline_of_queued_by {call : Call} {queued : Queued}
    (h : queued ∈ self.queued_by is_datetime call) : Promised (self.db.step is_datetime call) queued := by
  obtain ⟨op, fault⟩ := call
  unfold queued_by at h
  split at h
  · rename_i now action_id cmd_id req id settings hop hanswer hsettings
    obtain rfl : op = .create_and_apply_action now action_id cmd_id req := hop
    cases fault with
    | some e => cases hanswer
    | none =>
      obtain ⟨agent, settings', _, hsettings', hrow⟩ :=
        Database.created_of_answer (show (self.db.answer is_datetime _).1.isOk by rw [hanswer]; rfl)
      rw [hsettings] at hsettings'
      cases hsettings'
      obtain rfl := List.mem_singleton.mp h
      exact ⟨_, hrow, req.auto_rollback_at_eq settings now⟩
  · cases h

private theorem OnSchedule.call (h : self.OnSchedule) (call : Call) :
    (self.step is_datetime (.call call)).OnSchedule := by
  have hkeeps := keepsDeadlines_step is_datetime self.db call
  refine ⟨fun queued hqueued => ?_, fun action haction => (h.expired action haction).kept hkeeps,
    fun undone hundone => (h.undone undone hundone).kept hkeeps⟩
  rcases List.mem_append.mp hqueued with hqueued | hqueued
  · exact (h.queued queued hqueued).kept hkeeps
  · exact deadline_of_queued_by hqueued

private theorem OnSchedule.load_expired (h : self.OnSchedule) : self.load_expired.OnSchedule := by
  unfold Scheduled.load_expired
  split
  · split
    · refine ⟨h.queued, fun action haction => ?_, h.undone⟩
      obtain ⟨hmem, _, deadline, hdeadline, hle⟩ := Database.mem_get_expired_actions.mp haction
      exact ⟨action, deadline, Table.get_of_mem hmem, hdeadline, hle⟩
    · exact h
  · exact h

private theorem OnSchedule.rollback_next (h : self.OnSchedule) (cmd_id : String) :
    (self.rollback_next cmd_id).OnSchedule := by
  unfold Scheduled.rollback_next
  split
  · exact h
  · rename_i action rest hexpired
    have hdue := h.expired action (by rw [hexpired]; exact List.mem_cons_self)
    have hrest : ∀ other ∈ rest, Due self.db other.id self.clock := fun other hother =>
      h.expired other (by rw [hexpired]; exact List.mem_cons_of_mem _ hother)
    split
    · rename_i row db hbody
      have hkeeps := keepsDeadlines_rollback hbody
      refine ⟨fun queued hqueued => (h.queued queued hqueued).kept hkeeps,
        fun other hother => (hrest other hother).kept hkeeps, fun undone hundone => ?_⟩
      rcases List.mem_append.mp hundone with hundone | hundone
      · exact (h.undone undone hundone).kept hkeeps
      · obtain rfl := List.mem_singleton.mp hundone
        exact hdue.kept hkeeps
    · rename_i e db hbody
      have hkeeps := keepsDeadlines_rollback hbody
      refine ⟨fun queued hqueued => (h.queued queued hqueued).kept hkeeps, fun other hother => ?_,
        fun undone hundone => (h.undone undone hundone).kept hkeeps⟩
      dsimp only at hother
      split at hother
      · cases hother
      · exact (hrest other hother).kept hkeeps

private theorem OnSchedule.step (h : self.OnSchedule) (op : SchedulerStep) :
    (self.step is_datetime op).OnSchedule := by
  cases op with
  | advance microseconds =>
    refine ⟨h.queued, fun action haction => (h.expired action haction).later ?_, h.undone⟩
    exact Int.le_add_of_nonneg_right (Int.natCast_nonneg microseconds)
  | call call => exact h.call call
  | load_expired => exact h.load_expired
  | rollback_next cmd_id => exact h.rollback_next cmd_id

end Step

/-- Over every run, the scheduler reverts an action only once its window, counted from the request,
is over. -/
theorem undoneAfterWindow_run (is_datetime : Json → Bool) (db : Database) (clock : Time)
    (steps : List SchedulerStep) :
    (transition.run (step is_datetime) { db, clock } steps).UndoneAfterWindow :=
  (transition.run_preserves (I := OnSchedule) (fun _ op h => h.step op)
    ⟨by simp, by simp, by simp⟩ steps).undoneAfterWindow

/-- An isolation for ten seconds whose acknowledgement comes eight seconds late. -/
def late_ack : List SchedulerStep :=
  [.call { op := .create_and_apply_action 0 "act_1" "cmd_1" {
      agent_id := "web-1", action_type := "isolate", auto_rollback_seconds := some 10 } },
    .advance 8000000,
    .call { op := .command_ack 8000000 "web-1" (ack_payload "cmd_1" "success") },
    .advance 2000000,
    .load_expired,
    .rollback_next "cmd_2"]

/-- The scheduler reverts it two seconds after it took effect. -/
theorem not_inForceForWindow_late_ack :
    ¬ (transition.run (step fun _ => true) { db := Database.one_agent } late_ack).InForceForWindow := by
  intro h
  have hqueued : (transition.run (step fun _ => true) { db := Database.one_agent } late_ack).queued =
      [{ action_id := "act_1", created_at := 0, window := some 10 }] := by decide
  have hundone : (transition.run (step fun _ => true) { db := Database.one_agent } late_ack).undone =
      [{ action_id := "act_1", applied_at := some 8000000, undone_at := 10000000 }] := by decide
  unfold InForceForWindow at h
  rw [hqueued, hundone] at h
  have hlate := h _ List.mem_cons_self _ List.mem_cons_self rfl 10 rfl 8000000 rfl
  simp [seconds] at hlate

end Scheduled

end larp
