import ActiveResponse.Response.Concurrent

namespace larp

/-- The steps of `rollback_action` after the status is set to reverting at which an exception can
be raised. `add_command` stands for what precedes the `INSERT`, `refresh` follows the commit. -/
inductive RollbackStep where
  | request_log
  | compensation
  | add_command
  | push_command
  | get_agent
  | settings
  | final_log
  | commit
  | refresh
deriving DecidableEq

/-- The compensation command has not been inserted yet. -/
def RollbackStep.before_command (self : RollbackStep) : Bool :=
  self = .request_log ∨ self = .compensation ∨ self = .add_command

/-- The columns of the completed rollback have not been written yet. -/
def RollbackStep.before_columns (self : RollbackStep) : Bool :=
  self.before_command ∨ self = .push_command ∨ self = .get_agent ∨ self = .settings

namespace Database

/-- `rollback_action` up to the compensation command. -/
def request_and_dispatch (db : Database) (action : ResponseAction) (cmd_id reason actor : String) :
    Except AppException Database := do
  let requested ← db.request_rollback action reason actor
  requested.dispatch_compensation action cmd_id

/-- The rows as the session has them when an exception is raised at a step. An exception of the
steps before it means that the step is not reached. -/
def session_at (db : Database) (action : ResponseAction) (now : Time) (cmd_id reason actor : String) :
    RollbackStep → Except AppException Database
  | .request_log => .ok (db.update_response_action action.id (.set_status .reverting))
  | .compensation | .add_command => db.request_rollback action reason actor
  | .push_command | .get_agent => db.request_and_dispatch action cmd_id reason actor
  | .settings => do
    let dispatched ← db.request_and_dispatch action cmd_id reason actor
    return dispatched.restore_agent action
  | .final_log => do
    let dispatched ← db.request_and_dispatch action cmd_id reason actor
    let cooldown_until ← (dispatched.restore_agent action).rollback_cooldown now action.action_type
    return (dispatched.restore_agent action).update_response_action action.id
      (.revert now actor reason cooldown_until)
  | .commit | .refresh => do
    let dispatched ← db.request_and_dispatch action cmd_id reason actor
    let cooldown_until ← (dispatched.restore_agent action).rollback_cooldown now action.action_type
    (dispatched.restore_agent action).finish_rollback action now cmd_id reason actor cooldown_until

/-- The undo reason is written before the last audit entry and flushed together with it. -/
def pending_undo_reason (reason : String) (step : RollbackStep) : Except AppException (Option String) :=
  if step = .final_log then varchar 255 (some (.str reason)) else .ok none

/-- The `except` branch: what is still pending in the session is flushed together with the status. -/
def handle_failure (session : Database) (action : ResponseAction) (reason actor : String) (step : RollbackStep)
    (e : AppException) : Except AppException Database := do
  let _undo_reason ← pending_undo_reason reason step
  session.fail_rollback action actor e

/-- The end of a `rollback_action` that an exception has interrupted: what it raises and what is
committed. The first audit entry is written before the `try`, and a branch that raises itself
commits nothing. -/
def rollback_interrupted (db session : Database) (action : ResponseAction) (reason actor : String)
    (step : RollbackStep) (e : AppException) : AppException × Database :=
  if step = .request_log then (e, db)
  else
    match if e.breaks_session then .error .PendingRollbackError
      else session.handle_failure action reason actor step e with
    | .ok failed => (e, failed)
    | .error e' => (e', if step = .refresh then session else db)

/-- The committed state is the one before, up to audit entries. -/
def SameButAudit (db after : Database) : Prop :=
  ∃ action_audit_logs, after = { db with action_audit_logs }

/-- Unreadable settings are the interruption that `rollback_loaded` itself knows. -/
theorem rollback_loaded_of_settings_error {db session : Database} {action : ResponseAction} {now : Time}
    {cmd_id reason actor : String} {e : AppException} (happlied : action.status = .applied)
    (hreached : db.session_at action now cmd_id reason actor .settings = .ok session)
    (hsettings : session.rollback_cooldown now action.action_type = .error e)
    (husable : e.breaks_session = false) :
    db.rollback_loaded action now cmd_id reason actor =
      (.error (db.rollback_interrupted session action reason actor .settings e).1,
        (db.rollback_interrupted session action reason actor .settings e).2) := by
  have hcheck := ResponseAction.check_undoable_eq_ok_iff.mpr happlied
  unfold session_at at hreached
  rw [bind_eq_ok_iff] at hreached
  obtain ⟨dispatched, hdispatched, hreached⟩ := hreached
  unfold request_and_dispatch at hdispatched
  rw [bind_eq_ok_iff] at hdispatched
  obtain ⟨requested, hrequest, hdispatch⟩ := hdispatched
  cases hreached
  have hhandler : (dispatched.restore_agent action).handle_failure action reason actor .settings e =
      (dispatched.restore_agent action).fail_rollback action actor e := rfl
  simp only [rollback_loaded, hcheck, hrequest, hdispatch, hsettings, rollback_interrupted, reduceCtorEq,
    if_false, husable, Bool.false_eq_true, hhandler]
  cases (dispatched.restore_agent action).fail_rollback action actor e <;> rfl

/-- Without an interruption the rows at the end of the `try` are committed. -/
theorem rollback_loaded_of_reached {db session : Database} {action : ResponseAction} {now : Time}
    {cmd_id reason actor : String} (happlied : action.status = .applied)
    (hreached : db.session_at action now cmd_id reason actor .refresh = .ok session) :
    (db.rollback_loaded action now cmd_id reason actor).2 = session := by
  have hcheck := ResponseAction.check_undoable_eq_ok_iff.mpr happlied
  unfold session_at at hreached
  rw [bind_eq_ok_iff] at hreached
  obtain ⟨dispatched, hdispatched, hreached⟩ := hreached
  unfold request_and_dispatch at hdispatched
  rw [bind_eq_ok_iff] at hdispatched
  obtain ⟨requested, hrequest, hdispatch⟩ := hdispatched
  rw [bind_eq_ok_iff] at hreached
  obtain ⟨cooldown_until, hcooldown, hfinish⟩ := hreached
  simp only [rollback_loaded, hcheck, hrequest, hdispatch, hcooldown, hfinish]

/-! ## What an interruption leaves behind -/

/-- The columns of a completed rollback, once the status has been put back. -/
def reverted_columns (action : ResponseAction) (now : Time) (actor reason : String)
    (cooldown_until : Option Time) : ResponseAction :=
  (action.revert now actor reason cooldown_until).set_status .applied

/-- The `except` branch can write its entry. -/
def handled (reason : String) (step : RollbackStep) (e : AppException) : Bool :=
  (step = .final_log → reason.length ≤ 255) ∧ ("Rollback failed: " ++ e.message).length ≤ 512

private theorem dispatched_ok {db dispatched : Database} {action : ResponseAction} {cmd_id reason actor : String}
    (h : db.request_and_dispatch action cmd_id reason actor = .ok dispatched) :
    ∃ action_audit_logs commands, db.Compensated action cmd_id commands ∧ dispatched = { db with
      action_audit_logs, commands
      response_actions := db.response_actions.modify action.id (.set_status .reverting) } := by
  unfold request_and_dispatch at h
  rw [bind_eq_ok_iff] at h
  obtain ⟨requested, hrequest, hdispatch⟩ := h
  obtain ⟨logs, rfl⟩ := request_rollback_ok hrequest
  obtain ⟨commands, rfl, hcommands⟩ := dispatch_compensation_ok hdispatch
  exact ⟨logs, commands, ⟨hcommands.rows, hcommands.agent⟩, rfl⟩

/-- The rows of the session at a step that is reached, by what has been written before it. -/
theorem session_at_cases {db session : Database} {action : ResponseAction} {now : Time}
    {cmd_id reason actor : String} {step : RollbackStep} (hlog : step ≠ .request_log)
    (hreached : db.session_at action now cmd_id reason actor step = .ok session) :
    (step.before_command ∧ ∃ action_audit_logs, session = { db with
      action_audit_logs
      response_actions := db.response_actions.modify action.id (.set_status .reverting) }) ∨
    ∃ action_audit_logs commands agents, db.Compensated action cmd_id commands ∧
      (agents = db.agents ∨ agents = db.agents.modify action.agent_id action.compensation.restore) ∧
      ((step.before_command = false ∧ step.before_columns ∧ session = { db with
        action_audit_logs, commands, agents
        response_actions := db.response_actions.modify action.id (.set_status .reverting) }) ∨
      (step.before_columns = false ∧ ∃ cooldown_until,
        db.rollback_cooldown now action.action_type = .ok cooldown_until ∧ session = { db with
          action_audit_logs, commands, agents
          response_actions := db.response_actions.modify action.id
            (.revert now actor reason cooldown_until) })) := by
  have hrevert : ∀ cooldown_until, (db.response_actions.modify action.id (.set_status .reverting)).modify action.id
      (.revert now actor reason cooldown_until) =
        db.response_actions.modify action.id (.revert now actor reason cooldown_until) := fun cooldown_until => by
    rw [Table.modify_modify (by simp) (by simp)]
    rfl
  cases step with
  | request_log => exact absurd rfl hlog
  | compensation | add_command => exact Or.inl ⟨rfl, request_rollback_ok hreached⟩
  | push_command | get_agent =>
    obtain ⟨logs, commands, hcommands, rfl⟩ := dispatched_ok hreached
    exact Or.inr ⟨logs, commands, db.agents, hcommands, Or.inl rfl, Or.inl ⟨rfl, rfl, rfl⟩⟩
  | settings =>
    unfold session_at at hreached
    rw [bind_eq_ok_iff] at hreached
    obtain ⟨dispatched, hdispatch, hreached⟩ := hreached
    obtain ⟨logs, commands, hcommands, rfl⟩ := dispatched_ok hdispatch
    cases hreached
    exact Or.inr ⟨logs, commands, _, hcommands, Or.inr rfl, Or.inl ⟨rfl, rfl, rfl⟩⟩
  | final_log =>
    unfold session_at at hreached
    rw [bind_eq_ok_iff] at hreached
    obtain ⟨dispatched, hdispatch, hreached⟩ := hreached
    obtain ⟨logs, commands, hcommands, rfl⟩ := dispatched_ok hdispatch
    rw [bind_eq_ok_iff] at hreached
    obtain ⟨cooldown_until, hcooldown, hreached⟩ := hreached
    cases hreached
    refine Or.inr ⟨logs, commands, _, hcommands, Or.inr rfl, Or.inr ⟨rfl, cooldown_until, hcooldown, ?_⟩⟩
    simp only [restore_agent, update_response_action, hrevert]
  | commit | refresh =>
    unfold session_at at hreached
    rw [bind_eq_ok_iff] at hreached
    obtain ⟨dispatched, hdispatch, hreached⟩ := hreached
    obtain ⟨logs, commands, hcommands, rfl⟩ := dispatched_ok hdispatch
    rw [bind_eq_ok_iff] at hreached
    obtain ⟨cooldown_until, hcooldown, hfinish⟩ := hreached
    obtain ⟨logs', rfl⟩ := finish_rollback_ok hfinish
    refine Or.inr ⟨logs', commands, _, hcommands, Or.inr rfl, Or.inr ⟨rfl, cooldown_until, hcooldown, ?_⟩⟩
    simp only [restore_agent, hrevert]

private theorem handle_failure_handled (session : Database) {action : ResponseAction} {reason actor : String}
    {step : RollbackStep} {e : AppException} (h : handled reason step e) :
    ∃ action_audit_logs, session.handle_failure action reason actor step e = .ok { session with
      action_audit_logs
      response_actions := session.response_actions.modify action.id (.set_status .applied) } := by
  simp only [handled, decide_eq_true_eq] at h
  have hpending : ∃ text, pending_undo_reason reason step = .ok text := by
    unfold pending_undo_reason
    split
    · rename_i hstep
      exact ⟨_, varchar_str_ok (h.1 hstep)⟩
    · exact ⟨none, rfl⟩
  obtain ⟨text, hpending⟩ := hpending
  simp only [handle_failure, hpending, fail_rollback, record_event, varchar_str_ok h.2]
  exact ⟨_, rfl⟩

private theorem handle_failure_refused (session : Database) {action : ResponseAction} {reason actor : String}
    {step : RollbackStep} {e : AppException} (h : handled reason step e = false) :
    ∃ e', session.handle_failure action reason actor step e = .error e' := by
  simp only [handled, decide_eq_false_iff_not, not_and_or, Classical.not_imp] at h
  rcases h with ⟨hstep, hreason⟩ | hmessage
  · obtain ⟨e', hpending⟩ := varchar_str_error hreason
    simp only [handle_failure, pending_undo_reason, hstep, if_true, hpending]
    exact ⟨e', rfl⟩
  · cases hresult : session.handle_failure action reason actor step e with
    | error e' => exact ⟨e', rfl⟩
    | ok failed =>
      unfold handle_failure at hresult
      rw [bind_eq_ok_iff] at hresult
      obtain ⟨_, _, hfail⟩ := hresult
      unfold fail_rollback record_event at hfail
      rw [bind_eq_ok_iff] at hfail
      obtain ⟨_, htext, _⟩ := hfail
      obtain ⟨e', herror⟩ := varchar_str_error hmessage
      rw [herror] at htext
      cases htext

theorem compensated_eq_iff {db : Database} {action : ResponseAction} {cmd_id : String} {commands : Table Command}
    (h : db.Compensated action cmd_id commands) :
    commands = db.commands ↔ action.compensation.command_action = none := by
  constructor
  · rintro rfl
    have hrows := h.rows
    simpa [ResponseAction.compensation_command] using hrows
  · intro hnone
    apply Table.ext_rows
    rw [h.rows, ResponseAction.compensation_command, hnone]
    simp

theorem restore_of_no_command {action : ResponseAction} (h : action.compensation.command_action = none)
    (agent : Agent) : action.compensation.restore agent = agent := by
  refine get_compensation_action_other (fun hcontainment => ?_) action.action_params action.snapshot agent
  unfold ResponseAction.compensation at h
  rcases is_containment_iff.mp hcontainment with htype | htype | htype <;>
    simp [htype, get_compensation_action] at h

/-- Nothing has been written when the exception is raised, or the `except` branch cannot commit
what has been. The action has no compensation command and the exception comes before the columns
of the completed rollback, or these hold what is written to them. -/
def NothingWritten (db : Database) (action : ResponseAction) (now : Time) (reason actor : String)
    (step : RollbackStep) (e : AppException) : Prop :=
  step.before_command ∨
  (action.compensation.command_action = none ∧
    (step.before_columns ∨ ∀ cooldown_until, db.rollback_cooldown now action.action_type = .ok cooldown_until →
      reverted_columns action now actor reason cooldown_until = action) ∧
    (step = .refresh → handled reason step e)) ∨
  (step ≠ .refresh ∧ handled reason step e = false)

private theorem sameButAudit_iff {db : Database} {action_audit_logs : List ActionAuditLog}
    {commands : Table Command} {agents : Table Agent} {response_actions : Table ResponseAction} :
    SameButAudit db { db with action_audit_logs, commands, agents, response_actions } ↔
      commands = db.commands ∧ agents = db.agents ∧ response_actions = db.response_actions := by
  constructor
  · rintro ⟨logs, heq⟩
    simp only [mk.injEq] at heq
    exact ⟨heq.2.1, heq.1, heq.2.2.1⟩
  · rintro ⟨rfl, rfl, rfl⟩
    exact ⟨action_audit_logs, rfl⟩

section Interrupted

variable {db session : Database} {action : ResponseAction} {now : Time} {cmd_id reason actor : String}
  {step : RollbackStep} {e : AppException}

/-- An interruption whose entry is written leaves everything behind that came before it. -/
private theorem sameButAudit_handled_iff (hlog : step ≠ .request_log)
    (hget : db.response_actions.get action.id = some action) (happlied : action.status = .applied)
    (hreached : db.session_at action now cmd_id reason actor step = .ok session)
    (hhandled : handled reason step e) {logs : List ActionAuditLog} :
    SameButAudit db { session with
        action_audit_logs := logs
        response_actions := session.response_actions.modify action.id (.set_status .applied) } ↔
      db.NothingWritten action now reason actor step e := by
  have hstatus : (db.response_actions.modify action.id (.set_status .reverting)).modify action.id
      (.set_status .applied) = db.response_actions := by
    rw [Table.modify_modify (by simp) (by simp), Table.modify_eq_self_iff (by simp) hget]
    cases action
    simp only at happlied
    subst happlied
    rfl
  rcases session_at_cases hlog hreached with ⟨hbefore, _, rfl⟩ |
    ⟨_, commands, agents, hcommands, hagents, hrest⟩
  · exact iff_of_true (sameButAudit_iff.mpr ⟨rfl, rfl, hstatus⟩) (Or.inl hbefore)
  have hagents_of : action.compensation.command_action = none → agents = db.agents := fun hnone =>
    hagents.elim id fun heq => heq.trans (Table.modify_of_fixed (restore_of_no_command hnone))
  rcases hrest with ⟨hafter, hcolumns, rfl⟩ | ⟨hcolumns, cooldown_until, hcooldown, rfl⟩
  · dsimp only
    rw [hstatus, sameButAudit_iff, compensated_eq_iff hcommands]
    simp only [NothingWritten, hafter, hcolumns, hhandled, Bool.false_eq_true, false_or, true_or,
      implies_true, and_true, reduceCtorEq, and_false, or_false]
    exact and_iff_left_of_imp hagents_of
  · have hafter : step.before_command = false := by
      unfold RollbackStep.before_columns at hcolumns
      simp_all
    dsimp only
    rw [sameButAudit_iff, compensated_eq_iff hcommands, Table.modify_modify (by simp) (by simp),
      Table.modify_eq_self_iff (by simp) hget]
    simp only [NothingWritten, hafter, hcolumns, hhandled, hcooldown, Bool.false_eq_true, false_or,
      implies_true, and_true, reduceCtorEq, and_false, or_false, Except.ok.injEq, forall_eq']
    exact ⟨fun h => ⟨h.1, h.2.2⟩, fun h => ⟨h.1, hagents_of h.1, h.2⟩⟩

/-- The committed state after an interrupted `rollback_action` is the one before, up to audit
entries, exactly if nothing had been written. -/
theorem sameButAudit_interrupted_iff (hget : db.response_actions.get action.id = some action)
    (happlied : action.status = .applied)
    (hreached : db.session_at action now cmd_id reason actor step = .ok session)
    (husable : e.breaks_session = false) :
    SameButAudit db (db.rollback_interrupted session action reason actor step e).2 ↔
      db.NothingWritten action now reason actor step e := by
  unfold rollback_interrupted
  by_cases hlog : step = .request_log
  · simp only [hlog, if_true]
    exact iff_of_true ⟨_, rfl⟩ (Or.inl rfl)
  simp only [if_neg hlog, husable, Bool.false_eq_true, if_false]
  cases hhandled : handled reason step e with
  | true =>
    obtain ⟨logs, hhandler⟩ := handle_failure_handled session hhandled
    rw [hhandler]
    exact sameButAudit_handled_iff hlog hget happlied hreached hhandled
  | false =>
    obtain ⟨e', hhandler⟩ := handle_failure_refused session hhandled
    rw [hhandler]
    by_cases hrefresh : step = .refresh
    · subst hrefresh
      refine iff_of_false ?_ (by simp [NothingWritten, hhandled, RollbackStep.before_command])
      rcases session_at_cases hlog hreached with ⟨hbefore, _⟩ | ⟨_, _, _, _, _, ⟨_, hcolumns, _⟩ | ⟨_, _, _, rfl⟩⟩
      · cases hbefore
      · cases hcolumns
      · rw [if_pos rfl, sameButAudit_iff, Table.modify_eq_self_iff (by simp) hget]
        rintro ⟨_, _, hrow⟩
        rw [← hrow] at happlied
        cases happlied
    · simp only [if_neg hrefresh]
      exact iff_of_true ⟨_, rfl⟩ (Or.inr (Or.inr ⟨hrefresh, hhandled⟩))

end Interrupted

/-- A rollback that fails before its compensation command leaves the isolation as it was. -/
theorem sameButAudit_before_command : ∃ action session,
    Shared.isolated_agent.response_actions.get "act_1" = some action ∧
      Shared.isolated_agent.session_at action 2 "cmd_2" "false alarm" "analyst" .compensation = .ok session ∧
      SameButAudit Shared.isolated_agent (Shared.isolated_agent.rollback_interrupted session action
        "false alarm" "analyst" .compensation (.Fault "unexpected snapshot")).2 := by
  obtain ⟨action, hget⟩ := Option.isSome_iff_exists.mp
    (show (Shared.isolated_agent.response_actions.get "act_1").isSome by decide)
  have happlied : action.status = .applied := by
    have hstatus : (Shared.isolated_agent.response_actions.get "act_1").map ResponseAction.status =
        some .applied := by decide
    simpa [hget] using hstatus
  obtain ⟨session, hreached⟩ : ∃ session, Shared.isolated_agent.session_at action 2 "cmd_2" "false alarm"
      "analyst" .compensation = .ok session := ⟨_, rfl⟩
  have hid : action.id = "act_1" := Table.key_of_get hget
  exact ⟨action, session, hget, hreached,
    (sameButAudit_interrupted_iff (by rw [hid]; exact hget) happlied hreached rfl).mpr (Or.inl rfl)⟩

/-- An isolation in force while the cooldown setting is not a number. -/
def unreadable_cooldown : Database :=
  Shared.isolated_agent.step (fun _ => false) { op := .set_key "rollback_cooldown_seconds" (.str "ten minutes") }

/-- The undo raises, and yet its compensation command is queued. -/
theorem not_sameButAudit_unreadable_cooldown :
    (unreadable_cooldown.rollback_action 2 "cmd_2" "act_1" "false alarm" "analyst").1.isOk = false ∧
      ¬ SameButAudit unreadable_cooldown
        (unreadable_cooldown.rollback_action 2 "cmd_2" "act_1" "false alarm" "analyst").2 := by
  refine ⟨by decide, ?_⟩
  rintro ⟨logs, heq⟩
  have hcommands : (unreadable_cooldown.rollback_action 2 "cmd_2" "act_1" "false alarm"
      "analyst").2.commands.rows.map Command.action = ["isolate", "unisolate"] := by decide
  have hbefore : unreadable_cooldown.commands.rows.map Command.action = ["isolate"] := by decide
  rw [heq] at hcommands
  cases hbefore.symm.trans hcommands

end Database

end larp
