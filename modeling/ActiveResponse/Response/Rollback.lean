import ActiveResponse.Response.Snapshot

namespace larp

/-- Actions whose rollback sets no cooldown: the process is gone. -/
def UNROLLBACKABLE_ACTIONS : List String := ["kill_process", "kill_process_tree"]

/-- The status tests at the head of `RollbackService.rollback_action`. -/
def ResponseAction.check_undoable (self : ResponseAction) : Except AppException Unit :=
  match self.status with
  | .reverting =>
    .error (.ConflictError
      ("Action '" ++ self.id ++ "' is currently being reverted by another process."))
  | .reverted =>
    .error (.ConflictError
      ("Action '" ++ self.id ++ "' has already been reverted at " ++ datetime_str self.undone_at ++ "."))
  | .applied => .ok ()
  | status =>
    .error (.BadRequestError
      ("Cannot undo action in status '" ++ status.value ++ "'. Only 'applied' actions can be undone."))

theorem ResponseAction.check_undoable_eq_ok_iff {self : ResponseAction} :
    self.check_undoable = .ok () ↔ self.status = .applied := by
  unfold check_undoable
  split <;> simp_all

def ResponseAction.compensation (self : ResponseAction) : Compensation :=
  get_compensation_action self.action_type self.action_params self.snapshot

/-- The compensation command of an action, for those that have one. -/
def ResponseAction.compensation_command (self : ResponseAction) (cmd_id : String) : Option Command :=
  self.compensation.command_action.map fun action =>
    { id := cmd_id, agent_id := self.agent_id, action, payload := self.compensation.payload,
      status := .PENDING }

/-- The columns written by a completed rollback. -/
def ResponseAction.revert (now : Time) (actor reason : String) (cooldown_until : Option Time)
    (self : ResponseAction) : ResponseAction :=
  { self with
    status := .reverted
    undone_at := some now
    undone_by := some actor
    undo_reason := some reason
    cooldown_until
    updated_at := now }

def ResponseAction.set_status (status : ResponseActionStatus) (self : ResponseAction) : ResponseAction :=
  { self with status }

@[simp] theorem ResponseAction.key_revert (now : Time) (actor reason : String) (cooldown_until : Option Time)
    (self : ResponseAction) :
    Keyed.key (self.revert now actor reason cooldown_until) = Keyed.key self := rfl

@[simp] theorem ResponseAction.key_set_status (status : ResponseActionStatus) (self : ResponseAction) :
    Keyed.key (self.set_status status) = Keyed.key self := rfl

namespace Database

/-- `UPDATE response_actions SET ... WHERE id = action_id`. -/
def update_response_action (db : Database) (action_id : String) (f : ResponseAction → ResponseAction) :
    Database :=
  { db with response_actions := db.response_actions.modify action_id f }

/-- Queue the compensation command of an action. -/
def dispatch_compensation (db : Database) (action : ResponseAction) (cmd_id : String) :
    Except AppException Database :=
  match action.compensation_command cmd_id with
  | some cmd => db.add_command cmd
  | none => .ok db

/-- Write the restored flags to the agent of an action, without waiting for the agent. -/
def restore_agent (db : Database) (action : ResponseAction) : Database :=
  { db with agents := db.agents.modify action.agent_id action.compensation.restore }

/-- The cooldown set by a rollback. Reading the settings may raise, and so may a cooldown too long for a `datetime`. -/
def rollback_cooldown (db : Database) (now : Time) (action_type : String) :
    Except AppException (Option Time) :=
  if action_type ∈ UNROLLBACKABLE_ACTIONS then .ok none
  else do
    let settings ← db.get_auto_rollback_settings
    let cooldown_until ← add_seconds now settings.cooldown_seconds
    return some cooldown_until

/-- The audit metadata of a completed rollback. -/
def undone_metadata (action : ResponseAction) (cmd_id : String) (cooldown_until : Option Time) : Dict :=
  [("compensation_command", (action.compensation.command_action.map Json.str).getD .null),
    ("compensation_cmd_id",
      if action.compensation.command_action.isSome then .str cmd_id else .null)] ++
    (match cooldown_until with
      | some t => [("cooldown_until", .str (isoformat t))]
      | none => [])

/-- Mark the action as reverting and log the request. -/
def request_rollback (db : Database) (action : ResponseAction) (reason actor : String) :
    Except AppException Database :=
  (db.update_response_action action.id (.set_status .reverting)).record_event action.id
    (if actor = "system" then "auto_rollback_requested" else "undo_requested") actor (some (.str reason))
    [("previous_status", .str "applied")]

/-- The `except` branch: the status goes back to applied. -/
def fail_rollback (db : Database) (action : ResponseAction) (actor : String) (e : AppException) :
    Except AppException Database :=
  (db.update_response_action action.id (.set_status .applied)).record_event action.id "failed" actor
    (some (.str ("Rollback failed: " ++ e.message))) [("error", .str e.message)]

/-- The end of the `try` block: the action becomes reverted. -/
def finish_rollback (db : Database) (action : ResponseAction) (now : Time) (cmd_id reason actor : String)
    (cooldown_until : Option Time) : Except AppException Database := do
  let _undo_reason ← varchar 255 (some (.str reason))
  (db.update_response_action action.id (.revert now actor reason cooldown_until)).record_event action.id
    (if actor = "system" then "auto_undone" else "undone") actor (some (.str reason))
    (undone_metadata action cmd_id cooldown_until)

/-- `RollbackService.rollback_action` after the locked read. `action` is the copy of the row
that the session holds; the writes go to the committed row. An exception raised inside
the `try` puts the status back and commits what was written before it, unless it came from
the database: then the session can no longer be flushed and nothing is committed. -/
def rollback_loaded (db : Database) (action : ResponseAction) (now : Time)
    (cmd_id reason actor : String) : Except AppException ResponseAction × Database :=
  match action.check_undoable with
  | .error e => (.error e, db)
  | .ok () =>
    match db.request_rollback action reason actor with
    | .error e => (.error e, db)
    | .ok requested =>
      match requested.dispatch_compensation action cmd_id with
      | .error _ => (.error .PendingRollbackError, db)
      | .ok dispatched =>
        match (dispatched.restore_agent action).rollback_cooldown now action.action_type with
        | .error e =>
          match (dispatched.restore_agent action).fail_rollback action actor e with
          | .error e' => (.error e', db)
          | .ok failed => (.error e, failed)
        | .ok cooldown_until =>
          match (dispatched.restore_agent action).finish_rollback action now cmd_id reason actor
              cooldown_until with
          | .error _ => (.error .PendingRollbackError, db)
          | .ok finished =>
            (.ok (((db.response_actions.get action.id).getD action).revert now actor reason cooldown_until),
              finished)

/-- `RollbackService.rollback_action` in a session that has not loaded the action before. -/
def rollback_action (db : Database) (now : Time) (cmd_id action_id reason actor : String) :
    Except AppException ResponseAction × Database :=
  match db.response_actions.get action_id with
  | none =>
    (.error (.NotFoundError ("ResponseAction with ID '" ++ action_id ++ "' was not found.")), db)
  | some action => db.rollback_loaded action now cmd_id reason actor

/-- The table of commands once the compensation of an action is queued. -/
structure Compensated (db : Database) (action : ResponseAction) (cmd_id : String) (commands : Table Command) :
    Prop where
  rows : commands.rows = db.commands.rows ++ (action.compensation_command cmd_id).toList
  agent : (action.compensation_command cmd_id).isSome → (db.agents.get action.agent_id).isSome

theorem dispatch_compensation_ok {db db' : Database} {action : ResponseAction} {cmd_id : String}
    (h : db.dispatch_compensation action cmd_id = .ok db') :
    ∃ commands : Table Command, db' = { db with commands } ∧ db.Compensated action cmd_id commands := by
  unfold dispatch_compensation at h
  split at h
  · rename_i cmd hcmd
    obtain ⟨hagent, commands, hinsert, rfl⟩ := add_command_ok h
    refine ⟨commands, rfl, by rw [(Table.insert_eq_some_iff.mp hinsert).2, hcmd]; rfl, fun _ => ?_⟩
    obtain ⟨_, _, rfl⟩ := Option.map_eq_some_iff.mp hcmd
    exact hagent
  · rename_i hcmd
    cases h
    exact ⟨db.commands, rfl, by rw [hcmd]; simp, by simp [hcmd]⟩

theorem request_rollback_ok {db db' : Database} {action : ResponseAction} {reason actor : String}
    (h : db.request_rollback action reason actor = .ok db') :
    ∃ action_audit_logs, db' = { db with
      action_audit_logs
      response_actions := db.response_actions.modify action.id (.set_status .reverting) } :=
  record_event_ok h

theorem fail_rollback_ok {db db' : Database} {action : ResponseAction} {actor : String} {e : AppException}
    (h : db.fail_rollback action actor e = .ok db') :
    ∃ action_audit_logs, db' = { db with
      action_audit_logs
      response_actions := db.response_actions.modify action.id (.set_status .applied) } :=
  record_event_ok h

theorem finish_rollback_ok {db db' : Database} {action : ResponseAction} {now : Time}
    {cmd_id reason actor : String} {cooldown_until : Option Time}
    (h : db.finish_rollback action now cmd_id reason actor cooldown_until = .ok db') :
    ∃ action_audit_logs, db' = { db with
      action_audit_logs
      response_actions := db.response_actions.modify action.id
        (.revert now actor reason cooldown_until) } := by
  unfold finish_rollback at h
  rw [bind_eq_ok_iff] at h
  obtain ⟨_, _, h⟩ := h
  exact record_event_ok h

end Database

private theorem id_revert_getD {db : Database} {action : ResponseAction} {now : Time} {actor reason : String}
    {cooldown_until : Option Time} :
    (((db.response_actions.get action.id).getD action).revert now actor reason cooldown_until).id =
      action.id := by
  cases hget : db.response_actions.get action.id with
  | none => rfl
  | some row => exact Table.key_of_get hget

/-- Everything a rollback can do. It raises and changes nothing; it raises after the
compensation is written, because the cooldown cannot be told; or it reverts the action. -/
theorem Database.rollback_loaded_cases {db db' : Database} {action : ResponseAction} {now : Time}
    {cmd_id reason actor : String} {result : Except AppException ResponseAction}
    (h : db.rollback_loaded action now cmd_id reason actor = (result, db')) :
    (∃ e, result = .error e ∧ db' = db) ∨
    (action.status = .applied ∧ ∃ commands action_audit_logs,
      db.Compensated action cmd_id commands ∧
      (∃ e, result = .error e ∧ db.rollback_cooldown now action.action_type = .error e) ∧
      db' = { db with
        commands, action_audit_logs
        agents := db.agents.modify action.agent_id action.compensation.restore
        response_actions := db.response_actions.modify action.id (.set_status .applied) }) ∨
    (action.status = .applied ∧ ∃ commands action_audit_logs cooldown_until,
      db.Compensated action cmd_id commands ∧
      (∃ row, result = .ok row ∧ row.id = action.id) ∧
      db.rollback_cooldown now action.action_type = .ok cooldown_until ∧
      db' = { db with
        commands, action_audit_logs
        agents := db.agents.modify action.agent_id action.compensation.restore
        response_actions := db.response_actions.modify action.id
          (.revert now actor reason cooldown_until) }) := by
  unfold rollback_loaded at h
  split at h
  · obtain ⟨rfl, rfl⟩ := Prod.mk.inj h
    exact Or.inl ⟨_, rfl, rfl⟩
  · rename_i hcheck
    have hstatus := ResponseAction.check_undoable_eq_ok_iff.mp hcheck
    split at h
    · obtain ⟨rfl, rfl⟩ := Prod.mk.inj h
      exact Or.inl ⟨_, rfl, rfl⟩
    · rename_i requested hrequest
      obtain ⟨_, rfl⟩ := request_rollback_ok hrequest
      split at h
      · obtain ⟨rfl, rfl⟩ := Prod.mk.inj h
        exact Or.inl ⟨_, rfl, rfl⟩
      · rename_i dispatched hdispatch
        obtain ⟨commands, rfl, hcommands⟩ := dispatch_compensation_ok hdispatch
        have hcompensated : db.Compensated action cmd_id commands := ⟨hcommands.rows, hcommands.agent⟩
        split at h
        · rename_i e hcooldown
          split at h
          · obtain ⟨rfl, rfl⟩ := Prod.mk.inj h
            exact Or.inl ⟨_, rfl, rfl⟩
          · rename_i failed hfail
            obtain ⟨logs, rfl⟩ := fail_rollback_ok hfail
            obtain ⟨rfl, rfl⟩ := Prod.mk.inj h
            refine Or.inr (Or.inl ⟨hstatus, commands, logs, hcompensated, ⟨e, rfl, hcooldown⟩, ?_⟩)
            simp only [restore_agent]
            rw [Table.modify_modify (by simp) (by simp)]
            rfl
        · rename_i cooldown_until hcooldown
          split at h
          · obtain ⟨rfl, rfl⟩ := Prod.mk.inj h
            exact Or.inl ⟨_, rfl, rfl⟩
          · rename_i finished hfinish
            obtain ⟨logs, rfl⟩ := finish_rollback_ok hfinish
            obtain ⟨rfl, rfl⟩ := Prod.mk.inj h
            refine Or.inr (Or.inr ⟨hstatus, commands, logs, cooldown_until, hcompensated,
              ⟨_, rfl, id_revert_getD⟩, hcooldown, ?_⟩)
            simp only [restore_agent]
            rw [Table.modify_modify (by simp) (by simp)]
            rfl

end larp
