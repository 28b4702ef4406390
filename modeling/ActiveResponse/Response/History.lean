import ActiveResponse.System

namespace larp

/-- What a transaction can do to the row of an action: nothing, the writes of an acknowledgement,
or the writes of a completed rollback. -/
inductive ActionChange (db : Database) : Op → ResponseAction → ResponseAction → Prop where
  | kept (op : Op) (action : ResponseAction) : ActionChange db op action action
  | acked (now : Time) (agent_id : String) (payload : Json) (status : CommandStatus) (action : ResponseAction) :
      ActionChange db (.command_ack now agent_id payload) action (action.acked now status)
  | undone (now : Time) (cmd_id reason actor : String) (action : ResponseAction) (cooldown_until : Option Time)
      (happlied : action.status = .applied)
      (hcooldown : db.rollback_cooldown now action.action_type = .ok cooldown_until) :
      ActionChange db (.rollback_action now cmd_id action.id reason actor) action
        (action.revert now actor reason cooldown_until)

/-- The columns of an action that are written when it is created and never again. -/
structure ResponseAction.SameRequest (action other : ResponseAction) : Prop where
  agent_id : action.agent_id = other.agent_id
  action_type : action.action_type = other.action_type
  action_params : action.action_params = other.action_params
  snapshot : action.snapshot = other.snapshot
  auto_rollback_at : action.auto_rollback_at = other.auto_rollback_at
  created_at : action.created_at = other.created_at

theorem ResponseAction.SameRequest.refl (action : ResponseAction) : action.SameRequest action :=
  ⟨rfl, rfl, rfl, rfl, rfl, rfl⟩

theorem ResponseAction.SameRequest.trans {first second third : ResponseAction}
    (h : first.SameRequest second) (h' : second.SameRequest third) : first.SameRequest third :=
  ⟨h.agent_id.trans h'.agent_id, h.action_type.trans h'.action_type,
    h.action_params.trans h'.action_params, h.snapshot.trans h'.snapshot,
    h.auto_rollback_at.trans h'.auto_rollback_at, h.created_at.trans h'.created_at⟩

theorem ActionChange.sameRequest {db : Database} {op : Op} {action action' : ResponseAction}
    (h : ActionChange db op action action') : action'.SameRequest action := by
  cases h with
  | kept => exact .refl _
  | acked now agent_id payload status =>
    unfold ResponseAction.acked
    split <;> exact ⟨rfl, rfl, rfl, rfl, rfl, rfl⟩
  | undone => exact ⟨rfl, rfl, rfl, rfl, rfl, rfl⟩

private theorem set_applied {action : ResponseAction} (h : action.status = .applied) :
    action.set_status .applied = action := by
  cases action
  simp only at h
  subst h
  rfl

/-- No transaction removes an action, and each changes it in one of three ways. -/
theorem Effect.action_change {is_datetime : Json → Bool} {db db' : Database} {op : Op}
    {result : Except AppException String} (h : Effect is_datetime db op (result, db')) {id : String}
    {action : ResponseAction} (hget : db.response_actions.get id = some action) :
    ∃ action', db'.response_actions.get id = some action' ∧ ActionChange db op action action' := by
  cases h with
  | refused e | unknown_ack | queued | written | swept | recorded => exact ⟨action, hget, .kept _ action⟩
  | created hagent hinsert hcommand =>
    exact ⟨action, Table.get_of_insert_of_get hinsert hget, .kept _ action⟩
  | @acked now agent_id payload dto cmd target logs hack =>
    cases target with
    | none => exact ⟨action, hget, .kept _ action⟩
    | some target =>
      exact Table.exists_get_modify (ResponseAction.key_acked now dto.status) (.kept _)
        (Database.get_of_resolve_ack hack) (.acked now agent_id payload dto.status target) hget
  | undo_failed htarget happlied =>
    refine Table.exists_get_modify (ResponseAction.key_set_status _) (.kept _) htarget ?_ hget
    rw [set_applied happlied]
    exact .kept _ _
  | undone htarget happlied hcooldown =>
    exact Table.exists_get_modify (ResponseAction.key_revert _ _ _ _) (.kept _) htarget
      (.undone _ _ _ _ _ _ happlied hcooldown) hget
  | heartbeat =>
    rw [Database.handle_heartbeat_response_actions]
    exact ⟨action, hget, .kept _ action⟩

namespace Database

/-- A request that was answered left its row behind, with the deadline and the snapshot of its moment. -/
theorem created_of_answer {is_datetime : Json → Bool} {db : Database} {now : Time} {action_id cmd_id : String}
    {req : ActionRequest}
    (h : (db.answer is_datetime { op := .create_and_apply_action now action_id cmd_id req }).1.isOk) :
    ∃ agent settings, db.agents.get req.agent_id = some agent ∧
      db.get_auto_rollback_settings = .ok settings ∧
      (db.step is_datetime { op := .create_and_apply_action now action_id cmd_id req }).response_actions.get
        action_id = some (req.response_action db settings now action_id cmd_id) := by
  simp only [step, answer, perform, committed] at h ⊢
  cases hcreate : db.create_and_apply_action now action_id cmd_id req with
  | error e => simp [hcreate, Except.map, Except.isOk, Except.toBool] at h
  | ok created =>
    obtain ⟨action, created⟩ := created
    obtain ⟨agent, settings, actions, commands, logs, hagent, hsettings, rfl, hinsert, _, rfl⟩ :=
      create_and_apply_action_ok hcreate
    refine ⟨agent, settings, hagent, hsettings, ?_⟩
    simp only [Except.map]
    rw [Table.get_of_insert hinsert]
    exact if_pos rfl

variable (is_datetime : Json → Bool) {db : Database}

theorem action_change_step (call : Call) {id : String} {action : ResponseAction}
    (hget : db.response_actions.get id = some action) :
    ∃ action', (db.step is_datetime call).response_actions.get id = some action' ∧
      ActionChange db call.op action action' :=
  (answer_effect is_datetime db call).action_change hget

theorem agents_persist_run (calls : List Call) {id : String} (hagent : (db.agents.get id).isSome) :
    ((transition.run (step is_datetime) db calls).agents.get id).isSome :=
  transition.run_preserves (I := fun db => (db.agents.get id).isSome)
    (fun db call h => (answer_effect is_datetime db call).agents_persist h) hagent calls

/-- Over a whole run an action keeps what it was created with. -/
theorem sameRequest_of_run (calls : List Call) {id : String} {action : ResponseAction}
    (hget : db.response_actions.get id = some action) :
    ∃ action', (transition.run (step is_datetime) db calls).response_actions.get id = some action' ∧
      action'.SameRequest action := by
  induction calls generalizing db action with
  | nil => exact ⟨action, hget, .refl action⟩
  | cons call calls ih =>
    obtain ⟨changed, hchanged, hchange⟩ := action_change_step is_datetime call hget
    obtain ⟨final, hfinal, hsame⟩ := ih hchanged
    exact ⟨final, hfinal, hsame.trans hchange.sameRequest⟩

end Database

end larp
