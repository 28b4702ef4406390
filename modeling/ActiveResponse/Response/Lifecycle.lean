import ActiveResponse.System

namespace larp

/-- The edges of the lifecycle of a `ResponseAction`. `own` says that the transaction is an
acknowledgement of the command that was created for the action. -/
inductive Edge (own : Prop) : ResponseActionStatus → ResponseActionStatus → Prop where
  | confirm : Edge own .pending .applied
  | reject : Edge own .pending .failed
  | retry (h : own) : Edge own .failed .applied
  | begin_undo : Edge own .applied .reverting
  | finish_undo : Edge own .reverting .reverted
  | abort_undo : Edge own .reverting .applied

/-- What one transaction may do to a status: nothing, one edge, or the two edges of a rollback,
which enters and leaves `reverting` before it commits. -/
inductive Moves (own : Prop) : ResponseActionStatus → ResponseActionStatus → Prop where
  | stay (status : ResponseActionStatus) : Moves own status status
  | edge {before after : ResponseActionStatus} (h : Edge own before after) : Moves own before after
  | undo (hbegin : Edge own .applied .reverting) (hfinish : Edge own .reverting .reverted) :
      Moves own .applied .reverted

/-- No transaction takes an action out of status reverted. -/
theorem Moves.of_reverted {own : Prop} {after : ResponseActionStatus} (h : Moves own .reverted after) :
    after = .reverted := by
  cases h with
  | stay => rfl
  | edge h => cases h

/-- An applied action is never turned into a failed one. -/
theorem Moves.not_applied_failed {own : Prop} : ¬ Moves own .applied .failed := by
  intro h
  cases h with
  | edge h => cases h

/-- The undo columns are filled exactly in status reverted. -/
structure ResponseAction.Consistent (action : ResponseAction) : Prop where
  undone_at : action.undone_at.isSome ↔ action.status = .reverted
  undone_by : action.undone_by.isSome ↔ action.status = .reverted

/-- A write that leaves the undo columns alone keeps an unreverted row consistent, as long as
it does not write reverted. -/
theorem ResponseAction.Consistent.of_unreverted {before after : ResponseAction} (h : before.Consistent)
    (hbefore : before.status ≠ .reverted) (hafter : after.status ≠ .reverted)
    (hat : after.undone_at = before.undone_at) (hby : after.undone_by = before.undone_by) :
    after.Consistent :=
  ⟨by rw [hat, h.undone_at]; exact iff_of_false hbefore hafter,
    by rw [hby, h.undone_by]; exact iff_of_false hbefore hafter⟩

/-- What one transaction may do to the row of an action. -/
structure RowStep (own : Prop) (before after : ResponseAction) : Prop where
  moves : Moves own before.status after.status
  consistent : before.Consistent → after.Consistent

theorem RowStep.refl (own : Prop) (action : ResponseAction) : RowStep own action action :=
  ⟨.stay _, id⟩

namespace Database

/-- The call acknowledges the action's own command. -/
def acks_own_command (is_datetime : Json → Bool) (db : Database) (call : Call) (action : ResponseAction) : Prop :=
  ∃ now agent_id payload dto cmd, call.op = .command_ack now agent_id payload ∧
    db.resolve_ack is_datetime agent_id payload = some (dto, cmd, some action) ∧
    action.command_id = some cmd.id

/-- The lifecycle across one transaction: every action keeps its row and moves along the edges, and
a new action is pending. -/
structure LifecycleStep (is_datetime : Json → Bool) (db : Database) (call : Call) : Prop where
  rows : ∀ id action, db.response_actions.get id = some action →
    ∃ action', (db.step is_datetime call).response_actions.get id = some action' ∧
      RowStep (db.acks_own_command is_datetime call action) action action'
  created : ∀ id action', (db.step is_datetime call).response_actions.get id = some action' →
    db.response_actions.get id = none → action'.status = .pending ∧ action'.Consistent

/-- The lifecycle over a run: every step respects it, every row that is reached is consistent, and
an action that is reverted at some point is reverted ever after. -/
structure LifecycleLaw (is_datetime : Json → Bool) (db : Database) (calls : List Call) : Prop where
  steps : transition.Along (step is_datetime) (LifecycleStep is_datetime) db calls
  consistent : ∀ action ∈ (transition.run (step is_datetime) db calls).response_actions.rows,
    action.Consistent
  terminal : ∀ first second, calls = first ++ second → ∀ id action,
    (transition.run (step is_datetime) db first).response_actions.get id = some action →
    action.status = .reverted →
    ∃ action', (transition.run (step is_datetime) db calls).response_actions.get id = some action' ∧
      action'.status = .reverted

/-- The statuses in which the handler of `COMMAND_ACK` may find the action that it is about to
write. The handler itself does not look. -/
def ack_expected (status : CommandStatus) (cmd : Command) (action : ResponseAction) : Bool :=
  if status = .SUCCESS then
    action.status = .pending ∨ action.status = .applied ∨
      (action.status = .failed ∧ action.command_id = some cmd.id)
  else action.status = .pending ∨ action.status = .failed

/-- The condition under which a transaction respects the lifecycle. Only acknowledgements are
restricted. -/
def keeps_lifecycle (is_datetime : Json → Bool) (db : Database) (call : Call) : Bool :=
  match call.fault, call.op with
  | none, .command_ack _ agent_id payload =>
    match db.resolve_ack is_datetime agent_id payload with
    | some (dto, cmd, some action) => ack_expected dto.status cmd action
    | _ => true
  | _, _ => true

variable {is_datetime : Json → Bool} {db : Database}

theorem ack_expected_of_keeps {call : Call} {now : Time} {agent_id : String} {payload : Json}
    {dto : CommandAckDTO} {cmd : Command} {action : ResponseAction}
    (hkeeps : db.keeps_lifecycle is_datetime call) (hfault : call.fault = none)
    (hop : call.op = .command_ack now agent_id payload)
    (hack : db.resolve_ack is_datetime agent_id payload = some (dto, cmd, some action)) :
    ack_expected dto.status cmd action := by
  simpa [keeps_lifecycle, hfault, hop, hack] using hkeeps

/-- An acknowledgement that finds the action in an expected status moves it along the edges. -/
theorem acked_rowStep {own : Prop} {now : Time} {status : CommandStatus} {cmd : Command}
    {action : ResponseAction} (hexpected : ack_expected status cmd action)
    (hown : action.command_id = some cmd.id → own) :
    RowStep own action (action.acked now status) := by
  unfold ack_expected at hexpected
  unfold ResponseAction.acked
  split at hexpected
  · rename_i hsuccess
    rw [if_pos hsuccess]
    simp only [decide_eq_true_eq] at hexpected
    refine ⟨?_, fun hrow => ?_⟩
    · simp only [ResponseAction.apply]
      rcases hexpected with h | h | ⟨h, hid⟩
      · exact h ▸ .edge .confirm
      · exact h ▸ .stay _
      · exact h ▸ .edge (.retry (hown hid))
    · have hstatus : action.status ≠ .reverted := by
        rcases hexpected with h | h | ⟨h, _⟩ <;> simp [h]
      exact hrow.of_unreverted hstatus (by simp [ResponseAction.apply]) rfl rfl
  · rename_i hfailure
    rw [if_neg hfailure]
    simp only [decide_eq_true_eq] at hexpected
    refine ⟨?_, fun hrow => ?_⟩
    · simp only [ResponseAction.fail]
      rcases hexpected with h | h
      · exact h ▸ .edge .reject
      · exact h ▸ .stay _
    · have hstatus : action.status ≠ .reverted := by
        rcases hexpected with h | h <;> simp [h]
      exact hrow.of_unreverted hstatus (by simp [ResponseAction.fail]) rfl rfl

private theorem modify_created {actions : Table ResponseAction} {target id : String}
    {f : ResponseAction → ResponseAction} (hkey : ∀ r, Keyed.key (f r) = Keyed.key r)
    {action' : ResponseAction} (hget : (actions.modify target f).get id = some action')
    (hnone : actions.get id = none) : False := by
  rw [Table.get_modify hkey, hnone] at hget
  split at hget <;> cases hget

/-- A transaction that leaves the actions alone respects the lifecycle. -/
private theorem lifecycleStep_of_eq {call : Call}
    (h : (db.step is_datetime call).response_actions = db.response_actions) :
    LifecycleStep is_datetime db call where
  rows id action hget := ⟨action, by rw [h]; exact hget, .refl _ _⟩
  created id action' hget hnone := by
    rw [h, hnone] at hget
    cases hget

/-- A transaction that writes one action respects the lifecycle, if that action moves along it. -/
private theorem lifecycleStep_of_modify {call : Call} (target : ResponseAction)
    (f : ResponseAction → ResponseAction) (hkey : ∀ r, Keyed.key (f r) = Keyed.key r)
    (htarget : db.response_actions.get target.id = some target)
    (hrow : RowStep (db.acks_own_command is_datetime call target) target (f target))
    (h : (db.step is_datetime call).response_actions = db.response_actions.modify target.id f) :
    LifecycleStep is_datetime db call where
  rows id action hget := by
    rw [h]
    exact Table.exists_get_modify hkey
      (P := fun row row' => RowStep (db.acks_own_command is_datetime call row) row row') (fun _ => .refl _ _)
      htarget hrow hget
  created id action' hget hnone := by
    rw [h] at hget
    exact (modify_created hkey hget hnone).elim

/-- Every transaction that meets the condition respects the lifecycle. -/
theorem lifecycleStep_of_keeps {call : Call} (hkeeps : db.keeps_lifecycle is_datetime call) :
    LifecycleStep is_datetime db call := by
  have heffect := answer_effect is_datetime db call
  generalize hanswer : db.answer is_datetime call = answer at heffect
  have hstep : db.step is_datetime call = answer.2 := by rw [step, hanswer]
  generalize hcall : call.op = op at heffect
  cases heffect with
  | refused e => exact lifecycleStep_of_eq (by rw [hstep])
  | @created now action_id cmd_id req agent settings response_actions commands logs hagent haction hcommand =>
    refine ⟨?_, ?_⟩
    · intro id action hget
      rw [hstep]
      exact ⟨action, Table.get_of_insert_of_get haction hget, .refl _ _⟩
    · intro id action' hget hnone
      rw [hstep] at hget
      simp only [Table.get_of_insert haction, hnone] at hget
      split at hget
      · cases hget
        exact ⟨rfl, by simp [ActionRequest.response_action], by simp [ActionRequest.response_action]⟩
      · cases hget
  | unknown_ack hack => exact lifecycleStep_of_eq (by rw [hstep])
  | @acked now agent_id payload dto cmd action logs hack =>
    cases action with
    | none => exact lifecycleStep_of_eq (by rw [hstep]; rfl)
    | some action =>
      have hfault : call.fault = none := by
        cases hf : call.fault with
        | none => rfl
        | some e => simp [answer, hf] at hanswer
      refine lifecycleStep_of_modify action (.acked now dto.status) (by simp)
        (get_of_resolve_ack hack) ?_ (by rw [hstep]; rfl)
      exact acked_rowStep (ack_expected_of_keeps hkeeps hfault hcall hack)
        fun hid => ⟨now, agent_id, payload, dto, cmd, hcall, hack, hid⟩
  | @undo_failed now cmd_id reason actor action e commands logs hget happlied hcooldown hcommands =>
    refine lifecycleStep_of_modify action (.set_status .applied) (by simp) hget ?_
      (by rw [hstep])
    refine ⟨?_, fun hrow => ?_⟩
    · simp only [ResponseAction.set_status, happlied]
      exact .stay _
    · exact hrow.of_unreverted (by simp [happlied]) (by simp [ResponseAction.set_status]) rfl rfl
  | @undone now cmd_id reason actor action cooldown_until commands logs hget happlied hcooldown hcommands =>
    refine lifecycleStep_of_modify action (.revert now actor reason cooldown_until)
      (by simp) hget ?_ (by rw [hstep])
    refine ⟨?_, fun _ => ?_⟩
    · simp only [ResponseAction.revert, happlied]
      exact .undo .begin_undo .finish_undo
    · exact ⟨by simp [ResponseAction.revert], by simp [ResponseAction.revert]⟩
  | queued hagent hcommand => exact lifecycleStep_of_eq (by rw [hstep])
  | written hop hagent hcommand => exact lifecycleStep_of_eq (by rw [hstep])
  | @heartbeat dto => exact lifecycleStep_of_eq (by rw [hstep, handle_heartbeat_response_actions])
  | swept => exact lifecycleStep_of_eq (by rw [hstep]; rfl)
  | recorded hop => exact lifecycleStep_of_eq (by rw [hstep])

/-- Consistent rows stay consistent across a step that respects the lifecycle. -/
theorem LifecycleStep.consistent {call : Call} (hstep : LifecycleStep is_datetime db call)
    (hrows : ∀ action ∈ db.response_actions.rows, action.Consistent) :
    ∀ action ∈ (db.step is_datetime call).response_actions.rows, action.Consistent := by
  intro action' hmem
  have hget' := Table.get_of_mem hmem
  cases hget : db.response_actions.get (Keyed.key action') with
  | none => exact (hstep.created _ _ hget' hget).2
  | some action =>
    obtain ⟨row, hrow, hrowStep⟩ := hstep.rows _ _ hget
    rw [hget'] at hrow
    cases hrow
    exact hrowStep.consistent (hrows action (Table.get_mem hget))

/-- An action that is reverted stays reverted along a run that respects the lifecycle. -/
theorem reverted_of_run {calls : List Call}
    (hsteps : transition.Along (step is_datetime) (LifecycleStep is_datetime) db calls)
    {id : String} {action : ResponseAction} (hget : db.response_actions.get id = some action)
    (hreverted : action.status = .reverted) :
    ∃ action', (transition.run (step is_datetime) db calls).response_actions.get id = some action' ∧
      action'.status = .reverted := by
  induction calls generalizing db action with
  | nil => exact ⟨action, hget, hreverted⟩
  | cons call calls ih =>
    obtain ⟨action', hget', hrow⟩ := hsteps.1.rows _ _ hget
    have hmoves := hrow.moves
    rw [hreverted] at hmoves
    exact ih hsteps.2 hget' hmoves.of_reverted

/-- The lifecycle holds over every run in which each acknowledgement finds its action in a status
that the acknowledgement may change. -/
theorem lifecycleLaw_of_keeps (is_datetime : Json → Bool) (db : Database) (calls : List Call)
    (hinit : ∀ action ∈ db.response_actions.rows, action.Consistent)
    (hkeeps : transition.Along (step is_datetime) (fun db call => db.keeps_lifecycle is_datetime call)
      db calls) :
    LifecycleLaw is_datetime db calls := by
  have hsteps : transition.Along (step is_datetime) (LifecycleStep is_datetime) db calls :=
    hkeeps.mono fun _ _ h => lifecycleStep_of_keeps h
  refine ⟨hsteps, ?_, ?_⟩
  · exact transition.run_invariant (I := fun db => ∀ action ∈ db.response_actions.rows, action.Consistent)
      (fun _ _ hrows hstep => hstep.consistent hrows) hsteps hinit
  · rintro first second rfl id action hget hreverted
    rw [transition.run_append]
    exact reverted_of_run (transition.along_append.mp hsteps).2 hget hreverted

theorem lifecycleLaw_isolate_and_undo : LifecycleLaw (fun _ => true) one_agent isolate_and_undo :=
  lifecycleLaw_of_keeps (fun _ => true) one_agent isolate_and_undo (by intro action hmem; cases hmem)
    ⟨by decide, by decide, by decide, trivial⟩

/-- A duplicate of the first acknowledgement, arriving after the undo, applies the reverted action
again. -/
theorem not_lifecycleLaw_late_ack :
    ¬ LifecycleLaw (fun _ => true) one_agent
      (isolate_and_undo ++ [{ op := .command_ack 3 "web-1" (ack_payload "cmd_1" "success") }]) := by
  intro hlaw
  have hbefore : ((transition.run (step fun _ => true) one_agent isolate_and_undo).response_actions.get
      "act_1").map ResponseAction.status = some .reverted := by decide
  have hafter : ((transition.run (step fun _ => true) one_agent (isolate_and_undo ++
      [{ op := .command_ack 3 "web-1" (ack_payload "cmd_1" "success") }])).response_actions.get
      "act_1").map ResponseAction.status = some .applied := by decide
  obtain ⟨action, hget, hreverted⟩ := Option.map_eq_some_iff.mp hbefore
  obtain ⟨action', hget', hstill⟩ := hlaw.terminal _ _ rfl _ _ hget hreverted
  rw [hget'] at hafter
  simp [hstill] at hafter

end Database

end larp
