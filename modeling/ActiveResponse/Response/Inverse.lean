import ActiveResponse.Response.History

namespace larp

namespace Database

/-- The record of the action's agent is as the snapshot of the action found it. -/
def Restored (db : Database) (action_id : String) : Prop :=
  ∃ action snapshot agent, db.response_actions.get action_id = some action ∧ action.snapshot = some snapshot ∧
    db.agents.get action.agent_id = some agent ∧ agent.status = snapshot.agent_state.status ∧
    agent.is_isolated = snapshot.agent_state.is_isolated

/-- The agent is registered, in service and not cut off. -/
def in_service (db : Database) (agent_id : String) : Bool :=
  (db.agents.get agent_id).any fun agent => agent.status = .ACTIVE ∧ agent.is_isolated = false

theorem restored_iff_of_get {db : Database} {action_id : String} {action : ResponseAction} {snapshot : Snapshot}
    {agent : Agent} (haction : db.response_actions.get action_id = some action)
    (hsnapshot : action.snapshot = some snapshot) (hagent : db.agents.get action.agent_id = some agent) :
    db.Restored action_id ↔
      agent.status = snapshot.agent_state.status ∧ agent.is_isolated = snapshot.agent_state.is_isolated := by
  simp [Restored, haction, hsnapshot, hagent]

section Undo

variable {is_datetime : Json → Bool} {db : Database} {now : Time} {action_id cmd_id reason actor : String}

/-- A completed rollback of a containment action releases its agent, whatever the snapshot says. -/
private theorem released_of_answer {action : ResponseAction}
    (hget : db.response_actions.get action_id = some action) (hcontainment : is_containment action.action_type)
    (h : (db.answer is_datetime { op := .rollback_action now cmd_id action_id reason actor }).1.isOk) :
    (db.step is_datetime { op := .rollback_action now cmd_id action_id reason actor }).agents.get
        action.agent_id = (db.agents.get action.agent_id).map Agent.activate := by
  obtain rfl : action.id = action_id := Table.key_of_get hget
  have hrestore : action.compensation.restore = Agent.activate :=
    funext (get_compensation_action_containment hcontainment action.action_params action.snapshot)
  simp only [step, answer, perform, rollback_action, hget] at h ⊢
  cases hbody : db.rollback_loaded action now cmd_id reason actor with
  | mk result db' =>
    rw [hbody] at h
    rcases rollback_loaded_cases hbody with ⟨e, rfl, _⟩ | ⟨_, _, _, _, ⟨e, rfl, _⟩, _⟩ |
      ⟨_, _, _, _, _, _, _, rfl⟩
    · simp [Except.map, Except.isOk, Except.toBool] at h
    · simp [Except.map, Except.isOk, Except.toBool] at h
    · dsimp only
      rw [Table.get_modify (Compensation.key_restore _), if_pos rfl, hrestore]

/-- Undoing a containment action puts the record of its agent back as the snapshot found it exactly
if the agent was active and not isolated when the action was requested. This holds whatever
happens between the request and the undo. -/
theorem restored_iff {req : ActionRequest} {created undone : Time} {undo_cmd_id : String} (calls : List Call)
    (hcontainment : is_containment req.action_type)
    (hcreate : (db.answer is_datetime { op := .create_and_apply_action created action_id cmd_id req }).1.isOk)
    (hundo : ((transition.run (step is_datetime) db
      ({ op := .create_and_apply_action created action_id cmd_id req } :: calls)).answer is_datetime
        { op := .rollback_action undone undo_cmd_id action_id reason actor }).1.isOk) :
    (transition.run (step is_datetime) db
      ({ op := .create_and_apply_action created action_id cmd_id req } :: calls ++
        [{ op := .rollback_action undone undo_cmd_id action_id reason actor }])).Restored action_id ↔
      db.in_service req.agent_id := by
  obtain ⟨before, settings, hbefore, _, hrow⟩ := created_of_answer hcreate
  obtain ⟨agent, hagent⟩ := Option.isSome_iff_exists.mp
    (agents_persist_run is_datetime ({ op := .create_and_apply_action created action_id cmd_id req } :: calls)
      (show (db.agents.get req.agent_id).isSome by rw [hbefore]; rfl))
  obtain ⟨action, haction, hsame⟩ := sameRequest_of_run is_datetime calls hrow
  rw [transition.run_append]
  rw [← transition.run_cons] at haction
  generalize transition.run (step is_datetime) db
    ({ op := .create_and_apply_action created action_id cmd_id req } :: calls) = applied at *
  have hreleased := released_of_answer haction (by rw [hsame.action_type]; exact hcontainment) hundo
  obtain ⟨final, hfinal, hfinal_same⟩ := sameRequest_of_run is_datetime
    [{ op := .rollback_action undone undo_cmd_id action_id reason actor }] haction
  have hagent_id : action.agent_id = req.agent_id := hsame.agent_id
  rw [hagent_id, hagent, ← hagent_id, ← hfinal_same.agent_id] at hreleased
  have hsnapshot := hfinal_same.snapshot.trans hsame.snapshot
  rw [restored_iff_of_get hfinal hsnapshot hreleased]
  simp only [capture_snapshot, hbefore, in_service, Agent.activate, Option.map_some, Option.getD_some,
    Option.any_some, decide_eq_true_eq]
  exact and_congr eq_comm eq_comm

end Undo

/-- The isolation of an active agent is undone exactly. -/
theorem restored_isolate_and_undo :
    (transition.run (step fun _ => true) one_agent isolate_and_undo).Restored "act_1" :=
  (restored_iff [{ op := .command_ack 1 "web-1" (ack_payload "cmd_1" "success") }]
    (by decide) (by decide) (by decide)).mpr (by decide)

/-- The agent after an analyst has put it into quarantine. -/
def quarantined_agent : Database :=
  one_agent.step (fun _ => true) { op := .quarantine_agent { id := "cmd_0", agent_id := "web-1" } }

/-- Isolating an agent in quarantine and undoing the isolation lifts the quarantine. -/
theorem not_restored_quarantined :
    ((transition.run (step fun _ => true) quarantined_agent isolate_and_undo).response_actions.get
        "act_1").map ResponseAction.status = some .reverted ∧
      ¬ (transition.run (step fun _ => true) quarantined_agent isolate_and_undo).Restored "act_1" := by
  refine ⟨by decide, ?_⟩
  rintro ⟨action, snapshot, agent, haction, hsnapshot, hagent, hstatus, _⟩
  have hrecord : ((transition.run (step fun _ => true) quarantined_agent isolate_and_undo).agents.get
      "web-1").map Agent.status = some .ACTIVE := by decide
  have hfound : ((transition.run (step fun _ => true) quarantined_agent isolate_and_undo).response_actions.get
      "act_1").map (fun action => (action.agent_id, action.snapshot.map (·.agent_state.status))) =
        some ("web-1", some .QUARANTINE) := by decide
  rw [haction, Option.map_some, hsnapshot] at hfound
  simp only [Option.map_some, Option.some.injEq, Prod.mk.injEq] at hfound
  rw [hfound.1] at hagent
  simp [hagent, hstatus, hfound.2] at hrecord

end Database

end larp
