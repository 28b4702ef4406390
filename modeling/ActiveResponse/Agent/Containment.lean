import ActiveResponse.Agent.Records
import ActiveResponse.Response.Overlap

namespace larp

/-- The database, and the agents that are DEAD since a sweep found them ISOLATED. -/
structure Containment where
  db : Database
  swept : String → Bool := fun _ => false

/-- The status of an agent agrees with the containment in force. -/
structure Agent.Consistent (agent : Agent) : Prop where
  isolated : agent.is_isolated = true → agent.status = .ISOLATED ∨ agent.status = .QUARANTINE
  marked : agent.Marked

namespace Containment

def step (is_datetime : Json → Bool) (self : Containment) (call : Call) : Containment where
  db := self.db.step is_datetime call
  swept id :=
    ((self.db.step is_datetime call).agents.get id).any fun after =>
      after.status = .DEAD ∧ (self.swept id ∨ (self.db.agents.get id).any fun before => before.status = .ISOLATED)

/-- What a heartbeat leaves: an agent that was ISOLATED when it was swept is ISOLATED again, no agent
stays DEAD, and the status agrees with the containment in force. -/
def Survives (is_datetime : Json → Bool) (self : Containment) : Call → Prop
  | { op := .heartbeat dto, fault := none } =>
    ∃ agent, (self.step is_datetime { op := .heartbeat dto }).db.agents.get dto.agent_id = some agent ∧
      (self.swept dto.agent_id = true → agent.status = .ISOLATED) ∧ agent.status ≠ .DEAD ∧ agent.Consistent
  | _ => True

/-- The condition: no heartbeat comes from an agent that a sweep has marked DEAD while it was ISOLATED,
unless a command of it was confirmed, or its record was written, in between. -/
def swept_free (self : Containment) : Call → Bool
  | { op := .heartbeat dto, fault := none } => !self.swept dto.agent_id
  | _ => true

/-- An agent that was swept while it was ISOLATED is DEAD and keeps its mark, every other one is
consistent. -/
structure InOrder (s : Containment) : Prop where
  swept : ∀ id, s.swept id = true →
    ∃ agent, s.db.agents.get id = some agent ∧ agent.status = .DEAD ∧ agent.is_isolated = true
  consistent : ∀ id agent, s.db.agents.get id = some agent → s.swept id = false → agent.Consistent

end Containment

section Consistent

theorem Agent.consistent_of_not_isolated {agent : Agent} (hisolated : agent.is_isolated = false)
    (hstatus : agent.status ≠ .ISOLATED) : agent.Consistent where
  isolated h := absurd (h.symm.trans hisolated) (by decide)
  marked h := absurd h hstatus

/-- An agent that is ACTIVE and not isolated is alive and consistent. -/
theorem Agent.alive_of_active {agent : Agent} (hstatus : agent.status = .ACTIVE) (hflag : agent.is_isolated = false) :
    agent.status ≠ .DEAD ∧ agent.Consistent := by
  have hdead : agent.status ≠ .DEAD := by rw [hstatus]; decide
  have hisolated : agent.status ≠ .ISOLATED := by rw [hstatus]; decide
  exact ⟨hdead, consistent_of_not_isolated hflag hisolated⟩

theorem Agent.consistent_isolate (agent : Agent) : agent.isolate.Consistent where
  isolated _ := Or.inl rfl
  marked _ := rfl

/-- A confirmation leaves a consistent record, or the record as it was. -/
theorem Agent.confirm_cases (action : String) (agent : Agent) :
    agent.confirm action = agent ∨ (agent.confirm action).status ≠ .DEAD ∧ (agent.confirm action).Consistent := by
  unfold confirm
  split
  · exact Or.inr ⟨nofun, agent.consistent_isolate⟩
  · split
    · exact Or.inr (alive_of_active rfl rfl)
    · split
      · exact Or.inr ⟨nofun, fun _ => Or.inr rfl, nofun⟩
      · exact Or.inl rfl

theorem ResponseAction.restore_cases (action : ResponseAction) (agent : Agent) :
    action.compensation.restore agent = agent ∨
      (action.compensation.restore agent).status ≠ .DEAD ∧ (action.compensation.restore agent).Consistent := by
  by_cases hcontainment : is_containment action.action_type
  · rw [ResponseAction.compensation, get_compensation_action_containment hcontainment]
    exact Or.inr (Agent.alive_of_active rfl rfl)
  · exact Or.inl (get_compensation_action_other hcontainment _ _ agent)

theorem Op.write_consistent {op : Op} {raw : RawCommand} {action : String} {write : Agent → Agent}
    (h : op.agent_write = some (raw, action, write)) (agent : Agent) :
    (write agent).status ≠ .DEAD ∧ (write agent).Consistent := by
  cases op <;> cases h
  · exact ⟨nofun, agent.consistent_isolate⟩
  · exact Agent.alive_of_active rfl rfl
  · exact ⟨nofun, fun _ => Or.inr rfl, nofun⟩
  · exact Agent.alive_of_active rfl rfl

/-- A heartbeat of an agent that is not isolated revives it. -/
theorem HeartbeatDTO.refresh_consistent (dto : HeartbeatDTO) {agent : Agent} (h : agent.Consistent) :
    (dto.refresh agent).status ≠ .DEAD ∧ (dto.refresh agent).Consistent := by
  simp only [HeartbeatDTO.refresh, Agent.update_heartbeat]
  by_cases hrevive : (agent.status = .DEAD ∨ agent.status = .INACTIVE) ∧ agent.is_isolated = false
  · rw [if_pos hrevive]
    refine ⟨fun hdead => ?_, Agent.consistent_of_not_isolated hrevive.2 fun hisolated => ?_⟩
    · cases hdead
    · cases hisolated
  · rw [if_neg hrevive]
    refine ⟨fun hdead => ?_, h.isolated, h.marked⟩
    have hisolated : agent.is_isolated = true := by
      by_contra hnot
      exact hrevive ⟨Or.inl hdead, Bool.eq_false_of_not_eq_true hnot⟩
    rcases h.isolated hisolated with hstatus | hstatus <;> rw [hstatus] at hdead <;> cases hdead

/-- A heartbeat of a dead agent that is isolated leaves it dead. -/
theorem HeartbeatDTO.refresh_isolated (dto : HeartbeatDTO) {agent : Agent} (hisolated : agent.is_isolated = true) :
    (dto.refresh agent).status = agent.status ∧ (dto.refresh agent).is_isolated = true := by
  simp [HeartbeatDTO.refresh, Agent.update_heartbeat, hisolated]

theorem HeartbeatDTO.agent_consistent (dto : HeartbeatDTO) : dto.agent.Consistent :=
  Agent.consistent_of_not_isolated rfl nofun

end Consistent

namespace Containment

section Step

variable {is_datetime : Json → Bool} {self : Containment}

private theorem InOrder.dead (h : self.InOrder) {id : String} {agent : Agent}
    (hget : self.db.agents.get id = some agent) (hswept : self.swept id = true) :
    agent.status = .DEAD ∧ agent.is_isolated = true := by
  obtain ⟨other, hother, hdead⟩ := h.swept id hswept
  rw [hget] at hother
  obtain rfl := Option.some.inj hother
  exact hdead

/-- A sweep found the agent ISOLATED, now or before. -/
def swept_isolated (self : Containment) (id : String) : Prop :=
  self.swept id = true ∨ ∃ before, self.db.agents.get id = some before ∧ before.status = .ISOLATED

/-- A record that is DEAD because of a sweep is isolated, every other one is consistent. -/
private def SoundRecord (s : Containment) (id : String) (after : Agent) : Prop :=
  (after.status = .DEAD ∧ s.swept_isolated id → after.is_isolated = true) ∧
    (¬ (after.status = .DEAD ∧ s.swept_isolated id) → after.Consistent)

private theorem SoundRecord.of_alive {id : String} {after : Agent} (halive : after.status ≠ .DEAD)
    (hconsistent : after.Consistent) : SoundRecord self id after :=
  ⟨fun hdead => absurd hdead.1 halive, fun _ => hconsistent⟩

private theorem InOrder.sound_kept (h : self.InOrder) {id : String} {agent : Agent}
    (hget : self.db.agents.get id = some agent) : SoundRecord self id agent := by
  cases hswept : self.swept id with
  | true =>
    obtain ⟨hdead, hisolated⟩ := h.dead hget hswept
    exact ⟨fun _ => hisolated, fun hnot => absurd ⟨hdead, Or.inl hswept⟩ hnot⟩
  | false =>
    refine ⟨?_, fun _ => h.consistent id agent hget hswept⟩
    rintro ⟨hdead, hmark | ⟨before, hbefore, hstatus⟩⟩
    · rw [hswept] at hmark
      cases hmark
    · rw [hget] at hbefore
      obtain rfl := Option.some.inj hbefore
      rw [hdead] at hstatus
      cases hstatus

/-- A sweep marks an agent that is ISOLATED, and leaves one that is ACTIVE in a consistent record. -/
private theorem InOrder.sound_die (h : self.InOrder) {id : String} {agent : Agent} {cutoff : Time}
    (hget : self.db.agents.get id = some agent) (hdead : Database.is_dead_agent cutoff agent) :
    SoundRecord self id agent.die := by
  have hstatus : agent.status = .ACTIVE ∨ agent.status = .ISOLATED := by
    simp only [Database.is_dead_agent, decide_eq_true_eq] at hdead
    exact hdead.2
  have hunswept : self.swept id = false := by
    by_contra hswept
    have hdead := (h.dead hget (by simpa using hswept)).1
    rcases hstatus with hstatus | hstatus <;> rw [hdead] at hstatus <;> cases hstatus
  have hconsistent := h.consistent id agent hget hunswept
  rcases hstatus with hstatus | hstatus
  · have hisolated : agent.is_isolated = false := by
      by_contra hnot
      rcases hconsistent.isolated (by simpa using hnot) with hother | hother <;>
        rw [hstatus] at hother <;> cases hother
    have hother : agent.die.status ≠ .ISOLATED := fun hstatus => by cases hstatus
    refine ⟨?_, fun _ => Agent.consistent_of_not_isolated hisolated hother⟩
    rintro ⟨_, hmark | ⟨before, hbefore, hother⟩⟩
    · rw [hunswept] at hmark
      cases hmark
    · rw [hget] at hbefore
      obtain rfl := Option.some.inj hbefore
      rw [hstatus] at hother
      cases hother
  · exact ⟨fun _ => hconsistent.marked hstatus,
      fun hnot => absurd ⟨rfl, Or.inr ⟨agent, hget, hstatus⟩⟩ hnot⟩

private theorem InOrder.sound_heard (h : self.InOrder) (dto : HeartbeatDTO) :
    SoundRecord self dto.agent_id (dto.refresh ((self.db.agents.get dto.agent_id).getD dto.agent)) := by
  cases hget : self.db.agents.get dto.agent_id with
  | none =>
    obtain ⟨halive, hconsistent⟩ := dto.refresh_consistent dto.agent_consistent
    exact SoundRecord.of_alive halive hconsistent
  | some agent =>
    cases hswept : self.swept dto.agent_id with
    | true =>
      obtain ⟨hdead, hisolated⟩ := h.dead hget hswept
      obtain ⟨hstatus, hflag⟩ := dto.refresh_isolated hisolated
      exact ⟨fun _ => hflag, fun hnot => absurd ⟨hstatus.trans hdead, Or.inl hswept⟩ hnot⟩
    | false =>
      obtain ⟨halive, hconsistent⟩ := dto.refresh_consistent (h.consistent dto.agent_id agent hget hswept)
      exact SoundRecord.of_alive halive hconsistent

/-- How a call leaves the record of an agent. -/
private theorem InOrder.sound (h : self.InOrder) {op : Op} {id : String} {after : Agent}
    (hchange : RecordChange op id (self.db.agents.get id) (some after)) : SoundRecord self id after := by
  generalize hrow : some after = row at hchange
  cases hchange with
  | kept => exact h.sound_kept hrow.symm
  | @confirmed agent hbefore action =>
    obtain rfl := Option.some.inj hrow
    rcases agent.confirm_cases action with hsame | ⟨halive, hconsistent⟩
    · rw [hsame]
      exact h.sound_kept hbefore
    · exact SoundRecord.of_alive halive hconsistent
  | @restored agent hbefore action =>
    obtain rfl := Option.some.inj hrow
    rcases action.restore_cases agent with hsame | ⟨halive, hconsistent⟩
    · rw [hsame]
      exact h.sound_kept hbefore
    · exact SoundRecord.of_alive halive hconsistent
  | @written agent hbefore raw action write hop =>
    obtain rfl := Option.some.inj hrow
    obtain ⟨halive, hconsistent⟩ := Op.write_consistent hop agent
    exact SoundRecord.of_alive halive hconsistent
  | @heard dto hop hid =>
    obtain rfl := Option.some.inj hrow
    subst hid
    exact h.sound_heard dto
  | @swept agent hbefore cutoff hop hdead =>
    obtain rfl := Option.some.inj hrow
    exact h.sound_die hbefore hdead

theorem InOrder.step (h : self.InOrder) (call : Call) : (self.step is_datetime call).InOrder := by
  have hsound (id : String) (after : Agent) (hafter : (self.step is_datetime call).db.agents.get id = some after) :
      SoundRecord self id after := by
    have hchange := self.db.step_recordChange is_datetime call id
    rw [show (self.db.step is_datetime call).agents.get id = some after from hafter] at hchange
    exact h.sound hchange
  have hswept (id : String) (after : Agent) (hafter : (self.step is_datetime call).db.agents.get id = some after) :
      (self.step is_datetime call).swept id = true ↔ after.status = .DEAD ∧ self.swept_isolated id := by
    simp only [Containment.step] at hafter ⊢
    simp [hafter, Option.any_eq_true, swept_isolated]
  refine ⟨fun id hmark => ?_, fun id after hafter hmark => ?_⟩
  · obtain ⟨after, hafter, _⟩ := (Option.any_eq_true _ _).mp hmark
    have hcause := (hswept id after hafter).mp hmark
    exact ⟨after, hafter, hcause.1, (hsound id after hafter).1 hcause⟩
  · refine (hsound id after hafter).2 fun hcause => ?_
    rw [(hswept id after hafter).mpr hcause] at hmark
    cases hmark

/-- A heartbeat respects the law exactly if its agent was not swept while it was ISOLATED. -/
theorem survives_iff (h : self.InOrder) (call : Call) :
    self.Survives is_datetime call ↔ self.swept_free call := by
  unfold Survives swept_free
  split
  · rename_i dto
    have hrow : (self.step is_datetime { op := .heartbeat dto }).db.agents.get dto.agent_id =
        some (dto.refresh ((self.db.agents.get dto.agent_id).getD dto.agent)) := by
      have hget := self.db.get_handle_heartbeat dto dto.agent_id
      rw [if_pos rfl] at hget
      exact hget
    simp only [hrow, Option.some.injEq, exists_eq_left', Bool.not_eq_true']
    constructor
    · rintro ⟨-, halive, -⟩
      by_contra hswept
      obtain ⟨agent, hget, hdead, hisolated⟩ := h.swept dto.agent_id (by simpa using hswept)
      rw [hget, Option.getD_some] at halive
      exact halive ((dto.refresh_isolated hisolated).1.trans hdead)
    · intro hunswept
      refine ⟨fun hmark => absurd (hmark.symm.trans hunswept) (by decide), ?_⟩
      cases hget : self.db.agents.get dto.agent_id with
      | none => exact dto.refresh_consistent dto.agent_consistent
      | some agent => exact dto.refresh_consistent (h.consistent dto.agent_id agent hget hunswept)
  · simp

end Step

/-- Over every run of the manager's calls from a registry of consistent agents, the heartbeats respect
the law exactly if none comes from an agent that was swept while it was ISOLATED. -/
theorem survives_along_iff (is_datetime : Json → Bool) {db : Database}
    (hdb : ∀ id agent, db.agents.get id = some agent → agent.Consistent) (calls : List Call) :
    transition.Along (step is_datetime) (Survives is_datetime) { db } calls ↔
      transition.Along (step is_datetime) (fun self call => self.swept_free call) { db } calls := by
  suffices h : ∀ self : Containment, self.InOrder →
      (transition.Along (step is_datetime) (Survives is_datetime) self calls ↔
        transition.Along (step is_datetime) (fun self call => self.swept_free call) self calls) from
    h { db } ⟨nofun, fun id agent hget _ => hdb id agent hget⟩
  induction calls with
  | nil => exact fun _ _ => Iff.rfl
  | cons call calls ih =>
    intro self horder
    rw [transition.along_cons, transition.along_cons, survives_iff horder]
    exact and_congr_right fun _ => ih _ (horder.step call)

/-- An agent that goes silent after it has confirmed an isolation, and comes back. -/
def isolated_and_silent : List Call :=
  [{ op := .heartbeat { agent_id := "web-1", timestamp := 0 } },
    { op := .create_and_apply_action 0 "act_1" "cmd_1" { agent_id := "web-1", action_type := "isolate" } },
    { op := .command_ack 1 "web-1" (ack_payload "cmd_1" "success") },
    { op := .sweep_dead_agents (seconds 60) },
    { op := .heartbeat { agent_id := "web-1", timestamp := seconds 90 } }]

/-- An isolation that is undone before the agent goes silent. -/
theorem survives_undone : transition.Along (step fun _ => true) (Survives fun _ => true) { db := {} }
    (isolated_and_silent.take 3 ++
      [{ op := .rollback_action 2 "cmd_2" "act_1" "false alarm" "analyst" }] ++ isolated_and_silent.drop 3) :=
  (survives_along_iff (fun _ => true) (fun _ _ hnone => by cases hnone) _).mpr
    ⟨by decide, rfl, rfl, rfl, rfl, by decide +kernel, trivial⟩

/-- The isolated agent is DEAD after its heartbeat, for as long as nothing else is confirmed. -/
theorem not_survives_isolated : ¬ transition.Along (step fun _ => true) (Survives fun _ => true) { db := {} }
    isolated_and_silent := by
  rw [survives_along_iff _ fun _ _ hnone => by cases hnone]
  exact fun h => absurd h.2.2.2.2.1 (by decide +kernel)

end Containment

end larp
