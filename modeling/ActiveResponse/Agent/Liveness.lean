import ActiveResponse.Agent.Records
import ActiveResponse.Response.Flapping

namespace larp

/-- A heartbeat that the manager has processed: the time that the agent put into it, and the time
on the manager's clock. -/
structure Receipt where
  timestamp : Time
  received : Time

/-- The manager with its clock and the heartbeats received from each agent, newest first. -/
structure Watch where
  manager : Clocked
  heard : String → List Receipt := fun _ => []

inductive WatchStep where
  | advance (microseconds : ℕ)
  | sweep (threshold_seconds : ℤ) (fault : Option AppException)
  | call (call : Call)

namespace Watch

/-- `datetime.now(timezone.utc) - timedelta(seconds=threshold_seconds)`. -/
def cutoff (self : Watch) (threshold_seconds : ℤ) : Time :=
  self.manager.clock - seconds threshold_seconds

/-- The heartbeat that a call has processed, if it is one. -/
def note (self : Watch) : Call → String → List Receipt
  | { op := .heartbeat dto, fault := none } =>
    Function.update self.heard dto.agent_id
      ({ timestamp := dto.timestamp, received := self.manager.clock } :: self.heard dto.agent_id)
  | _ => self.heard

def step (is_datetime : Json → Bool) (self : Watch) : WatchStep → Watch
  | .advance microseconds => { self with manager := self.manager.step is_datetime (.advance microseconds) }
  | .sweep threshold_seconds fault =>
    { self with
      manager := self.manager.step is_datetime
        (.call { op := .sweep_dead_agents (self.cutoff threshold_seconds), fault }) }
  | .call call => { manager := self.manager.step is_datetime (.call call), heard := self.note call }

/-- The law of one sweep. An agent that was heard within the threshold, by the manager's clock, keeps
its status; an ACTIVE or ISOLATED agent that was not is marked DEAD. -/
def SweepLaw (is_datetime : Json → Bool) (self : Watch) : WatchStep → Prop
  | .sweep threshold_seconds none =>
    ∀ id agent, self.manager.db.agents.get id = some agent →
      ∃ swept, (self.step is_datetime (.sweep threshold_seconds none)).manager.db.agents.get id = some swept ∧
        ((∃ receipt ∈ self.heard id, self.manager.clock - receipt.received ≤ seconds threshold_seconds) →
          swept.status = agent.status) ∧
        ((∀ receipt ∈ self.heard id, seconds threshold_seconds < self.manager.clock - receipt.received) →
          agent.status = .ACTIVE ∨ agent.status = .ISOLATED → swept.status = .DEAD)
  | _ => True

/-- The condition on a sweep: the cutoff does not fall between the time that an agent put into its
last heartbeat and the time at which the manager received it. -/
def in_time (self : Watch) : WatchStep → Bool
  | .sweep threshold_seconds none =>
    self.manager.db.agents.rows.all fun agent =>
      (agent.status = .ACTIVE ∨ agent.status = .ISOLATED) →
        (self.heard agent.id).head?.all fun last =>
          (last.timestamp < self.cutoff threshold_seconds ↔ last.received < self.cutoff threshold_seconds)
  | _ => true

/-- Every agent was heard last at the time that its record shows, and before that earlier. -/
structure Heard (s : Watch) : Prop where
  newest : ∀ id agent, s.manager.db.agents.get id = some agent → ∃ last earlier,
    s.heard id = last :: earlier ∧ agent.last_seen = last.timestamp ∧
      ∀ receipt ∈ earlier, receipt.received ≤ last.received
  past : ∀ id, ∀ receipt ∈ s.heard id, receipt.received ≤ s.manager.clock

section Step

variable {is_datetime : Json → Bool} {self : Watch}

/-- A call that is no heartbeat of the agent changes nothing about when it was heard. -/
private theorem Heard.newest_of_last_seen (h : self.Heard) {id : String} {after : Option Agent}
    (hseen : after.map Agent.last_seen = (self.manager.db.agents.get id).map Agent.last_seen) {agent : Agent}
    (hafter : after = some agent) : ∃ last earlier, self.heard id = last :: earlier ∧
      agent.last_seen = last.timestamp ∧ ∀ receipt ∈ earlier, receipt.received ≤ last.received := by
  rw [hafter, Option.map_some, eq_comm, Option.map_eq_some_iff] at hseen
  obtain ⟨before, hbefore, hlast⟩ := hseen
  obtain ⟨last, earlier, hheard, heq, hearlier⟩ := h.newest id before hbefore
  exact ⟨last, earlier, hheard, hlast.symm.trans heq, hearlier⟩

private theorem note_of_not_heartbeat {call : Call} (h : ∀ dto, call.op = .heartbeat dto → call.fault ≠ none) :
    self.note call = self.heard := by
  unfold note
  split
  · rename_i dto
    exact absurd rfl (h dto rfl)
  · rfl

/-- A heartbeat that is processed is the newest receipt of its agent. -/
private theorem Heard.heartbeat (h : self.Heard) (dto : HeartbeatDTO) :
    (self.step is_datetime (.call { op := .heartbeat dto })).Heard where
  newest id agent hagent := by
    have hrow : ((self.manager.db.handle_heartbeat dto).2).agents.get id = some agent := hagent
    rw [Database.get_handle_heartbeat] at hrow
    change ∃ last earlier, Function.update self.heard dto.agent_id _ id = last :: earlier ∧ _
    split at hrow
    · rename_i hid
      subst hid
      obtain rfl := Option.some.inj hrow
      rw [Function.update_self]
      exact ⟨_, _, rfl, rfl, h.past dto.agent_id⟩
    · rename_i hid
      rw [Function.update_of_ne (Ne.symm hid)]
      exact h.newest id agent hrow
  past id receipt hreceipt := by
    change receipt ∈ Function.update self.heard dto.agent_id _ id at hreceipt
    by_cases hid : id = dto.agent_id
    · subst hid
      rw [Function.update_self, List.mem_cons] at hreceipt
      rcases hreceipt with rfl | hreceipt
      · exact le_refl _
      · exact h.past _ receipt hreceipt
    · rw [Function.update_of_ne hid] at hreceipt
      exact h.past id receipt hreceipt

/-- Any other call, and a heartbeat that fails, leaves the receipts and the times of the records. -/
private theorem Heard.other (h : self.Heard) {call : Call}
    (hcall : ∀ dto, call.op = .heartbeat dto → call.fault ≠ none) :
    Heard { self with manager := self.manager.step is_datetime (.call call) } where
  newest id agent hagent := by
    refine h.newest_of_last_seen ?_ hagent
    cases hfault : call.fault with
    | some e =>
      have hsame : ((self.manager.step is_datetime (.call call)).db) = self.manager.db := by
        simp [Clocked.step, Database.step, Database.answer, Clocked.timed, hfault]
      rw [hsame]
    | none =>
      have hchange := self.manager.db.step_recordChange is_datetime (self.manager.timed call) id
      refine hchange.last_seen fun dto hop => ?_
      have horiginal : call.op = .heartbeat dto := by
        revert hop
        unfold Clocked.timed
        cases call.op <;> simp [Op.at_time]
      exact absurd hfault (hcall dto horiginal)
  past := h.past

theorem Heard.step (h : self.Heard) (next : WatchStep) : (self.step is_datetime next).Heard := by
  cases next with
  | advance microseconds =>
    refine ⟨h.newest, fun id receipt hreceipt => ?_⟩
    exact le_trans (h.past id receipt hreceipt) (le_add_of_nonneg_right (Int.natCast_nonneg microseconds))
  | sweep threshold_seconds fault => exact h.other fun dto hop => nomatch hop
  | call call =>
    by_cases hcall : ∀ dto, call.op = .heartbeat dto → call.fault ≠ none
    · simp only [Watch.step, note_of_not_heartbeat hcall]
      exact h.other hcall
    · push Not at hcall
      obtain ⟨dto, hop, hfault⟩ := hcall
      obtain ⟨op, fault⟩ := call
      subst hop hfault
      exact h.heartbeat dto

/-- What a sweep does to one record whose agent was heard last at `last`. -/
private theorem swept_iff {agent : Agent} {last : Receipt} {earlier : List Receipt} {cutoff : Time}
    (hseen : agent.last_seen = last.timestamp) (hearlier : ∀ receipt ∈ earlier, receipt.received ≤ last.received)
    {swept : Agent} (hswept : swept = if Database.is_dead_agent cutoff agent then agent.die else agent) :
    (((∃ receipt ∈ last :: earlier, cutoff ≤ receipt.received) → swept.status = agent.status) ∧
      ((∀ receipt ∈ last :: earlier, receipt.received < cutoff) →
        agent.status = .ACTIVE ∨ agent.status = .ISOLATED → swept.status = .DEAD)) ↔
      ((agent.status = .ACTIVE ∨ agent.status = .ISOLATED) →
        (last.timestamp < cutoff ↔ last.received < cutoff)) := by
  have hdead : Database.is_dead_agent cutoff agent ↔
      last.timestamp < cutoff ∧ (agent.status = .ACTIVE ∨ agent.status = .ISOLATED) := by
    simp [Database.is_dead_agent, hseen]
  have hexists : (∃ receipt ∈ last :: earlier, cutoff ≤ receipt.received) ↔ cutoff ≤ last.received := by
    constructor
    · rintro ⟨receipt, hreceipt, hle⟩
      rcases List.mem_cons.mp hreceipt with rfl | hreceipt
      · exact hle
      · exact le_trans hle (hearlier receipt hreceipt)
    · exact fun hle => ⟨last, List.mem_cons_self, hle⟩
  have hall : (∀ receipt ∈ last :: earlier, receipt.received < cutoff) ↔ last.received < cutoff := by
    rw [← not_iff_not]
    push Not
    exact hexists
  rw [hexists, hall]
  by_cases hstatus : agent.status = .ACTIVE ∨ agent.status = .ISOLATED
  · have hne : AgentStatus.DEAD ≠ agent.status ∧ agent.status ≠ .DEAD := by
      rcases hstatus with hstatus | hstatus <;> simp [hstatus]
    by_cases hlate : last.timestamp < cutoff
    · rw [if_pos (hdead.mpr ⟨hlate, hstatus⟩)] at hswept
      simp [hswept, Agent.die, hne.1, hlate, hstatus]
    · rw [if_neg fun h => hlate (hdead.mp h).1] at hswept
      simp [hswept, hne.2, hlate, hstatus]
  · rw [if_neg fun h => hstatus (hdead.mp h).2] at hswept
    simp [hswept, hstatus]

/-- A sweep respects the law exactly if it comes in time for every agent. -/
theorem sweepLaw_iff (h : self.Heard) (next : WatchStep) :
    self.SweepLaw is_datetime next ↔ self.in_time next := by
  unfold SweepLaw in_time
  split
  · rename_i threshold_seconds
    simp only [List.all_eq_true, decide_eq_true_eq]
    have hrow (id : String) (agent : Agent) (hget : self.manager.db.agents.get id = some agent) :
        (self.step is_datetime (.sweep threshold_seconds none)).manager.db.agents.get id =
          some (if Database.is_dead_agent (self.cutoff threshold_seconds) agent then agent.die else agent) := by
      have hsweep := self.manager.db.get_sweep_dead_agents (self.cutoff threshold_seconds) id
      rw [hget, Option.map_some] at hsweep
      exact hsweep
    have hiff (id : String) (agent : Agent) (hget : self.manager.db.agents.get id = some agent) :
        (∃ swept, (self.step is_datetime (.sweep threshold_seconds none)).manager.db.agents.get id = some swept ∧
          ((∃ receipt ∈ self.heard id, self.manager.clock - receipt.received ≤ seconds threshold_seconds) →
            swept.status = agent.status) ∧
          ((∀ receipt ∈ self.heard id, seconds threshold_seconds < self.manager.clock - receipt.received) →
            agent.status = .ACTIVE ∨ agent.status = .ISOLATED → swept.status = .DEAD)) ↔
          ((agent.status = .ACTIVE ∨ agent.status = .ISOLATED) → (self.heard id).head?.all fun last =>
            (last.timestamp < self.cutoff threshold_seconds ↔ last.received < self.cutoff threshold_seconds)) := by
      obtain ⟨last, earlier, hheard, hseen, hearlier⟩ := h.newest id agent hget
      have hle (receipt : Receipt) : self.manager.clock - receipt.received ≤ seconds threshold_seconds ↔
          self.cutoff threshold_seconds ≤ receipt.received := sub_le_comm
      have hlt (receipt : Receipt) : seconds threshold_seconds < self.manager.clock - receipt.received ↔
          receipt.received < self.cutoff threshold_seconds := lt_sub_comm
      simp only [hrow id agent hget, Option.some.injEq, exists_eq_left', hheard, List.head?_cons, Option.all_some,
        decide_eq_true_eq, hle, hlt]
      exact swept_iff hseen hearlier rfl
    constructor
    · intro hlaw agent hagent
      exact (hiff agent.id agent (Table.get_of_mem hagent)).mp (hlaw agent.id agent (Table.get_of_mem hagent))
    · intro hin id agent hget
      obtain rfl : agent.id = id := Table.key_of_get hget
      exact (hiff agent.id agent hget).mpr (hin agent (Table.get_mem hget))
  · simp

end Step

/-- Over every run from an empty registry, whatever the clocks of the agents show, the sweeps respect
the law exactly if every sweep comes in time. -/
theorem sweepLaw_along_iff (is_datetime : Json → Bool) (clock : Time) (steps : List WatchStep) :
    transition.Along (step is_datetime) (SweepLaw is_datetime) { manager := { db := {}, clock } } steps ↔
      transition.Along (step is_datetime) (fun self next => self.in_time next)
        { manager := { db := {}, clock } } steps := by
  suffices h : ∀ self : Watch, self.Heard → (transition.Along (step is_datetime) (SweepLaw is_datetime) self steps ↔
      transition.Along (step is_datetime) (fun self next => self.in_time next) self steps) from
    h _ ⟨(fun _ _ hnone => nomatch hnone), (fun _ _ hnone => nomatch hnone)⟩
  induction steps with
  | nil => exact fun _ _ => Iff.rfl
  | cons next steps ih =>
    intro self hheard
    rw [transition.along_cons, transition.along_cons, sweepLaw_iff hheard]
    exact and_congr_right fun _ => ih _ (hheard.step next)

/-- The clock of an agent is a minute behind. The manager hears it and sweeps at once, with the default
threshold of 30 seconds. -/
theorem not_sweepLaw_clock_behind : ¬ transition.Along (step fun _ => true) (SweepLaw fun _ => true)
    { manager := { db := {}, clock := seconds 100 } }
    [.call { op := .heartbeat { agent_id := "web-1", timestamp := seconds 40 } }, .sweep 30 none] := by
  rw [sweepLaw_along_iff]
  exact fun h => absurd h.2.1 (by decide)

end Watch

end larp
