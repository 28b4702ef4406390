import ActiveResponse.Detection.Evaluate
import ActiveResponse.Lib.Run

namespace larp

/-- A call of `evaluate` for an agent, with the registry as it is configured then. -/
structure EvaluateCycle where
  agent_id : String
  registry : RiskRuleRegistry
  telemetry : Dict
  attempts : FailedAttempts := fun _ => none

/-- `_rule_hit_counter`, and for each rule in how many of the latest cycles it has scored in a row. -/
structure DebounceState where
  counters : String → HitCounter := fun _ _ => 0
  streak : String → String → ℕ := fun _ _ => 0

namespace EvaluateCycle

/-- The rule scores positive in the cycle. -/
def positive (self : EvaluateCycle) (rule_id : String) : Bool :=
  (self.registry.get rule_id).any fun rule => rule.enabled ∧ rule.scores self.telemetry self.attempts

/-- The rule is enabled and gives a verdict. -/
def judged (self : EvaluateCycle) (rule_id : String) : Bool :=
  (self.registry.get rule_id).any fun rule =>
    rule.enabled ∧ (rule.evaluate self.telemetry self.attempts).toOption.isSome

end EvaluateCycle

namespace DebounceState

def evaluation (self : DebounceState) (cycle : EvaluateCycle) : Evaluation :=
  evaluate cycle.registry cycle.telemetry cycle.attempts (self.counters cycle.agent_id)

def step (self : DebounceState) (cycle : EvaluateCycle) : DebounceState where
  counters := Function.update self.counters cycle.agent_id (self.evaluation cycle).counters
  streak := Function.update self.streak cycle.agent_id fun rule_id =>
    if cycle.positive rule_id then self.streak cycle.agent_id rule_id + 1 else 0

/-- After a cycle the counter of an anomaly rule is the length of its run of positive cycles, and its score
counts in full exactly if that run is long enough. -/
structure Debounced (s : DebounceState) (cycle : EvaluateCycle) : Prop where
  counter : ∀ rule_id ∈ ANOMALY_RULES,
    (s.step cycle).counters cycle.agent_id rule_id = (s.step cycle).streak cycle.agent_id rule_id
  contribution : ∀ rule ∈ cycle.registry.get_enabled_rules, rule.rule_id ∈ ANOMALY_RULES → ∀ rule_score,
    rule.evaluate cycle.telemetry cycle.attempts = .ok rule_score → 0 < rule_score →
      ∃ debounced_score, (rule.rule_id, debounced_score * rule.weight) ∈ (s.evaluation cycle).rule_scores ∧
        (debounced_score = rule_score ↔
          DEBOUNCE_MIN_CYCLES ≤ (s.step cycle).streak cycle.agent_id rule.rule_id)

/-- The condition: an anomaly rule that raises, is disabled or is not registered has no counter, which is to
say that it did not score in the cycle before. -/
def uninterrupted (self : DebounceState) (cycle : EvaluateCycle) : Bool :=
  ANOMALY_RULES.all fun rule_id => cycle.judged rule_id ∨ self.counters cycle.agent_id rule_id = 0

end DebounceState

/-- A score is undiminished only by enough hits in a row. -/
theorem apply_debounce_eq_iff {raw_score : ℚ} (h : 0 < raw_score) (consecutive_hits : ℕ) :
    apply_debounce raw_score consecutive_hits = raw_score ↔ DEBOUNCE_MIN_CYCLES ≤ consecutive_hits := by
  unfold apply_debounce
  split
  · rename_i hhits
    exact iff_of_true rfl hhits
  · rename_i hhits
    refine iff_of_false (fun hround => ?_) hhits
    -- A rounded score that is the score itself would be a hundredth of an integer below 1.
    have hnear := (round_half_even_near (100 * (raw_score * DEBOUNCE_PENALTY))).2
    simp only [round2, DEBOUNCE_PENALTY] at hround hnear
    generalize round_half_even (100 * (raw_score * (3 / 10))) = hundredths at hround hnear
    have hlow : (0 : ℚ) < hundredths := by linarith
    have hhigh : (hundredths : ℚ) < 1 := by linarith
    have hlow : 0 < hundredths := by exact_mod_cast hlow
    have hhigh : hundredths < 1 := by exact_mod_cast hhigh
    omega

section Loop

variable {telemetry : Dict} {attempts : FailedAttempts}

/-- Scores that have been collected stay. -/
theorem Evaluation.mem_foldl_of_mem {self : Evaluation} {rules : List RiskRule} {factor : String × ℚ}
    (h : factor ∈ self.rule_scores) : factor ∈ (rules.foldl (add telemetry attempts) self).rule_scores := by
  induction rules generalizing self with
  | nil => exact h
  | cons rule rules ih =>
    refine ih ?_
    unfold add
    split
    · exact h
    · split
      · split <;> exact List.mem_append_left _ h
      · exact h

/-- The loop reaches every rule with its counter untouched, keeps what its round makes of the counter, and
what its round has collected. -/
theorem Evaluation.foldl_round {self : Evaluation} {rules : List RiskRule} {rule : RiskRule}
    (hids : (rules.map RiskRule.rule_id).Nodup) (hrule : rule ∈ rules) :
    ∃ before : Evaluation, before.counters rule.rule_id = self.counters rule.rule_id ∧
      (rules.foldl (add telemetry attempts) self).counters rule.rule_id =
        (before.add telemetry attempts rule).counters rule.rule_id ∧
      ∀ factor ∈ (before.add telemetry attempts rule).rule_scores,
        factor ∈ (rules.foldl (add telemetry attempts) self).rule_scores := by
  induction rules generalizing self with
  | nil => cases hrule
  | cons first rules ih =>
    rw [List.map_cons, List.nodup_cons] at hids
    rw [List.foldl_cons]
    rcases List.mem_cons.mp hrule with rfl | hrest
    · exact ⟨self, rfl, counters_foldl_of_not_mem hids.1, fun factor hfactor => mem_foldl_of_mem hfactor⟩
    · obtain ⟨before, hbefore, hafter⟩ := ih hids.2 hrest
      have hne : rule.rule_id ≠ first.rule_id := by
        intro heq
        rw [← heq] at hids
        exact hids.1 (List.mem_map_of_mem hrest)
      exact ⟨before, hbefore.trans (counters_add_of_ne hne), hafter⟩

theorem nodup_enabled_rules (registry : RiskRuleRegistry) :
    (registry.get_enabled_rules.map RiskRule.rule_id).Nodup :=
  registry.nodup.sublist (List.filter_sublist.map _)

end Loop

namespace DebounceState

section Step

variable {self : DebounceState} {cycle : EvaluateCycle} {rule_id : String}

theorem mem_enabled_iff {rule : RiskRule} : rule ∈ cycle.registry.get_enabled_rules ↔
    cycle.registry.get rule.rule_id = some rule ∧ rule.enabled = true := by
  rw [RiskRuleRegistry.get_enabled_rules, List.mem_filter]
  constructor
  · rintro ⟨hmem, henabled⟩
    exact ⟨Table.get_of_mem hmem, henabled⟩
  · rintro ⟨hget, henabled⟩
    exact ⟨Table.get_mem hget, henabled⟩

/-- What the round of a rule makes of its counter. -/
theorem counters_add_self {telemetry : Dict} {attempts : FailedAttempts} {before : Evaluation} {rule : RiskRule}
    (hanomaly : rule.rule_id ∈ ANOMALY_RULES) :
    (before.add telemetry attempts rule).counters rule.rule_id =
      if rule.scores telemetry attempts then before.counters rule.rule_id + 1
      else if (rule.evaluate telemetry attempts).toOption.isSome then 0
      else before.counters rule.rule_id := by
  unfold Evaluation.add RiskRule.scores
  cases rule.evaluate telemetry attempts with
  | error e => simp [Except.toOption]
  | ok rule_score => by_cases hscore : 0 < rule_score <;> simp [hscore, hanomaly, Except.toOption]

theorem counters_of_not_enabled (h : ∀ rule ∈ cycle.registry.get_enabled_rules, rule.rule_id ≠ rule_id) :
    (self.step cycle).counters cycle.agent_id rule_id = self.counters cycle.agent_id rule_id := by
  simp only [step, Function.update_self, evaluation, evaluate]
  refine Evaluation.counters_foldl_of_not_mem fun hmem => ?_
  obtain ⟨rule, hrule, hid⟩ := List.mem_map.mp hmem
  exact h rule hrule hid

/-- What a cycle makes of the counter of an anomaly rule. -/
theorem counters_step (hanomaly : rule_id ∈ ANOMALY_RULES) :
    (self.step cycle).counters cycle.agent_id rule_id =
      if cycle.positive rule_id then self.counters cycle.agent_id rule_id + 1
      else if cycle.judged rule_id then 0
      else self.counters cycle.agent_id rule_id := by
  cases hget : cycle.registry.get rule_id with
  | none =>
    have hnot : ∀ rule ∈ cycle.registry.get_enabled_rules, rule.rule_id ≠ rule_id := by
      rintro rule hrule rfl
      rw [(mem_enabled_iff.mp hrule).1] at hget
      cases hget
    rw [counters_of_not_enabled hnot]
    simp [EvaluateCycle.positive, EvaluateCycle.judged, hget]
  | some rule =>
    obtain rfl : rule.rule_id = rule_id := Table.key_of_get hget
    by_cases henabled : rule.enabled = true
    · obtain ⟨before, hbefore, hafter, _⟩ := Evaluation.foldl_round (nodup_enabled_rules cycle.registry)
        (mem_enabled_iff.mpr ⟨hget, henabled⟩)
      have hcounter : (self.step cycle).counters cycle.agent_id rule.rule_id =
          (before.add cycle.telemetry cycle.attempts rule).counters rule.rule_id := by
        simp only [step, Function.update_self]
        exact hafter
      rw [hcounter, counters_add_self hanomaly, hbefore]
      simp [EvaluateCycle.positive, EvaluateCycle.judged, hget, henabled]
    · have hnot : ∀ other ∈ cycle.registry.get_enabled_rules, other.rule_id ≠ rule.rule_id := by
        intro other hother hid
        obtain ⟨hfound, hon⟩ := mem_enabled_iff.mp hother
        rw [hid, hget] at hfound
        obtain rfl := Option.some.inj hfound
        exact henabled hon
      rw [counters_of_not_enabled hnot]
      simp [EvaluateCycle.positive, EvaluateCycle.judged, hget, henabled]

/-- A rule that scores positive has given a verdict. -/
theorem judged_of_positive (h : cycle.positive rule_id) : cycle.judged rule_id := by
  obtain ⟨rule, hget, hrule⟩ := (Option.any_eq_true _ _).mp h
  simp only [decide_eq_true_eq] at hrule
  refine (Option.any_eq_true _ _).mpr ⟨rule, hget, ?_⟩
  have hscores := hrule.2
  unfold RiskRule.scores at hscores
  split at hscores
  · rename_i rule_score hverdict
    simp [hrule.1, hverdict, Except.toOption]
  · cases hscores

/-- Every counter of an anomaly rule is the length of its run of positive cycles. -/
structure Counted (s : DebounceState) : Prop where
  counted : ∀ agent_id, ∀ rule_id ∈ ANOMALY_RULES, s.counters agent_id rule_id = s.streak agent_id rule_id

theorem counter_step_iff (h : self.Counted) (hanomaly : rule_id ∈ ANOMALY_RULES) :
    (self.step cycle).counters cycle.agent_id rule_id = (self.step cycle).streak cycle.agent_id rule_id ↔
      cycle.judged rule_id ∨ self.counters cycle.agent_id rule_id = 0 := by
  have hstreak : (self.step cycle).streak cycle.agent_id rule_id =
      if cycle.positive rule_id then self.streak cycle.agent_id rule_id + 1 else 0 := by
    simp [step]
  rw [counters_step hanomaly, hstreak, ← h.counted cycle.agent_id rule_id hanomaly]
  by_cases hpositive : cycle.positive rule_id
  · simp [hpositive, judged_of_positive hpositive]
  · by_cases hjudged : cycle.judged rule_id <;> simp [hpositive, hjudged]

/-- The score of an anomaly rule is collected with what the debounce makes of it. -/
theorem mem_rule_scores {rule : RiskRule} (hrule : rule ∈ cycle.registry.get_enabled_rules)
    (hanomaly : rule.rule_id ∈ ANOMALY_RULES) {rule_score : ℚ}
    (hverdict : rule.evaluate cycle.telemetry cycle.attempts = .ok rule_score) (hscore : 0 < rule_score) :
    (rule.rule_id,
        apply_debounce rule_score (self.counters cycle.agent_id rule.rule_id + 1) * rule.weight) ∈
      (self.evaluation cycle).rule_scores := by
  obtain ⟨before, hbefore, _, hscores⟩ := Evaluation.foldl_round (nodup_enabled_rules cycle.registry) hrule
  refine hscores _ ?_
  have hheld : before.counters rule.rule_id = self.counters cycle.agent_id rule.rule_id := hbefore
  rw [← hheld]
  unfold Evaluation.add
  rw [hverdict]
  simp [hscore, hanomaly]

/-- A cycle keeps the law exactly if it interrupts no rule. -/
theorem debounced_iff (h : self.Counted) : self.Debounced cycle ↔ self.uninterrupted cycle := by
  simp only [uninterrupted, List.all_eq_true, decide_eq_true_eq]
  constructor
  · intro hlaw rule_id hanomaly
    exact (counter_step_iff h hanomaly).mp (hlaw.counter rule_id hanomaly)
  · intro hcycle
    refine ⟨fun rule_id hanomaly => (counter_step_iff h hanomaly).mpr (hcycle rule_id hanomaly),
      fun rule hrule hanomaly rule_score hverdict hscore => ?_⟩
    refine ⟨_, mem_rule_scores hrule hanomaly hverdict hscore, ?_⟩
    have hpositive : cycle.positive rule.rule_id := by
      obtain ⟨hget, henabled⟩ := mem_enabled_iff.mp hrule
      simp [EvaluateCycle.positive, hget, henabled, RiskRule.scores, hverdict, hscore]
    have hstreak : (self.step cycle).streak cycle.agent_id rule.rule_id =
        self.counters cycle.agent_id rule.rule_id + 1 := by
      simp [step, hpositive, h.counted cycle.agent_id rule.rule_id hanomaly]
    rw [apply_debounce_eq_iff hscore, hstreak]

theorem Counted.step (h : self.Counted) (hcycle : self.uninterrupted cycle) : (self.step cycle).Counted where
  counted agent_id rule_id hanomaly := by
    by_cases hagent : agent_id = cycle.agent_id
    · subst hagent
      exact ((debounced_iff h).mpr hcycle).counter rule_id hanomaly
    · simp only [DebounceState.step, Function.update_of_ne hagent]
      exact h.counted agent_id rule_id hanomaly

end Step

/-- Over every sequence of cycles of all agents, the counters count as they should exactly if no cycle
interrupts a rule that holds a counter. -/
theorem debounced_along_iff (cycles : List EvaluateCycle) :
    transition.Along step Debounced {} cycles ↔
      transition.Along step (fun self cycle => self.uninterrupted cycle) {} cycles := by
  suffices h : ∀ self : DebounceState, self.Counted → (transition.Along step Debounced self cycles ↔
      transition.Along step (fun self cycle => self.uninterrupted cycle) self cycles) from
    h {} ⟨fun _ _ _ => rfl⟩
  induction cycles with
  | nil => exact fun _ _ => Iff.rfl
  | cons cycle cycles ih =>
    intro self hcounted
    rw [transition.along_cons, transition.along_cons, debounced_iff hcounted]
    exact and_congr_right fun hcycle => ih _ (hcounted.step hcycle)

/-- A cycle of the CPU rule on a busy processor. -/
def busy_cycle (enabled : Bool) : EvaluateCycle where
  agent_id := "web-1"
  registry := ⟨[{ ({} : CpuSpikeRule).rule with enabled }], by cases enabled <;> decide⟩
  telemetry := [("cpu_usage", .num 90)]

/-- The rule is disabled for a cycle between two in which it scores. -/
theorem not_debounced_disabled :
    ¬ transition.Along step Debounced {} [busy_cycle true, busy_cycle false, busy_cycle true] := by
  rw [debounced_along_iff]
  exact fun h => absurd h.2.1 (by decide +kernel)

end DebounceState

end larp
