import Mathlib.Algebra.Order.BigOperators.Group.List
import ActiveResponse.Detection.Evaluate
import ActiveResponse.System

namespace larp

/-- The stored configuration of a rule. The API takes any weight, base score and config. -/
structure DetectionRule where
  rule_id : String
  enabled : Bool := true
  weight : ℚ := 1
  base_score : ℚ := 1
  config : Dict := []

instance : Keyed DetectionRule String := ⟨DetectionRule.rule_id⟩

structure DetectionRuleUpdate where
  enabled : Option Bool := none
  weight : Option ℚ := none
  base_score : Option ℚ := none
  config : Option Dict := none

def DetectionRule.update (dto : DetectionRuleUpdate) (self : DetectionRule) : DetectionRule :=
  { self with
    enabled := dto.enabled.getD self.enabled
    weight := dto.weight.getD self.weight
    base_score := dto.base_score.getD self.base_score
    config := dto.config.getD self.config }

/-- A rule of the registry with its settings, and its verdict for a weight, a base score and a config. -/
structure RegisteredRule where
  rule_id : String
  enabled : Bool := true
  weight : ℚ := 1
  base_score : ℚ := 1
  config : Dict := []
  evaluate : ℚ → ℚ → Dict → Dict → FailedAttempts → Except AppException ℚ

instance : Keyed RegisteredRule String := ⟨RegisteredRule.rule_id⟩

/-- The settings of a stored record; an empty config leaves the one that the rule has. -/
def RegisteredRule.configure (record : DetectionRule) (self : RegisteredRule) : RegisteredRule :=
  { self with
    enabled := record.enabled
    weight := record.weight
    base_score := record.base_score
    config := if record.config.isEmpty then self.config else record.config }

def RegisteredRule.rule (self : RegisteredRule) : RiskRule where
  rule_id := self.rule_id
  enabled := self.enabled
  weight := self.weight
  evaluate := self.evaluate self.weight self.base_score self.config

/-- `RiskRuleRegistry.sync_from_db_records`. -/
def sync_from_db_records (registry : Table RegisteredRule) (db_rules : List DetectionRule) : Table RegisteredRule :=
  db_rules.foldl (fun registry record => registry.modify record.rule_id (.configure record)) registry

def registry_of (rules : Table RegisteredRule) : RiskRuleRegistry :=
  ⟨rules.rows.map RegisteredRule.rule, by
    rw [List.map_map]
    exact rules.nodup⟩

/-- The stored configurations, the risk records, and the debounce counters. -/
structure ScoreStore where
  rules : Table DetectionRule := Table.empty
  db : Database
  counters : String → HitCounter := fun _ _ => 0

/-- An assessment, with what it finds: the telemetry, the failed attempts on record, whether the
configurations can be read, and whether the transaction is committed in the end. -/
structure RiskCycle where
  record_id : String
  agent_id : String
  telemetry : Dict
  attempts : FailedAttempts := fun _ => none
  reasons : Dict := []
  now : Time
  synced : Bool := true
  stored : Bool := true

inductive ScoreStep where
  | create_rule (record : DetectionRule)
  | update_rule (rule_id : String) (dto : DetectionRuleUpdate)
  | delete_rule (rule_id : String)
  | process_risk (cycle : RiskCycle)

def in_score_range (score : ℚ) : Prop := 0 ≤ score ∧ score ≤ 100

namespace ScoreStore

variable (default_registry : Table RegisteredRule)

/-- The registry of an assessment: `sync_registry` reads the first 100 configurations. -/
def registry (self : ScoreStore) (cycle : RiskCycle) : RiskRuleRegistry :=
  registry_of (if cycle.synced then sync_from_db_records default_registry (self.rules.rows.take 100)
    else default_registry)

/-- `RiskAssessmentService.evaluate`. -/
def evaluation (self : ScoreStore) (cycle : RiskCycle) : Evaluation :=
  larp.evaluate (self.registry default_registry cycle) cycle.telemetry cycle.attempts (self.counters cycle.agent_id)

/-- The record that `process_risk` stores. -/
def record (self : ScoreStore) (cycle : RiskCycle) : RiskScoreRecord where
  id := cycle.record_id
  agent_id := cycle.agent_id
  score := (self.evaluation default_registry cycle).final_score
  smoothed_score := some
    (self.db.smoothed_score cycle.agent_id (self.evaluation default_registry cycle).final_score)
  factors := cycle.reasons ++ [("total_score", .num (self.evaluation default_registry cycle).final_score)]
  timestamp := cycle.now

/-- The counters stay changed when the transaction is rolled back. -/
def process_risk (self : ScoreStore) (cycle : RiskCycle) : ScoreStore :=
  { self with
    counters := Function.update self.counters cycle.agent_id (self.evaluation default_registry cycle).counters
    db :=
      match self.db.add_risk_record (self.record default_registry cycle) with
      | .ok db => if cycle.stored then db else self.db
      | .error _ => self.db }

def step (self : ScoreStore) : ScoreStep → ScoreStore
  | .create_rule record =>
    match self.rules.insert record with
    | some rules => { self with rules }
    | none => self
  | .update_rule rule_id dto => { self with rules := self.rules.modify rule_id (.update dto) }
  | .delete_rule rule_id => { self with rules := self.rules.delete rule_id }
  | .process_risk cycle => self.process_risk default_registry cycle

/-- The raw score that `evaluate` returns and the smoothed score that is stored lie between 0 and 100. -/
def ScoresInRange (self : ScoreStore) : ScoreStep → Prop
  | .process_risk cycle =>
    in_score_range (self.evaluation default_registry cycle).final_score ∧
      in_score_range (self.db.smoothed_score cycle.agent_id (self.evaluation default_registry cycle).final_score)
  | _ => True

/-- The condition: a rule that scores on the telemetry has no negative weight. -/
def weighs_up (self : ScoreStore) : ScoreStep → Bool
  | .process_risk cycle =>
    (self.registry default_registry cycle).get_enabled_rules.all fun rule =>
      rule.scores cycle.telemetry cycle.attempts → 0 ≤ rule.weight
  | _ => true

end ScoreStore

/-! ## The range of the pieces -/

theorem round2_nonneg {q : ℚ} (h : 0 ≤ q) : 0 ≤ round2 q := by
  have hround := round2_mono h
  rwa [show round2 0 = 0 by simpa using round2_hundredths 0] at hround

theorem round2_le {q : ℚ} (h : q ≤ 100) : round2 q ≤ 100 := by
  have hround := round2_mono h
  have hself := round2_hundredths 10000
  norm_num at hself
  rwa [hself] at hround

theorem round2_in_range {q : ℚ} (h : in_score_range q) : in_score_range (round2 q) :=
  ⟨round2_nonneg h.1, round2_le h.2⟩

/-- The smoothing is a convex combination. -/
theorem compute_ema_in_range {current : ℚ} {previous : Option ℚ} (hcurrent : in_score_range current)
    (hprevious : ∀ score ∈ previous, in_score_range score) : in_score_range (compute_ema current previous) := by
  unfold compute_ema
  split
  · exact round2_in_range hcurrent
  · cases previous with
    | none => exact round2_in_range hcurrent
    | some previous =>
      obtain ⟨hlow, hhigh⟩ := hprevious previous rfl
      obtain ⟨hlow', hhigh'⟩ := hcurrent
      refine round2_in_range ⟨?_, ?_⟩ <;> simp only [EMA_ALPHA] <;> linarith

theorem apply_debounce_nonneg {raw_score : ℚ} (h : 0 ≤ raw_score) (consecutive_hits : ℕ) :
    0 ≤ apply_debounce raw_score consecutive_hits := by
  unfold apply_debounce
  split
  · exact h
  · refine round2_nonneg (mul_nonneg h ?_)
    norm_num [DEBOUNCE_PENALTY]

/-- Scores that are not negative add up to one that is not negative, capped or not. -/
theorem apply_category_cap_nonneg {factors : List (String × ℚ)} (h : ∀ factor ∈ factors, 0 ≤ factor.2) :
    0 ≤ apply_category_cap factors := by
  have htotal (select : String × ℚ → Bool) (scores : List (String × ℚ)) (hscores : scores ⊆ factors) :
      0 ≤ ((scores.filter select).map Prod.snd).sum := by
    refine List.sum_nonneg fun score hscore => ?_
    obtain ⟨factor, hfactor, rfl⟩ := List.mem_map.mp hscore
    exact h factor (hscores (List.mem_of_mem_filter hfactor))
  have hnumeric : (factors.filter fun factor => factor.1 ≠ "total_score") ⊆ factors :=
    List.filter_sublist.subset
  unfold apply_category_cap
  dsimp only
  split
  · exact round2_nonneg (htotal _ _ (List.Subset.refl _))
  · exact round2_nonneg (add_nonneg (htotal _ _ hnumeric) (le_min (htotal _ _ hnumeric) (by norm_num [ANOMALY_CAP])))

section Loop

variable {telemetry : Dict} {attempts : FailedAttempts}

/-- A rule that scores with a weight that is not negative contributes nothing negative. -/
theorem Evaluation.add_nonneg {self : Evaluation} {rule : RiskRule}
    (hself : ∀ factor ∈ self.rule_scores, 0 ≤ factor.2)
    (hrule : rule.scores telemetry attempts → 0 ≤ rule.weight) :
    ∀ factor ∈ (self.add telemetry attempts rule).rule_scores, 0 ≤ factor.2 := by
  unfold add
  split
  · exact hself
  · rename_i rule_score hverdict
    split
    · rename_i hscore
      have hweight := hrule (by simpa [RiskRule.scores, hverdict] using hscore)
      split
      · intro factor hfactor
        rcases List.mem_append.mp hfactor with hfactor | hfactor
        · exact hself factor hfactor
        · rw [List.mem_singleton] at hfactor
          rw [hfactor]
          exact mul_nonneg (apply_debounce_nonneg (le_of_lt hscore) _) hweight
      · intro factor hfactor
        rcases List.mem_append.mp hfactor with hfactor | hfactor
        · exact hself factor hfactor
        · rw [List.mem_singleton] at hfactor
          rw [hfactor]
          exact mul_nonneg (le_of_lt hscore) hweight
    · exact hself

theorem Evaluation.foldl_nonneg {self : Evaluation} {rules : List RiskRule}
    (hself : ∀ factor ∈ self.rule_scores, 0 ≤ factor.2)
    (hrules : ∀ rule ∈ rules, rule.scores telemetry attempts → 0 ≤ rule.weight) :
    ∀ factor ∈ (rules.foldl (add telemetry attempts) self).rule_scores, 0 ≤ factor.2 := by
  induction rules generalizing self with
  | nil => exact hself
  | cons rule rules ih =>
    rw [List.forall_mem_cons] at hrules
    exact ih (add_nonneg hself hrules.1) hrules.2

/-- Only the lower bound of the raw score depends on the weights. -/
theorem evaluate_in_range {registry : RiskRuleRegistry} {counters : HitCounter}
    (h : ∀ rule ∈ registry.get_enabled_rules, rule.scores telemetry attempts → 0 ≤ rule.weight) :
    in_score_range (evaluate registry telemetry attempts counters).final_score := by
  have hnonneg : ∀ factor ∈ (evaluate registry telemetry attempts counters).rule_scores, 0 ≤ factor.2 :=
    Evaluation.foldl_nonneg nofun h
  exact ⟨le_min (by norm_num) (apply_category_cap_nonneg hnonneg), min_le_left _ _⟩

end Loop

/-! ## Runs of assessments -/

/-- A stored record has its scores in range. -/
structure RiskScoreRecord.InRange (record : RiskScoreRecord) : Prop where
  score : in_score_range record.score
  smoothed : ∀ score ∈ record.smoothed_score, in_score_range score

def Database.RecordsInRange (db : Database) : Prop :=
  ∀ record ∈ db.risk_score_records.rows, record.InRange

theorem Database.previous_score_in_range {db : Database} (h : db.RecordsInRange) (agent_id : String) :
    ∀ score ∈ db.previous_score agent_id, in_score_range score := by
  intro score hscore
  obtain ⟨record, hlatest, rfl⟩ := Option.map_eq_some_iff.mp hscore
  have hrecord := h record (Table.mem_of_latest hlatest).1
  cases hsmoothed : record.smoothed_score with
  | none => exact hrecord.score
  | some smoothed => exact hrecord.smoothed smoothed hsmoothed

theorem Database.smoothed_score_in_range {db : Database} (h : db.RecordsInRange) (agent_id : String) {raw_score : ℚ}
    (hraw : in_score_range raw_score) : in_score_range (db.smoothed_score agent_id raw_score) := by
  unfold smoothed_score
  split
  · exact round2_in_range hraw
  · exact compute_ema_in_range hraw (previous_score_in_range h agent_id)

namespace ScoreStore

variable {default_registry : Table RegisteredRule} {self : ScoreStore}

/-- An assessment in which no rule with a negative weight scores stays in range. -/
theorem scoresInRange_of_weighs_up (h : self.db.RecordsInRange) {next : ScoreStep}
    (hnext : self.weighs_up default_registry next) : self.ScoresInRange default_registry next := by
  cases next with
  | process_risk cycle =>
    have hraw : in_score_range (self.evaluation default_registry cycle).final_score := by
      refine evaluate_in_range fun rule hrule hscores => ?_
      simp only [weighs_up, List.all_eq_true, decide_eq_true_eq] at hnext
      exact hnext rule hrule hscores
    exact ⟨hraw, Database.smoothed_score_in_range h cycle.agent_id hraw⟩
  | create_rule | update_rule | delete_rule => trivial

theorem recordsInRange_step (h : self.db.RecordsInRange) {next : ScoreStep}
    (hnext : self.ScoresInRange default_registry next) : (self.step default_registry next).db.RecordsInRange := by
  cases next with
  | process_risk cycle =>
    simp only [step, process_risk]
    split
    · rename_i db hadd
      split
      · intro record hrecord
        simp only [Database.add_risk_record] at hadd
        split at hadd
        · cases hadd
        · split at hadd
          · rename_i records hinsert
            obtain rfl := Except.ok.inj hadd
            rcases (Table.mem_of_insert hinsert).mp hrecord with hold | rfl
            · exact h record hold
            · refine ⟨hnext.1, fun score hscore => ?_⟩
              obtain rfl := Option.some.inj hscore
              exact hnext.2
          · cases hadd
      · exact h
    · exact h
  | create_rule record =>
    simp only [step]
    split <;> exact h
  | update_rule | delete_rule => exact h

/-- Over every run of changes to the configurations and assessments in which no rule with a negative weight
scores, all scores stay between 0 and 100. -/
theorem scoresInRange_of_weights (default_registry : Table RegisteredRule) {db : Database} (hdb : db.RecordsInRange)
    (rules : Table DetectionRule) (steps : List ScoreStep)
    (hsteps : transition.Along (step default_registry) (fun self next => self.weighs_up default_registry next)
      { rules, db } steps) :
    transition.Along (step default_registry) (ScoresInRange default_registry) { rules, db } steps :=
  transition.along_of_invariant (I := fun self => self.db.RecordsInRange)
    (fun _ _ h hnext => recordsInRange_step h (scoresInRange_of_weighs_up h hnext))
    (fun _ _ h hnext => scoresInRange_of_weighs_up h hnext) hsteps hdb

/-- `CpuSpikeRule`. -/
def cpu_spike : RegisteredRule where
  rule_id := "cpu_spike"
  evaluate _ base_score config telemetry _ := do
    let high_score ← ((config.get "high_score").getD (.num 30)).to_number
    let medium_score ← ((config.get "medium_score").getD (.num 15)).to_number
    let cpu ← ((telemetry.get "cpu_usage").getD (.num 0)).to_number
    let high_threshold ← ((config.get "high_threshold").getD (.num 85)).to_number
    if high_threshold < cpu then return high_score * base_score
    else
      let medium_threshold ← ((config.get "medium_threshold").getD (.num 70)).to_number
      return if medium_threshold < cpu then medium_score * base_score else 0

/-- A registry with one rule. -/
def cpu_registry : Table RegisteredRule := ⟨[cpu_spike], by decide⟩

/-- The rule is stored with a weight, and a report of a busy processor is assessed. -/
def weighted_report (weight : ℚ) : List ScoreStep :=
  [.create_rule { rule_id := "cpu_spike", weight },
    .process_risk { record_id := "risk_1", agent_id := "web-1", telemetry := [("cpu_usage", .num 90)], now := 0 }]

theorem scoresInRange_double_weight : transition.Along (step cpu_registry) (ScoresInRange cpu_registry)
    { rules := Table.empty, db := Database.one_agent } (weighted_report 2) :=
  scoresInRange_of_weights cpu_registry (fun _ hnone => by cases hnone) Table.empty (weighted_report 2)
    ⟨rfl, by decide +kernel, trivial⟩

/-- With a negative weight the report has a negative score. -/
theorem not_scoresInRange_negative_weight : ¬ transition.Along (step cpu_registry) (ScoresInRange cpu_registry)
    { db := Database.one_agent } (weighted_report (-1)) :=
  fun h => absurd h.2.1.1.1 (by decide +kernel)

end ScoreStore

end larp
