import Mathlib.Logic.Function.Basic
import ActiveResponse.Detection.Processes
import ActiveResponse.Detection.Scores

namespace larp

def DEBOUNCE_MIN_CYCLES : ℕ := 2

def DEBOUNCE_PENALTY : ℚ := 3 / 10

def ANOMALY_RULES : List String :=
  ["ml_behavioral_anomaly", "cpu_spike", "ram_spike", "disk_spike", "network_volume_spike"]

def IOC_RULES : List String :=
  ["yara_match", "suspicious_process", "c2_communication", "credential_dumping", "threat_intel_match",
    "http_beaconing", "dns_tunneling"]

def ANOMALY_CAP : ℚ := 35

/-- The score of a rule that has not fired often enough in a row is reduced. -/
def apply_debounce (raw_score : ℚ) (consecutive_hits : ℕ) : ℚ :=
  if DEBOUNCE_MIN_CYCLES ≤ consecutive_hits then raw_score else round2 (raw_score * DEBOUNCE_PENALTY)

/-- The sum of the scores. Without an indicator of compromise the anomalies count for 35 at most. -/
def apply_category_cap (factors : List (String × ℚ)) : ℚ :=
  let numeric_scores := factors.filter fun (rule_id, _) => rule_id ≠ "total_score"
  let total (scores : List (String × ℚ)) : ℚ := (scores.map Prod.snd).sum
  if numeric_scores.any fun (rule_id, score) => rule_id ∈ IOC_RULES ∧ 0 < score then
    round2 (total numeric_scores)
  else
    round2 (total (numeric_scores.filter fun (rule_id, _) => rule_id ∉ ANOMALY_RULES) +
      min (total (numeric_scores.filter fun (rule_id, _) => rule_id ∈ ANOMALY_RULES)) ANOMALY_CAP)

/-- What the sliding window over the stored authentication events finds: the failed attempts within so
many seconds, or nothing when it cannot be read. -/
abbrev FailedAttempts := ℤ → Option ℤ

/-- A rule of the registry as it is configured when a message arrives. Whatever it looks up besides the
telemetry and the failed attempts is part of `evaluate`. -/
structure RiskRule where
  rule_id : String
  enabled : Bool := true
  weight : ℚ := 1
  evaluate : Dict → FailedAttempts → Except AppException ℚ

instance : Keyed RiskRule String := ⟨RiskRule.rule_id⟩

/-- The rules in the order of their registration, at most one for each id. -/
abbrev RiskRuleRegistry := Table RiskRule

def RiskRuleRegistry.get_enabled_rules (self : RiskRuleRegistry) : List RiskRule :=
  self.rows.filter RiskRule.enabled

/-- The debounce counters of an agent; a rule without a counter has 0. -/
abbrev HitCounter := String → ℕ

/-- What `evaluate` has collected so far. -/
structure Evaluation where
  counters : HitCounter
  rule_scores : List (String × ℚ) := []

/-- One round of the loop of `evaluate`. A rule that raises leaves everything as it is; one that does not
score loses its counter. -/
def Evaluation.add (telemetry : Dict) (attempts : FailedAttempts) (self : Evaluation) (rule : RiskRule) :
    Evaluation :=
  match rule.evaluate telemetry attempts with
  | .error _ => self
  | .ok rule_score =>
    if 0 < rule_score then
      if rule.rule_id ∈ ANOMALY_RULES then
        let hits := self.counters rule.rule_id + 1
        { counters := Function.update self.counters rule.rule_id hits
          rule_scores := self.rule_scores ++ [(rule.rule_id, apply_debounce rule_score hits * rule.weight)] }
      else { self with rule_scores := self.rule_scores ++ [(rule.rule_id, rule_score * rule.weight)] }
    else { self with counters := Function.update self.counters rule.rule_id 0 }

def Evaluation.final_score (self : Evaluation) : ℚ :=
  min 100 (apply_category_cap self.rule_scores)

/-- `RiskAssessmentService.evaluate` on telemetry that is ready for the rules. -/
def evaluate (registry : RiskRuleRegistry) (telemetry : Dict) (attempts : FailedAttempts)
    (counters : HitCounter) : Evaluation :=
  registry.get_enabled_rules.foldl (Evaluation.add telemetry attempts) { counters }

/-! ## Rules of the default registry -/

/-- `x` in a comparison with a float. -/
def Json.to_number : Json → Except AppException ℚ
  | .num value => .ok value
  | .bool value => .ok (if value then 1 else 0)
  | _ => .error (.TypeError "'>' not supported between instances of this type and 'float'")

structure CpuSpikeRule where
  high_threshold : ℚ := 85
  high_score : ℚ := 30
  medium_threshold : ℚ := 70
  medium_score : ℚ := 15
  base_score : ℚ := 1

def CpuSpikeRule.rule (self : CpuSpikeRule) : RiskRule where
  rule_id := "cpu_spike"
  evaluate telemetry _ := do
    let cpu ← ((telemetry.get "cpu_usage").getD (.num 0)).to_number
    return if self.high_threshold < cpu then self.high_score * self.base_score
      else if self.medium_threshold < cpu then self.medium_score * self.base_score
      else 0

structure BruteForceRule where
  threshold : ℤ := 5
  critical_threshold : ℤ := 15
  window_seconds : ℤ := 60
  base_score : ℚ := 30

/-- The failed logins that are reported, and whether one succeeded after them. -/
structure ReportedLogins where
  failed_count : ℤ
  has_success_after_fail : Bool := false

/-- `str(evt.get("status", "")).lower()`. -/
def auth_status (py_str : Json → String) (event : Dict) : String :=
  py_lower (match event.get "status" with
    | none => ""
    | some (.str status) => status
    | some value => py_str value)

/-- The loop of `BruteForceRule.evaluate` over the reported events. -/
def ReportedLogins.count (py_str : Json → String) :
    ReportedLogins → List Json → Except AppException ReportedLogins
  | self, [] => .ok self
  | self, .obj event :: events => do
    let count ← ((Dict.get event "count").getD (.num 1)).to_int
    if auth_status py_str event = "failed" then
      ReportedLogins.count py_str { self with failed_count := self.failed_count + count } events
    else if auth_status py_str event = "success" ∧ 0 < self.failed_count then
      ReportedLogins.count py_str { self with has_success_after_fail := true } events
    else ReportedLogins.count py_str self events
  | _, _ :: _ => .error (.Fault "object has no attribute 'get'")

def ReportedLogins.of_telemetry (py_str : Json → String) (telemetry : Dict) :
    Except AppException ReportedLogins := do
  let failed_count ← ((telemetry.get "failed_login_attempts").getD (.num 0)).to_int
  match (telemetry.get "auth_events").getD (.arr []) with
  | .arr events => ReportedLogins.count py_str { failed_count } events
  | .obj [] | .str "" => return { failed_count }
  | .obj _ | .str _ => .error (.Fault "'str' object has no attribute 'get'")
  | _ => .error (.TypeError "object is not iterable")

namespace BruteForceRule

/-- The failed logins that count: the reported ones, or those on record if they are more. -/
def failed_count (self : BruteForceRule) (attempts : FailedAttempts) (reported : ReportedLogins) : ℤ :=
  if reported.failed_count < self.threshold then
    match attempts self.window_seconds with
    | some db_fails => max reported.failed_count db_fails
    | none => reported.failed_count
  else reported.failed_count

/-- The integers that are no float when they are rounded. -/
def beyond_floats (n : ℤ) : Bool := 2 ^ 1024 - 2 ^ 970 ≤ |n|

def overflow : AppException := .Fault "int too large to convert to float"

/-- `float(n)`. -/
def to_float (n : ℤ) : Except AppException ℚ :=
  if beyond_floats n then .error overflow else .ok (binary64.round n)

/-- The score, in the arithmetic of floats. An infinite base score would count as one of 50. -/
def score (self : BruteForceRule) (failed_count : ℤ) (has_success_after_fail : Bool) : Except AppException ℚ :=
  if failed_count = 0 ∧ !has_success_after_fail then .ok 0
  else if has_success_after_fail ∧ self.threshold ≤ failed_count then
    .ok (min 100 (binary64.round (binary64.round (85 * self.base_score) / 30)))
  else if self.critical_threshold ≤ failed_count then
    .ok (min 100 (binary64.round (binary64.round (75 * self.base_score) / 30)))
  else if self.threshold ≤ failed_count then do
    let excess ← to_float (failed_count - self.threshold)
    return min 50 (binary64.round (self.base_score + binary64.round (excess * 2)))
  else .ok 0

def rule (self : BruteForceRule) (py_str : Json → String) : RiskRule where
  rule_id := "brute_force"
  evaluate telemetry attempts := do
    let reported ← ReportedLogins.of_telemetry py_str telemetry
    self.score (self.failed_count attempts reported) reported.has_success_after_fail

end BruteForceRule

/-! ## What an evaluation does to the counters -/

/-- A rule that is evaluated to no score would take the counter away that it has. -/
def HitCounter.drops (self : HitCounter) (rule : RiskRule) (telemetry : Dict) (attempts : FailedAttempts) : Bool :=
  match rule.evaluate telemetry attempts with
  | .ok rule_score => rule_score ≤ 0 ∧ self rule.rule_id ≠ 0
  | .error _ => false

/-- The rule scores on this telemetry. -/
def RiskRule.scores (self : RiskRule) (telemetry : Dict) (attempts : FailedAttempts) : Bool :=
  match self.evaluate telemetry attempts with
  | .ok rule_score => 0 < rule_score
  | .error _ => false

section Add

variable {telemetry : Dict} {attempts : FailedAttempts} {self : Evaluation} {rule : RiskRule}

private theorem counter_of_not_drops {rule_score : ℚ} (hverdict : rule.evaluate telemetry attempts = .ok rule_score)
    (hdrops : ¬ self.counters.drops rule telemetry attempts) (hscore : ¬ 0 < rule_score) :
    self.counters rule.rule_id = 0 := by
  by_contra hheld
  refine hdrops ?_
  simp only [HitCounter.drops, hverdict, decide_eq_true_eq]
  exact ⟨not_lt.mp hscore, hheld⟩

/-- A rule that neither scores nor has a counter changes nothing. -/
theorem Evaluation.add_of_silent (hscores : ¬ rule.scores telemetry attempts)
    (hdrops : ¬ self.counters.drops rule telemetry attempts) : self.add telemetry attempts rule = self := by
  unfold add
  split
  · rfl
  · rename_i rule_score hverdict
    simp only [RiskRule.scores, hverdict, decide_eq_true_eq] at hscores
    rw [if_neg hscores, Function.update_eq_self_iff.mpr (counter_of_not_drops hverdict hdrops hscores).symm]

theorem Evaluation.counters_add_of_ne {rule_id : String} (h : rule_id ≠ rule.rule_id) :
    (self.add telemetry attempts rule).counters rule_id = self.counters rule_id := by
  unfold add
  split
  · rfl
  · split
    · split
      · exact Function.update_of_ne h _ _
      · rfl
    · exact Function.update_of_ne h _ _

/-- A rule that drops no counter lowers none. -/
theorem Evaluation.le_counters_add (hdrops : ¬ self.counters.drops rule telemetry attempts) :
    self.counters rule.rule_id ≤ (self.add telemetry attempts rule).counters rule.rule_id := by
  unfold add
  split
  · exact le_refl _
  · rename_i rule_score hverdict
    split
    · split
      · simp
      · exact le_refl _
    · rename_i hscore
      rw [counter_of_not_drops hverdict hdrops hscore]
      exact Nat.zero_le _

end Add

section Loop

variable {telemetry : Dict} {attempts attempts' : FailedAttempts}

/-- When no rule scores and none has a counter to lose, the whole loop changes nothing. -/
theorem Evaluation.foldl_of_silent (self : Evaluation) {rules : List RiskRule}
    (hscores : ∀ rule ∈ rules, ¬ rule.scores telemetry attempts)
    (hdrops : ∀ rule ∈ rules, ¬ self.counters.drops rule telemetry attempts) :
    rules.foldl (add telemetry attempts) self = self := by
  induction rules with
  | nil => rfl
  | cons rule rules ih =>
    rw [List.forall_mem_cons] at hscores hdrops
    rw [List.foldl_cons, add_of_silent hscores.1 hdrops.1]
    exact ih hscores.2 hdrops.2

theorem Evaluation.counters_foldl_of_not_mem {self : Evaluation} {rules : List RiskRule} {rule_id : String}
    (h : rule_id ∉ rules.map RiskRule.rule_id) :
    (rules.foldl (add telemetry attempts) self).counters rule_id = self.counters rule_id := by
  induction rules generalizing self with
  | nil => rfl
  | cons rule rules ih =>
    rw [List.map_cons, List.mem_cons, not_or] at h
    rw [List.foldl_cons, ih h.2, counters_add_of_ne h.1]

/-- Every rule has one round of the loop, so a counter is lowered only by the round of its own rule. -/
theorem Evaluation.le_counters_foldl (self : Evaluation) {rules : List RiskRule} {rule_id : String}
    (hids : (rules.map RiskRule.rule_id).Nodup)
    (hdrops : ∀ rule ∈ rules, rule.rule_id = rule_id → ¬ self.counters.drops rule telemetry attempts) :
    self.counters rule_id ≤ (rules.foldl (add telemetry attempts) self).counters rule_id := by
  induction rules generalizing self with
  | nil => exact le_refl _
  | cons rule rules ih =>
    rw [List.map_cons, List.nodup_cons] at hids
    rw [List.forall_mem_cons] at hdrops
    rw [List.foldl_cons]
    by_cases hrule : rule.rule_id = rule_id
    · subst hrule
      rw [counters_foldl_of_not_mem hids.1]
      exact le_counters_add (hdrops.1 rfl)
    · have hkept : (self.add telemetry attempts rule).counters rule_id = self.counters rule_id :=
        counters_add_of_ne (Ne.symm hrule)
      rw [← hkept]
      refine ih _ hids.2 fun other hother hid => ?_
      have hsame : (self.add telemetry attempts rule).counters.drops other telemetry attempts =
          self.counters.drops other telemetry attempts := by
        subst hid
        simp only [HitCounter.drops, hkept]
      rw [hsame]
      exact hdrops.2 other hother hid

/-- An evaluation depends on the failed attempts only through the verdicts of its rules. -/
theorem evaluate_congr {registry : RiskRuleRegistry} {counters : HitCounter}
    (h : ∀ rule ∈ registry.get_enabled_rules,
      rule.evaluate telemetry attempts = rule.evaluate telemetry attempts') :
    evaluate registry telemetry attempts counters = evaluate registry telemetry attempts' counters := by
  have hadd : ∀ rule ∈ registry.get_enabled_rules, ∀ self : Evaluation,
      self.add telemetry attempts rule = self.add telemetry attempts' rule := by
    intro rule hrule self
    simp only [Evaluation.add, h rule hrule]
  exact List.foldl_ext _ _ _ fun self rule hrule => hadd rule hrule self

end Loop

end larp
