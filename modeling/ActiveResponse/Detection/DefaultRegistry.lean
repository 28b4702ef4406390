import ActiveResponse.Detection.CommandRules
import ActiveResponse.Detection.Debounce
import ActiveResponse.Detection.HostRules
import ActiveResponse.Detection.HttpBeaconing
import ActiveResponse.Detection.NetworkRules

namespace larp

/-! ## The registered rules -/

section Rules

variable (context : RuleContext)

def suspicious_process : RegisteredRule where
  rule_id := "suspicious_process"
  evaluate _ base_score _ telemetry _ := SuspiciousProcessRule.evaluate context base_score telemetry

def network_connection : RegisteredRule where
  rule_id := "network_connection"
  evaluate _ base_score config telemetry _ := NetworkConnectionRule.evaluate context base_score config telemetry

def file_changes : RegisteredRule where
  rule_id := "file_changes"
  evaluate _ base_score config telemetry _ := FileChangesRule.evaluate context base_score config telemetry

/-- Without active rules the lists of the telemetry are not read. -/
def process_chain : RegisteredRule where
  rule_id := "process_chain"
  evaluate _ base_score _ telemetry _ := do
    if context.active_chain_rules.isEmpty then return 0
    let process_tree ← (telemetry.get_default "process_tree" (.arr [])).items
    let process_list ← (telemetry.get_default "process_list" (.arr [])).items
    RiskProcessChainRule.evaluate context.text base_score context.active_chain_rules process_tree process_list

def injection : RegisteredRule where
  rule_id := "injection"
  evaluate _ base_score _ telemetry _ := InjectionRule.evaluate base_score telemetry

def living_off_land : RegisteredRule where
  rule_id := "living_off_land"
  base_score := 45
  evaluate _ _ _ telemetry _ := LivingOffLandRule.evaluate context telemetry

def registry_rule : RegisteredRule where
  rule_id := "registry"
  evaluate _ base_score config telemetry _ := RegistryRule.evaluate context base_score config telemetry

def credential_dumping : RegisteredRule where
  rule_id := "credential_dumping"
  base_score := 80
  evaluate _ _ _ telemetry _ := CredentialDumpingRule.evaluate context telemetry

def shadow_copy : RegisteredRule where
  rule_id := "shadow_copy"
  evaluate _ base_score _ telemetry _ := ShadowCopyRule.evaluate context base_score telemetry

def c2_communication : RegisteredRule where
  rule_id := "c2_communication"
  evaluate _ base_score config telemetry _ := C2CommunicationRule.evaluate context base_score config telemetry

def lateral_movement : RegisteredRule where
  rule_id := "lateral_movement"
  evaluate _ base_score _ telemetry _ := LateralMovementRule.evaluate context base_score telemetry

def mass_file_modification : RegisteredRule where
  rule_id := "mass_file_modification"
  evaluate _ base_score config telemetry _ := MassFileModificationRule.evaluate base_score config telemetry

/-- A window that is no number leaves the failed attempts on record out. -/
def brute_force : RegisteredRule where
  rule_id := "brute_force"
  base_score := 30
  evaluate _ base_score config telemetry attempts := do
    let threshold ← (config.get_default "threshold" (.num 5)).to_int
    let critical_threshold ← (config.get_default "critical_threshold" (.num 15)).to_int
    match (config.get_default "window_seconds" (.num 60)).to_int with
    | .ok window_seconds =>
      ({ threshold, critical_threshold, window_seconds, base_score : BruteForceRule }.rule
        context.text).evaluate telemetry attempts
    | .error _ =>
      ({ threshold, critical_threshold, base_score : BruteForceRule }.rule context.text).evaluate telemetry fun _ => none

def dns_tunneling : RegisteredRule where
  rule_id := "dns_tunneling"
  evaluate _ base_score config telemetry _ := DnsTunnelingRule.evaluate context base_score config telemetry

def http_beaconing : RegisteredRule where
  rule_id := "http_beaconing"
  base_score := 50
  evaluate weight base_score config telemetry _ := HttpBeaconingRule.evaluate context weight base_score config telemetry

def yara_match : RegisteredRule where
  rule_id := "yara_match"
  base_score := 90
  evaluate _ base_score _ telemetry _ := YaraMatchRule.evaluate base_score telemetry

def ml_behavioral_anomaly : RegisteredRule where
  rule_id := "ml_behavioral_anomaly"
  enabled := context.ml_enabled
  weight := 1 / 2
  base_score := 10
  evaluate _ base_score _ telemetry _ := .ok (MLAnomalyRule.evaluate context base_score telemetry)

def create_default_registry : Table RegisteredRule where
  rows := [ScoreStore.cpu_spike, suspicious_process context, network_connection context, file_changes context,
    process_chain context, injection, living_off_land context, registry_rule context, credential_dumping context,
    shadow_copy context, c2_communication context, lateral_movement context, mass_file_modification,
    brute_force context, dns_tunneling context, http_beaconing context, yara_match, ml_behavioral_anomaly context]
  nodup := by
    change ["cpu_spike", "suspicious_process", "network_connection", "file_changes", "process_chain", "injection",
      "living_off_land", "registry", "credential_dumping", "shadow_copy", "c2_communication", "lateral_movement",
      "mass_file_modification", "brute_force", "dns_tunneling", "http_beaconing", "yara_match",
      "ml_behavioral_anomaly"].Nodup
    decide

end Rules

/-- `update_rule_config` with a weight. -/
def set_weight (registry : Table RegisteredRule) (rule_id : String) (weight : ℚ) : Table RegisteredRule :=
  registry.modify rule_id fun rule => { rule with weight }

/-- `rule_scores.get(rule_id, 0)`. -/
def Evaluation.contribution (self : Evaluation) (rule_id : String) : ℚ := (self.rule_scores.lookup rule_id).getD 0

/-! ## The contribution of a rule -/

/-- What a rule contributes with its counter: its score, debounced if it stands for an anomaly, times its weight. -/
def RiskRule.contribution (self : RiskRule) (telemetry : Dict) (attempts : FailedAttempts) (hits : ℕ) : ℚ :=
  match self.evaluate telemetry attempts with
  | .error _ => 0
  | .ok rule_score =>
    if 0 < rule_score then
      (if self.rule_id ∈ ANOMALY_RULES then apply_debounce rule_score (hits + 1) else rule_score) * self.weight
    else 0

section Loop

variable {telemetry : Dict} {attempts : FailedAttempts} {self : Evaluation}

private theorem lookup_append_of_ne {scores : List (String × ℚ)} {rule_id other : String} (h : rule_id ≠ other) (q : ℚ) :
    (scores ++ [(other, q)]).lookup rule_id = scores.lookup rule_id := by
  have hother : (rule_id == other) = false := by simpa using h
  simp [List.lookup_append, List.lookup_cons, hother]

private theorem lookup_append_self {scores : List (String × ℚ)} {rule_id : String}
    (h : scores.lookup rule_id = none) (q : ℚ) : (scores ++ [(rule_id, q)]).lookup rule_id = some q := by
  simp [List.lookup_append, h]

/-- The round of a rule adds nothing under another id. -/
theorem Evaluation.lookup_add_of_ne {rule : RiskRule} {rule_id : String} (h : rule_id ≠ rule.rule_id) :
    (self.add telemetry attempts rule).rule_scores.lookup rule_id = self.rule_scores.lookup rule_id := by
  unfold add
  split
  · rfl
  · split
    · split <;> exact lookup_append_of_ne h _
    · rfl

theorem Evaluation.lookup_foldl_of_not_mem {rules : List RiskRule} {rule_id : String}
    (h : rule_id ∉ rules.map RiskRule.rule_id) :
    (rules.foldl (add telemetry attempts) self).rule_scores.lookup rule_id = self.rule_scores.lookup rule_id := by
  induction rules generalizing self with
  | nil => rfl
  | cons rule rules ih =>
    rw [List.map_cons, List.mem_cons, not_or] at h
    rw [List.foldl_cons, ih h.2, lookup_add_of_ne h.1]

/-- The round of a rule that has no entry yet. -/
theorem Evaluation.contribution_add {rule : RiskRule} (h : self.rule_scores.lookup rule.rule_id = none) :
    (self.add telemetry attempts rule).contribution rule.rule_id =
      rule.contribution telemetry attempts (self.counters rule.rule_id) := by
  cases hverdict : rule.evaluate telemetry attempts with
  | error exc => simp only [add, RiskRule.contribution, hverdict, contribution, h, Option.getD_none]
  | ok rule_score =>
    simp only [add, RiskRule.contribution, hverdict]
    split
    · split <;> simp only [contribution, lookup_append_self h, Option.getD_some]
    · simp only [contribution, h, Option.getD_none]

/-- No other rule has a part in what a rule contributes to an evaluation. -/
theorem contribution_evaluate {registry : RiskRuleRegistry} {rule : RiskRule} (hrule : rule ∈ registry.rows)
    (counters : HitCounter) :
    (evaluate registry telemetry attempts counters).contribution rule.rule_id =
      if rule.enabled then rule.contribution telemetry attempts (counters rule.rule_id) else 0 := by
  unfold evaluate
  split
  · rename_i henabled
    have hmem : rule ∈ registry.get_enabled_rules := List.mem_filter.mpr ⟨hrule, henabled⟩
    have hids := nodup_enabled_rules registry
    obtain ⟨before, after, hsplit⟩ := List.append_of_mem hmem
    rw [hsplit, List.map_append, List.map_cons, List.nodup_append] at hids
    obtain ⟨-, hafter, hbefore⟩ := hids
    have hbefore : rule.rule_id ∉ before.map RiskRule.rule_id := fun h => hbefore _ h _ List.mem_cons_self rfl
    rw [hsplit, List.foldl_append, List.foldl_cons, Evaluation.contribution,
      Evaluation.lookup_foldl_of_not_mem (List.nodup_cons.mp hafter).1, ← Evaluation.contribution,
      Evaluation.contribution_add (Evaluation.lookup_foldl_of_not_mem hbefore),
      Evaluation.counters_foldl_of_not_mem hbefore]
  · rename_i hdisabled
    have hnone : rule.rule_id ∉ registry.get_enabled_rules.map RiskRule.rule_id := by
      intro h
      obtain ⟨other, hother, hid⟩ := List.mem_map.mp h
      obtain ⟨hmem, henabled⟩ := List.mem_filter.mp hother
      rw [List.inj_on_of_nodup_map registry.nodup hmem hrule hid] at henabled
      exact hdisabled henabled
    rw [Evaluation.contribution, Evaluation.lookup_foldl_of_not_mem hnone]
    rfl

end Loop

/-! ## Registries with another weight -/

/-- The rules of a synchronised registry are those of the default one, with other settings. -/
theorem exists_default_rule {registry : Table RegisteredRule} {db_rules : List DetectionRule} {rule : RegisteredRule}
    (h : rule ∈ (sync_from_db_records registry db_rules).rows) :
    ∃ default_rule ∈ registry.rows, default_rule.rule_id = rule.rule_id ∧ default_rule.evaluate = rule.evaluate := by
  induction db_rules generalizing registry with
  | nil => exact ⟨rule, h, rfl, rfl⟩
  | cons record db_rules ih =>
    obtain ⟨synced, hsynced, hid, hevaluate⟩ := ih h
    obtain ⟨default_rule, hdefault, rfl⟩ := (Table.mem_modify (f := RegisteredRule.configure record) fun _ => rfl).mp hsynced
    refine ⟨default_rule, hdefault, ?_⟩
    split at hid <;> rename_i hkey
    · rw [if_pos hkey] at hevaluate
      exact ⟨hid, hevaluate⟩
    · rw [if_neg hkey] at hevaluate
      exact ⟨hid, hevaluate⟩

section Weight

variable {registry : Table RegisteredRule} {rule : RegisteredRule}

theorem mem_set_weight (h : rule ∈ registry.rows) (weight : ℚ) :
    { rule with weight } ∈ (set_weight registry rule.rule_id weight).rows :=
  (Table.mem_modify (f := fun rule => { rule with weight }) fun _ => rfl).mpr ⟨rule, h, (if_pos rfl).symm⟩

/-- What a rule of the registry contributes with another weight. -/
theorem contribution_set_weight (h : rule ∈ registry.rows) (weight : ℚ) (telemetry : Dict) (attempts : FailedAttempts)
    (counters : HitCounter) :
    (evaluate (registry_of (set_weight registry rule.rule_id weight)) telemetry attempts counters).contribution
        rule.rule_id =
      if rule.enabled then ({ rule with weight } : RegisteredRule).rule.contribution telemetry attempts
        (counters rule.rule_id) else 0 := by
  have hmem : ({ rule with weight } : RegisteredRule).rule ∈
      (registry_of (set_weight registry rule.rule_id weight)).rows := List.mem_map_of_mem (mem_set_weight h weight)
  exact contribution_evaluate hmem counters

/-- A contribution is as many times the weight as its weight is applied. -/
theorem contribution_with_weight (rule : RegisteredRule) (weight : ℚ) (telemetry : Dict) (attempts : FailedAttempts)
    (hits : ℕ) (h : rule.evaluate weight rule.base_score rule.config telemetry attempts =
      rule.evaluate 1 rule.base_score rule.config telemetry attempts) :
    ({ rule with weight } : RegisteredRule).rule.contribution telemetry attempts hits =
      weight * ({ rule with weight := 1 } : RegisteredRule).rule.contribution telemetry attempts hits := by
  simp only [RiskRule.contribution, RegisteredRule.rule, h]
  split
  · rw [mul_zero]
  · split
    · rw [mul_one, mul_comm]
      rfl
    · rw [mul_zero]

end Weight

/-- The law of the evaluation: with a weight a rule contributes so many times what it does with weight 1. -/
def ContributionLaw (registry : Table RegisteredRule) (rule_id : String) (telemetry : Dict) (attempts : FailedAttempts)
    (counters : HitCounter) (weight : ℚ) : Prop :=
  (evaluate (registry_of (set_weight registry rule_id weight)) telemetry attempts counters).contribution rule_id =
    weight * (evaluate (registry_of (set_weight registry rule_id 1)) telemetry attempts counters).contribution rule_id

/-- The law of the rule: its own verdict is the one that it has with weight 1. -/
def VerdictLaw (rule : RegisteredRule) (telemetry : Dict) (attempts : FailedAttempts) (weight : ℚ) : Prop :=
  rule.evaluate weight rule.base_score rule.config telemetry attempts =
    rule.evaluate 1 rule.base_score rule.config telemetry attempts

/-- The capped score is the same with the weight as with weight 1. -/
def Capped (score weight : ℚ) : Prop := weight = 1 ∨ score = 0 ∨ 100 ≤ score ∧ 100 ≤ score * weight

theorem min_mul_eq_iff (score weight : ℚ) : min 100 (score * weight) = min 100 (score * 1) ↔ Capped score weight := by
  rw [mul_one, Capped]
  rcases le_or_gt 100 score with hscore | hscore
  · rw [min_eq_left hscore, min_eq_left_iff]
    constructor
    · exact fun h => .inr (.inr ⟨hscore, h⟩)
    · rintro (rfl | rfl | ⟨-, h⟩)
      · rwa [mul_one]
      · linarith
      · exact h
  · rw [min_eq_right hscore.le]
    constructor
    · intro h
      rcases min_choice 100 (score * weight) with hmin | hmin
      · linarith
      · rw [hmin] at h
        rcases mul_right_eq_self₀.mp h with h | h
        · exact .inl h
        · exact .inr (.inl h)
    · rintro (rfl | rfl | ⟨h, -⟩)
      · rw [mul_one, min_eq_right hscore.le]
      · norm_num
      · linarith

/-- The host of the strongest candidate of the beaconing rule scores this much. -/
def beacon_scores (context : RuleContext) (rule : RegisteredRule) (telemetry : Dict) (score : ℚ) : Prop :=
  rule.rule_id = "http_beaconing" ∧ ∃ top,
    HttpBeaconingRule.top_candidate context rule.config telemetry = .ok (some top) ∧
      HttpBeaconingRule.host_score context rule.base_score top.dst_ip = score

section Law

variable {context : RuleContext} {db_rules : List DetectionRule} {rule : RegisteredRule}

/-- Every registered rule but the one on beaconing leaves its weight to the evaluation. -/
theorem default_rule_cases (context : RuleContext) : ∀ rule ∈ (create_default_registry context).rows,
    rule = http_beaconing context ∨ ∀ weight weight', rule.evaluate weight = rule.evaluate weight' := by
  simp only [create_default_registry, List.forall_mem_cons]
  refine ⟨?_, ?_, ?_, ?_, ?_, ?_, ?_, ?_, ?_, ?_, ?_, ?_, ?_, ?_, ?_, .inl trivial, ?_, ?_,
    fun _ hnone => absurd hnone List.not_mem_nil⟩
  all_goals exact .inr fun _ _ => rfl

theorem evaluate_of_ne (h : rule ∈ (sync_from_db_records (create_default_registry context) db_rules).rows)
    (hid : rule.rule_id ≠ "http_beaconing") (weight weight' : ℚ) : rule.evaluate weight = rule.evaluate weight' := by
  obtain ⟨default_rule, hdefault, hsame, hevaluate⟩ := exists_default_rule h
  rcases default_rule_cases context default_rule hdefault with rfl | hfree
  · exact absurd hsame.symm hid
  · rw [← hevaluate]
    exact hfree weight weight'

theorem evaluate_of_eq (h : rule ∈ (sync_from_db_records (create_default_registry context) db_rules).rows)
    (hid : rule.rule_id = "http_beaconing") (weight base_score : ℚ) (config telemetry : Dict)
    (attempts : FailedAttempts) : rule.evaluate weight base_score config telemetry attempts =
      HttpBeaconingRule.evaluate context weight base_score config telemetry := by
  obtain ⟨default_rule, hdefault, hsame, hevaluate⟩ := exists_default_rule h
  have hhttp : http_beaconing context ∈ (create_default_registry context).rows := by simp [create_default_registry]
  have hget := Table.get_of_mem hdefault
  rw [show Keyed.key default_rule = Keyed.key (http_beaconing context) from hsame.trans hid,
    Table.get_of_mem hhttp] at hget
  rw [← hevaluate, ← Option.some.inj hget]
  rfl

/-- A score above 0 that is weighed twice counts as if weighed once only if the cap hides it. -/
theorem weighed_twice_iff {score weight : ℚ} (h : 0 ≤ weight) :
    (if 0 < min 100 (score * weight) then min 100 (score * weight) * weight else 0) =
        weight * (if 0 < min 100 (score * 1) then min 100 (score * 1) * 1 else 0) ↔
      weight = 0 ∨ score ≤ 0 ∨ Capped score weight := by
  rcases h.eq_or_lt with rfl | hweight
  · simp
  · rcases le_or_gt score 0 with hscore | hscore
    · have hweighed : score * weight ≤ 0 := mul_nonpos_of_nonpos_of_nonneg hscore h
      simp [hscore, hscore.not_gt, hweighed.not_gt]
    · have hweighed : 0 < score * weight := mul_pos hscore hweight
      rw [if_pos (lt_min (by norm_num) hweighed), if_pos (lt_min (by norm_num) (by rwa [mul_one])), mul_one, mul_comm,
        mul_right_inj' hweight.ne', min_mul_eq_iff]
      simp [hweight.ne', hscore.not_ge]

theorem verdictLaw_iff (h : rule ∈ (sync_from_db_records (create_default_registry context) db_rules).rows)
    (telemetry : Dict) (attempts : FailedAttempts) (weight : ℚ) :
    VerdictLaw rule telemetry attempts weight ↔
      ∀ score, beacon_scores context rule telemetry score → Capped score weight := by
  by_cases hid : rule.rule_id = "http_beaconing"
  · rw [VerdictLaw, evaluate_of_eq h hid, evaluate_of_eq h hid]
    by_cases hfound : ∃ top, HttpBeaconingRule.top_candidate context rule.config telemetry = .ok (some top)
    · obtain ⟨top, htop⟩ := hfound
      rw [HttpBeaconingRule.evaluate_of_candidate htop, HttpBeaconingRule.evaluate_of_candidate htop, Except.ok.injEq,
        min_mul_eq_iff]
      simp [beacon_scores, hid, htop]
    · rw [not_exists] at hfound
      refine iff_of_true (HttpBeaconingRule.evaluate_of_no_candidate hfound _ _ _) ?_
      rintro score ⟨-, top, htop, -⟩
      exact absurd htop (hfound top)
  · refine iff_of_true ?_ fun score hscores => absurd hscores.1 hid
    rw [VerdictLaw, evaluate_of_ne h hid weight 1]

/-- For any settings, message and counters, the weight of a rule counts once exactly if the rule is not the one on
beaconing, finds no candidate or is disabled, or if the cap or a score or weight of 0 hides that it counts twice. -/
theorem weight_laws_iff (h : rule ∈ (sync_from_db_records (create_default_registry context) db_rules).rows)
    (telemetry : Dict) (attempts : FailedAttempts) (counters : HitCounter) {weight : ℚ} (hweight : 0 ≤ weight) :
    (ContributionLaw (sync_from_db_records (create_default_registry context) db_rules) rule.rule_id telemetry attempts
        counters weight ↔
      (rule.enabled → ∀ score, beacon_scores context rule telemetry score →
        weight = 0 ∨ score ≤ 0 ∨ Capped score weight)) ∧
    (VerdictLaw rule telemetry attempts weight ↔
      ∀ score, beacon_scores context rule telemetry score → Capped score weight) := by
  have hverdict := verdictLaw_iff h telemetry attempts weight
  refine ⟨?_, hverdict⟩
  rw [ContributionLaw, contribution_set_weight h, contribution_set_weight h]
  cases henabled : rule.enabled with
  | false => simp
  | true =>
    simp only [if_true, forall_const]
    by_cases hlaw : VerdictLaw rule telemetry attempts weight
    · exact iff_of_true (contribution_with_weight rule weight telemetry attempts _ hlaw)
        fun score hscores => .inr (.inr (hverdict.mp hlaw score hscores))
    · have hfound : ∃ score, beacon_scores context rule telemetry score := by
        by_contra hnone
        exact hlaw (hverdict.mpr fun score hscores => absurd ⟨score, hscores⟩ hnone)
      obtain ⟨score, hid, top, htop, rfl⟩ := hfound
      have hevaluate (weight : ℚ) : rule.evaluate weight rule.base_score rule.config telemetry attempts =
          .ok (min 100 (HttpBeaconingRule.host_score context rule.base_score top.dst_ip * weight)) := by
        rw [evaluate_of_eq h hid, HttpBeaconingRule.evaluate_of_candidate htop]
      have hanomaly : rule.rule_id ∉ ANOMALY_RULES := by
        rw [hid]
        decide
      simp only [RiskRule.contribution, RegisteredRule.rule, hevaluate, hanomaly, if_false]
      rw [weighed_twice_iff hweight]
      simp [beacon_scores, hid, htop]

end Law

/-- Services that find nothing, and library functions for the messages below. -/
def quiet_context : RuleContext where
  agent_id := "web-1"
  py_str
    | .num value => toString value.num
    | _ => ""
  lower := py_lower
  re_search _ _ := false
  fromisoformat text :=
    ((List.range 8).find? fun i => isoformat (seconds (60 * i)) = text).map fun i => (seconds (60 * i), true)
  sqrt _ := 0
  log2 _ := 0
  ignored_ips := ["127.0.0.1", "0.0.0.0", "localhost", "::1"]
  is_whitelisted _ _ := .ok false
  check_hash _ := .ok false
  check_ip _ := .ok false
  get_file_changes_thresholds := .ok [("file_changes_critical", .num 100), ("file_changes_elevated", .num 30)]
  active_chain_rules := []
  score_telemetry _ _ := .ok (false, 0)

theorem weight_laws_cpu_spike :
    ContributionLaw (create_default_registry quiet_context) "cpu_spike" [("cpu_usage", .num 90)] (fun _ => none)
      (fun _ => 0) 3 ∧
    VerdictLaw ScoreStore.cpu_spike [("cpu_usage", .num 90)] (fun _ => none) 3 := by
  have hcpu : ScoreStore.cpu_spike ∈ (sync_from_db_records (create_default_registry quiet_context) []).rows :=
    List.mem_cons_self
  have hiff := weight_laws_iff hcpu [("cpu_usage", .num 90)] (fun _ => none) (fun _ => 0) (by norm_num : (0 : ℚ) ≤ 3)
  exact ⟨hiff.1.mpr fun _ _ hscores => absurd hscores.1 (by decide),
    hiff.2.mpr fun _ hscores => absurd hscores.1 (by decide)⟩

/-- A connection to one web server every minute. -/
def minute_beacon : Dict :=
  [("connection_history", .arr ((List.range 8).map fun i => .obj [("dst_ip", .str "203.0.113.9"), ("dst_port", .num 443),
    ("timestamp", .str (isoformat (seconds (60 * i))))]))]

/-- With weight 2 the beacon contributes four times what it does with weight 1. -/
theorem not_weight_laws_beacon :
    ¬ ContributionLaw (create_default_registry quiet_context) "http_beaconing" minute_beacon (fun _ => none)
      (fun _ => 0) 2 ∧
    ¬ VerdictLaw (http_beaconing quiet_context) minute_beacon (fun _ => none) 2 := by
  unfold ContributionLaw VerdictLaw
  decide +kernel

end larp
