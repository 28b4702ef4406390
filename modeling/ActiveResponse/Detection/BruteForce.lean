import ActiveResponse.Detection.Evaluate
import Mathlib.Tactic.GCongr

namespace larp

namespace BruteForceRule

/-- More failures are reported: a further failed event anywhere in the list, or a larger `failed_login_attempts`. -/
inductive MoreFailures (py_str : Json → String) : Dict → Dict → Prop where
  | event (telemetry : Dict) (before after : List Json) (evt : Dict) (cnt : ℤ)
      (hevents : (telemetry.get "auth_events").getD (.arr []) = .arr (before ++ after))
      (hstatus : auth_status py_str evt = "failed")
      (hcount : ((evt.get "count").getD (.num 1)).to_int = .ok cnt) (hnonneg : 0 ≤ cnt) :
      MoreFailures py_str telemetry (telemetry.set "auth_events" (.arr (before ++ .obj evt :: after)))
  | attempts (telemetry : Dict) (value : Json) (n m : ℤ)
      (hn : ((telemetry.get "failed_login_attempts").getD (.num 0)).to_int = .ok n)
      (hm : value.to_int = .ok m) (hle : n ≤ m) :
      MoreFailures py_str telemetry (telemetry.set "failed_login_attempts" value)

/-- The law: no message scores lower for more failures, with the same failed attempts on record. With failures beyond
the floats it may not score at all. -/
def MonotoneLaw (self : BruteForceRule) (py_str : Json → String) (attempts : FailedAttempts) : Prop :=
  ∀ telemetry telemetry', MoreFailures py_str telemetry telemetry' →
    ∀ rule_score, (self.rule py_str).evaluate telemetry attempts = .ok rule_score →
      (self.rule py_str).evaluate telemetry' attempts = .error overflow ∨
        ∃ rule_score', (self.rule py_str).evaluate telemetry' attempts = .ok rule_score' ∧ rule_score ≤ rule_score'

/-- `factor * base_score / 30.0`. -/
def scaled (self : BruteForceRule) (factor : ℚ) : ℚ := binary64.round (binary64.round (factor * self.base_score) / 30)

/-- `base_score + n * 2.0`. -/
def raised (self : BruteForceRule) (n : ℤ) : ℚ :=
  binary64.round (self.base_score + binary64.round (binary64.round n * 2))

/-- The settings and the failed attempts on record with which the score is monotone. -/
structure Gradual (settings : BruteForceRule) (attempts : FailedAttempts) : Prop where
  /-- No failures do not score, so nothing may score below a threshold that is not positive. -/
  below_zero : 0 ≤ settings.threshold ∨
    settings.base_score = 0 ∧ (settings.threshold = -1 ∨ settings.critical_threshold ≤ settings.threshold + 1)
  /-- The ramp does not lead above the score of the critical threshold. -/
  slope : settings.critical_threshold ≤ max settings.threshold 1 ∨ 20 ≤ settings.base_score ∨
    settings.raised (settings.critical_threshold - 1 - settings.threshold) ≤ settings.scaled 75
  /-- What is on record scores no more than the threshold does, if it scores at all. -/
  recorded : ∀ db_fails ∈ attempts settings.window_seconds, db_fails ≤ max settings.threshold 0 ∨
    0 < settings.threshold ∧ settings.critical_threshold = settings.threshold ∨
    settings.base_score = 0 ∧ settings.critical_threshold ≤ db_fails ∨
    50 ≤ settings.base_score ∧ 0 < settings.threshold ∧ db_fails < settings.critical_threshold ∨
    db_fails < settings.critical_threshold ∧ beyond_floats (db_fails - settings.threshold)

/-! ## What more failures make of the report -/

/-- A report of at least as many failures. -/
structure Exceeds (more reported : ReportedLogins) : Prop where
  failed_count : reported.failed_count ≤ more.failed_count
  success : reported.has_success_after_fail → more.has_success_after_fail

section Report

variable {py_str : Json → String}

/-- What an event with this count does to the report. -/
def after_event (py_str : Json → String) (reported : ReportedLogins) (evt : Dict) (cnt : ℤ) : ReportedLogins :=
  if auth_status py_str evt = "failed" then { reported with failed_count := reported.failed_count + cnt }
  else if auth_status py_str evt = "success" ∧ 0 < reported.failed_count then
    { reported with has_success_after_fail := true }
  else reported

theorem count_cons (reported : ReportedLogins) (evt : Dict) (events : List Json) :
    reported.count py_str (.obj evt :: events) =
      (((evt.get "count").getD (.num 1)).to_int >>= fun cnt =>
        (after_event py_str reported evt cnt).count py_str events) := by
  rw [ReportedLogins.count]
  refine congrArg _ (funext fun cnt => ?_)
  rw [after_event]
  split_ifs <;> rfl

theorem count_append (reported : ReportedLogins) (before after : List Json) :
    reported.count py_str (before ++ after) =
      (reported.count py_str before >>= fun reported => reported.count py_str after) := by
  induction before generalizing reported with
  | nil => rfl
  | cons evt before ih =>
    cases evt with
    | obj evt =>
      rw [List.cons_append, count_cons, count_cons, bind_assoc]
      exact congrArg _ (funext fun cnt => ih _)
    | _ => rfl

theorem Exceeds.refl (reported : ReportedLogins) : Exceeds reported reported := ⟨le_rfl, id⟩

/-- The success of an event counts the more easily the more failures there were before it. -/
theorem Exceeds.after_event {reported more : ReportedLogins} (hmore : Exceeds more reported) (evt : Dict) (cnt : ℤ) :
    Exceeds (after_event py_str more evt cnt) (after_event py_str reported evt cnt) := by
  obtain ⟨hcount, hsuccess⟩ := hmore
  unfold BruteForceRule.after_event
  split_ifs with hfailed hmore hreported hreported
  · exact ⟨Int.add_le_add_right hcount cnt, hsuccess⟩
  · exact ⟨hcount, fun _ => rfl⟩
  · exact ⟨hcount, fun _ => rfl⟩
  · exact absurd ⟨hreported.1, lt_of_lt_of_le hreported.2 hcount⟩ hmore
  · exact ⟨hcount, hsuccess⟩

theorem Exceeds.count {reported more result : ReportedLogins} (hmore : Exceeds more reported) {events : List Json}
    (h : reported.count py_str events = .ok result) :
    ∃ result', more.count py_str events = .ok result' ∧ Exceeds result' result := by
  induction events generalizing reported more with
  | nil =>
    obtain rfl := Except.ok.inj h
    exact ⟨more, rfl, hmore⟩
  | cons evt events ih =>
    cases evt with
    | obj evt =>
      rw [count_cons] at h
      obtain ⟨cnt, hcnt, hrest⟩ := bind_eq_ok_iff.mp h
      obtain ⟨result', hresult', hexceeds⟩ := ih (hmore.after_event evt cnt) hrest
      refine ⟨result', ?_, hexceeds⟩
      rw [count_cons]
      exact bind_eq_ok_iff.mpr ⟨cnt, hcnt, hresult'⟩
    | _ => cases h

/-- A further failed event anywhere in the list. -/
theorem exceeds_of_event {reported result : ReportedLogins} {before after : List Json} {evt : Dict} {cnt : ℤ}
    (hstatus : auth_status py_str evt = "failed") (hcount : ((evt.get "count").getD (.num 1)).to_int = .ok cnt)
    (hnonneg : 0 ≤ cnt) (h : reported.count py_str (before ++ after) = .ok result) :
    ∃ result', reported.count py_str (before ++ .obj evt :: after) = .ok result' ∧ Exceeds result' result := by
  rw [count_append] at h
  obtain ⟨middle, hmiddle, hafter⟩ := bind_eq_ok_iff.mp h
  have hmore : Exceeds (BruteForceRule.after_event py_str middle evt cnt) middle := by
    rw [BruteForceRule.after_event, if_pos hstatus]
    exact ⟨le_add_of_nonneg_right hnonneg, id⟩
  obtain ⟨result', hresult', hexceeds⟩ := hmore.count hafter
  refine ⟨result', ?_, hexceeds⟩
  rw [count_append, hmiddle]
  exact (count_cons middle evt after).trans (bind_eq_ok_iff.mpr ⟨cnt, hcount, hresult'⟩)

/-- A message with more failures is reported as one. -/
theorem exceeds_of_telemetry {telemetry telemetry' : Dict} (h : MoreFailures py_str telemetry telemetry')
    {reported : ReportedLogins} (hreported : ReportedLogins.of_telemetry py_str telemetry = .ok reported) :
    ∃ more, ReportedLogins.of_telemetry py_str telemetry' = .ok more ∧ Exceeds more reported := by
  obtain ⟨n, hn, hrest⟩ := bind_eq_ok_iff.mp hreported
  cases h with
  | event before after evt cnt hevents hstatus hcount hnonneg =>
    rw [hevents] at hrest
    obtain ⟨more, hmore, hexceeds⟩ := exceeds_of_event hstatus hcount hnonneg hrest
    refine ⟨more, bind_eq_ok_iff.mpr ⟨n, ?_, ?_⟩, hexceeds⟩
    · simpa using hn
    · simpa using hmore
  | attempts value n' m hn' hm hle =>
    obtain rfl := Except.ok.inj (hn.symm.trans hn')
    have hmore (success : Bool) : Exceeds ⟨m, success⟩ ⟨n, success⟩ := ⟨hle, id⟩
    have hvalue : (((telemetry.set "failed_login_attempts" value).get "failed_login_attempts").getD
        (.num 0)).to_int = .ok m := by simpa using hm
    have hevents : (telemetry.set "failed_login_attempts" value).get "auth_events" = telemetry.get "auth_events" := by
      simp
    rw [ReportedLogins.of_telemetry, hvalue, hevents]
    simp only [Bind.bind, Except.bind]
    split at hrest
    · exact (hmore false).count hrest
    · obtain rfl := Except.ok.inj hrest
      exact ⟨_, rfl, hmore false⟩
    · obtain rfl := Except.ok.inj hrest
      exact ⟨_, rfl, hmore false⟩
    · cases hrest
    · cases hrest
    · cases hrest

end Report

/-! ## The pieces of the score -/

section Score

variable {self : BruteForceRule}

/-- The score between the thresholds. -/
def ramp (self : BruteForceRule) (failed_count : ℤ) : ℚ := min 50 (self.raised (failed_count - self.threshold))

/-- The score from the critical threshold on. -/
def heavy (self : BruteForceRule) : ℚ := min 100 (self.scaled 75)

/-- The score of a success after enough failures. -/
def breach (self : BruteForceRule) : ℚ := min 100 (self.scaled 85)

/-- The score, if the failures can be converted. -/
def verdict (self : BruteForceRule) (failed_count : ℤ) (has_success_after_fail : Bool) : ℚ :=
  if failed_count = 0 ∧ !has_success_after_fail then 0
  else if has_success_after_fail ∧ self.threshold ≤ failed_count then self.breach
  else if self.critical_threshold ≤ failed_count then self.heavy
  else if self.threshold ≤ failed_count then self.ramp failed_count
  else 0

/-- The failures cannot be converted on the ramp. -/
def Overflows (self : BruteForceRule) (failed_count : ℤ) : Prop :=
  failed_count ≠ 0 ∧ self.threshold ≤ failed_count ∧ failed_count < self.critical_threshold ∧
    beyond_floats (failed_count - self.threshold)

/-- Without a success the score is missing where the failures cannot be converted. -/
theorem score_cases (self : BruteForceRule) (failed_count : ℤ) (success : Bool) :
    self.score failed_count success = .ok (self.verdict failed_count success) ∨
      self.score failed_count success = .error overflow ∧ success = false ∧ self.Overflows failed_count := by
  unfold score verdict
  split
  · exact .inl rfl
  · rename_i hnone
    split
    · exact .inl rfl
    · rename_i hbreach
      split
      · exact .inl rfl
      · rename_i hcritical
        split
        · rename_i hthreshold
          cases hbeyond : beyond_floats (failed_count - self.threshold) with
          | false =>
            left
            rw [to_float, hbeyond]
            rfl
          | true =>
            right
            rw [to_float, hbeyond]
            have hsuccess : success = false := by simpa [hthreshold] using hbreach
            exact ⟨rfl, hsuccess, by simpa [hsuccess] using hnone, hthreshold, not_le.mp hcritical, hbeyond⟩
        · exact .inl rfl

theorem score_of_overflows {n : ℤ} (h : self.Overflows n) : self.score n false = .error overflow := by
  obtain ⟨hzero, hthreshold, hcritical, hbeyond⟩ := h
  simp only [score, hzero, hthreshold, not_le.mpr hcritical, to_float, hbeyond]
  rfl

theorem score_eq_of_fits {n : ℤ} (h : ¬ self.Overflows n) (success : Bool) :
    self.score n success = .ok (self.verdict n success) :=
  (self.score_cases n success).resolve_right fun hoverflow => h hoverflow.2.2

/-- Small numbers can be converted. -/
theorem not_overflows_of_le {n : ℤ} (hle : self.threshold ≤ n) (hsmall : n ≤ self.threshold + 25) :
    ¬ self.Overflows n := by
  rintro ⟨-, -, -, hbeyond⟩
  have hlarge : (25 : ℤ) < 2 ^ 1024 - 2 ^ 970 := by decide +kernel
  rw [beyond_floats, decide_eq_true_eq, abs_of_nonneg (by omega)] at hbeyond
  omega

theorem not_overflows_of_critical {n : ℤ} (h : self.critical_threshold ≤ n) : ¬ self.Overflows n :=
  fun hoverflow => absurd hoverflow.2.2.1 (not_lt.mpr h)

theorem not_overflows_zero : ¬ self.Overflows 0 := fun hoverflow => hoverflow.1 rfl

theorem failed_count_of_le {attempts : FailedAttempts} {reported : ReportedLogins}
    (h : self.threshold ≤ reported.failed_count) : self.failed_count attempts reported = reported.failed_count :=
  if_neg (not_lt.mpr h)

theorem failed_count_of_none {attempts : FailedAttempts} (reported : ReportedLogins)
    (hfails : attempts self.window_seconds = none) :
    self.failed_count attempts reported = reported.failed_count := by
  rw [failed_count, hfails, ite_self]

theorem failed_count_of_some {attempts : FailedAttempts} {reported : ReportedLogins} {db_fails : ℤ}
    (hfails : attempts self.window_seconds = some db_fails) (h : reported.failed_count < self.threshold) :
    self.failed_count attempts reported = max reported.failed_count db_fails := by
  rw [failed_count, hfails, if_pos h]

theorem verdict_zero : self.verdict 0 false = 0 := by
  simp [verdict]

theorem verdict_heavy {n : ℤ} (hzero : n ≠ 0) (hn : self.critical_threshold ≤ n) :
    self.verdict n false = self.heavy := by
  simp [verdict, hzero, hn]

theorem verdict_ramp {n : ℤ} (hzero : n ≠ 0) (hn : self.threshold ≤ n) (hlt : n < self.critical_threshold) :
    self.verdict n false = self.ramp n := by
  simp [verdict, hzero, hn, not_le.mpr hlt]

theorem verdict_breach {n : ℤ} (hn : self.threshold ≤ n) : self.verdict n true = self.breach := by
  simp [verdict, hn]

theorem verdict_below (h : self.threshold ≤ self.critical_threshold) {n : ℤ} (hn : n < self.threshold)
    (success : Bool) : self.verdict n success = 0 := by
  simp [verdict, not_le.mpr hn, not_le.mpr (lt_of_lt_of_le hn h)]

/-! Floats between which the scores are found -/

theorem represents_int {n : ℤ} (h : |n| ≤ 2 ^ 53) : binary64.Represents n :=
  FloatFormat.represents_intCast (by decide) h

theorem scaled_mono {factor factor' : ℚ} (hbase : 0 ≤ self.base_score) (hfactor : 0 ≤ factor) (h : factor ≤ factor') :
    self.scaled factor ≤ self.scaled factor' := by
  have hproduct : 0 ≤ factor * self.base_score := mul_nonneg hfactor hbase
  have hround : binary64.round (factor * self.base_score) ≤ binary64.round (factor' * self.base_score) :=
    FloatFormat.round_mono hproduct (mul_le_mul_of_nonneg_right h hbase)
  exact FloatFormat.round_mono (div_nonneg (FloatFormat.round_nonneg hproduct) (by norm_num))
    (div_le_div_of_nonneg_right hround (by norm_num))

theorem scaled_nonneg {factor : ℚ} (hbase : 0 ≤ self.base_score) (hfactor : 0 ≤ factor) : 0 ≤ self.scaled factor :=
  FloatFormat.round_nonneg (div_nonneg (FloatFormat.round_nonneg (mul_nonneg hfactor hbase)) (by norm_num))

/-- 64 times and twice a float are floats, so the score from the critical threshold on is no less than twice the base
score. -/
theorem two_mul_le_scaled (hfloat : binary64.Represents self.base_score) (hbase : 0 ≤ self.base_score) :
    2 * self.base_score ≤ self.scaled 75 := by
  have hproduct : 64 * self.base_score ≤ binary64.round (75 * self.base_score) := by
    have hrepresents : binary64.Represents (64 * self.base_score) := by
      have hpow := hfloat.two_pow_mul 6
      norm_num at hpow
      exact hpow
    exact hrepresents.le_round (by linarith) (by linarith)
  have hrepresents : binary64.Represents (2 * self.base_score) := by simpa using hfloat.two_pow_mul 1
  exact hrepresents.le_round (by linarith) (by linarith)

theorem fifty_le_scaled (h : 20 ≤ self.base_score) : 50 ≤ self.scaled 75 := by
  have hproduct : 1500 ≤ binary64.round (75 * self.base_score) := by
    have hrepresents : binary64.Represents 1500 := represents_int (n := 1500) (by norm_num)
    exact hrepresents.le_round (by norm_num) (by linarith)
  have hrepresents : binary64.Represents 50 := represents_int (n := 50) (by norm_num)
  exact hrepresents.le_round (by norm_num) (by linarith)

/-- Of the base scores below 20 the greatest does not score 50. -/
theorem scaled_lt_fifty (hfloat : binary64.Represents self.base_score) (hbase : 0 ≤ self.base_score)
    (h : self.base_score < 20) : self.scaled 75 < 50 := by
  have hpred : self.base_score ≤ 20 - 1 / 2 ^ 48 := by
    have hle := hfloat.le_pred (n := 5 * 2 ^ 50) (e := -48) (by decide) (by norm_num; exact h)
    norm_num at hle ⊢
    exact hle
  have hproduct : binary64.round (75 * self.base_score) ≤ binary64.round (75 * (20 - 1 / 2 ^ 48)) :=
    FloatFormat.round_mono (by linarith) (by linarith)
  have hscaled : self.scaled 75 ≤ binary64.round (binary64.round (75 * (20 - 1 / 2 ^ 48)) / 30) :=
    FloatFormat.round_mono (div_nonneg (FloatFormat.round_nonneg (by linarith)) (by norm_num)) (by linarith)
  exact hscaled.trans_lt (by decide +kernel)

theorem raised_mono (hbase : 0 ≤ self.base_score) {m n : ℤ} (hm : 0 ≤ m) (h : m ≤ n) :
    self.raised m ≤ self.raised n := by
  have hcast : (0 : ℚ) ≤ m := Int.cast_nonneg hm
  have hconverted : binary64.round m ≤ binary64.round n := FloatFormat.round_mono hcast (Int.cast_le.mpr h)
  have hnonneg : 0 ≤ binary64.round m := FloatFormat.round_nonneg hcast
  have hdoubled : binary64.round (binary64.round m * 2) ≤ binary64.round (binary64.round n * 2) :=
    FloatFormat.round_mono (by linarith) (by linarith)
  have hsum : 0 ≤ binary64.round (binary64.round m * 2) := FloatFormat.round_nonneg (by linarith)
  exact FloatFormat.round_mono (by linarith) (by linarith)

theorem raised_nonneg (hbase : 0 ≤ self.base_score) {n : ℤ} (hn : 0 ≤ n) : 0 ≤ self.raised n := by
  have hconverted : 0 ≤ binary64.round n := FloatFormat.round_nonneg (Int.cast_nonneg hn)
  have hdoubled : 0 ≤ binary64.round (binary64.round n * 2) := FloatFormat.round_nonneg (by linarith)
  exact FloatFormat.round_nonneg (by linarith)

/-- Small numbers of failures are converted as they are. -/
theorem raised_of_small {n : ℤ} (h : |n| ≤ 25) : self.raised n = binary64.round (self.base_score + n * 2) := by
  have hconverted : binary64.round n = n := (represents_int (h.trans (by norm_num))).round_eq
  have hdoubled : binary64.Represents (n * 2) := by
    have hrepresents : binary64.Represents ((n * 2 : ℤ) : ℚ) := represents_int (by rw [abs_mul]; norm_num; omega)
    exact_mod_cast hrepresents
  rw [raised, hconverted, hdoubled.round_eq]

/-- A failure more scores more, since there is an integer in between. -/
theorem base_score_lt_raised (hbase : 0 ≤ self.base_score) (hfifty : self.base_score < 50) {n : ℤ} (hn : 0 < n) :
    self.base_score < self.raised n := by
  have hnext := Int.lt_floor_add_one self.base_score
  have hfloor : 0 ≤ ⌊self.base_score⌋ ∧ ⌊self.base_score⌋ < 50 := by
    constructor
    · exact Int.floor_nonneg.mpr hbase
    · exact Int.floor_lt.mpr (by exact_mod_cast hfifty)
  have hinteger : binary64.Represents ((⌊self.base_score⌋ + 1 : ℤ) : ℚ) :=
    represents_int (by rw [abs_of_nonneg (by omega)]; norm_num; omega)
  have hle := Int.floor_le self.base_score
  calc self.base_score < ((⌊self.base_score⌋ + 1 : ℤ) : ℚ) := by push_cast; exact hnext
    _ ≤ binary64.round (self.base_score + (1 : ℤ) * 2) := by
        refine hinteger.le_round (Int.cast_nonneg (by omega)) ?_
        push_cast
        linarith
    _ = self.raised 1 := (raised_of_small (by norm_num)).symm
    _ ≤ self.raised n := raised_mono hbase one_pos.le hn

/-! The order of the pieces -/

theorem heavy_le_breach (hbase : 0 ≤ self.base_score) : self.heavy ≤ self.breach :=
  min_le_min_left _ (scaled_mono hbase (by norm_num) (by norm_num))

theorem heavy_nonneg (hbase : 0 ≤ self.base_score) : 0 ≤ self.heavy :=
  le_min (by norm_num) (scaled_nonneg hbase (by norm_num))

theorem ramp_nonneg (hbase : 0 ≤ self.base_score) {n : ℤ} (hn : self.threshold ≤ n) : 0 ≤ self.ramp n :=
  le_min (by norm_num) (raised_nonneg hbase (by omega))

theorem ramp_mono (hbase : 0 ≤ self.base_score) {m n : ℤ} (hm : self.threshold ≤ m) (h : m ≤ n) :
    self.ramp m ≤ self.ramp n :=
  min_le_min_left _ (raised_mono hbase (by omega) (by omega))

theorem ramp_threshold (hfloat : binary64.Represents self.base_score) :
    self.ramp self.threshold = min 50 self.base_score := by
  rw [ramp, sub_self, raised_of_small (by norm_num), Int.cast_zero, zero_mul, add_zero, hfloat.round_eq]

/-- Above the threshold the ramp is above the base score, up to 50. -/
theorem fifty_le_of_ramp_le (hbase : 0 ≤ self.base_score) {n : ℤ} (hn : self.threshold < n)
    (h : self.ramp n ≤ self.base_score) : 50 ≤ self.base_score := by
  by_contra hfifty
  have hlt := base_score_lt_raised hbase (not_le.mp hfifty) (show 0 < n - self.threshold by omega)
  rcases min_le_iff.mp h with hle | hle <;> linarith

theorem ramp_pos (hbase : 0 ≤ self.base_score) {n : ℤ} (hn : self.threshold < n) : 0 < self.ramp n := by
  have hone : binary64.Represents 1 := represents_int (n := 1) (by norm_num)
  have hraised : 1 ≤ self.raised 1 := by
    rw [raised_of_small (by norm_num)]
    exact hone.le_round one_pos.le (by push_cast; linarith)
  have hmono := raised_mono hbase one_pos.le (show 1 ≤ n - self.threshold by omega)
  exact lt_min (by norm_num) (by linarith)

theorem verdict_nonneg (hbase : 0 ≤ self.base_score) (h : self.threshold ≤ self.critical_threshold) (n : ℤ) :
    0 ≤ self.verdict n false := by
  by_cases hzero : n = 0
  · rw [hzero, verdict_zero]
  · rcases lt_or_ge n self.threshold with hn | hn
    · rw [verdict_below h hn]
    · rcases lt_or_ge n self.critical_threshold with hlt | hle
      · rw [verdict_ramp hzero hn hlt]
        exact ramp_nonneg hbase hn
      · rw [verdict_heavy hzero hle]
        exact heavy_nonneg hbase

end Score

/-! ## Gradual settings are those whose score is monotone -/

section Gradual

variable {self : BruteForceRule} {attempts : FailedAttempts}

/-- Below zero the settings leave only scores of 0. -/
theorem Gradual.verdict_neg (hself : self.Gradual attempts) {n : ℤ} (hn : self.threshold ≤ n) (hneg : n < 0) :
    self.verdict n false = 0 := by
  obtain ⟨hzero, hthreshold⟩ := hself.below_zero.resolve_left (by omega)
  rcases lt_or_ge n self.critical_threshold with hlt | hle
  · obtain rfl : self.threshold = n := by omega
    simp [verdict_ramp hneg.ne le_rfl hlt, ramp, raised, hzero]
  · simp [verdict_heavy hneg.ne hle, heavy, scaled, hzero]

theorem Gradual.ramp_le_heavy (hself : self.Gradual attempts) (hbase : 0 ≤ self.base_score) {n : ℤ} (hpos : 0 < n)
    (hn : self.threshold ≤ n) (hlt : n < self.critical_threshold) : self.ramp n ≤ self.heavy := by
  rcases hself.slope with hcritical | htwenty | hslope
  · omega
  · exact (min_le_left _ _).trans (le_min (by norm_num) (fifty_le_scaled htwenty))
  · refine le_min ((min_le_left _ _).trans (by norm_num)) ((min_le_right _ _).trans ?_)
    exact (raised_mono hbase (by omega) (by omega)).trans hslope

theorem Gradual.verdict_le_heavy (hself : self.Gradual attempts) (hbase : 0 ≤ self.base_score)
    (h : self.threshold ≤ self.critical_threshold) (n : ℤ) : self.verdict n false ≤ self.heavy := by
  have hheavy := heavy_nonneg hbase
  rcases lt_or_ge n self.threshold with hn | hn
  · rwa [verdict_below h hn]
  · rcases lt_trichotomy n 0 with hneg | rfl | hpos
    · rwa [hself.verdict_neg hn hneg]
    · rwa [verdict_zero]
    · rcases lt_or_ge n self.critical_threshold with hlt | hle
      · rw [verdict_ramp hpos.ne' hn hlt]
        exact hself.ramp_le_heavy hbase hpos hn hlt
      · rw [verdict_heavy hpos.ne' hle]

/-- From the threshold on the score grows with the failures. -/
theorem Gradual.verdict_mono (hself : self.Gradual attempts) (hbase : 0 ≤ self.base_score)
    (h : self.threshold ≤ self.critical_threshold) {m n : ℤ} (hm : self.threshold ≤ m) (hle : m ≤ n) :
    self.verdict m false ≤ self.verdict n false := by
  rcases lt_trichotomy m 0 with hneg | rfl | hpos
  · rw [hself.verdict_neg hm hneg]
    exact verdict_nonneg hbase h n
  · rw [verdict_zero]
    exact verdict_nonneg hbase h n
  · rcases lt_or_ge n self.critical_threshold with hlt | hcritical
    · rw [verdict_ramp hpos.ne' hm (by omega), verdict_ramp (by omega) (by omega) hlt]
      exact ramp_mono hbase hm hle
    · rw [verdict_heavy (by omega) hcritical]
      exact hself.verdict_le_heavy hbase h m

/-- What is on record scores no more than the threshold. -/
theorem Gradual.verdict_recorded_le (hself : self.Gradual attempts) (hbase : 0 ≤ self.base_score)
    (h : self.threshold ≤ self.critical_threshold) {db_fails : ℤ} (hfails : db_fails ∈ attempts self.window_seconds)
    (hle : self.threshold ≤ db_fails) (hfits : ¬ self.Overflows db_fails) :
    self.verdict db_fails false ≤ self.verdict self.threshold false := by
  have hnonneg := verdict_nonneg hbase h self.threshold
  rcases hself.recorded db_fails hfails with hmax | ⟨hpos, heq⟩ | ⟨hzero, hcritical⟩ | ⟨hfifty, hpos, hlt⟩ | hbeyond
  · rcases lt_trichotomy db_fails 0 with hneg | rfl | hpos
    · rwa [hself.verdict_neg hle hneg]
    · rwa [verdict_zero]
    · obtain rfl : db_fails = self.threshold := by omega
      exact le_rfl
  · rw [verdict_heavy (by omega) (by omega), verdict_heavy hpos.ne' heq.le]
  · have hheavy : self.heavy = 0 := by simp [heavy, scaled, hzero]
    exact ((hself.verdict_le_heavy hbase h db_fails).trans hheavy.le).trans hnonneg
  · have hrepresents : binary64.Represents 50 := represents_int (n := 50) (by norm_num)
    rw [verdict_ramp (by omega) hle hlt, verdict_ramp hpos.ne' le_rfl (by omega)]
    refine (min_le_left _ _).trans (le_min le_rfl ?_)
    rw [sub_self, raised_of_small (by norm_num)]
    exact hrepresents.le_round (by norm_num) (by push_cast; linarith)
  · rcases eq_or_ne db_fails 0 with rfl | hzero
    · rwa [verdict_zero]
    · exact absurd ⟨hzero, hle, hbeyond⟩ hfits

/-- With more failures reported there are also more that count, unless they score nothing. -/
theorem Gradual.failed_count_le (hself : self.Gradual attempts) (hbase : 0 ≤ self.base_score)
    (h : self.threshold ≤ self.critical_threshold) {reported more : ReportedLogins}
    (hle : reported.failed_count ≤ more.failed_count) :
    self.failed_count attempts reported < self.threshold ∨
      self.threshold ≤ self.failed_count attempts reported ∧ self.threshold ≤ self.failed_count attempts more ∧
        (¬ self.Overflows (self.failed_count attempts reported) →
          self.verdict (self.failed_count attempts reported) false ≤
            self.verdict (self.failed_count attempts more) false) := by
  rcases lt_or_ge reported.failed_count self.threshold with hlow | hhigh
  · cases hfails : attempts self.window_seconds with
    | none =>
      left
      rwa [failed_count_of_none reported hfails]
    | some db_fails =>
      rw [failed_count_of_some hfails hlow]
      rcases lt_or_ge db_fails self.threshold with hfew | hmany
      · exact Or.inl (max_lt hlow hfew)
      · right
        rw [max_eq_right (by omega)]
        rcases lt_or_ge more.failed_count self.threshold with hlow' | hhigh'
        · rw [failed_count_of_some hfails hlow', max_eq_right (by omega)]
          exact ⟨hmany, hmany, fun _ => le_rfl⟩
        · rw [failed_count_of_le hhigh']
          exact ⟨hmany, hhigh', fun hfits => (hself.verdict_recorded_le hbase h hfails hmany hfits).trans
            (hself.verdict_mono hbase h le_rfl hhigh')⟩
  · right
    rw [failed_count_of_le hhigh, failed_count_of_le (hhigh.trans hle)]
    exact ⟨hhigh, hhigh.trans hle, fun _ => hself.verdict_mono hbase h hhigh hle⟩

theorem Gradual.verdict_le_of_exceeds (hself : self.Gradual attempts) (hbase : 0 ≤ self.base_score)
    (h : self.threshold ≤ self.critical_threshold) {reported more : ReportedLogins} (hmore : Exceeds more reported)
    (hfits : reported.has_success_after_fail = false → ¬ self.Overflows (self.failed_count attempts reported)) :
    self.verdict (self.failed_count attempts reported) reported.has_success_after_fail ≤
      self.verdict (self.failed_count attempts more) more.has_success_after_fail := by
  have hbreach : self.heavy ≤ self.breach := heavy_le_breach hbase
  have hheavy : 0 ≤ self.heavy := heavy_nonneg hbase
  rcases hself.failed_count_le hbase h hmore.failed_count with hlow | ⟨hhigh, hhigh', hverdict⟩
  · rw [verdict_below h hlow]
    cases more.has_success_after_fail with
    | false => exact verdict_nonneg hbase h _
    | true =>
      rcases lt_or_ge (self.failed_count attempts more) self.threshold with hlow' | hhigh'
      · rw [verdict_below h hlow']
      · rw [verdict_breach hhigh']
        exact hheavy.trans hbreach
  · cases hsuccess : more.has_success_after_fail with
    | false =>
      have hnone : reported.has_success_after_fail = false := by
        by_contra hsome
        rw [hmore.success (by simpa using hsome)] at hsuccess
        cases hsuccess
      rw [hnone]
      exact hverdict (hfits hnone)
    | true =>
      rw [verdict_breach hhigh']
      cases reported.has_success_after_fail with
      | false => exact (hself.verdict_le_heavy hbase h _).trans hbreach
      | true => rw [verdict_breach hhigh]

/-- A message with nothing but this number of failed attempts. -/
private def attempted (n : ℤ) : Dict := [("failed_login_attempts", .num n)]

theorem evaluate_attempted (py_str : Json → String) (n : ℤ) :
    (self.rule py_str).evaluate (attempted n) attempts = self.score (self.failed_count attempts ⟨n, false⟩) false := by
  have hreported : ReportedLogins.of_telemetry py_str (attempted n) = .ok ⟨n, false⟩ := by
    simp [ReportedLogins.of_telemetry, attempted, Dict.get, List.lookup_cons, ReportedLogins.count, Bind.bind,
      Except.bind]
  simp only [rule, hreported]
  rfl

/-- The law on messages that report nothing but a number of failed attempts. -/
theorem verdict_le_of_law {py_str : Json → String} (hlaw : self.MonotoneLaw py_str attempts) {m n : ℤ} (hle : m ≤ n)
    (hm : ¬ self.Overflows (self.failed_count attempts ⟨m, false⟩))
    (hn : ¬ self.Overflows (self.failed_count attempts ⟨n, false⟩)) :
    self.verdict (self.failed_count attempts ⟨m, false⟩) false ≤
      self.verdict (self.failed_count attempts ⟨n, false⟩) false := by
  have hmore : MoreFailures py_str (attempted m) (attempted n) :=
    MoreFailures.attempts (attempted m) (.num n) m n (Json.to_int_intCast m) (Json.to_int_intCast n) hle
  have hlaw := hlaw _ _ hmore _ ((evaluate_attempted py_str m).trans (score_eq_of_fits hm false))
  rw [evaluate_attempted, score_eq_of_fits hn] at hlaw
  obtain hoverflow | ⟨rule_score, heq, hscore⟩ := hlaw
  · cases hoverflow
  · rwa [Except.ok.inj heq]

/-- The score grows from the threshold on, wherever there is one. -/
def GrowsAbove (self : BruteForceRule) : Prop :=
  ∀ m n : ℤ, self.threshold ≤ m → m ≤ n → ¬ self.Overflows m → ¬ self.Overflows n →
    self.verdict m false ≤ self.verdict n false

theorem base_score_eq_zero_of_heavy_le (hfloat : binary64.Represents self.base_score) (hbase : 0 ≤ self.base_score)
    (hle : self.heavy ≤ 0) : self.base_score = 0 := by
  have hscaled := two_mul_le_scaled hfloat hbase
  rcases min_le_iff.mp hle with hhundred | hnone
  · norm_num at hhundred
  · exact le_antisymm (by linarith) hbase

/-- Settings with a threshold below zero are monotone only if they score nothing up to zero. -/
theorem below_zero_of_grows (hfloat : binary64.Represents self.base_score) (hbase : 0 ≤ self.base_score)
    (h : self.threshold ≤ self.critical_threshold) (hgrows : self.GrowsAbove) :
    0 ≤ self.threshold ∨
      self.base_score = 0 ∧ (self.threshold = -1 ∨ self.critical_threshold ≤ self.threshold + 1) := by
  rcases lt_or_ge self.threshold 0 with hneg | hnonneg
  · right
    have hzero (m : ℤ) (hm : self.threshold ≤ m) (hsmall : m ≤ self.threshold + 25) (hneg : m < 0) :
        self.verdict m false ≤ 0 := by
      have hle := hgrows m 0 hm hneg.le (not_overflows_of_le hm hsmall) not_overflows_zero
      rwa [verdict_zero] at hle
    have hnone : self.base_score ≤ 0 := by
      have hscore := hzero self.threshold le_rfl (by omega) hneg
      rcases h.lt_or_eq with hlt | heq
      · rw [verdict_ramp hneg.ne le_rfl hlt, ramp_threshold hfloat] at hscore
        rcases min_le_iff.mp hscore with hfifty | hbase
        · norm_num at hfifty
        · exact hbase
      · rw [verdict_heavy hneg.ne heq.ge] at hscore
        exact (base_score_eq_zero_of_heavy_le hfloat hbase hscore).le
    refine ⟨le_antisymm hnone hbase, ?_⟩
    by_contra hnot
    obtain ⟨hthreshold, hcritical⟩ := not_or.mp hnot
    have hscore := hzero (self.threshold + 1) (by omega) (by omega) (by omega)
    rw [verdict_ramp (by omega) (by omega) (by omega)] at hscore
    exact absurd (ramp_pos hbase (lt_add_one self.threshold)) (not_lt.mpr hscore)
  · exact Or.inl hnonneg

/-- The last failures before the critical threshold, or as many as the ramp needs to reach 50, do not score more than
those from the critical threshold on. -/
theorem slope_of_grows (hfloat : binary64.Represents self.base_score) (hbase : 0 ≤ self.base_score)
    (h : self.threshold ≤ self.critical_threshold) (hgrows : self.GrowsAbove) :
    self.critical_threshold ≤ max self.threshold 1 ∨ 20 ≤ self.base_score ∨
      self.raised (self.critical_threshold - 1 - self.threshold) ≤ self.scaled 75 := by
  rcases le_or_gt self.critical_threshold (max self.threshold 1) with hle | hgt
  · exact Or.inl hle
  · right
    obtain ⟨hthreshold, hone⟩ := max_lt_iff.mp hgt
    have hlow : -1 ≤ self.threshold := by
      rcases below_zero_of_grows hfloat hbase h hgrows with hnonneg | ⟨-, hneg | hcritical⟩ <;> omega
    rcases lt_or_ge self.base_score 20 with htwenty | htwenty
    · right
      have hfifty := scaled_lt_fifty hfloat hbase htwenty
      -- the scores of the ramp are below 50, so they are not capped
      have huncapped (n : ℤ) (hn : self.threshold ≤ n) (hpos : 0 < n) (hlt : n < self.critical_threshold)
          (hsmall : n ≤ self.threshold + 25) : self.raised (n - self.threshold) ≤ self.scaled 75 := by
        have hscore := hgrows n self.critical_threshold hn hlt.le (not_overflows_of_le hn hsmall)
          (not_overflows_of_critical le_rfl)
        rw [verdict_ramp hpos.ne' hn hlt, verdict_heavy (by omega) le_rfl] at hscore
        rcases min_le_iff.mp (hscore.trans (min_le_right _ _)) with hcapped | hraised
        · linarith
        · exact hraised
      rcases le_or_gt (self.critical_threshold - 1) (self.threshold + 25) with hsmall | hlarge
      · exact huncapped _ (by omega) (by omega) (by omega) hsmall
      · have hraised := huncapped (self.threshold + 25) (by omega) (by omega) (by omega) le_rfl
        have hrepresents : binary64.Represents 50 := represents_int (n := 50) (by norm_num)
        rw [add_sub_cancel_left, raised_of_small (by norm_num)] at hraised
        have hreached : 50 ≤ binary64.round (self.base_score + (25 : ℤ) * 2) :=
          hrepresents.le_round (by norm_num) (by push_cast; linarith)
        linarith
    · exact Or.inl htwenty

theorem recorded_of_grows (hfloat : binary64.Represents self.base_score) (hbase : 0 ≤ self.base_score)
    (h : self.threshold ≤ self.critical_threshold) {db_fails : ℤ} (hgrows : self.GrowsAbove)
    (hrecorded : self.threshold ≤ db_fails → ¬ self.Overflows db_fails →
      self.verdict db_fails false ≤ self.verdict self.threshold false) :
    db_fails ≤ max self.threshold 0 ∨ 0 < self.threshold ∧ self.critical_threshold = self.threshold ∨
      self.base_score = 0 ∧ self.critical_threshold ≤ db_fails ∨
      50 ≤ self.base_score ∧ 0 < self.threshold ∧ db_fails < self.critical_threshold ∨
      db_fails < self.critical_threshold ∧ beyond_floats (db_fails - self.threshold) := by
  rcases le_or_gt db_fails (max self.threshold 0) with hmax | hmax
  · exact Or.inl hmax
  · right
    obtain ⟨hmany, hpos⟩ := max_lt_iff.mp hmax
    by_cases hfits : self.Overflows db_fails
    · exact Or.inr (Or.inr (Or.inr hfits.2.2))
    · have hscore := hrecorded hmany.le hfits
      have hscaled := two_mul_le_scaled hfloat hbase
      rcases lt_or_ge 0 self.threshold with hthreshold | hthreshold
      · rcases h.lt_or_eq with hlt | heq
        · rw [verdict_ramp hthreshold.ne' le_rfl hlt, ramp_threshold hfloat] at hscore
          obtain ⟨hfifty, hbelow⟩ := le_min_iff.mp hscore
          rcases lt_or_ge db_fails self.critical_threshold with hramp | hcritical
          · rw [verdict_ramp hpos.ne' hmany.le hramp] at hbelow
            exact Or.inr (Or.inr (Or.inl ⟨fifty_le_of_ramp_le hbase hmany hbelow, hthreshold, hramp⟩))
          · refine Or.inr (Or.inl ⟨?_, hcritical⟩)
            rw [verdict_heavy hpos.ne' hcritical] at hfifty hbelow
            rcases min_le_iff.mp hfifty with hhundred | hscaled'
            · norm_num at hhundred
            · rcases min_le_iff.mp hbelow with hhundred | hscaled'' <;> linarith
        · exact Or.inl ⟨hthreshold, heq.symm⟩
      · have hnone : self.verdict db_fails false ≤ 0 := by
          have hzero := hgrows self.threshold 0 le_rfl hthreshold (not_overflows_of_le le_rfl (by omega))
            not_overflows_zero
          rw [verdict_zero] at hzero
          exact hscore.trans hzero
        rcases lt_or_ge db_fails self.critical_threshold with hramp | hcritical
        · rw [verdict_ramp hpos.ne' hmany.le hramp] at hnone
          exact absurd (ramp_pos hbase hmany) (not_lt.mpr hnone)
        · rw [verdict_heavy hpos.ne' hcritical] at hnone
          exact Or.inr (Or.inl ⟨base_score_eq_zero_of_heavy_le hfloat hbase hnone, hcritical⟩)

/-- The score of a rule is monotone exactly with gradual settings and failed attempts on record. -/
theorem monotoneLaw_iff (self : BruteForceRule) (py_str : Json → String) (attempts : FailedAttempts)
    (hfloat : binary64.Represents self.base_score) (hbase : 0 ≤ self.base_score)
    (h : self.threshold ≤ self.critical_threshold) :
    self.MonotoneLaw py_str attempts ↔ self.Gradual attempts := by
  constructor
  · intro hlaw
    have hgrows : self.GrowsAbove := by
      intro m n hm hle hm_fits hn_fits
      have hmany (k : ℤ) (hk : self.threshold ≤ k) : self.failed_count attempts ⟨k, false⟩ = k := failed_count_of_le hk
      have hscore := verdict_le_of_law hlaw hle
      rw [hmany m hm, hmany n (hm.trans hle)] at hscore
      exact hscore hm_fits hn_fits
    refine ⟨below_zero_of_grows hfloat hbase h hgrows, slope_of_grows hfloat hbase h hgrows, fun db_fails hfails => ?_⟩
    refine recorded_of_grows hfloat hbase h hgrows fun hmany hfits => ?_
    have hscore := verdict_le_of_law hlaw (sub_one_lt self.threshold).le
    have hmax : max (self.threshold - 1) db_fails = db_fails := max_eq_right (by omega)
    rw [failed_count_of_some hfails (sub_one_lt self.threshold), failed_count_of_le le_rfl, hmax] at hscore
    exact hscore hfits (not_overflows_of_le le_rfl (le_add_of_nonneg_right (by norm_num)))
  · intro hself telemetry telemetry' hmore rule_score hscore
    obtain ⟨reported, hreported, hscore⟩ := bind_eq_ok_iff.mp hscore
    obtain ⟨more, hmore, hexceeds⟩ := exceeds_of_telemetry hmore hreported
    have hrule : (self.rule py_str).evaluate telemetry' attempts =
        self.score (self.failed_count attempts more) more.has_success_after_fail := by
      simp only [rule, hmore]
      rfl
    rw [hrule]
    obtain hmore_score | ⟨hoverflow, -⟩ := self.score_cases (self.failed_count attempts more) more.has_success_after_fail
    · right
      refine ⟨_, hmore_score, ?_⟩
      have hfits (hsuccess : reported.has_success_after_fail = false) :
          ¬ self.Overflows (self.failed_count attempts reported) := by
        intro hoverflow
        rw [hsuccess, score_of_overflows hoverflow] at hscore
        cases hscore
      obtain hok | ⟨hoverflow, -⟩ :=
        self.score_cases (self.failed_count attempts reported) reported.has_success_after_fail
      · rw [← Except.ok.inj (hok.symm.trans hscore)]
        exact hself.verdict_le_of_exceeds hbase h hexceeds hfits
      · cases hoverflow.symm.trans hscore
    · exact Or.inl hoverflow

/-- The default settings, with as many failed attempts on record as the threshold asks for. -/
theorem monotoneLaw_default : ({} : BruteForceRule).MonotoneLaw (fun _ => "") fun _ => some 5 := by
  refine (monotoneLaw_iff {} (fun _ => "") (fun _ => some 5) (represents_int (n := 30) (by norm_num)) (by norm_num)
    (by norm_num)).mpr ⟨?_, ?_, ?_⟩
  · exact Or.inl (by norm_num)
  · exact Or.inr (Or.inl (by norm_num))
  · rintro db_fails ⟨⟩
    exact Or.inl (by norm_num)

/-- The law for all settings and all records of failed attempts. -/
def BruteForceLaw : Prop :=
  ∀ (self : BruteForceRule) (py_str : Json → String) (attempts : FailedAttempts),
    binary64.Represents self.base_score → 0 ≤ self.base_score → self.threshold ≤ self.critical_threshold →
      self.MonotoneLaw py_str attempts

/-- With 20 failed attempts on record the fifth reported one lowers the default score from 75 to 30. -/
theorem not_bruteForceLaw_recorded : ¬ BruteForceLaw := by
  intro h
  have hlaw := h {} (fun _ => "") (fun _ => some 20) (represents_int (n := 30) (by norm_num)) (by norm_num) (by norm_num)
  have hscore := verdict_le_of_law hlaw (show (4 : ℤ) ≤ 5 by norm_num) (not_overflows_of_critical (by decide))
    (not_overflows_of_le (by decide) (by decide))
  exact absurd hscore (by decide +kernel)

end Gradual

end BruteForceRule

end larp
