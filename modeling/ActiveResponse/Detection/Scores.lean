import ActiveResponse.Core.Database

namespace larp

def EMA_ALPHA : ℚ := 35 / 100

def CRITICAL_BYPASS_THRESHOLD : ℚ := 85

/-- `round(q, 2)`. -/
def round2 (q : ℚ) : ℚ := round_half_even (100 * q) / 100

theorem round2_mono : Monotone round2 := by
  intro p q h
  have hround : round_half_even (100 * p) ≤ round_half_even (100 * q) := round_half_even_mono (by linarith)
  have hcast : (round_half_even (100 * p) : ℚ) ≤ round_half_even (100 * q) := by exact_mod_cast hround
  exact div_le_div_of_nonneg_right hcast (by norm_num)

/-- A number with two decimals is its own rounding. -/
theorem round2_hundredths (n : ℤ) : round2 (n / 100) = n / 100 := by
  unfold round2
  rw [mul_div_cancel₀ _ (by norm_num : (100 : ℚ) ≠ 0), round_half_even_intCast]

/-- Smooth a raw score with the previous smoothed score. Critical scores bypass the smoothing. -/
def compute_ema (current : ℚ) (previous : Option ℚ) : ℚ :=
  if CRITICAL_BYPASS_THRESHOLD ≤ current then round2 current
  else
    match previous with
    | none => round2 current
    | some previous => round2 (EMA_ALPHA * current + (1 - EMA_ALPHA) * previous)

namespace Database

/-- The score that the next one is smoothed with: that of the latest record of the agent. -/
def previous_score (db : Database) (agent_id : String) : Option ℚ :=
  (db.risk_score_records.latest (fun record => record.agent_id = agent_id) RiskScoreRecord.timestamp).map
    fun record => record.smoothed_score.getD record.score

/-- The score that `process_risk` acts on. -/
def smoothed_score (db : Database) (agent_id : String) (raw_score : ℚ) : ℚ :=
  if CRITICAL_BYPASS_THRESHOLD ≤ raw_score then round2 raw_score
  else compute_ema raw_score (db.previous_score agent_id)

/-- `RiskAssessmentService.determine_action`. -/
def determine_action (thresholds : RiskThresholds) (score : ℚ) : String :=
  if thresholds.auto_isolate ≤ score then "auto_isolate"
  else if thresholds.alert_with_buttons ≤ score then "alert_with_buttons"
  else if thresholds.alert ≤ score then "alert"
  else "log"

end Database

end larp
