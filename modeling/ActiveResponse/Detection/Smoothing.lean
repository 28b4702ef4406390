import ActiveResponse.Detection.Scores

namespace larp

/-- A score from 0 to 100 with at most two decimals. -/
structure Score where
  hundredths : ℕ
  le_hundred : hundredths ≤ 10000

namespace Score

def value (self : Score) : ℚ := self.hundredths / 100

theorem round2_value (self : Score) : round2 self.value = self.value := by
  have hround := round2_hundredths self.hundredths
  rwa [Int.cast_natCast] at hround

end Score

section Ema

variable {current higher previous : ℚ}

theorem compute_ema_of_bypass (h : CRITICAL_BYPASS_THRESHOLD ≤ current) (previous : Option ℚ) :
    compute_ema current previous = round2 current := if_pos h

theorem compute_ema_of_lt (h : current < CRITICAL_BYPASS_THRESHOLD) (previous : ℚ) :
    compute_ema current (some previous) = round2 (EMA_ALPHA * current + (1 - EMA_ALPHA) * previous) :=
  if_neg (not_le.mpr h)

/-- `process_risk` repeats the bypass that `compute_ema` makes. -/
theorem Database.smoothed_score_eq_ema (db : Database) (agent_id : String) (raw_score : ℚ) :
    db.smoothed_score agent_id raw_score = compute_ema raw_score (db.previous_score agent_id) := by
  unfold smoothed_score
  split
  · rename_i hbypass
    rw [compute_ema_of_bypass hbypass]
  · rfl

/-- The smoothing is a mean, and the rounding leaves the two scores alone. -/
theorem compute_ema_between (hcurrent : round2 current = current) (hprevious : round2 previous = previous) :
    min current previous ≤ compute_ema current (some previous) ∧
      compute_ema current (some previous) ≤ max current previous := by
  rcases le_or_gt CRITICAL_BYPASS_THRESHOLD current with hbypass | hbelow
  · rw [compute_ema_of_bypass hbypass, hcurrent]
    exact ⟨min_le_left _ _, le_max_left _ _⟩
  · rw [compute_ema_of_lt hbelow]
    have hmin : round2 (min current previous) = min current previous := by
      rcases min_choice current previous with h | h <;> rw [h] <;> assumption
    have hmax : round2 (max current previous) = max current previous := by
      rcases max_choice current previous with h | h <;> rw [h] <;> assumption
    constructor
    · refine hmin.symm.le.trans (round2_mono ?_)
      rcases min_cases current previous with h | h <;> rw [h.1] <;> norm_num [EMA_ALPHA] <;> linarith
    · refine (round2_mono ?_).trans hmax.le
      rcases max_cases current previous with h | h <;> rw [h.1] <;> norm_num [EMA_ALPHA] <;> linarith

theorem compute_ema_mono_previous (current : ℚ) {higher : ℚ} (h : previous ≤ higher) :
    compute_ema current (some previous) ≤ compute_ema current (some higher) := by
  rcases le_or_gt CRITICAL_BYPASS_THRESHOLD current with hbypass | hbelow
  · rw [compute_ema_of_bypass hbypass, compute_ema_of_bypass hbypass]
  · rw [compute_ema_of_lt hbelow, compute_ema_of_lt hbelow]
    refine round2_mono ?_
    norm_num [EMA_ALPHA]
    linarith

/-- Raw scores on one side of the threshold are treated alike. -/
theorem compute_ema_mono_current (previous : ℚ) (h : current ≤ higher)
    (hside : higher < CRITICAL_BYPASS_THRESHOLD ∨ CRITICAL_BYPASS_THRESHOLD ≤ current) :
    compute_ema current (some previous) ≤ compute_ema higher (some previous) := by
  rcases hside with hbelow | hbypass
  · rw [compute_ema_of_lt (h.trans_lt hbelow), compute_ema_of_lt hbelow]
    refine round2_mono ?_
    norm_num [EMA_ALPHA]
    linarith
  · rw [compute_ema_of_bypass hbypass, compute_ema_of_bypass (hbypass.trans h)]
    exact round2_mono h

end Ema

/-- The smoothed score lies between the raw score and the previous one, it grows with the previous one, and it grows
with the raw score, unless a raw score that reaches the bypass threshold is lower than the previous score. Then it
falls exactly if the mean of the lower raw score exceeds the higher one. -/
theorem compute_ema_monotone (current previous : Score) :
    (min current.value previous.value ≤ compute_ema current.value (some previous.value) ∧
      compute_ema current.value (some previous.value) ≤ max current.value previous.value) ∧
    (∀ higher : Score, previous.value ≤ higher.value →
      compute_ema current.value (some previous.value) ≤ compute_ema current.value (some higher.value)) ∧
    (∀ higher : Score, current.value ≤ higher.value →
      ¬ (current.value < CRITICAL_BYPASS_THRESHOLD ∧ CRITICAL_BYPASS_THRESHOLD ≤ higher.value ∧
        higher.value < previous.value) →
      compute_ema current.value (some previous.value) ≤ compute_ema higher.value (some previous.value)) ∧
    ∀ higher : Score, current.value < CRITICAL_BYPASS_THRESHOLD → CRITICAL_BYPASS_THRESHOLD ≤ higher.value →
      (compute_ema higher.value (some previous.value) < compute_ema current.value (some previous.value) ↔
        higher.value < round2 (EMA_ALPHA * current.value + (1 - EMA_ALPHA) * previous.value)) := by
  have hbetween := compute_ema_between current.round2_value previous.round2_value
  refine ⟨hbetween, fun higher => compute_ema_mono_previous _, ?_, ?_⟩
  · intro higher hle hcross
    by_cases hside : higher.value < CRITICAL_BYPASS_THRESHOLD ∨ CRITICAL_BYPASS_THRESHOLD ≤ current.value
    · exact compute_ema_mono_current _ hle hside
    · obtain ⟨hbypass, hbelow⟩ := not_or.mp hside
      rw [not_lt] at hbypass
      rw [not_le] at hbelow
      have hprevious : previous.value ≤ higher.value := by
        by_contra hnot
        exact hcross ⟨hbelow, hbypass, not_le.mp hnot⟩
      rw [compute_ema_of_bypass hbypass, higher.round2_value]
      exact hbetween.2.trans (max_le hle hprevious)
  · intro higher hbelow hbypass
    rw [compute_ema_of_bypass hbypass, compute_ema_of_lt hbelow, higher.round2_value]

/-- After a score of 100, a raw score of 85 yields a lower score than one of 84. -/
theorem not_compute_ema_monotone_bypass :
    ¬ (∀ current higher previous : Score, current.value ≤ higher.value →
      compute_ema current.value (some previous.value) ≤ compute_ema higher.value (some previous.value)) := by
  intro h
  have hmono := h ⟨8400, by norm_num⟩ ⟨8500, by norm_num⟩ ⟨10000, by norm_num⟩ (by norm_num [Score.value])
  exact absurd hmono (by decide +kernel)

end larp
