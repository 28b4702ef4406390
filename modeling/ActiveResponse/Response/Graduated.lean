import Mathlib.Tactic.FinCases
import ActiveResponse.Response.PolicyEngine

namespace larp

/-- The actions of the graduated response, the mildest first. -/
def graduated_actions : List String := ["log_only", "alert", "alert_with_action", "kill_process_tree", "isolate"]

def PolicyLevel.severity (self : PolicyLevel) : ℕ := graduated_actions.idxOf self.action

/-- The level has the largest `min_score` that the score reaches. -/
structure PolicyLevel.Reached (level : PolicyLevel) (score : ℚ) : Prop where
  mem : level ∈ POLICY_LEVELS
  min_le : level.min_score ≤ score
  largest : ∀ other ∈ POLICY_LEVELS, other.min_score ≤ score → other.min_score ≤ level.min_score

/-- The scores that no level covers and that belong to a higher level than the lowest. -/
def between_levels (score : ℚ) : Prop :=
  (49 < score ∧ score < 50) ∨ (69 < score ∧ score < 70) ∨ (84 < score ∧ score < 85)

section Levels

variable {score : ℚ}

/-- The levels do not overlap. -/
theorem get_action_for_score_of_mem {level : PolicyLevel} (hmem : level ∈ POLICY_LEVELS)
    (hmin : level.min_score ≤ score) (hmax : score ≤ level.max_score) : get_action_for_score score = level := by
  have hdisjoint : ∀ first ∈ POLICY_LEVELS, ∀ second ∈ POLICY_LEVELS, first.min_score ≤ second.max_score →
      second.min_score ≤ first.max_score → first = second := by
    simp [POLICY_LEVELS]
  unfold get_action_for_score
  split
  · rename_i found hfind
    have hfound := List.find?_some hfind
    rw [decide_eq_true_eq] at hfound
    refine hdisjoint found (List.mem_of_find?_eq_some hfind) level hmem ?_ ?_
    · exact_mod_cast hfound.1.trans hmax
    · exact_mod_cast hmin.trans hfound.2
  · rename_i hnone
    have hnot := List.find?_eq_none.mp hnone level hmem
    rw [decide_eq_true_eq] at hnot
    exact absurd ⟨hmin, hmax⟩ hnot

/-- A score that no level covers is treated as one of the lowest level. -/
theorem get_action_for_score_of_not_mem
    (h : ∀ level ∈ POLICY_LEVELS, ¬(level.min_score ≤ score ∧ score ≤ level.max_score)) (hlow : score < 85) :
    get_action_for_score score = POLICY_LEVELS.head (by decide) := by
  have hnone : POLICY_LEVELS.find? (fun level => level.min_score ≤ score ∧ score ≤ level.max_score) = none := by
    refine List.find?_eq_none.mpr fun level hlevel => ?_
    rw [decide_eq_true_eq]
    exact h level hlevel
  unfold get_action_for_score
  rw [hnone]
  exact if_neg (not_le.mpr hlow)

theorem PolicyLevel.Reached.of_lt {level : PolicyLevel} (hmem : level ∈ POLICY_LEVELS)
    (hmin : level.min_score ≤ score) (hlt : score < level.max_score + 1) : level.Reached score := by
  have hordered : ∀ first ∈ POLICY_LEVELS, ∀ second ∈ POLICY_LEVELS,
      second.min_score ≤ first.min_score ∨ first.max_score + 1 ≤ second.min_score := by
    decide
  refine ⟨hmem, hmin, fun other hother hreached => ?_⟩
  rcases hordered level hmem other hother with hle | habove
  · exact hle
  · have hcast : (level.max_score : ℚ) + 1 ≤ other.min_score := by exact_mod_cast habove
    linarith

theorem exists_level (hlow : 0 ≤ score) (hhigh : score ≤ 100) :
    ∃ level ∈ POLICY_LEVELS, level.min_score ≤ score ∧ score < level.max_score + 1 := by
  simp only [POLICY_LEVELS, List.exists_mem_cons_iff]
  norm_num
  by_cases h30 : score < 30
  · exact Or.inl ⟨hlow, h30⟩
  · by_cases h50 : score < 50
    · exact Or.inr (Or.inl ⟨not_lt.mp h30, h50⟩)
    · by_cases h70 : score < 70
      · exact Or.inr (Or.inr (Or.inl ⟨not_lt.mp h50, h70⟩))
      · by_cases h85 : score < 85
        · exact Or.inr (Or.inr (Or.inr (Or.inl ⟨not_lt.mp h70, h85⟩)))
        · exact Or.inr (Or.inr (Or.inr (Or.inr ⟨not_lt.mp h85, by linarith⟩)))

/-- A score gets the level that it reaches, or it falls through to the lowest level. -/
theorem get_action_for_score_cases (hlow : 0 ≤ score) (hhigh : score ≤ 100) :
    ((get_action_for_score score).Reached score ∧ ¬between_levels score) ∨
      (get_action_for_score score = POLICY_LEVELS.head (by decide) ∧ between_levels score) := by
  obtain ⟨level, hmem, hmin, hlt⟩ := exists_level hlow hhigh
  have hreached := PolicyLevel.Reached.of_lt hmem hmin hlt
  by_cases hmax : score ≤ level.max_score
  · rw [get_action_for_score_of_mem hmem hmin hmax]
    refine Or.inl ⟨hreached, ?_⟩
    fin_cases hmem <;> norm_num at hmin hmax <;>
      rintro (⟨_, _⟩ | ⟨_, _⟩ | ⟨_, _⟩) <;> linarith
  · rw [not_le] at hmax
    have hends : ∀ first ∈ POLICY_LEVELS, ∀ second ∈ POLICY_LEVELS, second.min_score ≤ first.min_score →
        second.max_score ≤ first.max_score := by
      decide
    have hnone : ∀ other ∈ POLICY_LEVELS, ¬(other.min_score ≤ score ∧ score ≤ other.max_score) := by
      rintro other hother ⟨hothermin, hothermax⟩
      have hle : (other.max_score : ℚ) ≤ level.max_score := by
        exact_mod_cast hends level hmem other hother (hreached.largest other hother hothermin)
      linarith
    have hbelow : score < 85 := by
      by_contra hnot
      have hisolate := hnone _ (List.getLast_mem (show POLICY_LEVELS ≠ [] by decide))
      exact hisolate ⟨not_lt.mp hnot, hhigh⟩
    rw [get_action_for_score_of_not_mem hnone hbelow]
    fin_cases hmem <;> norm_num at hmin hmax hlt
    · exact Or.inl ⟨hreached, by rintro (⟨_, _⟩ | ⟨_, _⟩ | ⟨_, _⟩) <;> linarith⟩
    · exact Or.inr ⟨rfl, Or.inl ⟨hmax, hlt⟩⟩
    · exact Or.inr ⟨rfl, Or.inr (Or.inl ⟨hmax, hlt⟩)⟩
    · exact Or.inr ⟨rfl, Or.inr (Or.inr ⟨hmax, hlt⟩)⟩
    · linarith

theorem severity_of_between_levels (hlow : 0 ≤ score) (hhigh : score ≤ 100) (h : between_levels score) :
    (get_action_for_score score).severity = 0 := by
  rcases get_action_for_score_cases hlow hhigh with ⟨-, hnot⟩ | ⟨hlevel, -⟩
  · exact absurd h hnot
  · rw [hlevel]
    decide

theorem PolicyLevel.Reached.thirty_le {level : PolicyLevel} (h : level.Reached score) (hscore : 30 ≤ score) :
    30 ≤ level.min_score := by
  have halert : (POLICY_LEVELS[1].min_score : ℚ) ≤ score := by
    norm_num [POLICY_LEVELS]
    exact hscore
  exact h.largest POLICY_LEVELS[1] (List.getElem_mem _) halert

theorem reached_iff (hlow : 0 ≤ score) (hhigh : score ≤ 100) :
    (get_action_for_score score).Reached score ↔ ¬between_levels score := by
  rcases get_action_for_score_cases hlow hhigh with ⟨hreached, hnot⟩ | ⟨hlevel, hbetween⟩
  · exact iff_of_true hreached hnot
  · refine iff_of_false (fun hreached => ?_) (not_not.mpr hbetween)
    have hscore : 30 ≤ score := by rcases hbetween with ⟨_, _⟩ | ⟨_, _⟩ | ⟨_, _⟩ <;> linarith
    have hthirty := hreached.thirty_le hscore
    rw [hlevel] at hthirty
    exact absurd hthirty (by decide)

/-- The higher of two levels is the one with the larger `min_score`. -/
theorem PolicyLevel.severity_mono {first second : PolicyLevel} (hfirst : first ∈ POLICY_LEVELS)
    (hsecond : second ∈ POLICY_LEVELS) (h : first.min_score ≤ second.min_score) :
    first.severity ≤ second.severity := by
  have hall : ∀ first ∈ POLICY_LEVELS, ∀ second ∈ POLICY_LEVELS, first.min_score ≤ second.min_score →
      first.severity ≤ second.severity := by
    decide
  exact hall first hfirst second hsecond h

theorem PolicyLevel.Reached.severity_eq_zero_iff {level : PolicyLevel} (h : level.Reached score) :
    level.severity = 0 ↔ score < 30 := by
  have hall : ∀ level ∈ POLICY_LEVELS, (level.severity = 0 ↔ level.min_score < 30) := by decide
  rw [hall level h.mem]
  constructor
  · intro hlow
    by_contra hnot
    exact absurd hlow (not_lt.mpr (h.thirty_le (not_lt.mp hnot)))
  · intro hlow
    exact_mod_cast h.min_le.trans_lt hlow

end Levels

/-- A score reaches its level, and a higher score no lower one, unless the score lies between the end of a level and
the beginning of the next. -/
theorem get_action_for_score_monotone_iff (s t : ℚ) (hlow : 0 ≤ s) (hle : s ≤ t) (hhigh : t ≤ 100) :
    ((get_action_for_score s).severity ≤ (get_action_for_score t).severity ↔
      between_levels t → between_levels s ∨ s < 30) ∧
    ((get_action_for_score s).Reached s ↔ ¬between_levels s) := by
  have hs := reached_iff hlow (hle.trans hhigh)
  have ht := reached_iff (hlow.trans hle) hhigh
  refine ⟨?_, hs⟩
  by_cases hbetween : between_levels s
  · rw [severity_of_between_levels hlow (hle.trans hhigh) hbetween]
    exact iff_of_true (Nat.zero_le _) fun _ => Or.inl hbetween
  · have hreached := hs.mpr hbetween
    by_cases hgap : between_levels t
    · rw [severity_of_between_levels (hlow.trans hle) hhigh hgap, Nat.le_zero, hreached.severity_eq_zero_iff]
      exact ⟨fun h _ => Or.inr h, fun h => (h hgap).resolve_left hbetween⟩
    · refine iff_of_true ?_ fun h => absurd h hgap
      have hhigher := ht.mpr hgap
      refine PolicyLevel.severity_mono hreached.mem hhigher.mem ?_
      exact hhigher.largest _ hreached.mem (hreached.min_le.trans hle)

/-- A kill of the process tree at 75 and the milder alert at 60. -/
theorem get_action_for_score_monotone_sixty :
    ((get_action_for_score 60).severity ≤ (get_action_for_score 75).severity ↔
      between_levels 75 → between_levels 60 ∨ (60 : ℚ) < 30) ∧
    ((get_action_for_score 60).Reached 60 ↔ ¬between_levels 60) :=
  get_action_for_score_monotone_iff 60 75 (by norm_num) (by norm_num) (by norm_num)

/-- A score of 84.5 is only logged, while one of 84 kills a process tree. -/
theorem not_get_action_for_score_monotone :
    ¬ ((get_action_for_score 84).severity ≤ (get_action_for_score (169 / 2)).severity) ∧
      ¬ (get_action_for_score (169 / 2)).Reached (169 / 2) := by
  refine ⟨by decide +kernel, fun hreached => ?_⟩
  have hgap : between_levels (169 / 2) := Or.inr (Or.inr (by norm_num))
  exact (reached_iff (by norm_num) (by norm_num)).mp hreached hgap

end larp
