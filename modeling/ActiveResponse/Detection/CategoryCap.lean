import Mathlib.Algebra.Order.BigOperators.Group.List
import ActiveResponse.Detection.Evaluate

namespace larp

/-- `sum(scores.values())`. -/
def total (scores : List (String × ℚ)) : ℚ := (scores.map Prod.snd).sum

section Total

variable {xs ys : List (String × ℚ)}

@[simp] theorem total_cons (entry : String × ℚ) (xs : List (String × ℚ)) :
    total (entry :: xs) = entry.2 + total xs := by
  simp [total]

theorem total_nonneg (h : ∀ entry ∈ xs, 0 ≤ entry.2) : 0 ≤ total xs := by
  refine List.sum_nonneg fun score hscore => ?_
  obtain ⟨entry, hentry, rfl⟩ := List.mem_map.mp hscore
  exact h entry hentry

theorem total_perm (h : xs.Perm ys) : total xs = total ys := (h.map Prod.snd).sum_eq

theorem total_filter_add (select : String × ℚ → Bool) (xs : List (String × ℚ)) :
    total (xs.filter fun entry => !select entry) + total (xs.filter select) = total xs := by
  induction xs with
  | nil => simp [total]
  | cons entry xs ih =>
    cases hselect : select entry with
    | true =>
      rw [List.filter_cons_of_neg (by simp [hselect]), List.filter_cons_of_pos hselect, total_cons, total_cons, ← ih]
      ring
    | false =>
      rw [List.filter_cons_of_pos (by simp [hselect]), List.filter_cons_of_neg (by simp [hselect]), total_cons,
        total_cons, ← ih]
      ring

/-- A dictionary whose scores are found in another one, as high or higher, has no higher sum. -/
theorem total_le (hkeys : (xs.map Prod.fst).Nodup) (hnonneg : ∀ entry ∈ ys, 0 ≤ entry.2)
    (h : ∀ entry ∈ xs, ∃ score, (entry.1, score) ∈ ys ∧ entry.2 ≤ score) : total xs ≤ total ys := by
  induction xs generalizing ys with
  | nil => exact total_nonneg hnonneg
  | cons entry xs ih =>
    rw [List.map_cons, List.nodup_cons] at hkeys
    rw [List.forall_mem_cons] at h
    obtain ⟨⟨score, hmem, hle⟩, hrest⟩ := h
    rw [total_perm (List.perm_cons_erase hmem), total_cons, total_cons]
    refine add_le_add hle (ih hkeys.2 (fun other hother => hnonneg other (List.mem_of_mem_erase hother)) ?_)
    intro other hother
    obtain ⟨higher, hhigher, hotherle⟩ := hrest other hother
    have hne : (other.1, higher) ≠ (entry.1, score) := by
      rintro heq
      have hkey : other.1 = entry.1 := (Prod.mk.inj heq).1
      exact hkeys.1 (hkey ▸ List.mem_map_of_mem hother)
    exact ⟨higher, (List.mem_erase_of_ne hne).mpr hhigher, hotherle⟩

end Total

/-- The scores of rules, as `evaluate` collects them: no rule has two, and `total_score` is none of them. -/
structure RuleScores where
  scores : List (String × ℚ)
  nodup : (scores.map Prod.fst).Nodup
  rules : ∀ entry ∈ scores, entry.1 ≠ "total_score"
  nonneg : ∀ entry ∈ scores, 0 ≤ entry.2

namespace RuleScores

/-- Every rule of the first has a score in the second that is as high or higher. -/
instance : LE RuleScores where
  le self other := ∀ entry ∈ self.scores, ∃ score, (entry.1, score) ∈ other.scores ∧ entry.2 ≤ score

def sum_where (self : RuleScores) (select : String → Bool) : ℚ :=
  total (self.scores.filter fun entry => select entry.1)

def has_ioc (self : RuleScores) : Prop :=
  ∃ rule_id ∈ IOC_RULES, ∃ score, (rule_id, score) ∈ self.scores ∧ 0 < score

def anomaly_sum (self : RuleScores) : ℚ := self.sum_where (· ∈ ANOMALY_RULES)

def other_sum (self : RuleScores) : ℚ := self.sum_where (· ∉ ANOMALY_RULES)

/-- `scores[rule_id] = score`. -/
def set (self : RuleScores) (rule_id : String) (score : ℚ) (hrule : rule_id ≠ "total_score") (hscore : 0 ≤ score) :
    RuleScores where
  scores := (rule_id, score) :: self.scores.filter fun entry => entry.1 ≠ rule_id
  nodup := by
    rw [List.map_cons, List.nodup_cons]
    refine ⟨fun hmem => ?_, self.nodup.sublist (List.filter_sublist.map Prod.fst)⟩
    obtain ⟨entry, hentry, hkey⟩ := List.mem_map.mp hmem
    exact of_decide_eq_true (List.mem_filter.mp hentry).2 hkey
  rules := by
    rintro entry hentry
    rcases List.mem_cons.mp hentry with rfl | hbefore
    · exact hrule
    · exact self.rules entry (List.mem_filter.mp hbefore).1
  nonneg := by
    rintro entry hentry
    rcases List.mem_cons.mp hentry with rfl | hbefore
    · exact hscore
    · exact self.nonneg entry (List.mem_filter.mp hbefore).1

variable {self other : RuleScores}

/-- A new score is added, or the one that is there is raised. -/
theorem le_set {rule_id : String} {score : ℚ} (hrule : rule_id ≠ "total_score") (hscore : 0 ≤ score)
    (h : ∀ old, (rule_id, old) ∈ self.scores → old ≤ score) : self ≤ self.set rule_id score hrule hscore := by
  intro entry hentry
  by_cases hkey : entry.1 = rule_id
  · refine ⟨score, ?_, h entry.2 (by rwa [← hkey])⟩
    rw [hkey]
    exact List.mem_cons_self
  · exact ⟨entry.2, List.mem_cons_of_mem _ (List.mem_filter.mpr ⟨hentry, decide_eq_true hkey⟩), le_rfl⟩

theorem sum_where_le (h : self ≤ other) (select : String → Bool) : self.sum_where select ≤ other.sum_where select := by
  refine total_le (self.nodup.sublist (List.filter_sublist.map Prod.fst)) ?_ ?_
  · exact fun entry hentry => other.nonneg entry (List.mem_filter.mp hentry).1
  · intro entry hentry
    obtain ⟨hmem, hselect⟩ := List.mem_filter.mp hentry
    obtain ⟨score, hscore, hle⟩ := h entry hmem
    exact ⟨score, List.mem_filter.mpr ⟨hscore, hselect⟩, hle⟩

theorem total_le_total (h : self ≤ other) : total self.scores ≤ total other.scores :=
  total_le self.nodup other.nonneg h

theorem has_ioc_of_le (h : self ≤ other) (hioc : self.has_ioc) : other.has_ioc := by
  obtain ⟨rule_id, hrule, score, hscore, hpos⟩ := hioc
  obtain ⟨higher, hhigher, hle⟩ := h _ hscore
  exact ⟨rule_id, hrule, higher, hhigher, hpos.trans_le hle⟩

theorem other_sum_add_anomaly_sum (self : RuleScores) : self.other_sum + self.anomaly_sum = total self.scores := by
  have hsplit := total_filter_add (fun entry => decide (entry.1 ∈ ANOMALY_RULES)) self.scores
  rw [← hsplit]
  simp only [other_sum, anomaly_sum, sum_where, decide_not]

open Classical in
/-- The two formulas of `apply_category_cap`. -/
theorem apply_category_cap_eq (self : RuleScores) :
    apply_category_cap self.scores = if self.has_ioc then round2 (total self.scores)
      else round2 (self.other_sum + min self.anomaly_sum ANOMALY_CAP) := by
  have hnumeric : (self.scores.filter fun entry => entry.1 ≠ "total_score") = self.scores :=
    List.filter_eq_self.mpr fun entry hentry => decide_eq_true (self.rules entry hentry)
  have hioc : (self.scores.any fun entry => entry.1 ∈ IOC_RULES ∧ 0 < entry.2) = true ↔ self.has_ioc := by
    simp only [List.any_eq_true, decide_eq_true_eq, has_ioc]
    constructor
    · rintro ⟨⟨rule_id, score⟩, hmem, hrule, hpos⟩
      exact ⟨rule_id, hrule, score, hmem, hpos⟩
    · rintro ⟨rule_id, hrule, score, hmem, hpos⟩
      exact ⟨⟨rule_id, score⟩, hmem, hrule, hpos⟩
  have hcap : apply_category_cap self.scores =
      if (self.scores.filter fun entry => entry.1 ≠ "total_score").any fun entry => entry.1 ∈ IOC_RULES ∧ 0 < entry.2 then
        round2 (total (self.scores.filter fun entry => entry.1 ≠ "total_score"))
      else
        round2 (total ((self.scores.filter fun entry => entry.1 ≠ "total_score").filter fun entry =>
            entry.1 ∉ ANOMALY_RULES) +
          min (total ((self.scores.filter fun entry => entry.1 ≠ "total_score").filter fun entry =>
            entry.1 ∈ ANOMALY_RULES)) ANOMALY_CAP) := rfl
  rw [hcap, hnumeric]
  simp only [hioc]
  rfl

theorem capped_le (self : RuleScores) : self.other_sum + min self.anomaly_sum ANOMALY_CAP ≤ total self.scores := by
  rw [← self.other_sum_add_anomaly_sum]
  exact add_le_add le_rfl (min_le_left _ _)

theorem apply_category_cap_mono (h : self ≤ other) :
    apply_category_cap self.scores ≤ apply_category_cap other.scores := by
  rw [apply_category_cap_eq, apply_category_cap_eq]
  by_cases hioc : self.has_ioc
  · rw [if_pos hioc, if_pos (has_ioc_of_le h hioc)]
    exact round2_mono (total_le_total h)
  · rw [if_neg hioc]
    -- an indicator that the other dictionary adds or raises lifts the cap
    split
    · exact round2_mono (self.capped_le.trans (total_le_total h))
    · exact round2_mono (add_le_add (sum_where_le h _) (min_le_min (sum_where_le h _) le_rfl))

end RuleScores

/-- The capped score is at most the plain sum, it grows with every score and with every entry, and it is the full sum
if an indicator of compromise has a positive score, and else the sum in which the anomalies count for 35 at most. -/
theorem apply_category_cap_spec (factors : RuleScores) :
    apply_category_cap factors.scores ≤ round2 (total factors.scores) ∧
    (∀ other : RuleScores, factors ≤ other → apply_category_cap factors.scores ≤ apply_category_cap other.scores) ∧
    (∀ rule_id score hrule hscore, (∀ old, (rule_id, old) ∈ factors.scores → old ≤ score) →
      apply_category_cap factors.scores ≤ apply_category_cap (factors.set rule_id score hrule hscore).scores) ∧
    (factors.has_ioc → apply_category_cap factors.scores = round2 (total factors.scores)) ∧
    (¬factors.has_ioc →
      apply_category_cap factors.scores = round2 (factors.other_sum + min factors.anomaly_sum 35)) := by
  have hcap := factors.apply_category_cap_eq
  refine ⟨?_, fun other => RuleScores.apply_category_cap_mono, ?_, ?_, ?_⟩
  · rw [hcap]
    split
    · exact le_rfl
    · exact round2_mono factors.capped_le
  · exact fun rule_id score hrule hscore h => RuleScores.apply_category_cap_mono (RuleScores.le_set hrule hscore h)
  · exact fun hioc => hcap.trans (if_pos hioc)
  · exact fun hioc => hcap.trans (if_neg hioc)

/-- Two anomalies that are capped beside failed logins. -/
def RuleScores.busy_host : RuleScores where
  scores := [("cpu_spike", 30), ("ram_spike", 20), ("brute_force", 30)]
  nodup := by decide
  rules := by simp
  nonneg := by simp

example : apply_category_cap RuleScores.busy_host.scores = 65 := by decide +kernel

end larp
