import Mathlib.Data.List.Basic
import Mathlib.Data.List.Induction
import Mathlib.Order.Bounds.Basic
import Mathlib.Order.MinMax
import Mathlib.Order.Lattice

universe u v w

/-! # A maximum over elements, of which some count only if their key is new -/

namespace FreshMax

variable {H : Type u} {K : Type v} {A : Type w} [DecidableEq K] [LinearOrder A]

/-- The keys that have been met, and the maximum so far. -/
structure Tally (K : Type v) (A : Type w) where
  seen : List K
  best : A

variable (key : H → K) (weight : H → A) (always : H → Bool)

def Tally.record (self : Tally K A) (hit : H) : Tally K A where
  seen := if key hit ∈ self.seen then self.seen else self.seen ++ [key hit]
  best := if always hit ∨ key hit ∉ self.seen then max self.best (weight hit) else self.best

/-- The element counts at one of its places: always, or since no element before has its key. -/
def Counts (hits : List H) (hit : H) : Prop :=
  ∃ before after, hits = before ++ hit :: after ∧ (always hit ∨ key hit ∉ before.map key)

variable {key weight always}

omit [DecidableEq K] in
theorem Counts.mem {hits : List H} {hit : H} (h : Counts key always hits hit) : hit ∈ hits := by
  obtain ⟨before, after, rfl, -⟩ := h
  exact List.mem_append_right _ List.mem_cons_self

omit [DecidableEq K] in
theorem counts_concat_iff {hits : List H} {last hit : H} :
    Counts key always (hits ++ [last]) hit ↔
      Counts key always hits hit ∨ hit = last ∧ (always last ∨ key last ∉ hits.map key) := by
  constructor
  · rintro ⟨before, after, heq, hcounts⟩
    rcases List.eq_nil_or_concat' after with rfl | ⟨rest, last', rfl⟩
    · obtain ⟨rfl, hlast⟩ := List.append_inj' heq rfl
      obtain rfl := List.head_eq_of_cons_eq hlast
      exact Or.inr ⟨rfl, hcounts⟩
    · rw [← List.cons_append, ← List.append_assoc] at heq
      obtain ⟨rfl, -⟩ := List.append_inj' heq rfl
      exact Or.inl ⟨before, rest, rfl, hcounts⟩
  · rintro (⟨before, after, rfl, hcounts⟩ | ⟨rfl, hcounts⟩)
    · exact ⟨before, after ++ [last], by simp, hcounts⟩
    · exact ⟨hits, [], rfl, hcounts⟩

theorem mem_seen_foldl {hits : List H} {floor : A} {k : K} :
    k ∈ (hits.foldl (Tally.record key weight always) ⟨[], floor⟩).seen ↔ k ∈ hits.map key := by
  induction hits using List.reverseRecOn with
  | nil => simp
  | append_singleton hits last ih =>
    rw [List.foldl_append, List.foldl_cons, List.foldl_nil, Tally.record, List.map_append, List.mem_append, ← ih]
    split
    · rename_i hseen
      constructor
      · exact Or.inl
      · rintro (h | h)
        · exact h
        · rw [List.map_singleton, List.mem_singleton] at h
          exact h ▸ hseen
    · rw [List.mem_append, List.map_singleton]

/-- The run of the tally finds the greatest of the weights that count and the floor it has started with. -/
theorem isGreatest_foldl (hits : List H) (floor : A) :
    IsGreatest {a | a = floor ∨ ∃ hit, Counts key always hits hit ∧ weight hit = a}
      (hits.foldl (Tally.record key weight always) ⟨[], floor⟩).best := by
  induction hits using List.reverseRecOn with
  | nil =>
    refine ⟨Or.inl rfl, ?_⟩
    rintro a (rfl | ⟨hit, hcounts, -⟩)
    · exact le_rfl
    · exact absurd hcounts.mem List.not_mem_nil
  | append_singleton hits last ih =>
    obtain ⟨hmem, hupper⟩ := ih
    have hgrow (hit : H) (h : Counts key always hits hit) : Counts key always (hits ++ [last]) hit :=
      counts_concat_iff.mpr (.inl h)
    rw [List.foldl_append, List.foldl_cons, List.foldl_nil, Tally.record]
    simp only [mem_seen_foldl]
    split
    · rename_i hcounts
      constructor
      · rcases max_choice (hits.foldl (Tally.record key weight always) ⟨[], floor⟩).best (weight last) with heq | heq
        · rw [heq]
          exact hmem.imp_right (Exists.imp fun hit hit_counts => hit_counts.imp_left (hgrow hit))
        · rw [heq]
          exact Or.inr ⟨last, counts_concat_iff.mpr (.inr ⟨rfl, hcounts⟩), rfl⟩
      · rintro a (rfl | ⟨hit, hit_counts, rfl⟩)
        · exact le_max_of_le_left (hupper (.inl rfl))
        · rcases counts_concat_iff.mp hit_counts with hit_counts | ⟨rfl, -⟩
          · exact le_max_of_le_left (hupper (.inr ⟨hit, hit_counts, rfl⟩))
          · exact le_max_right _ _
    · rename_i hstale
      constructor
      · exact hmem.imp_right (Exists.imp fun hit hit_counts => hit_counts.imp_left (hgrow hit))
      · rintro a (rfl | ⟨hit, hit_counts, rfl⟩)
        · exact hupper (.inl rfl)
        · rcases counts_concat_iff.mp hit_counts with hit_counts | ⟨-, hcounts⟩
          · exact hupper (.inr ⟨hit, hit_counts, rfl⟩)
          · exact absurd hcounts hstale

end FreshMax
