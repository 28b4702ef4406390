import ActiveResponse.Lib.Assoc
import Mathlib.Algebra.GroupWithZero.Nat
import Mathlib.Data.List.Induction

universe u v w

/-! Grouping in a dictionary of lists, with the keys in the order of their first entry. -/

namespace GroupBy

variable {K : Type u} {A : Type v} {E : Type w} [DecidableEq K]

/-- `groups.setdefault(key, []).append(value)`. -/
def add (groups : List (K × List A)) (key : K) (value : A) : List (K × List A) :=
  Assoc.set groups key ((Assoc.view groups key).getD [] ++ [value])

/-- All entries, grouped by their keys. -/
def group (key : E → K) (value : E → A) (entries : List E) : List (K × List A) :=
  entries.foldl (fun groups entry => add groups (key entry) (value entry)) []

variable {key : E → K} {value : E → A}

theorem group_append (entries : List E) (entry : E) :
    group key value (entries ++ [entry]) = add (group key value entries) (key entry) (value entry) := by
  simp [group, List.foldl_append]

theorem group_keys_nodup (entries : List E) : ((group key value entries).map Prod.fst).Nodup := by
  induction entries using List.reverseRecOn with
  | nil => exact List.nodup_nil
  | append_singleton entries entry ih =>
    rw [group_append]
    exact Assoc.nodup_set ih _ _

/-- A group holds the values of its entries in their order, and there are no empty groups. -/
theorem view_group (entries : List E) (k : K) : Assoc.view (group key value entries) k =
    if entries.any fun entry => key entry = k then
      some ((entries.filter fun entry => key entry = k).map value)
    else none := by
  induction entries using List.reverseRecOn with
  | nil => rfl
  | append_singleton entries entry ih =>
    rw [group_append, add, Assoc.view_set, Function.update_apply]
    by_cases hk : k = key entry
    · subst hk
      rw [if_pos rfl, if_pos (by simp), ih]
      split
      · simp
      · rename_i hany
        have hnone : entries.filter (fun other => key other = key entry) = [] := by simpa using hany
        simp [hnone]
    · rw [if_neg hk, ih]
      simp [Ne.symm hk]

theorem values_of_mem_group {entries : List E} {k : K} {values : List A} (h : (k, values) ∈ group key value entries) :
    values = (entries.filter fun entry => key entry = k).map value := by
  have hview := Assoc.view_of_mem (group_keys_nodup entries) h
  rw [view_group] at hview
  split at hview
  · exact (Option.some.inj hview).symm
  · cases hview

/-- The keys are those of the entries. -/
theorem mem_keys_group {entries : List E} {k : K} :
    k ∈ (group key value entries).map Prod.fst ↔ k ∈ entries.map key := by
  rw [← not_iff_not, ← Assoc.view_eq_none_iff, view_group]
  simp

/-- A grouping is determined by its keys and the entries. -/
theorem group_eq_map (entries : List E) : group key value entries =
    ((group key value entries).map Prod.fst).map fun k =>
      (k, (entries.filter fun entry => key entry = k).map value) := by
  rw [List.map_map]
  conv_lhs => rw [← List.map_id (group key value entries)]
  refine List.map_congr_left fun entry hentry => ?_
  exact Prod.ext rfl (values_of_mem_group hentry)

/-- The keys do not depend on the order of the entries, apart from their own. -/
theorem keys_group_perm {entries others : List E} (h : entries.Perm others) :
    ((group key value entries).map Prod.fst).Perm ((group key value others).map Prod.fst) := by
  refine (List.perm_ext_iff_of_nodup (group_keys_nodup entries) (group_keys_nodup others)).mpr fun k => ?_
  rw [mem_keys_group, mem_keys_group, (h.map key).mem_iff]

/-- Other names for the keys are other names for the groups. -/
theorem group_comp {L : Type*} [DecidableEq L] {f : K → L} (hf : Function.Injective f) (entries : List E) :
    group (fun entry => f (key entry)) value entries = (group key value entries).map (Prod.map f id) := by
  induction entries using List.reverseRecOn with
  | nil => rfl
  | append_singleton entries entry ih =>
    rw [group_append, group_append, ih, add, add, Assoc.view_map_keys hf, Assoc.set_map_keys hf]

/-- Counts for each of several keys add up to one count of the entries with these keys. -/
theorem sum_countP (key : E → K) (p : E → Bool) {keys : List K} (hkeys : keys.Nodup) (entries : List E) :
    (keys.map fun k => entries.countP fun entry => decide (key entry = k) && p entry).sum =
      entries.countP fun entry => decide (key entry ∈ keys) && p entry := by
  induction keys with
  | nil => simp
  | cons k keys ih =>
    obtain ⟨hk, hkeys⟩ := List.nodup_cons.mp hkeys
    rw [List.map_cons, List.sum_cons, ih hkeys]
    clear ih
    induction entries with
    | nil => rfl
    | cons entry entries ih =>
      simp only [List.countP_cons, List.mem_cons] at ih ⊢
      by_cases hentry : key entry = k
      · have hnot : key entry ∉ keys := hentry ▸ hk
        simp only [hentry, hk, true_or, decide_true, decide_false, Bool.true_and, Bool.false_and, Bool.false_eq_true,
          if_false] at ih ⊢
        omega
      · simp only [hentry, false_or, decide_false, Bool.false_and, Bool.false_eq_true, if_false] at ih ⊢
        omega

end GroupBy
