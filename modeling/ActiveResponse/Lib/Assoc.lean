import Mathlib.Data.List.Nodup
import Mathlib.Logic.Function.Basic

universe u v

/-! A dictionary as the list of its entries in the order of their insertion. -/

namespace Assoc

variable {K : Type u} {V : Type v} [DecidableEq K]

/-- `d[key] = value`. -/
def set : List (K × V) → K → V → List (K × V)
  | [], key, value => [(key, value)]
  | (k, v) :: rest, key, value => if k = key then (k, value) :: rest else (k, v) :: set rest key value

/-- `del d[key]`. -/
def erase (entries : List (K × V)) (key : K) : List (K × V) := entries.filter fun entry => entry.1 ≠ key

/-- The dictionary as a function. -/
def view (entries : List (K × V)) (key : K) : Option V := entries.lookup key

@[simp] theorem view_nil (key : K) : view ([] : List (K × V)) key = none := rfl

theorem view_cons (entry : K × V) (entries : List (K × V)) (key : K) :
    view (entry :: entries) key = if entry.1 = key then some entry.2 else view entries key := by
  obtain ⟨other, value⟩ := entry
  by_cases h : other = key
  · subst h
    simp [view]
  · simp [view, List.lookup_cons, h, beq_eq_false_iff_ne.mpr (Ne.symm h)]

theorem view_set (entries : List (K × V)) (key : K) (value : V) :
    view (set entries key value) = Function.update (view entries) key (some value) := by
  funext k
  rw [Function.update_apply]
  induction entries with
  | nil => simp [set, view_cons, eq_comm]
  | cons entry entries ih =>
    obtain ⟨other, old⟩ := entry
    by_cases hother : other = key
    · subst hother
      rw [set, if_pos rfl, view_cons, view_cons]
      by_cases hk : other = k
      · simp [hk]
      · simp [hk, Ne.symm hk]
    · rw [set, if_neg hother, view_cons, view_cons, ih]
      by_cases hk : other = k
      · have hne : k ≠ key := hk ▸ hother
        simp [hk, hne]
      · simp [hk]

theorem view_erase (entries : List (K × V)) (key : K) :
    view (erase entries key) = Function.update (view entries) key none := by
  funext k
  rw [Function.update_apply]
  induction entries with
  | nil => simp [erase]
  | cons entry entries ih =>
    obtain ⟨other, old⟩ := entry
    by_cases hother : other = key
    · have herase : erase ((other, old) :: entries) key = erase entries key := by simp [erase, hother]
      rw [herase, ih, view_cons]
      by_cases hk : k = key
      · simp [hk]
      · simp [hk, hother, Ne.symm hk]
    · have herase : erase ((other, old) :: entries) key = (other, old) :: erase entries key := by simp [erase, hother]
      rw [herase, view_cons, ih, view_cons]
      by_cases hk : other = k
      · have hne : k ≠ key := hk ▸ hother
        simp [hk, hne]
      · simp [hk]

theorem keys_set (entries : List (K × V)) (key : K) (value : V) : (set entries key value).map Prod.fst =
    if key ∈ entries.map Prod.fst then entries.map Prod.fst else entries.map Prod.fst ++ [key] := by
  induction entries with
  | nil => simp [set]
  | cons entry entries ih =>
    obtain ⟨other, old⟩ := entry
    by_cases hother : other = key
    · simp [set, hother]
    · rw [set, if_neg hother, List.map_cons, ih]
      by_cases hkey : key ∈ entries.map Prod.fst <;> simp [hkey, Ne.symm hother]

theorem nodup_set {entries : List (K × V)} (h : (entries.map Prod.fst).Nodup) (key : K) (value : V) :
    ((set entries key value).map Prod.fst).Nodup := by
  rw [keys_set]
  split
  · exact h
  · rename_i hkey
    refine List.nodup_append.mpr ⟨h, List.nodup_singleton _, ?_⟩
    rintro k hk k' hk' rfl
    exact hkey (List.mem_singleton.mp hk' ▸ hk)

theorem nodup_erase {entries : List (K × V)} (h : (entries.map Prod.fst).Nodup) (key : K) :
    ((erase entries key).map Prod.fst).Nodup :=
  h.sublist (List.filter_sublist.map Prod.fst)

theorem view_of_mem {entries : List (K × V)} (h : (entries.map Prod.fst).Nodup) {entry : K × V}
    (hentry : entry ∈ entries) : view entries entry.1 = some entry.2 := by
  induction entries with
  | nil => cases hentry
  | cons first entries ih =>
    rw [List.map_cons, List.nodup_cons] at h
    rw [view_cons]
    rcases List.mem_cons.mp hentry with rfl | hrest
    · exact if_pos rfl
    · rw [if_neg, ih h.2 hrest]
      rintro heq
      exact h.1 (heq ▸ List.mem_map_of_mem hrest)

theorem view_eq_none_iff {entries : List (K × V)} {key : K} :
    view entries key = none ↔ key ∉ entries.map Prod.fst := by
  rw [view, List.lookup_eq_none_iff, List.mem_map, not_exists]
  constructor
  · rintro h entry ⟨hentry, rfl⟩
    simpa using h entry hentry
  · intro h entry hentry
    simpa using fun heq => h entry ⟨hentry, heq.symm⟩

/-- A new key goes to the end. -/
theorem set_of_not_mem {entries : List (K × V)} {key : K} (h : key ∉ entries.map Prod.fst) (value : V) :
    set entries key value = entries ++ [(key, value)] := by
  induction entries with
  | nil => rfl
  | cons entry entries ih =>
    rw [List.map_cons, List.mem_cons, not_or] at h
    obtain ⟨other, old⟩ := entry
    rw [set, if_neg (Ne.symm h.1), ih h.2]
    rfl

/-- Entries with keys of their own are added as they are. -/
theorem foldl_set (dict : List (K × V)) {entries : List (K × V)} (h : ((dict ++ entries).map Prod.fst).Nodup) :
    entries.foldl (fun dict entry => set dict entry.1 entry.2) dict = dict ++ entries := by
  induction entries generalizing dict with
  | nil => rw [List.append_nil, List.foldl_nil]
  | cons entry entries ih =>
    have hnew : entry.1 ∉ dict.map Prod.fst := by
      rw [List.map_append, List.map_cons, List.nodup_middle, List.nodup_cons] at h
      exact fun hmem => h.1 (List.mem_append_left _ hmem)
    have hassoc : dict ++ entry :: entries = (dict ++ [entry]) ++ entries := by simp
    rw [hassoc] at h ⊢
    rw [List.foldl_cons, set_of_not_mem hnew, ih _ h]

section MapKeys

variable {L : Type*} [DecidableEq L] {f : K → L}

/-- Other names for the keys are other names in the dictionary. -/
theorem set_map_keys (hf : Function.Injective f) (entries : List (K × V)) (key : K) (value : V) :
    set (entries.map (Prod.map f id)) (f key) value = (set entries key value).map (Prod.map f id) := by
  induction entries with
  | nil => rfl
  | cons entry entries ih =>
    rw [List.map_cons, set, set, ih]
    simp only [Prod.map_fst, Prod.map_snd, hf.eq_iff, id]
    split <;> rfl

theorem view_map_keys (hf : Function.Injective f) (entries : List (K × V)) (key : K) :
    view (entries.map (Prod.map f id)) (f key) = view entries key := by
  induction entries with
  | nil => rfl
  | cons entry entries ih =>
    rw [List.map_cons, view_cons, view_cons, ih]
    simp only [Prod.map_fst, Prod.map_snd, hf.eq_iff, id]

end MapKeys

end Assoc
