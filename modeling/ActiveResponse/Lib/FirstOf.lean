import Mathlib.Data.List.Dedup
import Mathlib.Data.List.Pairwise

universe u v

/-! The first entry of every key, in the order of the list. -/

namespace FirstOf

variable {K : Type u} {A : Type v} [DecidableEq K]

/-- The entries whose keys have not been seen before. -/
def firsts (key : A → K) : List K → List A → List A
  | _, [] => []
  | seen, a :: rest => if key a ∈ seen then firsts key seen rest else a :: firsts key (key a :: seen) rest

variable {key : A → K} {seen : List K} {entries : List A}

theorem firsts_sublist : (firsts key seen entries).Sublist entries := by
  induction entries generalizing seen with
  | nil => exact List.Sublist.slnil
  | cons a rest ih =>
    rw [firsts]
    split
    · exact ih.cons a
    · exact ih.cons_cons a

theorem not_mem_seen {a : A} (h : a ∈ firsts key seen entries) : key a ∉ seen := by
  induction entries generalizing seen with
  | nil => cases h
  | cons b rest ih =>
    rw [firsts] at h
    split at h
    · exact ih h
    · rename_i hnew
      obtain rfl | hrest := List.mem_cons.mp h
      · exact hnew
      · exact fun hmem => ih hrest (List.mem_cons_of_mem _ hmem)

/-- No key is represented twice. -/
theorem nodup_firsts : ((firsts key seen entries).map key).Nodup := by
  induction entries generalizing seen with
  | nil => exact List.nodup_nil
  | cons a rest ih =>
    rw [firsts]
    split
    · exact ih
    · rw [List.map_cons, List.nodup_cons]
      refine ⟨fun hmem => ?_, ih⟩
      obtain ⟨b, hb, hkey⟩ := List.mem_map.mp hmem
      exact not_mem_seen hb (hkey ▸ List.mem_cons_self)

/-- The keys that are represented are those that had not been seen. -/
theorem mem_keys_firsts {k : K} :
    k ∈ (firsts key seen entries).map key ↔ k ∈ entries.map key ∧ k ∉ seen := by
  induction entries generalizing seen with
  | nil => simp [firsts]
  | cons a rest ih =>
    rw [firsts]
    split
    · rename_i hseen
      rw [ih, List.map_cons, List.mem_cons]
      constructor
      · exact fun h => ⟨.inr h.1, h.2⟩
      · rintro ⟨rfl | hrest, hnew⟩
        · exact absurd hseen hnew
        · exact ⟨hrest, hnew⟩
    · rename_i hnew
      rw [List.map_cons, List.map_cons, List.mem_cons, List.mem_cons, ih, List.mem_cons, not_or]
      constructor
      · rintro (rfl | ⟨hrest, -, hunseen⟩)
        · exact ⟨.inl rfl, hnew⟩
        · exact ⟨.inr hrest, hunseen⟩
      · rintro ⟨rfl | hrest, hunseen⟩
        · exact .inl rfl
        · by_cases hsame : k = key a
          · exact .inl hsame
          · exact .inr ⟨hrest, hsame, hunseen⟩

theorem mem_keys_firsts_nil {k : K} : k ∈ (firsts key [] entries).map key ↔ k ∈ entries.map key := by
  simp [mem_keys_firsts]

theorem length_firsts_nil : (firsts key [] entries).length = (entries.map key).dedup.length := by
  rw [← List.length_map key]
  refine List.Perm.length_eq ((List.perm_ext_iff_of_nodup nodup_firsts (List.nodup_dedup _)).mpr fun k => ?_)
  rw [mem_keys_firsts_nil, List.mem_dedup]

/-- An entry that is represented comes before all others of its key. -/
theorem first_of_pairwise {R : A → A → Prop} (hrefl : ∀ a, R a a) (hpairwise : entries.Pairwise R) {a b : A}
    (ha : a ∈ firsts key seen entries) (hb : b ∈ entries) (hkey : key b = key a) : R a b := by
  induction entries generalizing seen with
  | nil => cases hb
  | cons first rest ih =>
    obtain ⟨hfirst, hrest⟩ := List.pairwise_cons.mp hpairwise
    rw [firsts] at ha
    split at ha
    · rename_i hseen
      obtain rfl | hb := List.mem_cons.mp hb
      · exact absurd (hkey ▸ hseen) (not_mem_seen ha)
      · exact ih hrest ha hb
    · obtain rfl | ha := List.mem_cons.mp ha
      · obtain rfl | hb := List.mem_cons.mp hb
        · exact hrefl b
        · exact hfirst b hb
      · obtain rfl | hb := List.mem_cons.mp hb
        · exact absurd (hkey ▸ List.mem_cons_self) (not_mem_seen ha)
        · exact ih hrest ha hb

theorem firsts_map {B : Type*} {key : B → K} (f : A → B) (entries : List A) :
    firsts key seen (entries.map f) = (firsts (fun a => key (f a)) seen entries).map f := by
  induction entries generalizing seen with
  | nil => rfl
  | cons a rest ih =>
    rw [List.map_cons, firsts, firsts]
    split
    · exact ih
    · rw [List.map_cons, ih]

end FirstOf
