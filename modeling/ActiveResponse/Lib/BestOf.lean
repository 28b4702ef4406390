import ActiveResponse.Lib.Assoc
import Mathlib.Data.List.Induction
import Mathlib.Data.List.Sort
import Mathlib.Order.Defs.LinearOrder

universe u v w

/-! # The greatest entry of every key -/

namespace BestOf

variable {A : Type u} {K : Type v} {R : Type w} [LinearOrder R]

/-- One entry for every key, no other of which is greater. -/
structure IsBest (key : A → K) (rank : A → R) (entries best : List A) : Prop where
  once : (best.map key).Nodup
  mem : ∀ a ∈ best, a ∈ entries
  covers : ∀ a ∈ entries, key a ∈ best.map key
  greatest : ∀ a ∈ best, ∀ b ∈ entries, key b = key a → rank b ≤ rank a

variable {key : A → K} {rank : A → R} {entries others best best' : List A}

theorem IsBest.perm (h : IsBest key rank entries best) (hperm : best'.Perm best) : IsBest key rank entries best' where
  once := (hperm.map key).nodup_iff.mpr h.once
  mem a ha := h.mem a (hperm.mem_iff.mp ha)
  covers a ha := (hperm.map key).mem_iff.mpr (h.covers a ha)
  greatest a ha := h.greatest a (hperm.mem_iff.mp ha)

/-- The keys and ranks of the best entries are those of any other choice. -/
theorem IsBest.mem_ranks (h : IsBest key rank entries best) (h' : IsBest key rank others best')
    (hsame : ∀ a, a ∈ entries ↔ a ∈ others) {pair : K × R} (hpair : pair ∈ best.map fun a => (key a, rank a)) :
    pair ∈ best'.map fun a => (key a, rank a) := by
  obtain ⟨a, ha, rfl⟩ := List.mem_map.mp hpair
  have hmem := h.mem a ha
  obtain ⟨b, hb, hkey⟩ := List.mem_map.mp (h'.covers a ((hsame a).mp hmem))
  have hle : rank b ≤ rank a := h.greatest a ha b ((hsame b).mpr (h'.mem b hb)) hkey
  have hge : rank a ≤ rank b := h'.greatest b hb a ((hsame a).mp hmem) hkey.symm
  exact List.mem_map.mpr ⟨b, hb, Prod.ext hkey (le_antisymm hle hge)⟩

theorem IsBest.nodup_ranks (h : IsBest key rank entries best) : (best.map fun a => (key a, rank a)).Nodup := by
  refine List.Nodup.of_map Prod.fst ?_
  rw [List.map_map]
  exact h.once

/-- Up to ties the best entries do not depend on the order of the list. -/
theorem IsBest.ranks_perm (h : IsBest key rank entries best) (h' : IsBest key rank others best')
    (hsame : ∀ a, a ∈ entries ↔ a ∈ others) :
    (best.map fun a => (key a, rank a)).Perm (best'.map fun a => (key a, rank a)) :=
  (List.perm_ext_iff_of_nodup h.nodup_ranks h'.nodup_ranks).mpr fun _ =>
    ⟨h.mem_ranks h' hsame, h'.mem_ranks h fun a => (hsame a).symm⟩

/-- The greatest first. Entries of one rank stay in their order. -/
def descending (rank : A → R) (entries : List A) : List A := entries.insertionSort fun a b => rank b ≤ rank a

theorem pairwise_descending (entries : List A) :
    (descending rank entries).Pairwise fun a b => rank b ≤ rank a :=
  haveI : Std.Total fun a b : A => rank b ≤ rank a := ⟨fun a b => le_total (rank b) (rank a)⟩
  haveI : IsTrans A fun a b => rank b ≤ rank a := ⟨fun _ _ _ hab hbc => le_trans hbc hab⟩
  List.pairwise_insertionSort _ _

theorem descending_perm (entries : List A) : (descending rank entries).Perm entries := List.perm_insertionSort _ _

/-- Descending lists of the same ranks have them at the same places. -/
theorem ranks_eq_of_perm (hbest : best.Pairwise fun a b => rank b ≤ rank a)
    (hbest' : best'.Pairwise fun a b => rank b ≤ rank a) (hperm : (best.map rank).Perm (best'.map rank)) :
    best.map rank = best'.map rank := by
  have hsorted : (best.map rank).Pairwise (· ≥ ·) := List.pairwise_map.mpr hbest
  have hsorted' : (best'.map rank).Pairwise (· ≥ ·) := List.pairwise_map.mpr hbest'
  exact hperm.eq_of_pairwise (fun a b _ _ hab hba => le_antisymm hba hab) hsorted hsorted'

variable [DecidableEq K]

/-- An entry takes the place of the one of its key if it is greater, or the first. -/
def keep (key : A → K) (rank : A → R) (dict : List (K × A)) (a : A) : List (K × A) :=
  match Assoc.view dict (key a) with
  | none => Assoc.set dict (key a) a
  | some old => if rank old < rank a then Assoc.set dict (key a) a else dict

/-- The dictionary holds under every key of the entries one of the greatest. -/
structure Holds (key : A → K) (rank : A → R) (entries : List A) (dict : List (K × A)) : Prop where
  nodup : (dict.map Prod.fst).Nodup
  view_some : ∀ k a, Assoc.view dict k = some a →
    a ∈ entries ∧ key a = k ∧ ∀ b ∈ entries, key b = k → rank b ≤ rank a
  view_none : ∀ k, Assoc.view dict k = none → ∀ a ∈ entries, key a ≠ k

theorem holds_nil : Holds key rank [] [] where
  nodup := List.nodup_nil
  view_some k a h := by cases h
  view_none k _ a ha := by cases ha

/-- A new entry that no known one exceeds goes into the dictionary. -/
theorem Holds.set {dict : List (K × A)} (h : Holds key rank entries dict) {a : A}
    (ha : ∀ b ∈ entries, key b = key a → rank b ≤ rank a) :
    Holds key rank (entries ++ [a]) (Assoc.set dict (key a) a) where
  nodup := Assoc.nodup_set h.nodup _ _
  view_some k b hb := by
    rw [Assoc.view_set, Function.update_apply] at hb
    split at hb
    · rename_i hk
      obtain rfl := Option.some.inj hb
      refine ⟨List.mem_append_right _ (List.mem_singleton_self a), hk.symm, fun c hc hkey => ?_⟩
      obtain hc | hc := List.mem_append.mp hc
      · exact ha c hc (hkey.trans hk)
      · exact (congrArg rank (List.mem_singleton.mp hc)).le
    · rename_i hk
      obtain ⟨hmem, hkey, hgreatest⟩ := h.view_some k b hb
      refine ⟨List.mem_append_left _ hmem, hkey, fun c hc hother => ?_⟩
      obtain hc | hc := List.mem_append.mp hc
      · exact hgreatest c hc hother
      · exact absurd (List.mem_singleton.mp hc ▸ hother).symm hk
  view_none k hk b hb := by
    rw [Assoc.view_set, Function.update_apply] at hk
    split at hk
    · cases hk
    · rename_i hne
      obtain hb | hb := List.mem_append.mp hb
      · exact h.view_none k hk b hb
      · rw [List.mem_singleton.mp hb]
        exact Ne.symm hne

/-- One that does not exceed the one of its key changes nothing. -/
theorem Holds.skip {dict : List (K × A)} (h : Holds key rank entries dict) {a old : A}
    (hold : Assoc.view dict (key a) = some old) (hle : rank a ≤ rank old) :
    Holds key rank (entries ++ [a]) dict where
  nodup := h.nodup
  view_some k b hb := by
    obtain ⟨hmem, hkey, hgreatest⟩ := h.view_some k b hb
    refine ⟨List.mem_append_left _ hmem, hkey, fun c hc hother => ?_⟩
    obtain hc | hc := List.mem_append.mp hc
    · exact hgreatest c hc hother
    · obtain rfl := List.mem_singleton.mp hc
      rw [hother, hb] at hold
      rwa [Option.some.inj hold]
  view_none k hk b hb := by
    obtain hb | hb := List.mem_append.mp hb
    · exact h.view_none k hk b hb
    · rw [List.mem_singleton.mp hb]
      rintro rfl
      rw [hold] at hk
      cases hk

theorem Holds.keep {dict : List (K × A)} (h : Holds key rank entries dict) (a : A) :
    Holds key rank (entries ++ [a]) (keep key rank dict a) := by
  rw [BestOf.keep]
  split
  · rename_i hnone
    exact h.set fun b hb hkey => absurd hkey (h.view_none _ hnone b hb)
  · rename_i old hold
    obtain ⟨-, -, hgreatest⟩ := h.view_some _ _ hold
    split
    · rename_i hlt
      exact h.set fun b hb hkey => (hgreatest b hb hkey).trans hlt.le
    · rename_i hle
      exact h.skip hold (not_lt.mp hle)

theorem holds_foldl (entries : List A) : Holds key rank entries (entries.foldl (BestOf.keep key rank) []) := by
  induction entries using List.reverseRecOn with
  | nil => exact holds_nil
  | append_singleton entries a ih =>
    rw [List.foldl_append, List.foldl_cons, List.foldl_nil]
    exact ih.keep a

/-- The values of the dictionary. -/
theorem Holds.isBest {dict : List (K × A)} (h : Holds key rank entries dict) :
    IsBest key rank entries (dict.map Prod.snd) := by
  have hview : ∀ entry ∈ dict, Assoc.view dict entry.1 = some entry.2 := fun entry => Assoc.view_of_mem h.nodup
  have hkeys : (dict.map Prod.snd).map key = dict.map Prod.fst := by
    rw [List.map_map]
    exact List.map_congr_left fun entry hentry => (h.view_some _ _ (hview entry hentry)).2.1
  refine ⟨hkeys ▸ h.nodup, ?_, fun a ha => ?_, ?_⟩
  · rintro a ha
    obtain ⟨entry, hentry, rfl⟩ := List.mem_map.mp ha
    exact (h.view_some _ _ (hview entry hentry)).1
  · rw [hkeys]
    by_contra hnew
    exact h.view_none _ (Assoc.view_eq_none_iff.mpr hnew) a ha rfl
  · rintro a ha b hb hkey
    obtain ⟨entry, hentry, rfl⟩ := List.mem_map.mp ha
    obtain ⟨-, hown, hgreatest⟩ := h.view_some _ _ (hview entry hentry)
    exact hgreatest b hb (hkey.trans hown)

theorem isBest_foldl (entries : List A) :
    IsBest key rank entries ((entries.foldl (BestOf.keep key rank) []).map Prod.snd) :=
  (holds_foldl entries).isBest

end BestOf
