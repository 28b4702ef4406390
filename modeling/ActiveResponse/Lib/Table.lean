import Mathlib.Data.List.Nodup
import Mathlib.Data.List.Basic
import Mathlib.Data.List.Find
import Mathlib.Data.List.Sort
import Mathlib.Order.Defs.LinearOrder

universe u v w

/-- A record that carries its own primary key. -/
class Keyed (R : Type u) (K : outParam (Type v)) where
  key : R → K

/-- A relational table. The field `nodup` is the primary-key constraint, so a
table in which two rows share a key cannot be built. -/
structure Table (R : Type u) {K : Type v} [Keyed R K] where
  rows : List R
  nodup : (rows.map Keyed.key).Nodup

namespace Table

variable {R : Type u} {K : Type v} [Keyed R K]

open Keyed

def empty : Table R := ⟨[], List.nodup_nil⟩

/-- `UPDATE` of every row by a function that leaves the keys alone. -/
def update (self : Table R) (f : R → R) (hf : ∀ r, key (f r) = key r) : Table R :=
  ⟨self.rows.map f, by
    have hkeys : (self.rows.map f).map key = self.rows.map key := by
      simp [Function.comp_def, hf]
    rw [hkeys]
    exact self.nodup⟩

theorem ext_rows {self t : Table R} (h : self.rows = t.rows) : self = t := by
  cases self
  cases t
  simpa using h

@[simp] theorem rows_empty : (empty : Table R).rows = [] := rfl

@[simp] theorem rows_update (self : Table R) (f : R → R) (hf : ∀ r, key (f r) = key r) :
    (self.update f hf).rows = self.rows.map f := rfl

variable [DecidableEq K]

/-- `SELECT ... WHERE key = k`. -/
def get (self : Table R) (k : K) : Option R :=
  self.rows.find? fun r => decide (key r = k)

/-- `INSERT`, refused when the key is taken. -/
def insert (self : Table R) (row : R) : Option (Table R) :=
  if h : key row ∈ self.rows.map key then none
  else some ⟨self.rows ++ [row], by
    rw [List.map_append, List.nodup_append]
    refine ⟨self.nodup, by simp, ?_⟩
    rintro a ha b hb rfl
    simp only [List.map_cons, List.map_nil, List.mem_singleton] at hb
    exact h (hb ▸ ha)⟩

/-- `UPDATE ... WHERE key = key row`, writing the whole row. A table without
that key stays as it is. -/
def put (self : Table R) (row : R) : Table R :=
  self.update (fun r => if key r = key row then row else r) (by
    intro r
    split
    · rename_i h
      exact h.symm
    · rfl)

/-- `DELETE ... WHERE key = k`. -/
def delete (self : Table R) (k : K) : Table R :=
  ⟨self.rows.filter fun r => decide (key r ≠ k), self.nodup.sublist (List.filter_sublist.map key)⟩

/-- `DELETE ... WHERE p`. -/
def delete_where (self : Table R) (p : R → Bool) : Table R :=
  ⟨self.rows.filter fun r => !p r, self.nodup.sublist (List.filter_sublist.map key)⟩

/-- Read a row, change it and write it back. -/
def modify (self : Table R) (k : K) (f : R → R) : Table R :=
  match self.get k with
  | some row => self.put (f row)
  | none => self

@[simp] theorem get_empty (k : K) : (empty : Table R).get k = none := rfl

theorem get_mem {self : Table R} {k : K} {row : R} (h : self.get k = some row) :
    row ∈ self.rows := List.mem_of_find?_eq_some h

theorem key_of_get {self : Table R} {k : K} {row : R} (h : self.get k = some row) :
    key row = k := by
  have hfound := List.find?_some h
  simpa using hfound

theorem get_eq_none_iff {self : Table R} {k : K} :
    self.get k = none ↔ ∀ row ∈ self.rows, key row ≠ k := by
  simp [get, List.find?_eq_none]

/-- Distinct keys make lookup by a row's own key return that row. -/
theorem get_of_mem {self : Table R} {row : R} (h : row ∈ self.rows) :
    self.get (key row) = some row := by
  cases hget : self.get (key row) with
  | none => exact absurd rfl (get_eq_none_iff.mp hget row h)
  | some found =>
    have hinj := List.inj_on_of_nodup_map self.nodup
    rw [hinj (get_mem hget) h (key_of_get hget)]

theorem get_eq_some_iff {self : Table R} {k : K} {row : R} :
    self.get k = some row ↔ row ∈ self.rows ∧ key row = k := by
  constructor
  · intro h
    exact ⟨get_mem h, key_of_get h⟩
  · rintro ⟨hmem, rfl⟩
    exact get_of_mem hmem

omit [DecidableEq K] in
/-- In a column without repetitions at most one row has a given value. -/
theorem filter_of_nodup_map {A : Type w} [DecidableEq A] {f : R → A} {rows : List R} (h : (rows.map f).Nodup) (a : A) :
    rows.filter (fun r => decide (f r = a)) = (rows.find? fun r => decide (f r = a)).toList := by
  induction rows with
  | nil => rfl
  | cons row rows ih =>
    simp only [List.map_cons, List.nodup_cons, List.mem_map, not_exists, not_and] at h
    by_cases ha : f row = a
    · subst ha
      simpa using h.1
    · simpa [ha] using ih h.2

/-- At most one row has a given key. -/
theorem filter_key (self : Table R) (k : K) :
    self.rows.filter (fun r => decide (key r = k)) = (self.get k).toList :=
  filter_of_nodup_map self.nodup k

theorem insert_eq_some_iff {self t : Table R} {row : R} :
    self.insert row = some t ↔ self.get (key row) = none ∧ t.rows = self.rows ++ [row] := by
  unfold insert
  split
  · rename_i htaken
    simp only [reduceCtorEq, get_eq_none_iff, false_iff, not_and]
    intro hfree
    obtain ⟨other, hmem, hkey⟩ := List.mem_map.mp htaken
    exact absurd hkey (hfree other hmem)
  · rename_i hfree
    have hnone : self.get (key row) = none := by
      rw [get_eq_none_iff]
      intro other hmem hkey
      exact hfree (List.mem_map.mpr ⟨other, hmem, hkey⟩)
    simp only [Option.some.injEq, hnone, true_and]
    constructor
    · rintro rfl
      rfl
    · intro hrows
      cases t
      simpa using hrows.symm

/-- A free key can be inserted. -/
theorem exists_insert {self : Table R} {row : R} (h : self.get (key row) = none) :
    ∃ t, self.insert row = some t := by
  unfold insert
  split
  · rename_i htaken
    obtain ⟨other, hmem, hkey⟩ := List.mem_map.mp htaken
    exact absurd hkey (get_eq_none_iff.mp h other hmem)
  · exact ⟨_, rfl⟩

theorem mem_of_insert {self t : Table R} {row : R} (h : self.insert row = some t) {other : R} :
    other ∈ t.rows ↔ other ∈ self.rows ∨ other = row := by
  rw [(insert_eq_some_iff.mp h).2]
  simp

theorem get_of_insert {self t : Table R} {row : R} (h : self.insert row = some t) (k : K) :
    t.get k = if key row = k then some row else self.get k := by
  obtain ⟨hfree, hrows⟩ := insert_eq_some_iff.mp h
  split
  · rename_i hk
    subst hk
    exact get_of_mem ((mem_of_insert h).mpr (Or.inr rfl))
  · rename_i hk
    simp [get, hrows, List.find?_append, hk]

/-- An insert leaves the rows alone that are there. -/
theorem get_of_insert_of_get {self t : Table R} {row : R} (h : self.insert row = some t) {k : K} {old : R}
    (hget : self.get k = some old) : t.get k = some old := by
  rw [get_of_insert h, if_neg, hget]
  rintro rfl
  rw [(insert_eq_some_iff.mp h).1] at hget
  cases hget

theorem get_update (self : Table R) (f : R → R) (hf : ∀ r, key (f r) = key r) (k : K) :
    (self.update f hf).get k = (self.get k).map f := by
  have hkey : (fun r => decide (key r = k)) ∘ f = fun r => decide (key r = k) :=
    funext fun r => by rw [Function.comp_apply, hf]
  change (self.rows.map f).find? (fun r => decide (key r = k)) = _
  rw [List.find?_map, hkey]
  rfl

theorem get_put (self : Table R) (row : R) (k : K) :
    (self.put row).get k = if key row = k then (self.get k).map (fun _ => row) else self.get k := by
  rw [put, get_update]
  cases hget : self.get k with
  | none => simp
  | some old =>
    have hold := key_of_get hget
    subst hold
    by_cases hk : key old = key row
    · simp [hk]
    · simp [hk, Ne.symm hk]

theorem isSome_get_put {self : Table R} {row : R} {k : K} (h : (self.get k).isSome) : ((self.put row).get k).isSome := by
  rw [get_put]
  split
  · rwa [Option.isSome_map]
  · exact h

theorem mem_put {self : Table R} {row other : R} :
    other ∈ (self.put row).rows ↔
      (other = row ∧ (self.get (key row)).isSome) ∨ (other ∈ self.rows ∧ key other ≠ key row) := by
  constructor
  · intro hmem
    have hget := get_of_mem hmem
    rw [get_put] at hget
    split at hget
    · rename_i hk
      cases hold : self.get (key other) with
      | none => simp [hold] at hget
      | some old =>
        simp only [hold, Option.map_some, Option.some.injEq] at hget
        exact Or.inl ⟨hget.symm, by simp [hk, hold]⟩
    · rename_i hk
      exact Or.inr ⟨get_mem hget, Ne.symm hk⟩
  · rintro (⟨rfl, hsome⟩ | ⟨hmem, hk⟩)
    · obtain ⟨old, hold⟩ := Option.isSome_iff_exists.mp hsome
      exact get_mem (k := key other) (by rw [get_put, if_pos rfl, hold]; rfl)
    · exact get_mem (k := key other) (by rw [get_put, if_neg (Ne.symm hk)]; exact get_of_mem hmem)

theorem rows_put (self : Table R) (row : R) :
    (self.put row).rows = self.rows.map fun r => if key r = key row then row else r := rfl

theorem get_delete (self : Table R) (k j : K) : (self.delete k).get j = if k = j then none else self.get j := by
  change (self.rows.filter _).find? _ = _
  rw [List.find?_filter]
  split
  · rename_i hk
    subst hk
    simp [List.find?_eq_none]
  · rename_i hk
    refine List.find?_congr fun r _ => ?_
    by_cases hr : key r = j
    · simp [hr, Ne.symm hk]
    · simp [hr]

omit [DecidableEq K] in
/-- Nothing is deleted where nothing matches. -/
theorem delete_where_of_forall {self : Table R} {p : R → Bool} (h : ∀ row ∈ self.rows, ¬p row) :
    self.delete_where p = self := by
  apply ext_rows
  change self.rows.filter (fun r => !p r) = self.rows
  rw [List.filter_eq_self]
  intro row hrow
  simpa using h row hrow

theorem get_modify {self : Table R} {k : K} {f : R → R} (hf : ∀ r, key (f r) = key r) (j : K) :
    (self.modify k f).get j = if k = j then (self.get j).map f else self.get j := by
  unfold modify
  split
  · rename_i row hget
    have hrow := key_of_get hget
    simp only [get_put, hf, hrow]
    split
    · rename_i hk
      subst hk
      simp [hget]
    · rfl
  · rename_i hget
    split
    · rename_i hk
      subst hk
      simp [hget]
    · rfl

theorem mem_modify {self : Table R} {k : K} {f : R → R} (hf : ∀ r, key (f r) = key r) {row : R} :
    row ∈ (self.modify k f).rows ↔ ∃ old ∈ self.rows, row = if k = key old then f old else old := by
  constructor
  · intro hmem
    have hget := get_of_mem hmem
    rw [get_modify hf] at hget
    split at hget
    · rename_i hk
      cases hold : self.get (key row) with
      | none => simp [hold] at hget
      | some old =>
        simp only [hold, Option.map_some, Option.some.injEq] at hget
        have hkey : key old = key row := key_of_get hold
        exact ⟨old, get_mem hold, by rw [hkey, if_pos hk, hget]⟩
    · rename_i hk
      exact ⟨row, get_mem hget, by rw [if_neg hk]⟩
  · rintro ⟨old, hold, rfl⟩
    apply get_mem (k := key old)
    rw [get_modify hf, get_of_mem hold]
    split <;> rfl

/-- After a write to one row every row is related to what became of it, if the written row is. -/
theorem exists_get_modify {self : Table R} {k : K} {f : R → R} (hf : ∀ r, key (f r) = key r)
    {P : R → R → Prop} (hrefl : ∀ row, P row row) {target : R} (htarget : self.get k = some target)
    (hwrite : P target (f target)) {j : K} {row : R} (hget : self.get j = some row) :
    ∃ row', (self.modify k f).get j = some row' ∧ P row row' := by
  rw [get_modify hf, hget]
  split
  · rename_i hkey
    rw [← hkey, htarget] at hget
    cases hget
    exact ⟨f target, rfl, hwrite⟩
  · exact ⟨row, rfl, hrefl row⟩

/-- A write removes no row. -/
theorem isSome_get_modify {self : Table R} {k : K} {f : R → R} (hf : ∀ r, key (f r) = key r) {j : K}
    (h : (self.get j).isSome) : ((self.modify k f).get j).isSome := by
  rw [get_modify hf]
  split
  · simpa using h
  · exact h

/-- A write to one row, over all rows. -/
theorem rows_modify (self : Table R) (k : K) {f : R → R} (hf : ∀ r, key (f r) = key r) :
    (self.modify k f).rows = self.rows.map fun r => if key r = k then f r else r := by
  unfold modify
  split
  · rename_i row hget
    rw [rows_put]
    refine List.map_congr_left fun r hr => ?_
    rw [hf, key_of_get hget]
    split
    · rename_i hkey
      rw [← hkey, get_of_mem hr] at hget
      rw [Option.some.inj hget]
    · rfl
  · rename_i hget
    refine (List.map_id' _).symm.trans (List.map_congr_left fun r hr => ?_)
    rw [if_neg (get_eq_none_iff.mp hget r hr)]

theorem modify_of_get_none {self : Table R} {k : K} (f : R → R) (h : self.get k = none) :
    self.modify k f = self := by
  simp [modify, h]

/-- Two writes to one row are one write of the composed change. -/
theorem modify_modify {self : Table R} {k : K} {f g : R → R} (hf : ∀ r, key (f r) = key r)
    (hg : ∀ r, key (g r) = key r) : (self.modify k f).modify k g = self.modify k (g ∘ f) := by
  cases hget : self.get k with
  | none => simp [modify, hget]
  | some row =>
    have hrow : key row = k := key_of_get hget
    have hfirst : self.modify k f = self.put (f row) := by simp [modify, hget]
    have hsecond : (self.put (f row)).get k = some (f row) := by
      simp [get_put, hf, hrow, hget]
    have hcomposed : self.modify k (g ∘ f) = self.put (g (f row)) := by simp [modify, hget]
    rw [hfirst, hcomposed]
    simp only [modify, hsecond]
    apply ext_rows
    simp only [rows_put, List.map_map, hf, hg, hrow]
    apply List.map_congr_left
    intro other _
    by_cases hother : key other = k <;> simp [Function.comp, hother, hf, hrow]

/-- A write changes nothing exactly if the row has the written value already. -/
theorem modify_eq_self_iff {self : Table R} {k : K} {f : R → R} (hf : ∀ r, key (f r) = key r) {row : R}
    (h : self.get k = some row) : self.modify k f = self ↔ f row = row := by
  constructor
  · intro heq
    have hget : (self.modify k f).get k = _ := get_modify hf k
    rw [heq, if_pos rfl, h] at hget
    exact (Option.some.inj hget).symm
  · intro hrow
    apply ext_rows
    simp only [modify, h, hrow, rows_put]
    conv_rhs => rw [← List.map_id self.rows]
    apply List.map_congr_left
    intro other hother
    split
    · rename_i hkey
      rw [key_of_get h] at hkey
      have hsame := get_of_mem hother
      rw [hkey, h] at hsame
      exact Option.some.inj hsame
    · rfl

theorem modify_of_fixed {self : Table R} {k : K} {f : R → R} (hf : ∀ r, f r = r) : self.modify k f = self := by
  cases hget : self.get k with
  | none => exact modify_of_get_none f hget
  | some row => exact (modify_eq_self_iff (fun r => by rw [hf]) hget).mpr (hf row)

section Ordered

variable {A : Type w} [LinearOrder A]

/-- `SELECT ... WHERE p ORDER BY f DESC`. -/
def select_desc (self : Table R) (p : R → Bool) (f : R → A) : List R :=
  (self.rows.filter p).insertionSort fun a b => f b ≤ f a

/-- `SELECT ... WHERE p ORDER BY f ASC`. -/
def select_asc (self : Table R) (p : R → Bool) (f : R → A) : List R :=
  (self.rows.filter p).insertionSort fun a b => f a ≤ f b

/-- `SELECT ... WHERE p ORDER BY f DESC LIMIT 1`. -/
def latest (self : Table R) (p : R → Bool) (f : R → A) : Option R :=
  (self.select_desc p f).head?

variable {self : Table R} {p : R → Bool} {f : R → A}

omit [DecidableEq K] in
@[simp] theorem mem_select_desc {row : R} : row ∈ self.select_desc p f ↔ row ∈ self.rows ∧ p row := by
  simp [select_desc, List.mem_insertionSort]

omit [DecidableEq K] in
@[simp] theorem mem_select_asc {row : R} : row ∈ self.select_asc p f ↔ row ∈ self.rows ∧ p row := by
  simp [select_asc, List.mem_insertionSort]

omit [DecidableEq K] in
theorem mem_of_latest {row : R} (h : self.latest p f = some row) : row ∈ self.rows ∧ p row :=
  mem_select_desc.mp (List.mem_of_mem_head? h)

omit [DecidableEq K] in
theorem latest_eq_none_iff : self.latest p f = none ↔ ∀ row ∈ self.rows, ¬ p row := by
  rw [latest, List.head?_eq_none_iff, List.eq_nil_iff_forall_not_mem]
  simp only [mem_select_desc, not_and]

omit [DecidableEq K] in
/-- No row of a selection is followed by a greater one. -/
theorem pairwise_select_desc : (self.select_desc p f).Pairwise fun a b => f b ≤ f a :=
  haveI : Std.Total fun a b : R => f b ≤ f a := ⟨fun a b => le_total (f b) (f a)⟩
  haveI : IsTrans R fun a b => f b ≤ f a := ⟨fun _ _ _ hab hbc => le_trans hbc hab⟩
  List.pairwise_insertionSort _ _

omit [DecidableEq K] in
theorem pairwise_select_asc : (self.select_asc p f).Pairwise fun a b => f a ≤ f b :=
  haveI : Std.Total fun a b : R => f a ≤ f b := ⟨fun a b => le_total (f a) (f b)⟩
  haveI : IsTrans R fun a b => f a ≤ f b := ⟨fun _ _ _ hab hbc => le_trans hab hbc⟩
  List.pairwise_insertionSort _ _

omit [DecidableEq K] in
/-- No selected row comes after the latest one. -/
theorem le_of_latest {row : R} (h : self.latest p f = some row) {other : R} (hmem : other ∈ self.rows)
    (hp : p other) : f other ≤ f row := by
  have hsorted : (self.select_desc p f).Pairwise fun a b => f b ≤ f a := pairwise_select_desc
  have hother : other ∈ self.select_desc p f := mem_select_desc.mpr ⟨hmem, hp⟩
  unfold latest at h
  cases hrows : self.select_desc p f with
  | nil => simp [hrows] at h
  | cons first rest =>
    rw [hrows] at h hsorted hother
    obtain rfl : first = row := by simpa using h
    rcases List.mem_cons.mp hother with rfl | hrest
    · exact le_rfl
    · exact (List.pairwise_cons.mp hsorted).1 other hrest

/-- A write that leaves the selection and the order alone reaches the latest row where it stands. -/
theorem latest_modify {k : K} {g : R → R} (hg : ∀ r, key (g r) = key r) (hp : ∀ r, p (g r) = p r)
    (hf : ∀ r, f (g r) = f r) :
    (self.modify k g).latest p f = (self.latest p f).map fun r => if key r = k then g r else r := by
  have hselect : ∀ r, p (if key r = k then g r else r) = p r := fun r => by split <;> simp [hp]
  have horder : ∀ r, f (if key r = k then g r else r) = f r := fun r => by split <;> simp [hf]
  rw [latest, select_desc, rows_modify self k hg, List.filter_map, latest, select_desc, ← List.head?_map,
    List.map_insertionSort (fun a b => f b ≤ f a) (fun a b => f b ≤ f a) _ _ (by simp only [horder, implies_true])]
  simp only [Function.comp_def, hselect]

end Ordered

end Table

/-- The order in which the database returns the rows of a query without `ORDER BY`. -/
structure RowOrder (R : Type u) where
  order : List R → List R
  perm : ∀ rows, (order rows).Perm rows

namespace RowOrder

variable {R : Type u} {rows : List R}

/-- The order of the table. -/
def of_table : RowOrder R := ⟨id, List.Perm.refl⟩

/-- `scalars().first()` of a query that finds the rows. -/
def first (self : RowOrder R) (rows : List R) : Option R := (self.order rows).head?

variable {self : RowOrder R} {row : R}

theorem mem_of_first (h : self.first rows = some row) : row ∈ rows :=
  (self.perm rows).mem_iff.mp (List.mem_of_mem_head? h)

theorem first_eq_none_iff : self.first rows = none ↔ rows = [] := by
  rw [first, List.head?_eq_none_iff]
  constructor
  · intro hempty
    exact List.perm_nil.mp (hempty ▸ (self.perm rows).symm)
  · rintro rfl
    exact List.perm_nil.mp (self.perm [])

@[simp] theorem first_singleton : self.first [row] = some row := by
  rw [first, List.perm_singleton.mp (self.perm [row]), List.head?_cons]

/-- Each row comes first in some order. -/
theorem exists_first (h : row ∈ rows) : ∃ row_order : RowOrder R, row_order.first rows = some row := by
  classical
  refine ⟨⟨fun found => if row ∈ found then row :: found.erase row else found, ?_⟩, ?_⟩
  · intro found
    split
    · rename_i hmem
      exact (List.perm_cons_erase hmem).symm
    · exact .refl found
  · simp only [first, if_pos h, List.head?_cons]

end RowOrder
