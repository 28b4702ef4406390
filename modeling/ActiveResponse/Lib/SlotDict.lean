import Mathlib.Data.List.ReduceOption
import Mathlib.Data.List.Nodup
import Mathlib.Logic.Function.Basic

universe u v

/-- A hash table that keeps its entries in the order of their insertion, together with the slots of the entries
that have been deleted. -/
structure SlotDict (K : Type u) (V : Type v) where
  slots : List (Option (K × V)) := []
  keys_nodup : (slots.reduceOption.map Prod.fst).Nodup := by exact List.nodup_nil

namespace SlotDict

variable {K : Type u} {V : Type v}

def items (self : SlotDict K V) : List (K × V) := self.slots.reduceOption

def keys (self : SlotDict K V) : List K := self.items.map Prod.fst

/-- An iterator knows the number of entries when it was made, how many it has still to yield, and the slot it has
come to. -/
structure Cursor where
  used : ℕ
  len : ℕ
  pos : ℕ

def iter (self : SlotDict K V) : Cursor := { used := self.items.length, len := self.items.length, pos := 0 }

/-- The first entry, with the number of slots up to its own. -/
def first_live : List (Option (K × V)) → Option ((K × V) × ℕ)
  | [] => none
  | none :: slots => (first_live slots).map fun found => (found.1, found.2 + 1)
  | some entry :: _ => some (entry, 1)

/-- The next entry of an iterator. It raises if the number of entries has changed, and if it finds an entry when
it has yielded as many as there were. -/
def next (self : SlotDict K V) (cursor : Cursor) : Option (Option ((K × V) × Cursor)) :=
  if cursor.used ≠ self.items.length then none
  else
    match first_live (self.slots.drop cursor.pos) with
    | none => some none
    | some (entry, count) =>
      if cursor.len = 0 then none
      else some (some (entry, { cursor with len := cursor.len - 1, pos := cursor.pos + count }))

def ahead (self : SlotDict K V) (cursor : Cursor) : List (K × V) := (self.slots.drop cursor.pos).reduceOption

/-- The iterator does not raise. -/
structure Valid (s : SlotDict K V) (cursor : Cursor) : Prop where
  used : cursor.used = s.items.length
  len : cursor.len = (s.ahead cursor).length

variable {self : SlotDict K V} {cursor : Cursor}

theorem items_nodup (self : SlotDict K V) : self.items.Nodup := self.keys_nodup.of_map Prod.fst

theorem ahead_sublist : (self.ahead cursor).Sublist self.items := (List.drop_sublist _ _).filterMap id

@[simp] theorem ahead_iter : self.ahead self.iter = self.items := rfl

theorem valid_iter : self.Valid self.iter := ⟨rfl, rfl⟩

theorem first_live_eq_none {slots : List (Option (K × V))} (h : first_live slots = none) :
    slots.reduceOption = [] := by
  induction slots with
  | nil => rfl
  | cons slot slots ih =>
    cases slot with
    | none => exact ih (Option.map_eq_none_iff.mp h)
    | some entry => cases h

theorem first_live_eq_some {slots : List (Option (K × V))} {entry : K × V} {count : ℕ}
    (h : first_live slots = some (entry, count)) :
    slots.reduceOption = entry :: (slots.drop count).reduceOption := by
  induction slots generalizing count with
  | nil => cases h
  | cons slot slots ih =>
    cases slot with
    | none =>
      obtain ⟨⟨entry, before⟩, hfound, heq⟩ := Option.map_eq_some_iff.mp h
      cases heq
      exact ih hfound
    | some entry =>
      cases h
      rfl

/-- An iterator that does not raise yields what is ahead. -/
theorem Valid.next (h : self.Valid cursor) :
    (self.next cursor = some none ∧ self.ahead cursor = []) ∨
      ∃ entry cursor', self.next cursor = some (some (entry, cursor')) ∧
        self.ahead cursor = entry :: self.ahead cursor' ∧ self.Valid cursor' := by
  unfold SlotDict.next
  rw [if_neg (not_not_intro h.used)]
  cases hfirst : first_live (self.slots.drop cursor.pos) with
  | none => exact Or.inl ⟨rfl, first_live_eq_none hfirst⟩
  | some found =>
    obtain ⟨entry, count⟩ := found
    have hahead : self.ahead cursor = entry :: (self.slots.drop (cursor.pos + count)).reduceOption := by
      rw [← List.drop_drop]
      exact first_live_eq_some hfirst
    have hlen : cursor.len = (self.slots.drop (cursor.pos + count)).reduceOption.length + 1 := by
      rw [h.len, hahead, List.length_cons]
    refine Or.inr ⟨entry, { cursor with len := cursor.len - 1, pos := cursor.pos + count }, ?_, hahead, h.used, ?_⟩
    · exact if_neg (by omega)
    · change cursor.len - 1 = (self.slots.drop (cursor.pos + count)).reduceOption.length
      omega

/-- An iterator raises when the number of entries has changed. -/
theorem next_eq_none (h : cursor.used ≠ self.items.length) : self.next cursor = none := if_pos h

theorem reduceOption_filter_isSome (slots : List (Option (K × V))) :
    (slots.filter Option.isSome).reduceOption = slots.reduceOption := by
  induction slots with
  | nil => rfl
  | cons slot slots ih =>
    cases slot with
    | none => exact ih
    | some entry => exact congrArg (entry :: ·) ih

theorem reduceOption_map_filter (p : K × V → Bool) (slots : List (Option (K × V))) :
    (slots.map (Option.filter p)).reduceOption = slots.reduceOption.filter p := by
  induction slots with
  | nil => rfl
  | cons slot slots ih =>
    cases slot with
    | none => exact ih
    | some entry =>
      cases hp : p entry with
      | true => simp [Option.filter, hp, List.reduceOption_cons_of_some, ih]
      | false => simp [Option.filter, hp, List.reduceOption_cons_of_some, List.reduceOption_cons_of_none, ih]

variable [DecidableEq K]

def replace (key : K) (value : V) (entry : K × V) : K × V := if entry.1 = key then (key, value) else entry

theorem replace_fst (key : K) (value : V) (entry : K × V) : (replace key value entry).1 = entry.1 := by
  unfold replace
  split
  · rename_i heq
    exact heq.symm
  · rfl

theorem map_replace_fst (key : K) (value : V) (entries : List (K × V)) :
    (entries.map (replace key value)).map Prod.fst = entries.map Prod.fst := by
  rw [List.map_map]
  exact List.map_congr_left fun entry _ => replace_fst key value entry

/-- A key that is there keeps its slot, a new one is put at the end. The slots of deleted entries are dropped when
the table is `resized`. -/
def insert (self : SlotDict K V) (key : K) (value : V) (resized : Bool) : SlotDict K V :=
  if h : key ∈ self.keys then
    ⟨self.slots.map (Option.map (replace key value)), by
      rw [List.reduceOption_map, map_replace_fst]
      exact self.keys_nodup⟩
  else
    ⟨(if resized then self.slots.filter Option.isSome else self.slots) ++ [some (key, value)], by
      have hslots : (if resized then self.slots.filter Option.isSome else self.slots).reduceOption = self.items := by
        split
        · exact reduceOption_filter_isSome self.slots
        · rfl
      rw [List.reduceOption_append, hslots, List.map_append, List.nodup_append]
      refine ⟨self.keys_nodup, List.nodup_singleton key, ?_⟩
      rintro other hkey _ hnew rfl
      have heq : other = key := List.mem_singleton.mp hnew
      exact h (heq ▸ hkey)⟩

def delete (self : SlotDict K V) (key : K) : SlotDict K V :=
  ⟨self.slots.map (Option.filter fun entry => decide (entry.1 ≠ key)), by
    rw [reduceOption_map_filter]
    exact self.keys_nodup.sublist (List.filter_sublist.map Prod.fst)⟩

def get (self : SlotDict K V) (key : K) : Option V :=
  (self.items.find? fun entry => decide (entry.1 = key)).map Prod.snd

section Ops

variable {key : K} {value : V} {resized : Bool}

theorem ahead_insert_of_mem (h : key ∈ self.keys) :
    (self.insert key value resized).ahead cursor = (self.ahead cursor).map (replace key value) := by
  unfold insert ahead
  rw [dif_pos h, ← List.map_drop, List.reduceOption_map]

theorem items_insert_of_mem (h : key ∈ self.keys) :
    (self.insert key value resized).items = self.items.map (replace key value) := by
  unfold insert items
  rw [dif_pos h, List.reduceOption_map]

theorem items_insert_of_not_mem (h : key ∉ self.keys) :
    (self.insert key value resized).items = self.items ++ [(key, value)] := by
  unfold insert items
  rw [dif_neg h, List.reduceOption_append]
  cases resized with
  | false => rfl
  | true => exact congrArg (· ++ [(key, value)]) (reduceOption_filter_isSome self.slots)

theorem items_delete (self : SlotDict K V) (key : K) :
    (self.delete key).items = self.items.filter fun entry => decide (entry.1 ≠ key) :=
  reduceOption_map_filter _ self.slots

theorem get_insert (self : SlotDict K V) (key : K) (value : V) (resized : Bool) :
    (self.insert key value resized).get = Function.update self.get key (some value) := by
  funext k
  unfold get
  by_cases hmem : key ∈ self.keys
  · have hsame : (fun entry : K × V => decide (entry.1 = k)) ∘ replace key value =
        fun entry => decide (entry.1 = k) := funext fun entry => by rw [Function.comp_apply, replace_fst]
    rw [items_insert_of_mem hmem, List.find?_map, hsame, Option.map_map]
    by_cases hk : k = key
    · subst hk
      rw [Function.update_self]
      obtain ⟨entry, hentry, hkey⟩ := List.mem_map.mp hmem
      cases hfind : self.items.find? fun entry => decide (entry.1 = k) with
      | none => exact absurd (decide_eq_true hkey) (List.find?_eq_none.mp hfind entry hentry)
      | some found =>
        have hfound : found.1 = k := by simpa using List.find?_some hfind
        simp [replace, hfound]
    · rw [Function.update_of_ne hk]
      refine Option.map_congr fun found hfind => ?_
      have hfound : found.1 = k := by simpa using List.find?_some hfind
      simp [replace, hfound, hk]
  · rw [items_insert_of_not_mem hmem, List.find?_append]
    by_cases hk : k = key
    · subst hk
      have hnone : self.items.find? (fun entry => decide (entry.1 = k)) = none := by
        refine List.find?_eq_none.mpr fun entry hentry heq => hmem ?_
        exact List.mem_map.mpr ⟨entry, hentry, of_decide_eq_true heq⟩
      simp [hnone]
    · simp [hk, Ne.symm hk]

theorem get_delete (self : SlotDict K V) (key : K) : (self.delete key).get = Function.update self.get key none := by
  funext k
  unfold get
  rw [items_delete, List.find?_filter]
  by_cases hk : k = key
  · subst hk
    rw [Function.update_self, Option.map_eq_none_iff]
    refine List.find?_eq_none.mpr fun entry _ => ?_
    simp
  · rw [Function.update_of_ne hk]
    congr 2
    funext entry
    by_cases hentry : entry.1 = k
    · simp [hentry, hk]
    · simp [hentry]

theorem get_eq_none (h : key ∉ self.keys) : self.get key = none := by
  refine Option.map_eq_none_iff.mpr (List.find?_eq_none.mpr fun entry hentry heq => h ?_)
  exact List.mem_map.mpr ⟨entry, hentry, of_decide_eq_true heq⟩

end Ops

end SlotDict
