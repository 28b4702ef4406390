import ActiveResponse.Core.Database

namespace larp

mutual

/-- The same JSON value. Booleans are no numbers, and the order of the entries of an object does not count. -/
def Json.same : Json → Json → Bool
  | .null, .null => true
  | .bool a, .bool b => a = b
  | .num p, .num q => p = q
  | .str a, .str b => a = b
  | .arr xs, .arr ys => Json.same_list xs ys
  | .obj xs, .obj ys => xs.length = ys.length ∧ Json.same_entries xs ys
  | _, _ => false

def Json.same_list : List Json → List Json → Bool
  | [], [] => true
  | x :: xs, y :: ys => x.same y && Json.same_list xs ys
  | _, _ => false

def Json.same_entries : List (String × Json) → Dict → Bool
  | [], _ => true
  | (key, x) :: rest, ys =>
    (match ys.get key with
      | some y => x.same y
      | none => false) && Json.same_entries rest ys

end

/-- `w` stands for the same JSON value as `v`. -/
def Json.Same (w v : Json) : Prop := w = v ∨ w.same v

/-- A dictionary with a `data` entry. -/
def Json.LooksWrapped (v : Json) : Prop := ∃ entries inner, v = .obj entries ∧ Dict.get entries "data" = some inner

theorem Json.ne_of_get {entries : Dict} {key : String} {inner : Json} (h : entries.get key = some inner) :
    inner ≠ .obj entries := by
  rintro rfl
  have hlt := List.sizeOf_lt_of_mem (Dict.mem_of_get h)
  simp only [Prod.mk.sizeOf_spec, Json.obj.sizeOf_spec] at hlt
  omega

namespace SystemSetting

/-- `setting.value.get("data", setting.value)`. -/
def data (self : SystemSetting) : Json := (self.value.get "data").getD (.obj self.value)

theorem data_of_not_looksWrapped {v : Json} (h : ¬v.LooksWrapped) (key : String) :
    data { key, value := Database.val_dict v } = v := by
  cases v with
  | obj entries =>
    have hnone : Dict.get entries "data" = none := by
      rw [Option.eq_none_iff_forall_ne_some]
      exact fun inner hinner => h ⟨entries, inner, rfl, hinner⟩
    simp [data, Database.val_dict, hnone]
  | null | bool | num | str | arr => rfl

theorem data_of_looksWrapped {v : Json} (h : v.LooksWrapped) (key : String) :
    data { key, value := Database.val_dict v } ≠ v := by
  obtain ⟨entries, inner, rfl, hget⟩ := h
  have hdata : data { key, value := Database.val_dict (.obj entries) } = inner := by
    simp [data, Database.val_dict, hget]
  rw [hdata]
  exact Json.ne_of_get hget

/-- A stored value that is `==` to the wrapped one has its shape, and differs from it as their data do. -/
theorem same_data_iff {self : SystemSetting} {v : Json} (hv : ¬v.LooksWrapped)
    (heq : (Json.obj self.value).py_eq (.obj (Database.val_dict v))) :
    self.data.Same v ↔ (Json.obj self.value).Same (.obj (Database.val_dict v)) := by
  have hentries := heq
  simp only [Json.py_eq, decide_eq_true_eq] at hentries
  obtain ⟨hlength, hentries⟩ := hentries
  cases v with
  | obj entries =>
    have hnone : self.value.get "data" = none := by
      rw [Option.eq_none_iff_forall_ne_some]
      intro inner hinner
      obtain ⟨other, hother, -⟩ := Json.py_eq_entries_mem hentries (Dict.mem_of_get hinner)
      exact hv ⟨entries, other, rfl, hother⟩
    simp [data, hnone, Database.val_dict]
  | null | bool | num | str | arr =>
    obtain ⟨⟨key, x⟩, hvalue⟩ := List.length_eq_one_iff.mp hlength
    obtain ⟨y, hy, -⟩ := Json.py_eq_entries_mem hentries (hvalue ▸ List.mem_singleton_self (key, x))
    have hkey : key = "data" := by
      by_contra hne
      simp [Database.val_dict, Dict.get, List.lookup_cons, beq_eq_false_iff_ne.mpr hne] at hy
    subst hkey
    simp [data, hvalue, Dict.get, Database.val_dict, Json.Same, Json.same, Json.same_entries]

end SystemSetting

namespace Database

theorem get_setting_eq (db : Database) (key : String) :
    db.get_setting key = (db.system_settings.get key).map SystemSetting.data := rfl

/-- The database takes the key: it has no NUL, and it fits the column or has its row already. -/
def TakesKey (db : Database) (key : String) : Prop :=
  '\x00' ∉ key.toList ∧ (key.length ≤ 128 ∨ (db.system_settings.get key).isSome)

theorem exists_set_key_iff (db : Database) (key : String) (v : Json) :
    (∃ after, db.set_key key v = .ok after) ↔ db.TakesKey key := by
  unfold set_key TakesKey
  by_cases hnul : '\x00' ∈ key.toList
  · simp [hnul]
  · rw [if_neg hnul]
    cases hget : db.system_settings.get key with
    | none =>
      have hfree : db.system_settings.get (Keyed.key (⟨key, val_dict v⟩ : SystemSetting)) = none := hget
      obtain ⟨system_settings, hinsert⟩ := Table.exists_insert hfree
      rw [hinsert]
      by_cases hfits : key.length ≤ 128
      · simp [varchar_str_ok hfits, hnul, hfits, Except.map]
      · obtain ⟨e, he⟩ := varchar_str_error hfits
        simp [he, hnul, hfits, Except.map]
    | some row =>
      have htaken : db.system_settings.insert ⟨key, val_dict v⟩ = none := by
        rw [Option.eq_none_iff_forall_ne_some]
        intro system_settings hinsert
        have hnone : db.system_settings.get key = none := (Table.insert_eq_some_iff.mp hinsert).1
        rw [hnone] at hget
        cases hget
      simp [htaken, hnul]

/-- The row of the key after `set_setting`. -/
theorem get_set_key {db after : Database} {key : String} {v : Json} (h : db.set_key key v = .ok after)
    (other : String) :
    after.system_settings.get other =
      if key = other then
        some ((db.system_settings.get key).elim { key, value := val_dict v } fun row =>
          { row with value := assign (fun a b => (Json.obj a).py_eq (.obj b)) row.value (val_dict v) row.value })
      else db.system_settings.get other := by
  unfold set_key at h
  split at h
  · cases h
  split at h
  · rename_i system_settings hinsert
    obtain ⟨_, _, rfl⟩ := map_eq_ok_iff.mp h
    have hnone : db.system_settings.get key = none := (Table.insert_eq_some_iff.mp hinsert).1
    rw [hnone]
    exact Table.get_of_insert hinsert other
  · rename_i htaken
    obtain rfl := Except.ok.inj h
    cases hget : db.system_settings.get key with
    | none =>
      have hfree : db.system_settings.get (Keyed.key (⟨key, val_dict v⟩ : SystemSetting)) = none := hget
      obtain ⟨t, ht⟩ := Table.exists_insert hfree
      rw [ht] at htaken
      cases htaken
    | some row =>
      change (db.system_settings.modify key _).get other = _
      rw [Table.get_modify]
      · split
        · rename_i hkey
          subst hkey
          rw [hget]
          rfl
        · rfl
      · exact fun _ => rfl

/-- The law of a setting that has been set: the copy of its row in the session and a later reading give the value back,
and no other setting has changed. -/
structure SettingLaw (db : Database) (key : String) (v : Json) : Prop where
  session : SystemSetting.data { key, value := val_dict v } = v
  stored : ∃ after, db.set_key key v = .ok after ∧ ∃ w, after.get_setting key = some w ∧ w.Same v
  others : ∀ after, db.set_key key v = .ok after → ∀ other ≠ key, after.get_setting other = db.get_setting other

/-- The database takes the key, the value has no `data` entry of its own, and the row of the key does not hold another
value that is `==` to the one to be written. -/
def ReadsBack (db : Database) (key : String) (v : Json) : Prop :=
  db.TakesKey key ∧ ¬v.LooksWrapped ∧ ∀ row, db.system_settings.get key = some row →
    (Json.obj row.value).py_eq (.obj (val_dict v)) → (Json.obj row.value).Same (.obj (val_dict v))

/-- The reading of a row that is there, for a value that is not taken for a wrapped one. -/
theorem same_stored_iff {db after : Database} {key : String} {v : Json} (h : db.set_key key v = .ok after)
    (hv : ¬v.LooksWrapped) {row : SystemSetting} (hrow : db.system_settings.get key = some row) :
    (∃ w, after.get_setting key = some w ∧ w.Same v) ↔
      ((Json.obj row.value).py_eq (.obj (val_dict v)) → (Json.obj row.value).Same (.obj (val_dict v))) := by
  rw [get_setting_eq, get_set_key h, if_pos rfl, hrow, Option.elim_some, Option.map_some]
  simp only [Option.some.injEq, exists_eq_left']
  by_cases heq : (Json.obj row.value).py_eq (.obj (val_dict v))
  · simp only [assign, heq, if_true, true_imp_iff]
    exact SystemSetting.same_data_iff hv heq
  · refine iff_of_true ?_ fun h => absurd h heq
    rw [assign, if_neg heq]
    exact .inl (SystemSetting.data_of_not_looksWrapped hv row.key)

/-- A setting reads back exactly if the database takes its key, its value has no `data` entry, and it is not left
unwritten over one that is only `==` to it. -/
theorem settingLaw_iff (db : Database) (key : String) (v : Json) : db.SettingLaw key v ↔ db.ReadsBack key v := by
  constructor
  · intro h
    have hv : ¬v.LooksWrapped := fun hv => SystemSetting.data_of_looksWrapped hv key h.session
    obtain ⟨after, hset, hstored⟩ := h.stored
    exact ⟨(db.exists_set_key_iff key v).mp ⟨after, hset⟩, hv, fun row hrow => (same_stored_iff hset hv hrow).mp hstored⟩
  · rintro ⟨hkey, hv, hrows⟩
    obtain ⟨after, hset⟩ := (db.exists_set_key_iff key v).mpr hkey
    refine ⟨SystemSetting.data_of_not_looksWrapped hv key, ⟨after, hset, ?_⟩, fun written hwritten other hother => ?_⟩
    · cases hrow : db.system_settings.get key with
      | some row => exact (same_stored_iff hset hv hrow).mpr (hrows row hrow)
      | none =>
        refine ⟨v, ?_, .inl rfl⟩
        rw [get_setting_eq, get_set_key hset, if_pos rfl, hrow, Option.elim_none, Option.map_some,
          SystemSetting.data_of_not_looksWrapped hv]
    · rw [get_setting_eq, get_set_key hwritten, if_neg hother.symm, get_setting_eq]

/-- A value that looks wrapped is read back as its `data`, and the rest of it is lost. -/
theorem not_settingLaw_data : ¬({} : Database).SettingLaw "note" (.obj [("data", .num 1), ("x", .num 2)]) := by
  intro h
  have hsession : Json.num 1 = .obj [("data", .num 1), ("x", .num 2)] := h.session
  cases hsession

end Database

end larp
