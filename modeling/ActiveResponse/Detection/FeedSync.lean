import ActiveResponse.Detection.ThreatFeed

namespace larp

namespace ThreatStore

/-- The store after a synchronisation. One that raises has committed the status `syncing` only. -/
def after_sync (self : ThreatStore) (call : FeedSync) (text feed_id : String) : ThreatStore :=
  match self.sync_feed call (.ok (200, text)) feed_id with
  | .ok (_, store) => store
  | .error _ => self.set_status feed_id "syncing"

/-- The number of rows with the value and the type. -/
def stored (self : ThreatStore) (value indicator_type : String) : ℕ :=
  self.threat_indicators.rows.countP fun row => row.value = value ∧ row.indicator_type = indicator_type

/-- What a change of the indicators keeps: no value is stored twice under a type because of it, and no confidence is
lowered. -/
structure Grown (before after : ThreatStore) : Prop where
  unique : ∀ value indicator_type, before.stored value indicator_type ≤ 1 → after.stored value indicator_type ≤ 1
  confidence : ∀ id row, before.threat_indicators.get id = some row →
    ∃ later, after.threat_indicators.get id = some later ∧ row.confidence ≤ later.confidence

/-- The feed has counted the rows that the second store has more than the first. -/
def Counted (feed_id : String) (before after : ThreatStore) : Prop :=
  ∀ feed, before.feeds.get feed_id = some feed → ∃ later, after.feeds.get feed_id = some later ∧
    later.indicator_count + before.threat_indicators.rows.length =
      feed.indicator_count + after.threat_indicators.rows.length

theorem Grown.refl (self : ThreatStore) : self.Grown self where
  unique _ _ h := h
  confidence _ row h := ⟨row, h, le_refl _⟩

theorem Grown.trans {first second third : ThreatStore} (h : first.Grown second) (hnext : second.Grown third) :
    first.Grown third where
  unique value indicator_type hone := hnext.unique value indicator_type (h.unique value indicator_type hone)
  confidence id row hget := by
    obtain ⟨later, hlater, hle⟩ := h.confidence id row hget
    obtain ⟨last, hlast, hmore⟩ := hnext.confidence id later hlater
    exact ⟨last, hlast, le_trans hle hmore⟩

/-- The second store has the rows of the first, by their ids, and no others. -/
def AddsNothing (before after : ThreatStore) : Prop :=
  after.threat_indicators.rows.map ThreatIndicator.id = before.threat_indicators.rows.map ThreatIndicator.id

theorem stored_eq_length {self : ThreatStore} {value indicator_type : String} (htype : indicator_type ≠ "") :
    self.stored value indicator_type = (self.found value indicator_type).length := by
  simp [found, stored, htype, List.countP_eq_length_filter]

/-! ## A round of the loop -/

section Round

variable {call : FeedSync} {feed : ThreatFeed} {start next : Import} {val : String}

@[simp] theorem confirm_confirm (feed_type : String) (row : ThreatIndicator) :
    confirm feed_type (confirm feed_type row) = confirm feed_type row := by
  simp [confirm]

@[simp] theorem confirm_imported_row : confirm feed.feed_type (imported_row call feed val) = imported_row call feed val := by
  simp [confirm, imported_row]

/-- A round that fails has found no row, and cannot insert one. -/
theorem import_ioc_error {e : AppException} (h : Import.import_ioc call feed start val = .error e) :
    start.store.found val feed.feed_type = [] ∧
      (256 < val.length ∨ ∃ row, start.store.threat_indicators.get (call.new_id val) = some row) := by
  unfold Import.import_ioc at h
  split at h
  · cases h
  · rename_i hnone
    refine ⟨RowOrder.first_eq_none_iff.mp hnone, ?_⟩
    by_cases hlength : val.length ≤ 256
    · right
      rw [Database.varchar, if_pos hlength] at h
      simp only [bind, Except.bind] at h
      split at h
      · cases h
      · rename_i hinsert
        by_contra htaken
        have hfree : start.store.threat_indicators.get (call.new_id val) = none := by
          simpa [Option.eq_none_iff_forall_ne_some] using htaken
        have hkey : start.store.threat_indicators.get (Keyed.key (imported_row call feed val)) = none := hfree
        obtain ⟨table, htable⟩ := Table.exists_insert hkey
        cases hinsert.symm.trans htable
    · exact .inl (not_le.mp hlength)

theorem stored_of_found_eq_nil {self : ThreatStore} {value indicator_type : String}
    (h : self.found value indicator_type = []) : self.stored value indicator_type = 0 := by
  rw [stored, List.countP_eq_zero]
  intro row hrow
  have hnot := List.filter_eq_nil_iff.mp h row hrow
  simp only [decide_eq_true_eq, not_and, not_or] at hnot ⊢
  exact fun hvalue => (hnot hvalue).2

/-- What a round inserts had not been stored, and what it confirms stays the row that it is. -/
theorem import_ioc_grown (h : Import.import_ioc call feed start val = .ok next) :
    start.store.Grown next.store := by
  obtain ⟨existing, hexisting, -, -, hmodify⟩ | ⟨hempty, -, -, -, hinsert⟩ := import_ioc_cases h
  · constructor
    · intro value indicator_type hone
      have hsame : next.store.stored value indicator_type = start.store.stored value indicator_type := by
        rw [stored, stored, hmodify, Table.rows_modify _ _ (key_confirm _), List.countP_map]
        congr 1
        funext row
        simp only [Function.comp_apply]
        split <;> rfl
      rwa [hsame]
    · intro id row hget
      rw [hmodify]
      exact Table.exists_get_modify (P := fun row later => row.confidence ≤ later.confidence) (key_confirm _)
        (fun _ => le_refl _) (get_of_lookup hexisting) (le_max_left ..) hget
  · constructor
    · intro value indicator_type hone
      rw [stored, (Table.insert_eq_some_iff.mp hinsert).2, List.countP_append]
      by_cases hown : val = value ∧ feed.feed_type = indicator_type
      · obtain ⟨rfl, rfl⟩ := hown
        have hzero := stored_of_found_eq_nil hempty
        rw [stored] at hzero
        rw [hzero, Nat.zero_add]
        exact List.countP_le_length
      · have hother : [imported_row call feed val].countP
            (fun row => row.value = value ∧ row.indicator_type = indicator_type) = 0 := by
          simpa [imported_row] using hown
        rw [hother]
        exact hone
    · intro id row hget
      exact ⟨row, Table.get_of_insert_of_get hinsert hget, le_refl _⟩

/-- The counter of a round follows the number of rows. -/
theorem import_ioc_counted (h : Import.import_ioc call feed start val = .ok next) :
    next.store.feeds = start.store.feeds ∧
      next.added + start.store.threat_indicators.rows.length =
        start.added + next.store.threat_indicators.rows.length := by
  obtain ⟨existing, -, hadded, hfeeds, hmodify⟩ | ⟨-, -, hadded, hfeeds, hinsert⟩ := import_ioc_cases h
  · rw [hadded, hmodify, Table.rows_modify _ _ (key_confirm _), List.length_map]
    exact ⟨hfeeds, rfl⟩
  · rw [hadded, (Table.insert_eq_some_iff.mp hinsert).2, List.length_append, List.length_singleton]
    exact ⟨hfeeds, by omega⟩

/-- Rows whose values are stored already are confirmed, not added. -/
theorem import_ioc_of_found (call : FeedSync) (h : start.store.found val feed.feed_type ≠ []) :
    ∃ next, Import.import_ioc call feed start val = .ok next ∧ start.store.AddsNothing next.store ∧
      ∀ query kind, next.store.found query kind = [] ↔ start.store.found query kind = [] := by
  cases hexisting : start.store.lookup (call.row_order val) val feed.feed_type with
  | none => exact absurd (RowOrder.first_eq_none_iff.mp hexisting) h
  | some existing =>
    refine ⟨_, by rw [Import.import_ioc, hexisting], ?_, ?_⟩
    · rw [AddsNothing, Table.rows_modify _ _ (key_confirm _), List.map_map]
      apply List.map_congr_left
      intro row hrow
      simp only [Function.comp_apply]
      split <;> rfl
    · intro query kind
      rw [found_modify (f := confirm feed.feed_type) (fun _ => rfl) (fun _ => rfl) (fun _ => rfl) rfl,
        List.map_eq_nil_iff]

/-- A round on a confirmed row changes nothing. -/
theorem import_ioc_of_confirmed {row : ThreatIndicator} (hfound : start.store.found val feed.feed_type = [row])
    (hrow : confirm feed.feed_type row = row) :
    Import.import_ioc call feed start val = .ok { start with updated := start.updated + 1 } := by
  have hlookup : start.store.lookup (call.row_order val) val feed.feed_type = some row := by
    rw [lookup, hfound, RowOrder.first_singleton]
  have hsame : start.store.threat_indicators.modify row.id (confirm feed.feed_type) = start.store.threat_indicators :=
    (Table.modify_eq_self_iff (key_confirm _) (get_of_lookup hlookup)).mpr hrow
  simp only [Import.import_ioc, hlookup, hsame]

end Round

/-! ## The loop -/

section Loop

variable {call : FeedSync} {feed : ThreatFeed} {start next : Import} {iocs : List String}

theorem import_iocs_kept (h : iocs.foldlM (Import.import_ioc call feed) start = .ok next) :
    start.store.Grown next.store ∧ next.store.feeds = start.store.feeds ∧
      next.added + start.store.threat_indicators.rows.length =
        start.added + next.store.threat_indicators.rows.length := by
  induction iocs generalizing start with
  | nil =>
    cases h
    exact ⟨.refl _, rfl, rfl⟩
  | cons val iocs ih =>
    rw [List.foldlM_cons] at h
    obtain ⟨first, hfirst, hrest⟩ := bind_eq_ok_iff.mp h
    obtain ⟨hgrown, hfeeds, hadded⟩ := ih hrest
    obtain ⟨hfirst_feeds, hfirst_added⟩ := import_ioc_counted hfirst
    exact ⟨(import_ioc_grown hfirst).trans hgrown, hfeeds.trans hfirst_feeds, by omega⟩

/-- A loop over values that are stored already adds nothing. -/
theorem import_iocs_of_found (call : FeedSync) (feed : ThreatFeed) (start : Import)
    (h : ∀ val ∈ iocs, start.store.found val feed.feed_type ≠ []) :
    ∃ next, iocs.foldlM (Import.import_ioc call feed) start = .ok next ∧ start.store.AddsNothing next.store := by
  induction iocs generalizing start with
  | nil => exact ⟨start, rfl, rfl⟩
  | cons val iocs ih =>
    obtain ⟨first, hfirst, hids, hfound⟩ := import_ioc_of_found call (h val List.mem_cons_self)
    obtain ⟨next, hnext, hmore⟩ := ih first fun other hother hempty =>
      h other (List.mem_cons_of_mem _ hother) ((hfound other feed.feed_type).mp hempty)
    rw [List.foldlM_cons, hfirst]
    exact ⟨next, hnext, hmore.trans hids⟩

/-- A loop over confirmed rows changes nothing. -/
theorem import_iocs_of_confirmed (call : FeedSync) (feed : ThreatFeed) (start : Import) (h : ∀ val ∈ iocs, ∃ row,
    start.store.found val feed.feed_type = [row] ∧ confirm feed.feed_type row = row) :
    iocs.foldlM (Import.import_ioc call feed) start = .ok { start with updated := start.updated + iocs.length } := by
  induction iocs generalizing start with
  | nil => rfl
  | cons val iocs ih =>
    obtain ⟨row, hfound, hrow⟩ := h val List.mem_cons_self
    rw [List.foldlM_cons, import_ioc_of_confirmed hfound hrow]
    rw [List.length_cons, Nat.add_comm iocs.length, ← Nat.add_assoc]
    exact ih _ fun other hother => h other (List.mem_cons_of_mem _ hother)

/-- A row that a round leaves alone with its value is confirmed. -/
theorem confirmed_of_import_rows {val : String} {rows : List ThreatIndicator}
    (h : (import_rows call feed val rows).length ≤ 1) :
    ∃ row, import_rows call feed val rows = [row] ∧ confirm feed.feed_type row = row := by
  unfold import_rows at h ⊢
  split
  · rename_i existing hexisting
    rw [hexisting] at h
    simp only [List.length_map] at h
    have hone : rows = [existing] := by
      obtain ⟨row, rfl⟩ := List.length_eq_one_iff.mp
        (le_antisymm h (List.length_pos_of_mem (RowOrder.mem_of_first hexisting)))
      rw [RowOrder.first_singleton] at hexisting
      rw [Option.some.inj hexisting]
    subst hone
    exact ⟨confirm feed.feed_type existing, by simp, confirm_confirm _ _⟩
  · exact ⟨_, rfl, confirm_imported_row⟩

/-- A value that the column cannot hold, and that is not stored already, makes the loop fail. -/
theorem import_iocs_length (htype : feed.feed_type ≠ "") (hnodup : iocs.Nodup)
    (h : iocs.foldlM (Import.import_ioc call feed) start = .ok next) :
    ∀ val ∈ iocs, start.store.found val feed.feed_type = [] → val.length ≤ 256 := by
  induction iocs generalizing start with
  | nil => simp
  | cons val iocs ih =>
    rw [List.foldlM_cons] at h
    obtain ⟨first, hfirst, hrest⟩ := bind_eq_ok_iff.mp h
    obtain ⟨hval, hnodup⟩ := List.nodup_cons.mp hnodup
    intro other hother hempty
    obtain rfl | hmem := List.mem_cons.mp hother
    · obtain ⟨existing, hexisting, -⟩ | ⟨-, hlength, -⟩ := import_ioc_cases hfirst
      · rw [lookup, hempty] at hexisting
        cases RowOrder.mem_of_first hexisting
      · exact hlength
    · refine ih hnodup hrest other hmem ?_
      rw [(found_import_ioc htype hfirst).2 other feed.feed_type htype fun h => hval (h.1 ▸ hmem)]
      exact hempty

/-- With new ids nothing else makes it fail. -/
theorem import_iocs_error (htype : feed.feed_type ≠ "") (hinjective : Function.Injective call.new_id)
    (hnodup : iocs.Nodup) (hfresh : ∀ val ∈ iocs, start.store.threat_indicators.get (call.new_id val) = none)
    {e : AppException}
    (h : iocs.foldlM (Import.import_ioc call feed) start = .error e) :
    ∃ val ∈ iocs, start.store.found val feed.feed_type = [] ∧ 256 < val.length := by
  induction iocs generalizing start with
  | nil => cases h
  | cons val iocs ih =>
    rw [List.foldlM_cons] at h
    cases hfirst : Import.import_ioc call feed start val with
    | error e =>
      obtain ⟨hempty, hlong | ⟨row, htaken⟩⟩ := import_ioc_error hfirst
      · exact ⟨val, List.mem_cons_self, hempty, hlong⟩
      · cases (hfresh val List.mem_cons_self).symm.trans htaken
    | ok first =>
      rw [hfirst] at h
      obtain ⟨hval, hnodup⟩ := List.nodup_cons.mp hnodup
      have hrest : ∀ other ∈ iocs, first.store.threat_indicators.get (call.new_id other) = none := by
        intro other hother
        have hfree := hfresh other (List.mem_cons_of_mem _ hother)
        obtain ⟨existing, -, -, -, hmodify⟩ | ⟨-, -, -, -, hinsert⟩ := import_ioc_cases hfirst
        · rw [hmodify, Table.get_modify (key_confirm _), hfree]
          split <;> rfl
        · rw [Table.get_of_insert hinsert, if_neg, hfree]
          exact fun hkey => hval (hinjective hkey ▸ hother)
      obtain ⟨other, hother, hempty, hlong⟩ := ih hnodup hrest h
      refine ⟨other, List.mem_cons_of_mem _ hother, ?_, hlong⟩
      rw [← (found_import_ioc htype hfirst).2 other feed.feed_type htype fun h => hval (h.1 ▸ hother)]
      exact hempty

end Loop

/-! ## Two synchronisations -/

section Sync

variable {self : ThreatStore} {call : FeedSync} {text feed_id : String} {feed : ThreatFeed}

theorem after_sync_of_none (h : self.feeds.get feed_id = none) : self.after_sync call text feed_id = self := by
  simp only [after_sync, sync_feed, h]

/-- The loop of a synchronisation. -/
def import_all (self : ThreatStore) (call : FeedSync) (text : String) (feed : ThreatFeed) :
    Except AppException Import :=
  (extract_indicators call.set_order text feed.feed_type).foldlM (Import.import_ioc call feed) { store := self }

theorem after_sync_of_some (h : self.feeds.get feed_id = some feed) :
    self.after_sync call text feed_id =
      match self.import_all call text feed with
      | .ok imported => imported.finish feed_id call.now
      | .error _ => self.set_status feed_id "syncing" := by
  simp only [after_sync, sync_feed, h, ne_eq, not_true_eq_false, if_false, import_all]
  split
  · rename_i heq
    split at heq <;> cases heq
    rename_i hfold
    rw [hfold]
  · rename_i heq
    split at heq <;> cases heq
    rename_i hfold
    rw [hfold]

/-- What a synchronisation does, to its feed and to the indicators. -/
theorem after_sync_kept (call : FeedSync) (text : String) (h : self.feeds.get feed_id = some feed) :
    self.Grown (self.after_sync call text feed_id) ∧
      ∃ later, (self.after_sync call text feed_id).feeds.get feed_id = some later ∧
        later.feed_type = feed.feed_type ∧
        later.indicator_count + self.threat_indicators.rows.length =
          feed.indicator_count + (self.after_sync call text feed_id).threat_indicators.rows.length := by
  have hmodify {f : ThreatFeed → ThreatFeed} (hf : ∀ row, (f row).id = row.id) :
      (self.feeds.modify feed_id f).get feed_id = some (f feed) := by
    rw [Table.get_modify hf, if_pos rfl, h]
    rfl
  rw [after_sync_of_some h]
  split
  · rename_i imported himported
    obtain ⟨hgrown, hfeeds, hadded⟩ := import_iocs_kept himported
    refine ⟨⟨hgrown.unique, hgrown.confidence⟩, ?_⟩
    simp only [Import.finish, hfeeds]
    refine ⟨_, hmodify fun _ => rfl, rfl, ?_⟩
    dsimp only at hadded ⊢
    omega
  · have hsame := Grown.refl self
    exact ⟨⟨hsame.unique, hsame.confidence⟩, _, hmodify fun _ => rfl, rfl, rfl⟩

/-- A feed without a type yields nothing. -/
theorem extracted_of_no_type (text : String) : extracted text "" = [] := by
  have hnone : accept_line "" = fun _ => [] := by
    funext line
    simp [accept_line]
  simp [extracted, accepted_indicators, hnone]

end Sync

/-- A synchronisation stores nothing twice, lowers no confidence and counts what it adds. -/
theorem after_sync_spec (self : ThreatStore) (call : FeedSync) (text feed_id : String) :
    self.Grown (self.after_sync call text feed_id) ∧ Counted feed_id self (self.after_sync call text feed_id) := by
  cases hfeed : self.feeds.get feed_id with
  | none =>
    rw [after_sync_of_none hfeed]
    exact ⟨.refl self, fun feed hsome => by rw [hfeed] at hsome; cases hsome⟩
  | some feed =>
    obtain ⟨hgrown, later, hlater, -, hcount⟩ := after_sync_kept call text hfeed
    refine ⟨hgrown, fun other hother => ?_⟩
    rw [hfeed, Option.some.injEq] at hother
    subst hother
    exact ⟨later, hlater, hcount⟩

/-- A loop over values that have been imported confirms their rows. -/
theorem import_iocs_again {call : FeedSync} (second : FeedSync) {feed later : ThreatFeed} {start imported : Import}
    {iocs again : List String} (store : ThreatStore) (htype : feed.feed_type ≠ "") (hlater : later.feed_type = feed.feed_type)
    (hnodup : iocs.Nodup) (himport : iocs.foldlM (Import.import_ioc call feed) start = .ok imported)
    (hagain : ∀ val ∈ again, val ∈ iocs)
    (hstore : store.threat_indicators = imported.store.threat_indicators) :
    ∃ next, again.foldlM (Import.import_ioc second later) { store } = .ok next ∧ store.AddsNothing next.store ∧
      ((∀ value indicator_type, store.stored value indicator_type ≤ 1) → next.store = store) := by
  have hfound : ∀ val ∈ again, store.found val later.feed_type =
      import_rows call feed val (start.store.found val feed.feed_type) := by
    intro val hval
    rw [hlater, found, hstore]
    exact (found_import_iocs htype hnodup himport).1 val (hagain val hval)
  obtain ⟨next, hnext, hids⟩ := import_iocs_of_found second later { store } fun val hval hnil =>
    import_rows_ne_nil _ ((hfound val hval).symm.trans hnil)
  refine ⟨next, hnext, hids, fun hone => ?_⟩
  have hconfirmed := import_iocs_of_confirmed second later { store } fun val hval => by
    have hlength := hone val later.feed_type
    rw [stored_eq_length (hlater ▸ htype), hfound val hval] at hlength
    rw [hfound val hval, hlater]
    exact confirmed_of_import_rows hlength
  rw [hnext] at hconfirmed
  rw [Except.ok.inj hconfirmed]

/-- After a synchronisation that has failed on a value, the next one fails on it too. After one that has succeeded
the next one finds all of its values. -/
theorem indicators_after_sync_twice {self : ThreatStore} {text feed_id : String} {first : FeedSync} (second : FeedSync)
    (hinjective : Function.Injective first.new_id)
    (hfresh : ∀ val, self.threat_indicators.get (first.new_id val) = none)
    (hcap : ∀ feed, self.feeds.get feed_id = some feed → (extracted text feed.feed_type).length ≤ 500) :
    let once := self.after_sync first text feed_id
    let twice := once.after_sync second text feed_id
    once.AddsNothing twice ∧
      ((∀ value indicator_type, once.stored value indicator_type ≤ 1) →
        twice.threat_indicators = once.threat_indicators) := by
  dsimp only
  cases hfeed : self.feeds.get feed_id with
  | none =>
    rw [after_sync_of_none hfeed, after_sync_of_none hfeed]
    exact ⟨rfl, fun _ => rfl⟩
  | some feed =>
    obtain ⟨-, later, hlater, htype, -⟩ := after_sync_kept first text hfeed
    have hfirst := extract_indicators_perm first (hcap feed hfeed)
    have hsecond := extract_indicators_perm second (hcap feed hfeed)
    have hnodup := nodup_extract_indicators second text feed.feed_type
    rw [after_sync_of_some hlater, import_all, htype]
    by_cases hempty : feed.feed_type = ""
    · rw [hempty, extracted_of_no_type] at hsecond
      rw [hempty, List.perm_nil.mp hsecond]
      exact ⟨rfl, fun _ => rfl⟩
    · rw [after_sync_of_some hfeed]
      cases himport : self.import_all first text feed with
      | ok imported =>
        dsimp only
        obtain ⟨next, hnext, hids, hsame⟩ := import_iocs_again second (imported.finish feed_id first.now) hempty htype
          (nodup_extract_indicators first text feed.feed_type) himport
          (fun val hval => hfirst.mem_iff.mpr (hsecond.mem_iff.mp hval)) rfl
        rw [hnext]
        refine ⟨hids, fun hone => ?_⟩
        change next.store.threat_indicators = _
        rw [hsame hone]
      | error e =>
        obtain ⟨val, hval, hnone, hlong⟩ := import_iocs_error hempty hinjective
          (nodup_extract_indicators first text feed.feed_type) (fun val _ => hfresh val) himport
        dsimp only
        split
        · rename_i imported hagain
          have hlength := import_iocs_length (htype ▸ hempty) hnodup hagain val
            (hsecond.mem_iff.mpr (hfirst.mem_iff.mp hval)) (htype ▸ hnone)
          omega
        · exact ⟨rfl, fun _ => rfl⟩

/-- A synchronisation with the text of the one before it adds no indicator, and changes none where each is stored
once. Each of the two stores nothing twice, lowers no confidence and counts what it adds. -/
theorem sync_feed_twice (self : ThreatStore) (text feed_id : String) (first second : FeedSync)
    (hinjective : Function.Injective first.new_id)
    (hfresh : ∀ val, self.threat_indicators.get (first.new_id val) = none)
    (hcap : ∀ feed, self.feeds.get feed_id = some feed → (extracted text feed.feed_type).length ≤ 500)
    (once twice : ThreatStore) (honce : once = self.after_sync first text feed_id)
    (htwice : twice = once.after_sync second text feed_id) :
    once.AddsNothing twice ∧
      ((∀ value indicator_type, once.stored value indicator_type ≤ 1) →
        twice.threat_indicators = once.threat_indicators) ∧
      self.Grown once ∧ Counted feed_id self once ∧ once.Grown twice ∧ Counted feed_id once twice := by
  subst honce htwice
  obtain ⟨hadded, hsame⟩ := indicators_after_sync_twice second hinjective hfresh hcap
  obtain ⟨hgrown, hcounted⟩ := self.after_sync_spec first text feed_id
  obtain ⟨hgrown_again, hcounted_again⟩ := (self.after_sync first text feed_id).after_sync_spec second text feed_id
  exact ⟨hadded, hsame, hgrown, hcounted, hgrown_again, hcounted_again⟩

theorem sync_one_feed_twice : ∃ once twice, once = (one_feed "ip").after_sync plain_sync "203.0.113.9" "feed_1" ∧
    twice = once.after_sync plain_sync "203.0.113.9" "feed_1" ∧ once.threat_indicators.rows.length = 1 ∧
    once.AddsNothing twice := by
  refine ⟨_, _, rfl, rfl, by decide +kernel, ?_⟩
  refine (sync_feed_twice (one_feed "ip") "203.0.113.9" "feed_1" plain_sync plain_sync Function.injective_id
    (fun val => rfl) (fun feed hfeed => ?_) _ _ rfl rfl).1
  obtain rfl := Option.some.inj hfeed
  decide +kernel

end ThreatStore

end larp
