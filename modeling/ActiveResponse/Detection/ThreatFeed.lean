import ActiveResponse.Core.Database
import ActiveResponse.Detection.FeedExtraction
import ActiveResponse.Detection.Scores

namespace larp

structure ThreatIndicator where
  id : String
  indicator_type : String
  value : String
  threat_type : String := "malware"
  confidence : ℚ := 80
  source : String := "external"
  created_at : Time

structure ThreatFeed where
  id : String
  name : String
  url : String
  feed_type : String := "ip"
  status : String := "idle"
  indicator_count : ℕ := 0
  last_sync_at : Option Time := none

instance : Keyed ThreatIndicator String := ⟨ThreatIndicator.id⟩

instance : Keyed ThreatFeed String := ⟨ThreatFeed.id⟩

/-- The tables of the threat intelligence. -/
structure ThreatStore where
  feeds : Table ThreatFeed := Table.empty
  threat_indicators : Table ThreatIndicator := Table.empty

structure ThreatFeedSyncResult where
  feed_id : String
  name : String
  status : String
  indicators_added : ℕ := 0
  indicators_updated : ℕ := 0
  message : String

/-- A verdict on an indicator. A result without the key `cached` did not come from a lookup. -/
structure CheckResult where
  is_malicious : Bool
  threat_type : String
  confidence : ℚ
  source : String
  cached : Option Bool := none

/-- What the request to an external service comes to. -/
inductive ApiAnswer (A : Type) where
  | no_key
  | failed
  | answered (answer : A)

/-- What a synchronisation gets from Python and the database: the order in which it iterates over a set, the ids of
new rows, the time, and for each of its lookups the order of the rows. -/
structure FeedSync where
  set_order : List String → List String
  new_id : String → String
  now : Time
  row_order : String → RowOrder ThreatIndicator := fun _ => .of_table
  perm : ∀ values, (set_order values).Perm values

namespace ThreatStore

/-- The rows that the query of `lookup` finds. -/
def found (self : ThreatStore) (value indicator_type : String) : List ThreatIndicator :=
  self.threat_indicators.rows.filter fun row =>
    row.value = value ∧ (indicator_type = "" ∨ row.indicator_type = indicator_type)

/-- `ThreatIndicatorRepository.lookup`. Its query has no `ORDER BY`, and a value may be stored more than once. -/
def lookup (self : ThreatStore) (row_order : RowOrder ThreatIndicator) (value indicator_type : String) :
    Option ThreatIndicator :=
  row_order.first (self.found value indicator_type)

def set_status (self : ThreatStore) (feed_id status : String) : ThreatStore :=
  { self with feeds := self.feeds.modify feed_id fun feed => { feed with status } }

def feed_threat_type (feed_type : String) : String := if feed_type = "ip" then "botnet_c2" else "malware"

/-- What the feed changes in a row that is already there. -/
def confirm (feed_type : String) (existing : ThreatIndicator) : ThreatIndicator :=
  { existing with confidence := max existing.confidence 85, threat_type := feed_threat_type feed_type }

/-- The row that a round of the loop of `sync_feed` inserts. -/
def imported_row (call : FeedSync) (feed : ThreatFeed) (val : String) : ThreatIndicator where
  id := call.new_id val
  indicator_type := feed.feed_type
  value := val
  threat_type := feed_threat_type feed.feed_type
  confidence := 85
  source := String.ofList (feed.name.toList.take 64)
  created_at := call.now

/-- The store and the counters of a synchronisation. -/
structure Import where
  store : ThreatStore
  added : ℕ := 0
  updated : ℕ := 0

/-- One round of the loop of `sync_feed`. -/
def Import.import_ioc (call : FeedSync) (feed : ThreatFeed) (self : Import) (val : String) :
    Except AppException Import :=
  match self.store.lookup (call.row_order val) val feed.feed_type with
  | some existing =>
    .ok { self with
      store := { self.store with
        threat_indicators := self.store.threat_indicators.modify existing.id (confirm feed.feed_type) }
      updated := self.updated + 1 }
  | none => do
    let _value ← Database.varchar 256 (some (.str val))
    match self.store.threat_indicators.insert (imported_row call feed val) with
    | some threat_indicators =>
      .ok { self with store := { self.store with threat_indicators }, added := self.added + 1 }
    | none => .error (.IntegrityError "duplicate key value violates unique constraint")

/-- The commit of a synchronisation that went well. -/
def Import.finish (self : Import) (feed_id : String) (now : Time) : ThreatStore :=
  { self.store with
    feeds := self.store.feeds.modify feed_id fun feed =>
      { feed with
        status := "success", last_sync_at := some now, indicator_count := feed.indicator_count + self.added } }

/-- `sync_feed` with the answer to its request, an error of the client or a status code and a text. After an error of
the database its last commit fails too. -/
def sync_feed (self : ThreatStore) (call : FeedSync) (response : Except String (ℕ × String)) (feed_id : String) :
    Except AppException (ThreatFeedSyncResult × ThreatStore) :=
  match self.feeds.get feed_id with
  | none => .ok ({ feed_id, name := "Unknown", status := "error", message := "Feed not found" }, self)
  | some feed =>
    match response with
    | .error message =>
      .ok ({ feed_id := feed.id, name := feed.name, status := "error", message }, self.set_status feed_id "error")
    | .ok (status_code, text) =>
      if status_code ≠ 200 then
        .ok ({
          feed_id := feed.id, name := feed.name, status := "error"
          message := "HTTP Error " ++ toString status_code }, self.set_status feed_id "error")
      else
        match (extract_indicators call.set_order text feed.feed_type).foldlM (Import.import_ioc call feed)
            { store := self } with
        | .error _ => .error .PendingRollbackError
        | .ok imported =>
          .ok ({
            feed_id := feed.id, name := feed.name, status := "success", indicators_added := imported.added
            indicators_updated := imported.updated
            message := "Successfully imported " ++ toString imported.added ++ " new IoCs (" ++
              toString imported.updated ++ " updated)." }, imported.finish feed_id call.now)

end ThreatStore

/-- The result of a lookup. -/
def ThreatIndicator.check_result (self : ThreatIndicator) : CheckResult where
  is_malicious := 50 ≤ self.confidence
  threat_type := self.threat_type
  confidence := self.confidence
  source := self.source
  cached := some true

namespace ThreatStore

/-- A malicious answer of an external service is stored. If that fails, the check reports the error. -/
def record (self : ThreatStore) (indicator : ThreatIndicator) (result : CheckResult) : CheckResult × ThreatStore :=
  let failed : CheckResult := ⟨false, "unknown", 0, indicator.source ++ "_error", none⟩
  if result.is_malicious then
    match Database.varchar 256 (some (.str indicator.value)), self.threat_indicators.insert indicator with
    | .ok _, some threat_indicators => (result, { self with threat_indicators })
    | _, _ => (failed, self)
  else (result, self)

variable (self : ThreatStore) (row_order : RowOrder ThreatIndicator) (new_id : String) (now : Time)

/-- `check_hash`. VirusTotal answers with the number of malicious verdicts and of all. -/
def check_hash (virustotal : String → ApiAnswer (ℕ × ℕ)) (file_hash : String) : CheckResult × ThreatStore :=
  match self.lookup row_order file_hash "hash" with
  | some existing => (existing.check_result, self)
  | none =>
    match virustotal file_hash with
    | .no_key => (⟨false, "unknown", 0, "none", none⟩, self)
    | .failed => (⟨false, "unknown", 0, "virustotal_error", none⟩, self)
    | .answered (malicious, total) =>
      let confidence := if 0 < total then round2 ((malicious : ℚ) / total * 100) else 0
      let is_mal := decide (2 < malicious)
      self.record {
        id := new_id, indicator_type := "hash", value := file_hash, threat_type := "malware", confidence
        source := "virustotal", created_at := now }
        ⟨is_mal, if is_mal then "malware" else "clean", confidence, "virustotal", some false⟩

/-- `check_ip`. AbuseIPDB answers with a score. -/
def check_ip (abuseipdb : String → ApiAnswer ℚ) (ip : String) : CheckResult × ThreatStore :=
  match self.lookup row_order ip "ip" with
  | some existing => (existing.check_result, self)
  | none =>
    match abuseipdb ip with
    | .no_key => (⟨false, "unknown", 0, "none", none⟩, self)
    | .failed => (⟨false, "unknown", 0, "abuseipdb_error", none⟩, self)
    | .answered abuse_score =>
      let is_mal := decide (50 ≤ abuse_score)
      self.record {
        id := new_id, indicator_type := "ip", value := ip, threat_type := "malicious_host"
        confidence := abuse_score, source := "abuseipdb", created_at := now }
        ⟨is_mal, if is_mal then "malicious_host" else "clean", abuse_score, "abuseipdb", some false⟩

variable (virustotal : String → ApiAnswer (ℕ × ℕ)) (abuseipdb : String → ApiAnswer ℚ)

def check_indicator (value indicator_type : String) : CheckResult × ThreatStore :=
  if indicator_type = "hash" then self.check_hash row_order new_id now virustotal value
  else if indicator_type = "ip" then self.check_ip row_order new_id now abuseipdb value
  else
    match self.lookup row_order value indicator_type with
    | some existing => (existing.check_result, self)
    | none => (⟨false, "unknown", 0, "none", none⟩, self)

/-- The local store reports the indicator as malicious. -/
def Reported (value indicator_type : String) : Prop :=
  let result := (self.check_indicator row_order new_id now virustotal abuseipdb value indicator_type).1
  result.is_malicious ∧ 50 ≤ result.confidence ∧ result.cached = some true

instance (value indicator_type : String) :
    Decidable (self.Reported row_order new_id now virustotal abuseipdb value indicator_type) :=
  inferInstanceAs (Decidable (_ ∧ _ ∧ _))

/-! ## Lookups after a synchronisation -/

variable {self row_order new_id now virustotal abuseipdb} {value indicator_type : String}

/-- A row that cannot be recorded is an error, which is not cached either. -/
theorem cached_record {indicator : ThreatIndicator} {result : CheckResult} (h : result.cached ≠ some true) :
    (self.record indicator result).1.cached ≠ some true := by
  unfold record
  split
  · split
    · exact h
    · simp
  · exact h

variable (self row_order new_id now virustotal abuseipdb value indicator_type) in
/-- The answer is the row that the lookup returns, or it comes from elsewhere. -/
theorem check_indicator_cases :
    (∃ row, self.lookup row_order value indicator_type = some row ∧
      (self.check_indicator row_order new_id now virustotal abuseipdb value indicator_type).1 = row.check_result) ∨
    (self.lookup row_order value indicator_type = none ∧
      (self.check_indicator row_order new_id now virustotal abuseipdb value indicator_type).1.cached ≠ some true) := by
  unfold check_indicator
  split
  · rename_i hhash
    subst hhash
    unfold check_hash
    split
    · rename_i row hrow
      exact .inl ⟨row, hrow, rfl⟩
    · rename_i hnone
      refine .inr ⟨hnone, ?_⟩
      split
      · simp
      · simp
      · exact cached_record (by simp)
  · split
    · rename_i hip
      subst hip
      unfold check_ip
      split
      · rename_i row hrow
        exact .inl ⟨row, hrow, rfl⟩
      · rename_i hnone
        refine .inr ⟨hnone, ?_⟩
        split
        · simp
        · simp
        · exact cached_record (by simp)
    · split
      · rename_i row hrow
        exact .inl ⟨row, hrow, rfl⟩
      · rename_i hnone
        exact .inr ⟨hnone, by simp⟩

theorem reported_iff : self.Reported row_order new_id now virustotal abuseipdb value indicator_type ↔
    ∃ row, self.lookup row_order value indicator_type = some row ∧ 50 ≤ row.confidence := by
  unfold Reported
  obtain ⟨row, hrow, hresult⟩ | ⟨hnone, hresult⟩ :=
    self.check_indicator_cases row_order new_id now virustotal abuseipdb value indicator_type
  · simp [hrow, hresult, ThreatIndicator.check_result]
  · simp [hnone, hresult]

/-- Whichever row a lookup returns, the indicator is reported if and only if it is stored and all of its rows have a
confidence of 50. -/
theorem reported_whichever_iff :
    (∀ row_order, self.Reported row_order new_id now virustotal abuseipdb value indicator_type) ↔
      self.found value indicator_type ≠ [] ∧ ∀ row ∈ self.found value indicator_type, 50 ≤ row.confidence := by
  simp only [reported_iff, lookup]
  constructor
  · intro h
    constructor
    · intro hempty
      obtain ⟨row, hrow, -⟩ := h .of_table
      rw [hempty] at hrow
      cases RowOrder.mem_of_first hrow
    · intro row hrow
      obtain ⟨row_order, hfirst⟩ := RowOrder.exists_first hrow
      obtain ⟨other, hother, hconfidence⟩ := h row_order
      rw [hfirst] at hother
      exact Option.some.inj hother ▸ hconfidence
  · rintro ⟨hstored, hconfidence⟩ row_order
    cases hfirst : row_order.first (self.found value indicator_type) with
    | none => exact absurd (RowOrder.first_eq_none_iff.mp hfirst) hstored
    | some row => exact ⟨row, rfl, hconfidence row (RowOrder.mem_of_first hfirst)⟩

theorem mem_found {row : ThreatIndicator} (htype : indicator_type ≠ "") : row ∈ self.found value indicator_type ↔
    row ∈ self.threat_indicators.rows ∧ row.value = value ∧ row.indicator_type = indicator_type := by
  simp [found, htype]

theorem get_of_lookup {row : ThreatIndicator} (h : self.lookup row_order value indicator_type = some row) :
    self.threat_indicators.get row.id = some row :=
  Table.get_of_mem (List.mem_of_mem_filter (RowOrder.mem_of_first h))

/-- The id tells apart the rows that a query finds. -/
theorem eq_of_mem_found {row other : ThreatIndicator} (hrow : row ∈ self.found value indicator_type)
    (hother : other ∈ self.found value indicator_type) (hid : row.id = other.id) : row = other :=
  List.inj_on_of_nodup_map self.threat_indicators.nodup (List.mem_of_mem_filter hrow) (List.mem_of_mem_filter hother) hid

/-- A change of the other columns of a row does not change which rows a query finds. -/
theorem found_modify {id : String} {f : ThreatIndicator → ThreatIndicator} (hid : ∀ row, (f row).id = row.id)
    (hvalue : ∀ row, (f row).value = row.value) (htype : ∀ row, (f row).indicator_type = row.indicator_type)
    {next : ThreatStore} (hnext : next.threat_indicators = self.threat_indicators.modify id f) :
    next.found value indicator_type =
      (self.found value indicator_type).map fun row => if row.id = id then f row else row := by
  rw [found, hnext, Table.rows_modify _ _ hid, List.filter_map, found]
  congr 2
  funext row
  simp only [Function.comp_apply]
  split
  · rw [hvalue, htype]
  · rfl

theorem found_insert {row : ThreatIndicator} {next : ThreatStore}
    (hnext : self.threat_indicators.insert row = some next.threat_indicators) :
    next.found value indicator_type = self.found value indicator_type ++
      if row.value = value ∧ (indicator_type = "" ∨ row.indicator_type = indicator_type) then [row] else [] := by
  rw [found, (Table.insert_eq_some_iff.mp hnext).2, List.filter_append, List.filter_singleton, Bool.cond_decide]
  rfl

section Loop

variable {call : FeedSync} {feed : ThreatFeed} {start next : Import} {val : String} {iocs : List String}

@[simp] theorem key_confirm (feed_type : String) (row : ThreatIndicator) :
    Keyed.key (confirm feed_type row) = Keyed.key row := rfl

/-- A round confirms the row that the lookup finds, or inserts one if it finds none. -/
theorem import_ioc_cases (h : Import.import_ioc call feed start val = .ok next) :
    (∃ existing, start.store.lookup (call.row_order val) val feed.feed_type = some existing ∧
      next.added = start.added ∧ next.store.feeds = start.store.feeds ∧
      next.store.threat_indicators =
        start.store.threat_indicators.modify existing.id (confirm feed.feed_type)) ∨
    (start.store.found val feed.feed_type = [] ∧ val.length ≤ 256 ∧
      next.added = start.added + 1 ∧ next.store.feeds = start.store.feeds ∧
      start.store.threat_indicators.insert (imported_row call feed val) = some next.store.threat_indicators) := by
  unfold Import.import_ioc at h
  split at h
  · rename_i existing hexisting
    cases h
    exact .inl ⟨existing, hexisting, rfl, rfl, rfl⟩
  · rename_i hnone
    obtain ⟨_, hvarchar, h⟩ := bind_eq_ok_iff.mp h
    have hlength : val.length ≤ 256 := by
      by_contra hlong
      rw [Database.varchar, if_neg hlong] at hvarchar
      cases hvarchar
    split at h
    · rename_i threat_indicators hinsert
      cases h
      exact .inr ⟨RowOrder.first_eq_none_iff.mp hnone, hlength, rfl, rfl, hinsert⟩
    · cases h

/-- What a round makes of the rows that its query finds. -/
def import_rows (call : FeedSync) (feed : ThreatFeed) (val : String) (rows : List ThreatIndicator) :
    List ThreatIndicator :=
  match (call.row_order val).first rows with
  | some existing => rows.map fun row => if row.id = existing.id then confirm feed.feed_type row else row
  | none => [imported_row call feed val]

theorem import_rows_ne_nil (rows : List ThreatIndicator) : import_rows call feed val rows ≠ [] := by
  unfold import_rows
  split
  · rename_i existing hexisting
    simpa using List.ne_nil_of_mem (RowOrder.mem_of_first hexisting)
  · simp

/-- The row that the query returns has a confidence of 85 after the round. The other rows keep theirs. -/
theorem import_rows_confidence_iff {rows : List ThreatIndicator}
    (hids : ∀ row ∈ rows, ∀ other ∈ rows, row.id = other.id → row = other) :
    (∀ row ∈ import_rows call feed val rows, 50 ≤ row.confidence) ↔
      ∀ row ∈ rows, (call.row_order val).first rows = some row ∨ 50 ≤ row.confidence := by
  unfold import_rows
  split
  · rename_i existing hexisting
    rw [List.forall_mem_map]
    refine forall₂_congr fun row hrow => ?_
    have hsame : row.id = existing.id ↔ existing = row :=
      ⟨fun hid => (hids row hrow existing (RowOrder.mem_of_first hexisting) hid).symm, fun heq => heq ▸ rfl⟩
    rw [hexisting, Option.some.injEq, ← hsame]
    split
    · rename_i hid
      exact iff_of_true (le_trans (by norm_num) (le_max_right _ _)) (.inl hid)
    · rename_i hid
      rw [or_iff_right hid]
  · rename_i hnone
    obtain rfl := RowOrder.first_eq_none_iff.mp hnone
    simp only [List.mem_singleton, forall_eq, List.not_mem_nil, false_implies, implies_true, iff_true, imported_row]
    norm_num

/-- A round changes nothing but the rows with its value. -/
theorem found_import_ioc (hfeed : feed.feed_type ≠ "") (h : Import.import_ioc call feed start val = .ok next) :
    next.store.found val feed.feed_type = import_rows call feed val (start.store.found val feed.feed_type) ∧
    ∀ query kind, kind ≠ "" → ¬ (query = val ∧ kind = feed.feed_type) →
      next.store.found query kind = start.store.found query kind := by
  obtain ⟨existing, hexisting, -, -, hmodify⟩ | ⟨hempty, -, -, -, hinsert⟩ := import_ioc_cases h
  · have hfound : ∀ query kind, next.store.found query kind = (start.store.found query kind).map _ := fun _ _ =>
      found_modify (f := confirm feed.feed_type) (fun _ => rfl) (fun _ => rfl) (fun _ => rfl) hmodify
    constructor
    · rw [lookup] at hexisting
      rw [hfound, import_rows, hexisting]
    · intro query kind hkind hother
      rw [hfound]
      conv_rhs => rw [← List.map_id (start.store.found query kind)]
      apply List.map_congr_left
      intro row hrow
      refine if_neg fun hid => hother ?_
      obtain ⟨hmem, hvalue, htype⟩ := (mem_found hkind).mp hrow
      obtain ⟨hmem_existing, rfl, hkind_existing⟩ := (mem_found hfeed).mp (RowOrder.mem_of_first hexisting)
      obtain rfl : row = existing := List.inj_on_of_nodup_map start.store.threat_indicators.nodup hmem hmem_existing hid
      exact ⟨hvalue.symm, htype.symm.trans hkind_existing⟩
  · constructor
    · rw [found_insert hinsert, hempty, import_rows, RowOrder.first_eq_none_iff.mpr rfl]
      exact if_pos ⟨rfl, Or.inr rfl⟩
    · intro query kind hkind hother
      rw [found_insert hinsert, if_neg, List.append_nil]
      rintro ⟨hvalue, hnone | htype⟩
      · exact hkind hnone
      · exact hother ⟨hvalue.symm, htype.symm⟩

/-- The loop goes through its values one by one. -/
theorem found_import_iocs (hfeed : feed.feed_type ≠ "") (hnodup : iocs.Nodup)
    (h : iocs.foldlM (Import.import_ioc call feed) start = .ok next) :
    (∀ val ∈ iocs, next.store.found val feed.feed_type =
      import_rows call feed val (start.store.found val feed.feed_type)) ∧
    ∀ query kind, kind ≠ "" → ¬ (query ∈ iocs ∧ kind = feed.feed_type) →
      next.store.found query kind = start.store.found query kind := by
  induction iocs generalizing start with
  | nil =>
    cases h
    exact ⟨fun _ hval => (by cases hval), fun _ _ _ _ => rfl⟩
  | cons val iocs ih =>
    rw [List.foldlM_cons] at h
    obtain ⟨first, hfirst, hrest⟩ := bind_eq_ok_iff.mp h
    obtain ⟨hval, hnodup⟩ := List.nodup_cons.mp hnodup
    obtain ⟨hstored, hothers⟩ := found_import_ioc hfeed hfirst
    obtain ⟨hkept, hframe⟩ := ih hnodup hrest
    constructor
    · intro other hother
      obtain rfl | hmem := List.mem_cons.mp hother
      · rw [hframe other feed.feed_type hfeed fun h => hval h.1, hstored]
      · rw [hkept other hmem, hothers other feed.feed_type hfeed fun h => hval (h.1 ▸ hmem)]
    · intro query kind hkind hnot
      rw [hframe query kind hkind fun h => hnot ⟨List.mem_cons_of_mem _ h.1, h.2⟩]
      exact hothers query kind hkind fun h => hnot ⟨h.1 ▸ List.mem_cons_self, h.2⟩

end Loop

variable {call : FeedSync} {feed : ThreatFeed} {feed_id text : String} {result : ThreatFeedSyncResult}
  {store : ThreatStore}

/-- What is extracted is a set. -/
theorem nodup_extract_indicators (call : FeedSync) (text feed_type : String) :
    (extract_indicators call.set_order text feed_type).Nodup :=
  ((call.perm _).nodup_iff.mpr (List.nodup_dedup _)).sublist (List.take_sublist 500 _)

/-- A synchronisation that succeeds has stored everything that was extracted, and nothing else. -/
theorem sync_feed_success (h : self.sync_feed call (.ok (200, text)) feed_id = .ok (result, store))
    (hfeed : self.feeds.get feed_id = some feed) (htype : feed.feed_type ≠ "") :
    (∀ val ∈ extract_indicators call.set_order text feed.feed_type,
      store.found val feed.feed_type = import_rows call feed val (self.found val feed.feed_type)) ∧
    ∀ query kind, kind ≠ "" →
      ¬ (query ∈ extract_indicators call.set_order text feed.feed_type ∧ kind = feed.feed_type) →
        store.found query kind = self.found query kind := by
  simp only [sync_feed, hfeed, ne_eq, not_true_eq_false, if_false] at h
  split at h
  · cases h
  · rename_i imported himported
    cases h
    exact found_import_iocs htype (nodup_extract_indicators call text feed.feed_type) himported

/-- Below the cap the extraction returns all values, in whatever order. -/
theorem extract_indicators_perm (call : FeedSync) {feed_type : String}
    (hcap : (extracted text feed_type).length ≤ 500) :
    (extract_indicators call.set_order text feed_type).Perm (extracted text feed_type) := by
  rw [extract_indicators, List.take_of_length_le (by rw [(call.perm _).length_eq]; exact hcap)]
  exact call.perm _

theorem mem_extract_indicators {feed_type : String} (hcap : (extracted text feed_type).length ≤ 500) {query : String} :
    query ∈ extract_indicators call.set_order text feed_type ↔
      ∃ a ∈ accepted_indicators text feed_type, query = String.ofList a.value := by
  rw [(extract_indicators_perm call hcap).mem_iff, extracted, List.mem_dedup, List.mem_map]
  simp only [eq_comm]

/-- After a successful synchronisation an indicator of the feed is reported from the local store, whichever row the
lookup returns, exactly if the feed is of the indicator's own kind, it is asked for in the form in which it is stored
and every other row of it than the one that the synchronisation has raised had a confidence of 50, or if the store
reported it before, whichever row the lookup returned. -/
theorem reported_after_sync_iff (h : self.sync_feed call (.ok (200, text)) feed_id = .ok (result, store))
    (hfeed : self.feeds.get feed_id = some feed) (hcap : (extracted text feed.feed_type).length ≤ 500) {a : Accepted}
    (ha : a ∈ accepted_indicators text feed.feed_type) {query : String} (hasked : a.Asked query.toList) :
    (∀ row_order, store.Reported row_order new_id now virustotal abuseipdb query a.kind) ↔
      (a.kind = feed.feed_type ∧ query = String.ofList a.value ∧
        ∀ row ∈ self.found query a.kind,
          self.lookup (call.row_order query) query a.kind = some row ∨ 50 ≤ row.confidence) ∨
        ∀ row_order, self.Reported row_order new_id now virustotal abuseipdb query a.kind := by
  have hnormal := normal_of_mem ha
  have htype : feed.feed_type ≠ "" := by
    rintro hempty
    cases hnormal with
    | ip hfeed | hash hfeed | url hfeed | domain hfeed => exact absurd (hempty ▸ hfeed) (by decide)
  have hkind : a.kind ≠ "" := by
    cases hnormal with
    | ip _ hkind | hash _ hkind | url _ hkind | domain _ hkind => rw [hkind]; decide
  obtain ⟨hstored, hothers⟩ := sync_feed_success h hfeed htype
  rw [reported_whichever_iff, reported_whichever_iff]
  by_cases hown : a.kind = feed.feed_type ∧ query = String.ofList a.value
  · rw [← and_assoc, and_iff_right hown, hown.1, hstored query ((mem_extract_indicators hcap).mpr ⟨a, ha, hown.2⟩),
      and_iff_right (import_rows_ne_nil _),
      import_rows_confidence_iff fun row hrow other hother => eq_of_mem_found hrow hother]
    exact (or_iff_left_of_imp fun hbefore row hrow => .inr (hbefore.2 row hrow)).symm
  · rw [or_iff_right fun h => hown ⟨h.1, h.2.1⟩, hothers query a.kind hkind]
    rintro ⟨hmem, htypes⟩
    obtain ⟨b, hb, rfl⟩ := (mem_extract_indicators hcap).mp hmem
    rw [String.toList_ofList] at hasked
    exact hown ⟨htypes, by rw [value_eq_of_asked hnormal (normal_of_mem hb) htypes hasked]⟩

/-- A feed of one kind. -/
def one_feed (feed_type : String) : ThreatStore where
  feeds := ⟨[{ id := "feed_1", name := "feed", url := "https://feeds.example/list.txt", feed_type }], by simp⟩

/-- A synchronisation that goes through sets and tables in their own order. -/
def plain_sync : FeedSync where
  set_order values := values
  new_id value := value
  now := 0
  perm := List.Perm.refl

/-- The synchronisation of the feed with a text. -/
def synced (self : ThreatStore) (text : String) : Except AppException (ThreatFeedSyncResult × ThreatStore) :=
  self.sync_feed plain_sync (.ok (200, text)) "feed_1"

/-- Reported without external services. -/
def ReportedAlone (self : ThreatStore) (row_order : RowOrder ThreatIndicator) (value indicator_type : String) : Prop :=
  self.Reported row_order "ind" 0 (fun _ => .no_key) (fun _ => .no_key) value indicator_type

instance (self : ThreatStore) (row_order : RowOrder ThreatIndicator) (value indicator_type : String) :
    Decidable (self.ReportedAlone row_order value indicator_type) :=
  inferInstanceAs (Decidable (Reported ..))

def uppercase_hash : String := "D41D8CD98F00B204E9800998ECF8427E"

def lowercase_hash : String := "d41d8cd98f00b204e9800998ecf8427e"

theorem reported_lowercase_hash : ∃ result store, (one_feed "hash").synced uppercase_hash = .ok (result, store) ∧
    result.status = "success" ∧ ∀ row_order, store.ReportedAlone row_order lowercase_hash "hash" := by
  have hsynced : ((one_feed "hash").synced uppercase_hash).toOption.any fun outcome =>
      outcome.1.status = "success" := by decide +kernel
  cases h : (one_feed "hash").synced uppercase_hash with
  | error e => simp [h, Except.toOption] at hsynced
  | ok outcome =>
    obtain ⟨result, store⟩ := outcome
    have hsuccess : result.status = "success" := by simpa [h, Except.toOption] using hsynced
    have haccepted : ⟨"hash", uppercase_hash.toList, ascii_lower uppercase_hash.toList⟩ ∈
        accepted_indicators uppercase_hash "hash" := by decide +kernel
    refine ⟨result, store, rfl, hsuccess, ?_⟩
    refine (reported_after_sync_iff h rfl (by decide +kernel) haccepted
      (Or.inr ⟨by decide, by decide +kernel⟩)).mpr ?_
    exact Or.inl ⟨rfl, by decide +kernel, fun row hrow => by cases hrow⟩

/-- The hash stored by two checks that ran at the same time. -/
def hash_stored_twice : ThreatStore where
  feeds := (one_feed "hash").feeds
  threat_indicators := ⟨["ind_1", "ind_2"].map fun id =>
    { id, indicator_type := "hash", value := lowercase_hash, confidence := 4, source := "virustotal", created_at := 0 },
    by decide⟩

/-- A hash in upper case is not found as it is written in the feed, and a URL in a feed of domains is not found as a
URL. Of a hash that is stored twice one row stays as it was. -/
theorem not_reported_after_sync :
    (∃ a ∈ accepted_indicators uppercase_hash "hash", a.kind = "hash" ∧ a.written = uppercase_hash.toList) ∧
    (((one_feed "hash").synced uppercase_hash).toOption.any fun outcome =>
      outcome.1.status = "success" ∧ ¬ outcome.2.ReportedAlone .of_table uppercase_hash "hash") ∧
    (∃ a ∈ accepted_indicators "http://evil.example/a" "domain",
      a.kind = "url" ∧ a.written = "http://evil.example/a".toList) ∧
    (((one_feed "domain").synced "http://evil.example/a").toOption.any fun outcome =>
      outcome.1.status = "success" ∧ ¬ outcome.2.ReportedAlone .of_table "http://evil.example/a" "url") ∧
    ((hash_stored_twice.synced lowercase_hash).toOption.any fun outcome =>
      outcome.1.status = "success" ∧
        ¬ outcome.2.ReportedAlone ⟨List.reverse, List.reverse_perm⟩ lowercase_hash "hash") := by
  decide +kernel

end ThreatStore

end larp
