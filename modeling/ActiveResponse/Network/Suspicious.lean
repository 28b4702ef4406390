import ActiveResponse.Detection.ThreatFeed
import ActiveResponse.Lib.FirstOf

namespace larp

/-- The columns of a flow that the query for suspicious endpoints reads. -/
structure FlowRecord where
  id : String
  src_ip : String
  dst_ip : String
  dst_port : ℤ
  protocol : String := "TCP"
  bytes_sent : ℤ := 0
  agent_id : Option String := none
  created_at : Time
  process_name : Option String := none
  pid : Option ℤ := none

instance : Keyed FlowRecord String := ⟨FlowRecord.id⟩

/-- An entry of the answer. -/
structure SuspiciousItem where
  id : String
  process_name : String
  pid : Option ℤ
  dst_ip : String
  dst_port : ℤ
  src_ip : String
  protocol : String
  agent_id : Option String
  risk_level : String
  reason : String
  reasons : List String
  last_seen : String
  bytes_sent : ℤ

/-- Process name, destination address and destination port. -/
def SuspiciousItem.key (self : SuspiciousItem) : String × String × ℤ :=
  (self.process_name, self.dst_ip, self.dst_port)

def SUSPICIOUS_PORTS : List ℤ := [4444, 4445, 5555, 1337, 31337, 9001, 9002]

def SUSPICIOUS_PROCS : List String :=
  ["msbuild.exe", "certutil.exe", "rundll32.exe", "regsvr32.exe", "mshta.exe", "wmic.exe", "powershell.exe",
    "cmd.exe", "bitsadmin.exe"]

namespace FlowRecord

/-- Why the flow is suspicious, if it is. -/
def reasons (self : FlowRecord) (ioc_ips : List String) : List String :=
  (if self.dst_port ∈ SUSPICIOUS_PORTS then ["Port " ++ toString self.dst_port ++ " thường là C2"] else []) ++
  ((self.process_name.filter fun name => name ≠ "" ∧ py_lower name ∈ SUSPICIOUS_PROCS).map fun name =>
    name ++ " không nên connect mạng").toList ++
  (if self.dst_ip ∈ ioc_ips then ["IP " ++ self.dst_ip ++ " trong threat feed"] else [])

def Suspicious (self : FlowRecord) (ioc_ips : List String) : Prop := self.reasons ioc_ips ≠ []

instance (self : FlowRecord) (ioc_ips : List String) : Decidable (self.Suspicious ioc_ips) :=
  inferInstanceAs (Decidable (_ ≠ _))

/-- The entry of a suspicious flow. A name that is missing and an empty one are both written `unknown`. -/
def item (self : FlowRecord) (ioc_ips : List String) : SuspiciousItem where
  id := self.id
  process_name := text_or self.process_name "unknown"
  pid := self.pid
  dst_ip := self.dst_ip
  dst_port := self.dst_port
  src_ip := self.src_ip
  protocol := self.protocol
  agent_id := self.agent_id
  risk_level := "high"
  reason := "; ".intercalate (self.reasons ioc_ips)
  reasons := self.reasons ioc_ips
  last_seen := isoformat self.created_at
  bytes_sent := self.bytes_sent

/-- The endpoint that the flow belongs to. -/
def key (self : FlowRecord) : String × String × ℤ :=
  (text_or self.process_name "unknown", self.dst_ip, self.dst_port)

@[simp] theorem key_item (self : FlowRecord) (ioc_ips : List String) : (self.item ioc_ips).key = self.key := rfl

end FlowRecord

/-- The tables that `NetworkRepository` reads. -/
structure NetworkStore where
  flows : Table FlowRecord
  threats : ThreatStore

/-- The parameters of the query. -/
structure SuspiciousQuery where
  agent_id : Option String := none
  time_range : String := "1h"
  risk : Option String := none
  limit : ℤ := 50

namespace NetworkStore

def time_filter (now : Time) (time_range : String) : Time :=
  now - seconds (3600 * (([("1h", 1), ("24h", 24), ("7d", 168)] : List (String × ℤ)).lookup time_range).getD 1)

/-- The flows of the window, the newest first. Ties come in the order of the table. -/
def window (self : NetworkStore) (now : Time) (query : SuspiciousQuery) : List FlowRecord :=
  self.flows.select_desc
    (fun f => time_filter now query.time_range ≤ f.created_at ∧
      ∀ agent_id ∈ query.agent_id, agent_id = "" ∨ agent_id = "all" ∨ f.agent_id = some agent_id)
    FlowRecord.created_at

def ioc_ips (self : NetworkStore) : List String :=
  (self.threats.threat_indicators.rows.filter fun row => row.indicator_type ∈ ["ip", "ip:port"]).map
    ThreatIndicator.value

/-- The loop over the flows that the query has returned. -/
def suspicious_items (self : NetworkStore) (query : SuspiciousQuery) (flows : List FlowRecord) :
    List SuspiciousItem :=
  ((flows.filter fun f => f.Suspicious self.ioc_ips).map fun f => f.item self.ioc_ips).filter fun item =>
    ∀ risk ∈ query.risk, risk = "" ∨ item.risk_level = risk

/-- `LIMIT n`. What a negative number does is up to the database: one returns every row, another refuses it. -/
def sql_limit (negative_limit : List FlowRecord → Except AppException (List FlowRecord)) (flows : List FlowRecord)
    (n : ℤ) : Except AppException (List FlowRecord) :=
  if 0 ≤ n then .ok (flows.take n.toNat) else negative_limit flows

/-- `items[:n]`. A negative number counts from the end. -/
def items_until (items : List SuspiciousItem) (n : ℤ) : List SuspiciousItem :=
  items.take (if 0 ≤ n then n else items.length + n).toNat

def get_suspicious (self : NetworkStore) (negative_limit : List FlowRecord → Except AppException (List FlowRecord))
    (now : Time) (query : SuspiciousQuery) : Except AppException (List SuspiciousItem) := do
  let flows ← sql_limit negative_limit (self.window now query) (query.limit * 5)
  return items_until (FirstOf.firsts SuspiciousItem.key [] (self.suspicious_items query flows)) query.limit

/-! ## What the cut-off hides -/

/-- The law of an answer: at most `limit` entries, one for each endpoint, each from the newest suspicious flow of its
endpoint, and all endpoints unless the answer is full. -/
structure Represents (store : NetworkStore) (now : Time) (query : SuspiciousQuery) (answer : List SuspiciousItem) :
    Prop where
  bounded : (answer.length : ℤ) ≤ query.limit
  distinct : (answer.map SuspiciousItem.key).Nodup
  newest : ∀ item ∈ answer, ∃ f ∈ store.window now query, f.Suspicious store.ioc_ips ∧ item = f.item store.ioc_ips ∧
    ∀ g ∈ store.window now query, g.Suspicious store.ioc_ips → g.key = f.key → g.created_at ≤ f.created_at
  complete : (answer.length : ℤ) < query.limit →
    ∀ f ∈ store.window now query, f.Suspicious store.ioc_ips → f.key ∈ answer.map SuspiciousItem.key

/-- The endpoints of the suspicious flows. -/
def endpoints (self : NetworkStore) (flows : List FlowRecord) : List (String × String × ℤ) :=
  (flows.filter fun f => f.Suspicious self.ioc_ips).map FlowRecord.key

/-- The newest `5 * limit` flows have `limit` endpoints, or all that there are. -/
def CutOffSuffices (self : NetworkStore) (now : Time) (query : SuspiciousQuery) : Prop :=
  query.limit ≤ (self.endpoints ((self.window now query).take (query.limit * 5).toNat)).dedup.length ∨
    ∀ endpoint ∈ self.endpoints (self.window now query),
      endpoint ∈ self.endpoints ((self.window now query).take (query.limit * 5).toNat)

theorem mem_endpoints {self : NetworkStore} {flows : List FlowRecord} {endpoint : String × String × ℤ} :
    endpoint ∈ self.endpoints flows ↔ ∃ f ∈ flows, f.Suspicious self.ioc_ips ∧ f.key = endpoint := by
  simp [endpoints, and_assoc]

/-- Without a risk filter every suspicious flow has its entry. -/
theorem suspicious_items_eq {self : NetworkStore} {query : SuspiciousQuery} (hrisk : query.risk = none)
    (flows : List FlowRecord) :
    self.suspicious_items query flows =
      (flows.filter fun f => f.Suspicious self.ioc_ips).map fun f => f.item self.ioc_ips := by
  simp [suspicious_items, hrisk]

theorem keys_suspicious_items {self : NetworkStore} {query : SuspiciousQuery} (hrisk : query.risk = none)
    (flows : List FlowRecord) :
    (self.suspicious_items query flows).map SuspiciousItem.key = self.endpoints flows := by
  rw [suspicious_items_eq hrisk, List.map_map]
  rfl

theorem window_pairwise (self : NetworkStore) (now : Time) (query : SuspiciousQuery) :
    (self.window now query).Pairwise fun f g => g.created_at ≤ f.created_at :=
  Table.pairwise_select_desc

/-- The first suspicious flow of an endpoint among the newest flows is its newest one in the window. -/
theorem newest_of_firsts {self : NetworkStore} {now : Time} {query : SuspiciousQuery} {n : ℕ} {f : FlowRecord}
    (h : f ∈ FirstOf.firsts FlowRecord.key []
      (((self.window now query).take n).filter fun f => f.Suspicious self.ioc_ips)) :
    f ∈ self.window now query ∧ f.Suspicious self.ioc_ips ∧
      ∀ g ∈ self.window now query, g.Suspicious self.ioc_ips → g.key = f.key → g.created_at ≤ f.created_at := by
  obtain ⟨hnewest, hsuspicious⟩ := List.mem_filter.mp (FirstOf.firsts_sublist.subset h)
  have hpairwise := self.window_pairwise now query
  rw [← List.take_append_drop n (self.window now query), List.pairwise_append] at hpairwise
  obtain ⟨hbefore, -, hcut⟩ := hpairwise
  refine ⟨List.mem_of_mem_take hnewest, of_decide_eq_true hsuspicious, fun g hg hother hkey => ?_⟩
  rw [← List.take_append_drop n (self.window now query), List.mem_append] at hg
  obtain hg | hg := hg
  · exact FirstOf.first_of_pairwise (fun f => le_refl f.created_at) (hbefore.filter _) h
      (List.mem_filter.mpr ⟨hg, decide_eq_true hother⟩) hkey
  · exact hcut f hnewest g hg

/-- The answer to a limit that is not negative. -/
theorem get_suspicious_eq (self : NetworkStore)
    (negative_limit : List FlowRecord → Except AppException (List FlowRecord)) (now : Time) {query : SuspiciousQuery}
    (hlimit : 0 ≤ query.limit) :
    self.get_suspicious negative_limit now query =
      .ok ((FirstOf.firsts SuspiciousItem.key []
        (self.suspicious_items query ((self.window now query).take (query.limit * 5).toNat))).take
          query.limit.toNat) := by
  have hfetched : 0 ≤ query.limit * 5 := by omega
  simp only [get_suspicious, sql_limit, items_until, if_pos hlimit, if_pos hfetched]
  rfl

/-- The first entries of the newest flows are the newest of their endpoints. -/
theorem newest_of_mem_answer {self : NetworkStore} {now : Time} {query : SuspiciousQuery} (hrisk : query.risk = none)
    {n : ℕ} {item : SuspiciousItem}
    (h : item ∈ FirstOf.firsts SuspiciousItem.key [] (self.suspicious_items query ((self.window now query).take n))) :
    ∃ f ∈ self.window now query, f.Suspicious self.ioc_ips ∧ item = f.item self.ioc_ips ∧
      ∀ g ∈ self.window now query, g.Suspicious self.ioc_ips → g.key = f.key → g.created_at ≤ f.created_at := by
  rw [suspicious_items_eq hrisk, FirstOf.firsts_map] at h
  obtain ⟨f, hf, rfl⟩ := List.mem_map.mp h
  obtain ⟨hwindow, hsuspicious, hlatest⟩ := newest_of_firsts hf
  exact ⟨f, hwindow, hsuspicious, rfl, hlatest⟩

/-- The answer shows one entry per endpoint of the newest suspicious flows, and hides endpoints exactly where the
cut-off before the deduplication leaves too few of them. No answer is short enough for a negative limit. -/
theorem represents_iff (self : NetworkStore)
    (negative_limit : List FlowRecord → Except AppException (List FlowRecord)) (now : Time)
    (agent_id : Option String) (time_range : String) (limit : ℤ) :
    (∃ answer, self.get_suspicious negative_limit now { agent_id, time_range, limit } = .ok answer ∧
        self.Represents now { agent_id, time_range, limit } answer) ↔
      0 ≤ limit ∧ self.CutOffSuffices now { agent_id, time_range, limit } := by
  set query : SuspiciousQuery := { agent_id, time_range, limit } with hquery
  set newest := (self.window now query).take (query.limit * 5).toNat with hnewest
  set entries := FirstOf.firsts SuspiciousItem.key [] (self.suspicious_items query newest) with hentries
  have hkeys : ∀ endpoint, endpoint ∈ entries.map SuspiciousItem.key ↔ endpoint ∈ self.endpoints newest := by
    intro endpoint
    rw [hentries, FirstOf.mem_keys_firsts_nil, keys_suspicious_items rfl]
  have hlength : entries.length = (self.endpoints newest).dedup.length := by
    rw [hentries, FirstOf.length_firsts_nil, keys_suspicious_items rfl]
  have hanswer (hlimit : 0 ≤ limit) :
      self.get_suspicious negative_limit now query = .ok (entries.take limit.toNat) :=
    self.get_suspicious_eq negative_limit now hlimit
  constructor
  · rintro ⟨answer, hget, h⟩
    have hlimit : 0 ≤ limit := le_trans (Int.natCast_nonneg _) h.bounded
    rw [hanswer hlimit] at hget
    obtain rfl := Except.ok.inj hget
    refine ⟨hlimit, ?_⟩
    by_cases hfull : limit ≤ entries.length
    · exact .inl (hlength ▸ hfull)
    · right
      intro endpoint hendpoint
      obtain ⟨f, hf, hsuspicious, rfl⟩ := mem_endpoints.mp hendpoint
      have hall : entries.take limit.toNat = entries := List.take_of_length_le (by omega)
      rw [← hkeys, ← hall]
      exact h.complete (by rw [hall]; exact not_le.mp hfull) f hf hsuspicious
  · rintro ⟨hlimit, h⟩
    refine ⟨_, hanswer hlimit, ?_, ?_, ?_, ?_⟩
    · rw [List.length_take]
      show _ ≤ limit
      omega
    · exact FirstOf.nodup_firsts.sublist ((List.take_sublist ..).map _)
    · intro item hitem
      exact newest_of_mem_answer rfl (List.mem_of_mem_take hitem)
    · intro hshort f hf hsuspicious
      have hshort : ((entries.take limit.toNat).length : ℤ) < limit := hshort
      rw [List.length_take] at hshort
      have hall : entries.take limit.toNat = entries := List.take_of_length_le (by omega)
      rw [hall, hkeys]
      obtain hfull | hcovered := h
      · have hfull : limit ≤ ((self.endpoints newest).dedup.length : ℤ) := hfull
        rw [← hlength] at hfull
        omega
      · exact hcovered _ (mem_endpoints.mpr ⟨f, hf, hsuspicious, rfl⟩)

/-- An endpoint that has not been seen for as long as the others. -/
def quiet_flow : FlowRecord where
  id := "quiet"
  src_ip := "10.0.0.5"
  dst_ip := "198.51.100.7"
  dst_port := 1337
  created_at := 0

/-- Ten flows of one endpoint, and an older one of another. -/
def chatty_store : NetworkStore where
  flows := ⟨quiet_flow :: (List.range 10).map fun n =>
    { id := toString n, src_ip := "10.0.0.5", dst_ip := "203.0.113.9", dst_port := 4444
      created_at := seconds (n + 1) }, by decide +kernel⟩
  threats := {}

/-- The ten flows fill what is fetched, and the answer has one entry of two. -/
theorem not_represents_chatty : ¬ ∃ answer,
    chatty_store.get_suspicious .ok (seconds 60) { limit := 2 } = .ok answer ∧
      chatty_store.Represents (seconds 60) { limit := 2 } answer := by
  rintro ⟨answer, hget, h⟩
  rw [get_suspicious_eq chatty_store .ok (seconds 60) (by decide)] at hget
  obtain rfl := Except.ok.inj hget
  have hwindow : quiet_flow ∈ chatty_store.window (seconds 60) { limit := 2 } :=
    Table.mem_select_desc.mpr ⟨List.mem_cons_self, by decide +kernel⟩
  have hshown := h.complete (by decide +kernel) quiet_flow hwindow (by decide +kernel)
  exact absurd hshown (by decide +kernel)

end NetworkStore

end larp
