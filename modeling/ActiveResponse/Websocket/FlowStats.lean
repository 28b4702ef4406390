import ActiveResponse.Core.Values
import ActiveResponse.Lib.Program

namespace larp

/-- A row of `flows` as the websocket handler builds it. Texts of the message are stored as they are. -/
structure RecordedFlow where
  src_ip : Json
  dst_ip : Json
  src_port : ℤ
  dst_port : ℤ
  protocol : Json
  bytes_sent : ℤ
  packets_sent : ℤ
  start_time : Time
  agent_id : Json
  process_name : Json
  pid : Json

namespace FlowStats

/-- `payload.get(key)`, with `None` for a missing key. -/
def value (payload : Dict) (key : String) : Json := (payload.get key).getD .null

/-- `payload.get(key) or default`. -/
def value_or (payload : Dict) (key : String) (default : Json) : Json :=
  if (value payload key).truthy then value payload key else default

/-- `int(payload.get(key, 0))`. -/
def delta (payload : Dict) (key : String) : Except AppException ℤ :=
  ((payload.get key).getD (.num 0)).to_int

/-- The share of the bytes that goes to one protocol: a division of integers, then the cut of the fraction. -/
def share (bytes_sent packets total : ℤ) : ℤ :=
  truncate (bytes_sent * (packets / (max 1 total : ℤ)))

section Handler

variable (py_str : Json → String)

/-- What the handler has read from the message before it stores anything. -/
structure Counters where
  agent_id : Json
  bytes_sent : ℤ
  packets_sent : ℤ
  tcp_pkts : ℤ
  udp_pkts : ℤ
  agent_ip : String
  process_name : Json
  pid : Json
  now_dt : Time

def Counters.read (agent_id : String) (payload : Dict) (now_dt : Time) : Except AppException Counters := do
  let bytes_sent ← delta payload "bytes_sent_delta"
  let packets_sent ← delta payload "packets_sent_delta"
  let tcp_pkts ← delta payload "tcp_packets_delta"
  let udp_pkts ← delta payload "udp_packets_delta"
  return {
    agent_id := (payload.get "agent_id").getD (.str agent_id)
    bytes_sent, packets_sent, tcp_pkts, udp_pkts
    agent_ip := py_str (value_or payload "ip_address" (.str "192.168.10.10"))
    process_name := value_or payload "process_name" (value payload "process")
    pid := value payload "pid"
    now_dt }

namespace Counters

variable (self : Counters)

def tcp_bytes : ℤ :=
  if 0 < self.tcp_pkts + self.udp_pkts then
    share self.bytes_sent self.tcp_pkts (self.tcp_pkts + self.udp_pkts)
  else self.bytes_sent

def udp_bytes : ℤ := share self.bytes_sent self.udp_pkts (self.tcp_pkts + self.udp_pkts)

def flow_tcp : RecordedFlow where
  src_ip := .str self.agent_ip
  dst_ip := .str "192.168.10.1"
  src_port := 0
  dst_port := 80
  protocol := .str "TCP"
  bytes_sent := self.tcp_bytes
  packets_sent := if self.tcp_pkts = 0 then self.packets_sent else self.tcp_pkts
  start_time := self.now_dt
  agent_id := self.agent_id
  process_name := self.process_name
  pid := self.pid

def flow_udp : RecordedFlow where
  src_ip := .str self.agent_ip
  dst_ip := .str "192.168.10.1"
  src_port := 0
  dst_port := 53
  protocol := .str "UDP"
  bytes_sent := self.udp_bytes
  packets_sent := self.udp_pkts
  start_time := self.now_dt
  agent_id := self.agent_id
  process_name := self.process_name
  pid := self.pid

/-- A flow that the message lists by itself. -/
def flow_item : Json → Except AppException RecordedFlow
  | .obj flow_data => do
    let src_port ← (value_or flow_data "src_port" (.num 0)).to_int
    let dst_port ← (value_or flow_data "dst_port" (.num 80)).to_int
    let bytes_sent ← (value_or flow_data "bytes_sent" (.num 0)).to_int
    let packets_sent ← (value_or flow_data "packets_sent" (.num 1)).to_int
    return {
      src_ip := value_or flow_data "src_ip" (.str self.agent_ip)
      dst_ip := value_or flow_data "dst_ip" (.str "192.168.10.1")
      src_port, dst_port
      protocol := value_or flow_data "protocol" (.str "TCP")
      bytes_sent, packets_sent
      start_time := self.now_dt
      agent_id := self.agent_id
      process_name := value_or flow_data "process_name" (value flow_data "process")
      pid := value flow_data "pid" }
  | _ => .error (.Fault "object has no attribute 'get'")

end Counters

variable (accept : RecordedFlow → Except AppException Unit)

/-- `flow_repo.add`: the database may refuse the row. -/
def add (flow : RecordedFlow) : Program AppException (List RecordedFlow) Unit := do
  liftM (accept flow)
  modify fun flows => flows ++ [flow]

def add_if (condition : Prop) [Decidable condition] (flow : RecordedFlow) :
    Program AppException (List RecordedFlow) Unit :=
  if condition then add accept flow else pure ()

/-- The summary rows: TCP also when the message counts no packets at all. -/
def store_summary (self : Counters) : Program AppException (List RecordedFlow) Unit := do
  add_if accept (0 < self.tcp_pkts ∨ (self.tcp_pkts = 0 ∧ self.udp_pkts = 0)) self.flow_tcp
  add_if accept (0 < self.udp_pkts) self.flow_udp

/-- `payload.get("flows") or payload.get("connections") or []`, if it is a list. -/
def flow_items (payload : Dict) : List Json :=
  match value_or payload "flows" (value payload "connections") with
  | .arr items => items
  | _ => []

/-- `data.get("payload", {})`. -/
def payload_of (data : Dict) : Except AppException Dict :=
  match data.get "payload" with
  | none => .ok []
  | some (.obj payload) => .ok payload
  | some _ => .error (.Fault "object has no attribute 'get'")

def store_items (self : Counters) : List Json → Program AppException (List RecordedFlow) Unit
  | [] => pure ()
  | item :: items => do
    let flow ← liftM (self.flow_item item)
    add accept flow
    store_items self items

/-- `_handle_flow_stats` on the flows stored so far. It replies unless the message waits for no answer. -/
def handle_flow_stats (agent_id : String) (data : Dict) (now_dt : Time) :
    Program AppException (List RecordedFlow) (Option Dict) := do
  let payload ← liftM (payload_of data)
  let counters ← liftM (Counters.read py_str agent_id payload now_dt)
  store_summary accept counters
  store_items accept counters (flow_items payload)
  if ((data.get "wait_ack").getD (.bool true)).truthy then
    return some [("status", .str "ack"), ("message", .str "Flow stats processed")]
  else return none

end Handler

/-! ## What is stored -/

section Stored

variable {py_str : Json → String} {accept : RecordedFlow → Except AppException Unit}

/-- The rows that `store_summary` adds. -/
def Counters.summary_rows (self : Counters) : List RecordedFlow :=
  (if 0 < self.tcp_pkts ∨ (self.tcp_pkts = 0 ∧ self.udp_pkts = 0) then [self.flow_tcp] else []) ++
    (if 0 < self.udp_pkts then [self.flow_udp] else [])

private theorem add_eq_ok {flow : RecordedFlow} {before after : List RecordedFlow}
    (h : (add accept flow).exec before = (.ok (), after)) : after = before ++ [flow] := by
  obtain ⟨_, flows, hlift, hmodify⟩ := Program.exec_bind_eq_ok_iff.mp h
  obtain ⟨-, rfl⟩ := Program.exec_lift_eq_ok hlift
  exact (Prod.mk.inj hmodify).2.symm

private theorem add_if_eq_ok {p : Prop} [Decidable p] {flow : RecordedFlow} {before after : List RecordedFlow}
    (h : (add_if accept p flow).exec before = (.ok (), after)) :
    after = before ++ if p then [flow] else [] := by
  unfold add_if at h
  by_cases hp : p
  · rw [if_pos hp] at h ⊢
    exact add_eq_ok h
  · rw [if_neg hp] at h ⊢
    rw [List.append_nil]
    exact (Prod.mk.inj h).2.symm

theorem store_summary_eq_ok {self : Counters} {before after : List RecordedFlow}
    (h : (store_summary accept self).exec before = (.ok (), after)) : after = before ++ self.summary_rows := by
  obtain ⟨_, flows, htcp, hudp⟩ := Program.exec_bind_eq_ok_iff.mp h
  rw [add_if_eq_ok hudp, add_if_eq_ok htcp, List.append_assoc, Counters.summary_rows]

/-- Every listed flow becomes a row after the ones that were there. -/
theorem store_items_eq_ok {self : Counters} {items : List Json} {before after : List RecordedFlow}
    (h : (store_items accept self items).exec before = (.ok (), after)) :
    ∃ rows, after = before ++ rows ∧ rows.length = items.length := by
  induction items generalizing before with
  | nil => exact ⟨[], by rw [List.append_nil]; exact (Prod.mk.inj h).2.symm, rfl⟩
  | cons item items ih =>
    obtain ⟨flow, flows, hlift, h⟩ := Program.exec_bind_eq_ok_iff.mp h
    obtain ⟨-, rfl⟩ := Program.exec_lift_eq_ok hlift
    obtain ⟨_, flows, hadd, hrest⟩ := Program.exec_bind_eq_ok_iff.mp h
    obtain ⟨rows, hafter, hlength⟩ := ih hrest
    refine ⟨flow :: rows, ?_, by rw [List.length_cons, hlength, List.length_cons]⟩
    rw [hafter, add_eq_ok hadd, List.append_assoc, List.singleton_append]

end Stored

/-! ## The bytes of the summary rows -/

/-- Two quotients lose nothing against the quotient of the sum exactly when both divisions are exact. -/
theorem div_add_div_eq_iff {n x y : ℕ} (hn : 0 < n) (hsum : n ∣ x + y) : x / n + y / n = (x + y) / n ↔ n ∣ x := by
  rw [Nat.add_div hn]
  have hx := Nat.mod_lt x hn
  have hmod : (x % n + y % n) % n = 0 := by rw [← Nat.add_mod, Nat.mod_eq_zero_of_dvd hsum]
  constructor
  · intro h
    split at h
    · omega
    · rename_i hlt
      rw [Nat.mod_eq_of_lt (not_le.mp hlt)] at hmod
      exact Nat.dvd_of_mod_eq_zero (by omega)
  · intro h
    rw [Nat.mod_eq_zero_of_dvd h, Nat.zero_add]
    have hy := Nat.mod_lt y hn
    rw [if_neg (by omega), Nat.add_zero]

theorem share_natCast (bytes packets : ℕ) {total : ℕ} (htotal : 0 < total) :
    share bytes packets total = (bytes * packets / total : ℕ) := by
  have hmax : max 1 (total : ℤ) = total := max_eq_right (by omega)
  have hquotient : ((bytes : ℤ) : ℚ) * (((packets : ℤ) : ℚ) / ((total : ℤ) : ℚ)) =
      ((bytes * packets : ℕ) : ℚ) / (total : ℚ) := by
    push_cast
    rw [mul_div_assoc]
  have hnonneg : ¬ ((bytes * packets : ℕ) : ℚ) / (total : ℚ) < 0 :=
    not_lt.mpr (div_nonneg (Nat.cast_nonneg _) (Nat.cast_nonneg _))
  unfold share truncate
  rw [hmax, hquotient, if_neg hnonneg]
  exact Rat.floor_natCast_div_natCast (bytes * packets) total

/-- The counts of a message that reports no negative number. -/
structure Counters.Counts (counters : Counters) (bytes tcp udp : ℕ) : Prop where
  bytes_sent : counters.bytes_sent = bytes
  tcp_pkts : counters.tcp_pkts = tcp
  udp_pkts : counters.udp_pkts = udp

/-- The bytes of the summary rows add up to the bytes of the message, and no row has a negative number of them. -/
def BytesConserved (bytes : ℕ) (summary : List RecordedFlow) : Prop :=
  (summary.map RecordedFlow.bytes_sent).sum = bytes ∧ ∀ flow ∈ summary, 0 ≤ flow.bytes_sent

theorem Counters.Counts.tcp_bytes {self : Counters} {bytes tcp udp : ℕ} (h : self.Counts bytes tcp udp)
    (htotal : 0 < tcp + udp) : self.tcp_bytes = (bytes * tcp / (tcp + udp) : ℕ) := by
  have hpos : 0 < self.tcp_pkts + self.udp_pkts := by rw [h.tcp_pkts, h.udp_pkts]; exact_mod_cast htotal
  rw [Counters.tcp_bytes, if_pos hpos, h.bytes_sent, h.tcp_pkts, h.udp_pkts]
  exact_mod_cast share_natCast bytes tcp htotal

theorem Counters.Counts.udp_bytes {self : Counters} {bytes tcp udp : ℕ} (h : self.Counts bytes tcp udp)
    (htotal : 0 < tcp + udp) : self.udp_bytes = (bytes * udp / (tcp + udp) : ℕ) := by
  rw [Counters.udp_bytes, h.bytes_sent, h.tcp_pkts, h.udp_pkts]
  exact_mod_cast share_natCast bytes udp htotal

private theorem sum_bytes_if (p : Prop) [Decidable p] (flow : RecordedFlow) :
    ((if p then [flow] else []).map RecordedFlow.bytes_sent).sum = if p then flow.bytes_sent else 0 := by
  split
  · exact List.sum_singleton
  · rfl

/-- A protocol without packets has no row, or one that its share of no bytes leaves out of the sum. -/
theorem Counters.Counts.summary_bytes {self : Counters} {bytes tcp udp : ℕ} (h : self.Counts bytes tcp udp)
    (htotal : 0 < tcp + udp) :
    (self.summary_rows.map RecordedFlow.bytes_sent).sum =
      (bytes * tcp / (tcp + udp) + bytes * udp / (tcp + udp) : ℕ) := by
  have htcp : (if 0 < self.tcp_pkts ∨ (self.tcp_pkts = 0 ∧ self.udp_pkts = 0) then self.flow_tcp.bytes_sent else 0) =
      (bytes * tcp / (tcp + udp) : ℕ) := by
    rw [show self.flow_tcp.bytes_sent = _ from h.tcp_bytes htotal, h.tcp_pkts, h.udp_pkts]
    rcases Nat.eq_zero_or_pos tcp with rfl | hpos
    · simp
    · rw [if_pos (by omega)]
  have hudp : (if 0 < self.udp_pkts then self.flow_udp.bytes_sent else 0) = (bytes * udp / (tcp + udp) : ℕ) := by
    rw [show self.flow_udp.bytes_sent = _ from h.udp_bytes htotal, h.udp_pkts]
    rcases Nat.eq_zero_or_pos udp with rfl | hpos
    · simp
    · rw [if_pos (by omega)]
  rw [Counters.summary_rows, List.map_append, List.sum_append, sum_bytes_if, sum_bytes_if, htcp, hudp, Nat.cast_add]

/-- A message without packets has one row with all its bytes. -/
theorem Counters.Counts.summary_of_no_packets {self : Counters} {bytes tcp udp : ℕ} (h : self.Counts bytes tcp udp)
    (hzero : tcp + udp = 0) : self.summary_rows = [self.flow_tcp] ∧ self.flow_tcp.bytes_sent = bytes := by
  have htcp : self.tcp_pkts = 0 := by rw [h.tcp_pkts]; omega
  have hudp : self.udp_pkts = 0 := by rw [h.udp_pkts]; omega
  simp [Counters.summary_rows, Counters.flow_tcp, Counters.tcp_bytes, htcp, hudp, h.bytes_sent]

theorem Counters.Counts.nonneg {self : Counters} {bytes tcp udp : ℕ} (h : self.Counts bytes tcp udp) :
    ∀ flow ∈ self.summary_rows, 0 ≤ flow.bytes_sent := by
  intro flow hflow
  rcases Nat.eq_zero_or_pos (tcp + udp) with hzero | htotal
  · obtain ⟨hrows, hbytes⟩ := h.summary_of_no_packets hzero
    rw [hrows, List.mem_singleton] at hflow
    rw [hflow, hbytes]
    exact Int.natCast_nonneg _
  · have hflow : flow = self.flow_tcp ∨ flow = self.flow_udp := by
      rcases List.mem_append.mp hflow with hflow | hflow
      · split at hflow
        · exact .inl (List.mem_singleton.mp hflow)
        · cases hflow
      · split at hflow
        · exact .inr (List.mem_singleton.mp hflow)
        · cases hflow
    rcases hflow with rfl | rfl
    · exact (Int.natCast_nonneg _).trans_eq (h.tcp_bytes htotal).symm
    · exact (Int.natCast_nonneg _).trans_eq (h.udp_bytes htotal).symm

theorem Counters.Counts.conserved_iff {self : Counters} {bytes tcp udp : ℕ} (h : self.Counts bytes tcp udp) :
    BytesConserved bytes self.summary_rows ↔ tcp + udp ∣ bytes * tcp := by
  refine (and_iff_left h.nonneg).trans ?_
  rcases Nat.eq_zero_or_pos (tcp + udp) with hzero | htotal
  · obtain ⟨hrows, hbytes⟩ := h.summary_of_no_packets hzero
    have hdvd : tcp + udp ∣ bytes * tcp := by rw [show tcp = 0 by omega, Nat.mul_zero]; exact dvd_zero _
    rw [hrows, List.map_singleton, List.sum_singleton]
    exact iff_of_true hbytes hdvd
  · have hsum : bytes * tcp + bytes * udp = bytes * (tcp + udp) := (Nat.mul_add bytes tcp udp).symm
    have hbytes : (bytes * tcp + bytes * udp) / (tcp + udp) = bytes := by
      rw [hsum, Nat.mul_div_cancel _ htotal]
    rw [h.summary_bytes htotal, Nat.cast_inj, ← div_add_div_eq_iff htotal (hsum ▸ Nat.dvd_mul_left _ bytes), hbytes]

/-! ## Handled messages -/

/-- A message whose payload has the three counts. -/
structure Reports (data payload : Dict) (bytes tcp udp : ℕ) : Prop where
  has_payload : payload_of data = .ok payload
  bytes_sent : delta payload "bytes_sent_delta" = .ok bytes
  tcp_pkts : delta payload "tcp_packets_delta" = .ok tcp
  udp_pkts : delta payload "udp_packets_delta" = .ok udp

section Messages

variable {py_str : Json → String} {accept : RecordedFlow → Except AppException Unit}

theorem Reports.counts {data payload : Dict} {bytes tcp udp : ℕ} (h : Reports data payload bytes tcp udp)
    {agent_id : String} {now_dt : Time} {counters : Counters}
    (hread : Counters.read py_str agent_id payload now_dt = .ok counters) : counters.Counts bytes tcp udp := by
  obtain ⟨_, hbytes, hread⟩ := bind_eq_ok_iff.mp hread
  obtain ⟨_, _, hread⟩ := bind_eq_ok_iff.mp hread
  obtain ⟨_, htcp, hread⟩ := bind_eq_ok_iff.mp hread
  obtain ⟨_, hudp, hread⟩ := bind_eq_ok_iff.mp hread
  cases hread
  exact ⟨Except.ok.inj (hbytes.symm.trans h.bytes_sent), Except.ok.inj (htcp.symm.trans h.tcp_pkts),
    Except.ok.inj (hudp.symm.trans h.udp_pkts)⟩

/-- What a handled message has stored: the summary rows, then a row for every flow that it lists. -/
theorem handle_flow_stats_eq_ok {agent_id : String} {data : Dict} {now_dt : Time} {before after : List RecordedFlow}
    {reply : Option Dict}
    (h : (handle_flow_stats py_str accept agent_id data now_dt).exec before = (.ok reply, after)) :
    ∃ payload counters rows, payload_of data = .ok payload ∧
      Counters.read py_str agent_id payload now_dt = .ok counters ∧
      after = before ++ counters.summary_rows ++ rows ∧ rows.length = (flow_items payload).length := by
  obtain ⟨payload, _, hlift, h⟩ := Program.exec_bind_eq_ok_iff.mp h
  obtain ⟨hpayload, rfl⟩ := Program.exec_lift_eq_ok hlift
  obtain ⟨counters, _, hlift', h⟩ := Program.exec_bind_eq_ok_iff.mp h
  obtain ⟨hread, rfl⟩ := Program.exec_lift_eq_ok hlift'
  obtain ⟨_, flows, hsummary, h⟩ := Program.exec_bind_eq_ok_iff.mp h
  obtain ⟨_, stored, hitems, h⟩ := Program.exec_bind_eq_ok_iff.mp h
  obtain ⟨rows, hrows, hlength⟩ := store_items_eq_ok hitems
  have hafter : after = stored := by split at h <;> exact (Prod.mk.inj h).2.symm
  refine ⟨payload, counters, rows, hpayload, hread, ?_, hlength⟩
  rw [hafter, hrows, store_summary_eq_ok hsummary]

/-- The rows between those that were there and those that the message lists are its summary. -/
def Summary (payload : Dict) (before after summary : List RecordedFlow) : Prop :=
  ∃ items, after = before ++ summary ++ items ∧ items.length = (flow_items payload).length

/-- The law: the summary that a handled message leaves behind keeps its bytes. -/
def ByteConservation : Prop :=
  ∀ (py_str : Json → String) (accept : RecordedFlow → Except AppException Unit) (agent_id : String) (now_dt : Time)
    (data payload : Dict) (bytes tcp udp : ℕ) (before after : List RecordedFlow) (reply : Option Dict),
    Reports data payload bytes tcp udp →
    (handle_flow_stats py_str accept agent_id data now_dt).exec before = (.ok reply, after) →
    ∃ summary, Summary payload before after summary ∧ BytesConserved bytes summary

/-- The summary of a message keeps its bytes exactly when the share of the TCP packets is a whole number. -/
theorem bytes_conserved_iff (py_str : Json → String) (accept : RecordedFlow → Except AppException Unit)
    (agent_id : String) (now_dt : Time) {data payload : Dict}
    {bytes tcp udp : ℕ} (hreports : Reports data payload bytes tcp udp) {before after : List RecordedFlow}
    {reply : Option Dict}
    (hrun : (handle_flow_stats py_str accept agent_id data now_dt).exec before = (.ok reply, after)) :
    ∃ summary, Summary payload before after summary ∧
      (BytesConserved bytes summary ↔ tcp + udp ∣ bytes * tcp) ∧ ∀ flow ∈ summary, 0 ≤ flow.bytes_sent := by
  obtain ⟨_, counters, rows, hpayload, hread, hafter, hlength⟩ := handle_flow_stats_eq_ok hrun
  obtain rfl := Except.ok.inj (hreports.has_payload.symm.trans hpayload)
  have hcounts := hreports.counts hread
  exact ⟨counters.summary_rows, ⟨rows, hafter, hlength⟩, hcounts.conserved_iff, hcounts.nonneg⟩

end Messages

/-! ## Two messages -/

def flow_payload (bytes tcp udp : ℕ) : Dict :=
  [("bytes_sent_delta", .num bytes), ("packets_sent_delta", .num (tcp + udp)), ("tcp_packets_delta", .num tcp),
    ("udp_packets_delta", .num udp), ("ip_address", .str "192.168.10.12")]

def flow_message (bytes tcp udp : ℕ) : Dict :=
  [("type", .str "FLOW_STATS"), ("payload", .obj (flow_payload bytes tcp udp))]

private theorem flow_message_reports (bytes tcp udp : ℕ) :
    Reports (flow_message bytes tcp udp) (flow_payload bytes tcp udp) bytes tcp udp where
  has_payload := rfl
  bytes_sent := by simp [delta, flow_payload, Dict.get, Json.to_int, truncate]
  tcp_pkts := by simp [delta, flow_payload, Dict.get, Json.to_int, truncate, List.lookup_cons]
  udp_pkts := by simp [delta, flow_payload, Dict.get, Json.to_int, truncate, List.lookup_cons]

/-- What a manager without flows has stored after a message. -/
private def stored (bytes tcp udp : ℕ) : List RecordedFlow :=
  ((handle_flow_stats (fun _ => "") (fun _ => .ok ()) "web-1" (flow_message bytes tcp udp) 0).exec []).2

theorem bytes_conserved_4500 :
    ∃ summary, Summary (flow_payload 4500 20 10) [] (stored 4500 20 10) summary ∧ BytesConserved 4500 summary := by
  have hrun : (handle_flow_stats (fun _ => "") (fun _ => .ok ()) "web-1" (flow_message 4500 20 10) 0).exec [] =
      (.ok (some [("status", .str "ack"), ("message", .str "Flow stats processed")]), stored 4500 20 10) := rfl
  obtain ⟨summary, hsummary, hiff, -⟩ := bytes_conserved_iff _ _ "web-1" 0 (flow_message_reports 4500 20 10) hrun
  exact ⟨summary, hsummary, hiff.mpr (by decide)⟩

/-- A byte sent in one TCP and one UDP packet is in neither row. -/
theorem not_byteConservation_one_byte : ¬ ByteConservation := by
  intro h
  have hrun : (handle_flow_stats (fun _ => "") (fun _ => .ok ()) "web-1" (flow_message 1 1 1) 0).exec [] =
      (.ok (some [("status", .str "ack"), ("message", .str "Flow stats processed")]), stored 1 1 1) := rfl
  obtain ⟨summary, hsummary, hsum, -⟩ := h _ _ "web-1" 0 _ _ 1 1 1 _ _ _ (flow_message_reports 1 1 1) hrun
  obtain ⟨items, hstored, hitems⟩ := hsummary
  rw [List.length_eq_zero_iff.mp hitems, List.append_nil, List.nil_append] at hstored
  have hzero : ((stored 1 1 1).map RecordedFlow.bytes_sent).sum = 0 := by decide +kernel
  rw [hstored] at hzero
  omega

end FlowStats

end larp
