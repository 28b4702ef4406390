import ActiveResponse.Agent.ConnectionTracker
import ActiveResponse.Detection.Scores
import ActiveResponse.Lib.GroupBy
import Mathlib.Data.List.Sort

namespace larp

/-- An entry of the connection history as the manager reads it. There is no timestamp if it is missing or if
`fromisoformat` refuses it. -/
structure HistoryEntry where
  dst_ip : String
  dst_port : ℤ := 80
  timestamp : Option Time

/-- The result of `analyze_intervals`. With less than three intervals it lacks the last three keys. -/
structure IntervalStats where
  count : ℕ
  cv : ℚ
  is_beaconing : Bool
  mean_interval_sec : Option ℚ := none
  std_dev_sec : Option ℚ := none
  rhythm_score : Option ℚ := none

structure BeaconCandidate where
  dst_ip : String
  dst_port : ℤ
  total_connections : ℕ
  mean_interval_sec : ℚ
  std_dev_sec : ℚ
  cv : ℚ
  rhythm_score : ℚ
  is_beaconing : Bool := true

/-- `round(q, digits)`. -/
def round_digits (digits : ℕ) (q : ℚ) : ℚ := round_half_even (10 ^ digits * q) / 10 ^ digits

/-- A group of an IPv4 address, as `ipaddress` accepts it. -/
def parse_octet (digits : List Char) : Option ℕ :=
  if digits ≠ [] ∧ digits.length ≤ 3 ∧ digits.all Char.isDigit ∧ (digits.length = 1 ∨ digits.head? ≠ some '0') then
    (parse_digits 0 false digits).filter (· ≤ 255)
  else none

/-- `ipaddress.ip_address(dst_ip) in DOCKER_SUBNET`. An IPv6 address is not in an IPv4 network. -/
def in_docker_subnet (dst_ip : String) : Bool :=
  match (dst_ip.toList.splitOn '.').map parse_octet with
  | [some first, some second, some _, some _] => first = 172 ∧ 16 ≤ second ∧ second < 32
  | _ => false

namespace BeaconingDetectionService

/-- `_get_ignored_ips`: the addresses that are set in the environment or found by name are added. -/
def get_ignored_ips (manager_ip_env manager_dns_ip host_ip : Option String) : List String :=
  ["127.0.0.1", "0.0.0.0", "localhost", "::1"] ++ ((manager_ip_env.filter (· ≠ "")).map py_strip).toList ++
    manager_dns_ip.toList ++ host_ip.toList

def calculate_intervals (timestamps : List Time) : List ℚ :=
  let sorted_ts := timestamps.insertionSort (· ≤ ·)
  ((sorted_ts.zip sorted_ts.tail).map fun (earlier, later) => ((later - earlier : ℤ) : ℚ) / 1000000).filter (0 < ·)

variable (sqrt : ℚ → ℚ)

def analyze_intervals (intervals : List ℚ) : IntervalStats :=
  let n := intervals.length
  if n < 3 then { count := n, cv := 1, is_beaconing := false }
  else
    let mean_val : ℚ := intervals.sum / n
    let variance : ℚ := (intervals.map fun x => (x - mean_val) ^ 2).sum / n
    let std_dev := sqrt variance
    let cv := round_digits 3 (if 0 < mean_val then std_dev / mean_val else 1)
    { count := n, cv
      is_beaconing := (cv ≤ 0.25 ∧ 5 ≤ n) ∨ (cv ≤ 0.35 ∧ 10 ≤ n)
      mean_interval_sec := some (round2 mean_val)
      std_dev_sec := some (round2 std_dev)
      rhythm_score := some (round_digits 1 (max 0 (min 100 ((1 - cv) * 100)))) }

/-- The entries that are grouped. -/
def considered (ignored_ips : List String) (conn : HistoryEntry) : Bool :=
  conn.dst_ip ≠ "" ∧ conn.dst_ip ∉ ignored_ips ∧ conn.dst_ip.toList.take 4 ≠ "127.".toList ∧
    ¬ (conn.dst_port ∈ [8000, 8005] ∧ in_docker_subnet conn.dst_ip) ∧ conn.timestamp.isSome

/-- The timestamps of every endpoint. The text of the key determines the address and the port, as a port holds no
colon. -/
def groups (ignored_ips : List String) (connection_history : List HistoryEntry) :
    List ((String × ℤ) × List Time) :=
  GroupBy.group (fun conn : HistoryEntry => (conn.dst_ip, conn.dst_port)) (fun conn => conn.timestamp.getD 0)
    (connection_history.filter (considered ignored_ips))

/-- The candidate that a group is found to be. -/
def candidate (endpoint : String × ℤ) (ts_list : List Time) (stats : IntervalStats) :
    Except AppException BeaconCandidate :=
  if ':' ∈ endpoint.1.toList then .error (.ValueError "too many values to unpack (expected 2)")
  else
    match stats.mean_interval_sec, stats.std_dev_sec, stats.rhythm_score with
    | some mean_interval_sec, some std_dev_sec, some rhythm_score =>
      .ok {
        dst_ip := endpoint.1, dst_port := endpoint.2, total_connections := ts_list.length, mean_interval_sec
        std_dev_sec, cv := stats.cv, rhythm_score }
    | _, _, _ => .error (.Fault "'mean_interval_sec'")

/-- The second loop of `evaluate_connections`. -/
def find_candidates (min_connections : ℤ) (cv_threshold : ℚ) :
    List ((String × ℤ) × List Time) → Except AppException (List BeaconCandidate)
  | [] => .ok []
  | (endpoint, ts_list) :: rest =>
    let stats := analyze_intervals sqrt (calculate_intervals ts_list)
    if min_connections ≤ ts_list.length ∧ stats.cv ≤ cv_threshold ∧ min_connections - 1 ≤ stats.count then do
      let found ← candidate endpoint ts_list stats
      let others ← find_candidates min_connections cv_threshold rest
      return found :: others
    else find_candidates min_connections cv_threshold rest

def evaluate_connections (ignored_ips : List String) (connection_history : List HistoryEntry)
    (min_connections : ℤ := 8) (cv_threshold : ℚ := 0.25) : Except AppException (List BeaconCandidate) :=
  find_candidates sqrt min_connections cv_threshold (groups ignored_ips connection_history)

variable {sqrt} {ignored_ips : List String} {min_connections : ℤ} {cv_threshold : ℚ}

theorem candidate_ok {endpoint : String × ℤ} {ts_list : List Time} {stats : IntervalStats} {found : BeaconCandidate}
    (h : candidate endpoint ts_list stats = .ok found) : (found.dst_ip, found.dst_port) = endpoint := by
  unfold candidate at h
  split at h
  · cases h
  · split at h
    · cases h
      rfl
    · cases h

/-- Every candidate is an endpoint with enough timestamps. -/
theorem mem_find_candidates {grouped : List ((String × ℤ) × List Time)} {candidates : List BeaconCandidate}
    (h : find_candidates sqrt min_connections cv_threshold grouped = .ok candidates) {found : BeaconCandidate}
    (hfound : found ∈ candidates) :
    ∃ ts_list, ((found.dst_ip, found.dst_port), ts_list) ∈ grouped ∧ min_connections ≤ ts_list.length := by
  induction grouped generalizing candidates with
  | nil =>
    cases h
    cases hfound
  | cons first rest ih =>
    obtain ⟨endpoint, ts_list⟩ := first
    rw [find_candidates] at h
    split at h
    · rename_i hcandidate
      obtain ⟨head, hhead, h⟩ := bind_eq_ok_iff.mp h
      obtain ⟨others, hothers, h⟩ := bind_eq_ok_iff.mp h
      cases h
      rcases List.mem_cons.mp hfound with rfl | hrest
      · exact ⟨ts_list, by rw [candidate_ok hhead]; exact List.mem_cons_self, hcandidate.1⟩
      · obtain ⟨times, hmem, hlength⟩ := ih hothers hrest
        exact ⟨times, List.mem_cons_of_mem _ hmem, hlength⟩
    · obtain ⟨times, hmem, hlength⟩ := ih h hfound
      exact ⟨times, List.mem_cons_of_mem _ hmem, hlength⟩

/-- The entries to the endpoint of a candidate. -/
theorem le_countP_of_candidate {connection_history : List HistoryEntry} {candidates : List BeaconCandidate}
    (h : evaluate_connections sqrt ignored_ips connection_history min_connections cv_threshold = .ok candidates)
    {found : BeaconCandidate} (hfound : found ∈ candidates) :
    min_connections ≤ connection_history.countP fun conn =>
      conn.dst_ip = found.dst_ip ∧ conn.dst_port = found.dst_port := by
  obtain ⟨ts_list, hmem, hlength⟩ := mem_find_candidates h hfound
  have hvalues := GroupBy.values_of_mem_group hmem
  rw [hvalues, List.length_map, List.filter_filter, ← List.countP_eq_length_filter] at hlength
  refine hlength.trans ?_
  have hle : ∀ conn ∈ connection_history, (decide ((conn.dst_ip, conn.dst_port) = (found.dst_ip, found.dst_port)) &&
      considered ignored_ips conn) = true → decide (conn.dst_ip = found.dst_ip ∧ conn.dst_port = found.dst_port) := by
    intro conn _ hconn
    rw [Bool.and_eq_true, decide_eq_true_eq, Prod.mk.injEq] at hconn
    exact decide_eq_true hconn.1
  exact_mod_cast List.countP_mono_left hle

end BeaconingDetectionService

/-- What the manager reads of an entry of the tracker. -/
def ConnectionItem.entry (self : ConnectionItem) : HistoryEntry where
  dst_ip := self.dst_ip
  dst_port := self.dst_port
  timestamp := some self.timestamp

namespace ConnectionTracker

variable (sqrt : ℚ → ℚ) (ignored_ips : List String)

/-- The manager reports a candidate for the endpoint of the connection. -/
def Suspected (self : ConnectionTracker) (key : ConnKey) : Prop :=
  ∃ candidates, BeaconingDetectionService.evaluate_connections sqrt ignored_ips
      (self.history.map ConnectionItem.entry) = .ok candidates ∧
    ∃ found ∈ candidates, found.dst_ip = key.dst_ip ∧ found.dst_port = key.dst_port

/-- The host has no other connection to the endpoint. -/
def OnlyTraffic (key : ConnKey) (round : Round) : Prop :=
  ∀ conn ∈ round.2, ∀ other, conn.established = some other → other.dst_ip = key.dst_ip →
    other.dst_port = key.dst_port → other = key

/-- Over any rounds, a connection that stays established has at most one entry in the history exactly if it is not
recorded, has been sampled once at most, or its last entry but one has been pushed out; and if the host has no other
connection to the endpoint, that is also exactly when it has one entry and no candidate is reported for it. -/
theorem persistent_connection_iff (max_history : ℕ) (rounds : List Round) (key : ConnKey)
    (hpersists : ∀ round ∈ rounds, Persists key round) :
    let tracker := transition.run sample { max_history } rounds
    (tracker.history.countP (of_connection key) ≤ 1 ↔ RecordedOnce key max_history rounds) ∧
    ((∀ round ∈ rounds, OnlyTraffic key round) →
      (tracker.history.countP (of_connection key) ≤ 1 ∧ ¬ tracker.Suspected sqrt ignored_ips key ↔
        RecordedOnce key max_history rounds)) := by
  have hiff := countP_history_le_one_iff max_history hpersists
  refine ⟨hiff, fun honly => ?_⟩
  rw [← hiff, and_iff_left_iff_imp]
  rintro hone ⟨candidates, hcandidates, found, hfound, hip, hport⟩
  have hcount := BeaconingDetectionService.le_countP_of_candidate hcandidates hfound
  rw [List.countP_map, hip, hport] at hcount
  have hle : (transition.run sample { max_history } rounds).history.countP ((fun conn : HistoryEntry =>
      decide (conn.dst_ip = key.dst_ip ∧ conn.dst_port = key.dst_port)) ∘ ConnectionItem.entry) ≤
        (transition.run sample { max_history } rounds).history.countP (of_connection key) := by
    refine List.countP_mono_left fun item hitem hendpoint => ?_
    rw [(history_run max_history rounds).1] at hitem
    obtain ⟨round, hround, hrecorded⟩ := List.mem_flatMap.mp (List.mem_of_mem_drop hitem)
    obtain ⟨conn, hconn, hestablished⟩ := mem_recorded hrecorded
    obtain ⟨hitem_ip, hitem_port⟩ := of_decide_eq_true hendpoint
    exact decide_eq_true (honly round hround conn hconn _ hestablished hitem_ip (Int.ofNat_inj.mp hitem_port))
  omega

/-- A long-lived connection to a web server. -/
def web_connection : PsConn := { laddr := some ("10.0.0.5", 50000), raddr := some ("203.0.113.9", 443), status := "ESTABLISHED" }

def web_key : ConnKey := ⟨"10.0.0.5", 50000, "203.0.113.9", 443⟩

/-- Connections to a mail server, one for each mailbox. -/
def mail_connections : List PsConn :=
  (List.range 60).map fun n =>
    { laddr := some ("10.0.0.5", 40000 + n), raddr := some ("198.51.100.7", 993), status := "ESTABLISHED" }

/-- Rounds with the same connections, five seconds apart. -/
def rounds_of (conns : List PsConn) (n : ℕ) : List Round := (List.range n).map fun i => (seconds (5 * i), conns)

/-- The machine has one address besides the fixed ones. -/
def ignored : List String := BeaconingDetectionService.get_ignored_ips none none (some "10.0.0.5")

/-- The mail connections of two rounds fill the history, so the web connection has its latest entry only. -/
theorem persistent_connection_busy_host :
    (transition.run sample {} (rounds_of (web_connection :: mail_connections) 3)).history.countP
        (of_connection web_key) ≤ 1 ∧
      ¬ (transition.run sample {} (rounds_of (web_connection :: mail_connections) 3)).Suspected (fun q => q) ignored
        web_key := by
  have hpersists : ∀ round ∈ rounds_of (web_connection :: mail_connections) 3, Persists web_key round := by
    intro round hround
    obtain ⟨i, -, rfl⟩ := List.mem_map.mp hround
    change (web_connection :: mail_connections).countP (fun conn => conn.established = some web_key) = 1
    decide +kernel
  have honly : ∀ round ∈ rounds_of (web_connection :: mail_connections) 3, OnlyTraffic web_key round := by
    intro round hround conn hconn other hother hip _
    obtain ⟨i, -, rfl⟩ := List.mem_map.mp hround
    rcases List.mem_cons.mp hconn with rfl | hmail
    · exact (Option.some.inj hother).symm
    · obtain ⟨n, -, rfl⟩ := List.mem_map.mp hmail
      obtain rfl := Option.some.inj hother
      exact absurd hip (by simp [web_key])
  refine ((persistent_connection_iff (fun q => q) ignored 100 _ web_key hpersists).2 honly).mpr (.inr (.inr ?_))
  exact ⟨rounds_of (web_connection :: mail_connections) 1, (seconds 5, web_connection :: mail_connections),
    (seconds 10, web_connection :: mail_connections), rfl, by decide +kernel⟩

/-- After eight rounds the connection has eight entries, and it is reported as a beacon. -/
theorem not_persistent_connection_eight_rounds :
    ¬ (transition.run sample {} (rounds_of [web_connection] 8)).history.countP (of_connection web_key) ≤ 1 ∧
      (transition.run sample {} (rounds_of [web_connection] 8)).Suspected (fun q => q) ignored web_key := by
  refine ⟨by decide +kernel, ?_⟩
  have hfound : ((BeaconingDetectionService.evaluate_connections (fun q => q) ignored
      ((transition.run sample {} (rounds_of [web_connection] 8)).history.map ConnectionItem.entry)).toOption.any fun candidates =>
        candidates.any fun found => found.dst_ip = web_key.dst_ip ∧ found.dst_port = web_key.dst_port) = true := by
    decide +kernel
  unfold Suspected
  cases hresult : BeaconingDetectionService.evaluate_connections (fun q => q) ignored
      ((transition.run sample {} (rounds_of [web_connection] 8)).history.map ConnectionItem.entry) with
  | error e => simp [hresult, Except.toOption] at hfound
  | ok candidates =>
    rw [hresult] at hfound
    obtain ⟨found, hmem, hendpoint⟩ := List.any_eq_true.mp hfound
    exact ⟨candidates, rfl, found, hmem, of_decide_eq_true hendpoint⟩

end ConnectionTracker

end larp
