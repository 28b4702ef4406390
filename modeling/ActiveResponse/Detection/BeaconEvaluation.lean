import ActiveResponse.Detection.Beaconing
import Mathlib.Algebra.Order.BigOperators.Group.List

namespace larp

namespace BeaconingDetectionService

/-! ## Intervals -/

theorem calculate_intervals_perm {timestamps others : List Time} (h : timestamps.Perm others) :
    calculate_intervals timestamps = calculate_intervals others := by
  have hsorted : timestamps.insertionSort (· ≤ ·) = others.insertionSort (· ≤ ·) :=
    ((List.perm_insertionSort _ timestamps).trans (h.trans (List.perm_insertionSort _ others).symm)).eq_of_sortedLE
      List.sortedLE_insertionSort List.sortedLE_insertionSort
  rw [calculate_intervals, calculate_intervals, hsorted]

theorem pos_of_mem_intervals {timestamps : List Time} {interval : ℚ} (h : interval ∈ calculate_intervals timestamps) :
    0 < interval := of_decide_eq_true (List.mem_filter.mp h).2

/-- The mean of some values. -/
def mean (values : List ℚ) : ℚ := values.sum / values.length

/-- The coefficient of variation, rounded to three decimals. -/
def variation (sqrt : ℚ → ℚ) (values : List ℚ) : ℚ :=
  round_digits 3 (sqrt (mean (values.map fun x => (x - mean values) ^ 2)) / mean values)

theorem mean_pos {values : List ℚ} (hne : values ≠ []) (hpos : ∀ x ∈ values, 0 < x) : 0 < mean values := by
  refine div_pos (List.sum_pos values hpos hne) ?_
  exact_mod_cast List.length_pos_iff.mpr hne

variable {sqrt : ℚ → ℚ}

theorem count_analyze_intervals (intervals : List ℚ) :
    (analyze_intervals sqrt intervals).count = intervals.length := by
  unfold analyze_intervals
  dsimp only
  split <;> rfl

theorem cv_of_few {intervals : List ℚ} (h : intervals.length < 3) : (analyze_intervals sqrt intervals).cv = 1 := by
  simp only [analyze_intervals, h, if_true]

theorem cv_of_many {intervals : List ℚ} (h : 3 ≤ intervals.length) (hpos : ∀ x ∈ intervals, 0 < x) :
    (analyze_intervals sqrt intervals).cv = variation sqrt intervals := by
  have hne : intervals ≠ [] := by
    rintro rfl
    simp at h
  have hmean : 0 < intervals.sum / (intervals.length : ℚ) := mean_pos hne hpos
  have hmany : ¬ intervals.length < 3 := by omega
  simp only [analyze_intervals, hmany, if_false, hmean, if_true, variation, mean, List.length_map]

/-! ## Endpoints -/

/-- The endpoint of an entry is none that is ignored. -/
def watched (ignored_ips : List String) (endpoint : String × ℤ) : Prop :=
  endpoint.1 ≠ "" ∧ endpoint.1 ∉ ignored_ips ∧ endpoint.1.toList.take 4 ≠ "127.".toList ∧
    ¬ (endpoint.2 ∈ [8000, 8005] ∧ in_docker_subnet endpoint.1)

/-- The timestamps of an endpoint. -/
def timestamps (history : List HistoryEntry) (endpoint : String × ℤ) : List Time :=
  (history.filter fun conn => (conn.dst_ip, conn.dst_port) = endpoint).filterMap HistoryEntry.timestamp

/-- The test of the second loop. -/
def Passes (sqrt : ℚ → ℚ) (min_connections : ℤ) (cv_threshold : ℚ) (ts_list : List Time) : Prop :=
  min_connections ≤ ts_list.length ∧
    (analyze_intervals sqrt (calculate_intervals ts_list)).cv ≤ cv_threshold ∧
    min_connections - 1 ≤ (analyze_intervals sqrt (calculate_intervals ts_list)).count

instance (min_connections : ℤ) (cv_threshold : ℚ) (ts_list : List Time) :
    Decidable (Passes sqrt min_connections cv_threshold ts_list) :=
  inferInstanceAs (Decidable (_ ∧ _ ∧ _))

/-- The endpoint connects with a regular rhythm. -/
def Beacons (sqrt : ℚ → ℚ) (min_connections : ℤ) (cv_threshold : ℚ) (ts_list : List Time) : Prop :=
  min_connections ≤ ts_list.length ∧ max 3 (min_connections - 1) ≤ (calculate_intervals ts_list).length ∧
    variation sqrt (calculate_intervals ts_list) ≤ cv_threshold

variable {ignored_ips : List String} {min_connections : ℤ} {cv_threshold : ℚ}

/-- With three intervals the code's test is the right one. Without them it is passed from a threshold of 1 on. -/
theorem passes_iff (ts_list : List Time) :
    Passes sqrt min_connections cv_threshold ts_list ↔
      Beacons sqrt min_connections cv_threshold ts_list ∨
        (min_connections ≤ ts_list.length ∧ 1 ≤ cv_threshold ∧ (calculate_intervals ts_list).length < 3 ∧
          min_connections - 1 ≤ (calculate_intervals ts_list).length) := by
  unfold Passes Beacons
  rw [count_analyze_intervals]
  by_cases hfew : (calculate_intervals ts_list).length < 3
  · rw [cv_of_few hfew]
    constructor
    · rintro ⟨hmin, hcv, hcount⟩
      exact .inr ⟨hmin, hcv, hfew, hcount⟩
    · rintro (⟨-, hmax, -⟩ | ⟨hmin, hcv, -, hcount⟩)
      · have hthree := le_trans (le_max_left ..) hmax
        omega
      · exact ⟨hmin, hcv, hcount⟩
  · rw [cv_of_many (by omega) fun x => pos_of_mem_intervals, max_le_iff]
    constructor
    · rintro ⟨hmin, hcv, hcount⟩
      exact .inl ⟨hmin, ⟨by omega, hcount⟩, hcv⟩
    · rintro (⟨hmin, ⟨-, hcount⟩, hcv⟩ | ⟨-, -, hless, -⟩)
      · exact ⟨hmin, hcv, hcount⟩
      · exact absurd hless hfew

instance (endpoint : String × ℤ) : Decidable (watched ignored_ips endpoint) :=
  inferInstanceAs (Decidable (_ ∧ _ ∧ _ ∧ _))

theorem considered_iff (conn : HistoryEntry) : considered ignored_ips conn ↔
    watched ignored_ips (conn.dst_ip, conn.dst_port) ∧ conn.timestamp.isSome := by
  simp only [considered, watched, decide_eq_true_eq, and_assoc]

/-- The endpoints that are grouped, in the order of their first entries. -/
def endpoints (ignored_ips : List String) (history : List HistoryEntry) : List (String × ℤ) :=
  (groups ignored_ips history).map Prod.fst

theorem mem_endpoints {history : List HistoryEntry} {endpoint : String × ℤ} :
    endpoint ∈ endpoints ignored_ips history ↔ watched ignored_ips endpoint ∧ timestamps history endpoint ≠ [] := by
  rw [endpoints, groups, GroupBy.mem_keys_group, List.mem_map, timestamps, ne_eq, List.filterMap_eq_nil_iff]
  simp only [List.mem_filter, considered_iff, decide_eq_true_eq, not_forall]
  constructor
  · rintro ⟨conn, ⟨hconn, hwatched, htimestamp⟩, rfl⟩
    exact ⟨hwatched, conn, ⟨hconn, rfl⟩, Option.isSome_iff_ne_none.mp htimestamp⟩
  · rintro ⟨hwatched, conn, ⟨hconn, rfl⟩, htimestamp⟩
    exact ⟨conn, ⟨hconn, hwatched, Option.isSome_iff_ne_none.mpr htimestamp⟩, rfl⟩

theorem group_values {endpoint : String × ℤ} (hwatched : watched ignored_ips endpoint) (history : List HistoryEntry) :
    ((history.filter (considered ignored_ips)).filter fun conn => (conn.dst_ip, conn.dst_port) = endpoint).map
      (fun conn => conn.timestamp.getD 0) = timestamps history endpoint := by
  unfold timestamps
  induction history with
  | nil => rfl
  | cons conn history ih =>
    by_cases hown : (conn.dst_ip, conn.dst_port) = endpoint
    · rw [List.filter_cons_of_pos (p := fun conn : HistoryEntry => decide ((conn.dst_ip, conn.dst_port) = endpoint))
        (decide_eq_true hown), List.filterMap_cons]
      cases htimestamp : conn.timestamp with
      | none =>
        rw [List.filter_cons_of_neg, ih]
        rw [considered_iff, htimestamp]
        simp
      | some ts =>
        rw [List.filter_cons_of_pos, List.filter_cons_of_pos (by simpa using hown), List.map_cons, htimestamp, ih]
        · rfl
        · rw [considered_iff, hown, htimestamp]
          exact ⟨hwatched, rfl⟩
    · rw [List.filter_cons_of_neg (p := fun conn : HistoryEntry => decide ((conn.dst_ip, conn.dst_port) = endpoint))
        (by simpa using hown), ← ih, List.filter_cons]
      split
      · rw [List.filter_cons_of_neg (by simpa using hown)]
      · rfl

/-- The group of an endpoint has all of its timestamps. -/
theorem groups_eq (history : List HistoryEntry) : groups ignored_ips history =
    (endpoints ignored_ips history).map fun endpoint => (endpoint, timestamps history endpoint) := by
  rw [groups, GroupBy.group_eq_map]
  refine List.map_congr_left fun endpoint hendpoint => Prod.ext rfl ?_
  exact group_values (mem_endpoints.mp hendpoint).1 history

theorem Beacons.ne_nil {ts_list : List Time} (h : Beacons sqrt min_connections cv_threshold ts_list) :
    ts_list ≠ [] := by
  rintro rfl
  have hmany := (max_le_iff.mp h.2.1).1
  simp [calculate_intervals] at hmany

theorem timestamps_perm {history other : List HistoryEntry} (h : other.Perm history) (endpoint : String × ℤ) :
    (timestamps other endpoint).Perm (timestamps history endpoint) :=
  (h.filter _).filterMap _

theorem passes_perm {ts_list other : List Time} (h : other.Perm ts_list) :
    Passes sqrt min_connections cv_threshold other ↔ Passes sqrt min_connections cv_threshold ts_list := by
  unfold Passes
  rw [calculate_intervals_perm h, h.length_eq]

/-! ## Candidates -/

/-- What is reported of an endpoint. -/
def record (sqrt : ℚ → ℚ) (endpoint : String × ℤ) (ts_list : List Time) : BeaconCandidate :=
  let intervals := calculate_intervals ts_list
  { dst_ip := endpoint.1
    dst_port := endpoint.2
    total_connections := ts_list.length
    mean_interval_sec := round2 (mean intervals)
    std_dev_sec := round2 (sqrt (mean (intervals.map fun x => (x - mean intervals) ^ 2)))
    cv := variation sqrt intervals
    rhythm_score := round_digits 1 (max 0 (min 100 ((1 - variation sqrt intervals) * 100))) }

theorem record_perm {ts_list other : List Time} (h : other.Perm ts_list) (endpoint : String × ℤ) :
    record sqrt endpoint other = record sqrt endpoint ts_list := by
  unfold record
  rw [calculate_intervals_perm h, h.length_eq]

/-- The endpoint can be read back from its key, and the statistics have all of their keys. -/
def Readable (endpoint : String × ℤ) (ts_list : List Time) : Prop :=
  ':' ∉ endpoint.1.toList ∧ 3 ≤ (calculate_intervals ts_list).length

theorem candidate_of_readable {endpoint : String × ℤ} {ts_list : List Time} (h : Readable endpoint ts_list) :
    candidate endpoint ts_list (analyze_intervals sqrt (calculate_intervals ts_list)) =
      .ok (record sqrt endpoint ts_list) := by
  obtain ⟨hcolon, hmany⟩ := h
  have hcv : (analyze_intervals sqrt (calculate_intervals ts_list)).cv =
      variation sqrt (calculate_intervals ts_list) := cv_of_many hmany fun x => pos_of_mem_intervals
  have hnot : ¬ (calculate_intervals ts_list).length < 3 := by omega
  rw [candidate, if_neg hcolon, hcv]
  unfold analyze_intervals at hcv ⊢
  rw [if_neg hnot] at hcv ⊢
  dsimp only at hcv ⊢
  rw [hcv]
  simp only [record, mean, List.length_map]

theorem readable_of_candidate {endpoint : String × ℤ} {ts_list : List Time} {found : BeaconCandidate}
    (h : candidate endpoint ts_list (analyze_intervals sqrt (calculate_intervals ts_list)) = .ok found) :
    Readable endpoint ts_list := by
  unfold candidate at h
  split at h
  · cases h
  · rename_i hcolon
    refine ⟨hcolon, ?_⟩
    by_contra hfew
    have hless : (calculate_intervals ts_list).length < 3 := by omega
    simp only [analyze_intervals, hless, if_true] at h
    cases h

/-- The second loop, where everything that passes its test can be read. -/
theorem find_candidates_of_readable {grouped : List ((String × ℤ) × List Time)}
    (h : ∀ group ∈ grouped, Passes sqrt min_connections cv_threshold group.2 → Readable group.1 group.2) :
    find_candidates sqrt min_connections cv_threshold grouped =
      .ok ((grouped.filter fun group => Passes sqrt min_connections cv_threshold group.2).map fun group =>
        record sqrt group.1 group.2) := by
  induction grouped with
  | nil => rfl
  | cons group rest ih =>
    have hrest := ih fun other hother => h other (List.mem_cons_of_mem _ hother)
    rw [find_candidates]
    by_cases hpasses : Passes sqrt min_connections cv_threshold group.2
    · have hcondition := hpasses
      unfold Passes at hcondition
      rw [if_pos hcondition, candidate_of_readable (h group List.mem_cons_self hpasses), hrest,
        List.filter_cons_of_pos (by simpa using hpasses)]
      rfl
    · have hcondition := hpasses
      unfold Passes at hcondition
      rw [if_neg hcondition, hrest, List.filter_cons_of_neg (by simpa using hpasses)]

theorem readable_of_find_candidates {grouped : List ((String × ℤ) × List Time)} {found : List BeaconCandidate}
    (h : find_candidates sqrt min_connections cv_threshold grouped = .ok found) :
    ∀ group ∈ grouped, Passes sqrt min_connections cv_threshold group.2 → Readable group.1 group.2 := by
  induction grouped generalizing found with
  | nil => simp
  | cons group rest ih =>
    rw [find_candidates] at h
    intro other hother hpasses
    split at h
    · obtain ⟨first, hfirst, h⟩ := bind_eq_ok_iff.mp h
      obtain ⟨others, hothers, -⟩ := bind_eq_ok_iff.mp h
      obtain rfl | hother := List.mem_cons.mp hother
      · exact readable_of_candidate hfirst
      · exact ih hothers other hother hpasses
    · rename_i hnot
      obtain rfl | hother := List.mem_cons.mp hother
      · exact absurd hpasses hnot
      · exact ih h other hother hpasses

/-! ## Keys -/

/-- `f"{dst_ip}:{dst_port}"`. -/
def endpoint_key (endpoint : String × ℤ) : String := endpoint.1 ++ ":" ++ toString endpoint.2

/-- The candidate that a group is found to be: its key is split at the colons. -/
def key_candidate (key : String) (ts_list : List Time) (stats : IntervalStats) : Except AppException BeaconCandidate :=
  match key.toList.splitOn ':' with
  | [dst_ip, port_str] => do
    let dst_port ← (Json.str (String.ofList port_str)).to_int
    candidate (String.ofList dst_ip, dst_port) ts_list stats
  | _ => .error (.ValueError "too many values to unpack (expected 2)")

theorem colon_not_mem_port (port : ℤ) : ':' ∉ (toString port).toList := by
  intro hmem
  obtain heq | hdigit := mem_toString hmem
  · exact absurd heq (by decide)
  · exact absurd hdigit (by decide)

theorem splitOn_colon (before after : List Char) :
    (before ++ ':' :: after).splitOn ':' = before.splitOn ':' ++ after.splitOn ':' :=
  List.splitOnP_append_cons _ _ (beq_self_eq_true ':')

theorem splitOn_endpoint_key (endpoint : String × ℤ) : (endpoint_key endpoint).toList.splitOn ':' =
    endpoint.1.toList.splitOn ':' ++ [(toString endpoint.2).toList] := by
  have htext : (endpoint_key endpoint).toList = endpoint.1.toList ++ ':' :: (toString endpoint.2).toList := by
    rw [endpoint_key, String.toList_append, String.toList_append, List.append_assoc]
    rfl
  have hport : ∀ c ∈ (toString endpoint.2).toList, (c == ':') = false := by
    intro c hc
    exact beq_eq_false_iff_ne.mpr fun heq => colon_not_mem_port endpoint.2 (heq ▸ hc)
  rw [htext, splitOn_colon, ← List.splitOnP_eq_singleton hport]
  rfl

/-- The key of an endpoint is split into its address and its port exactly if there is no colon in the address. -/
theorem key_candidate_eq (endpoint : String × ℤ) (ts_list : List Time) (stats : IntervalStats) :
    key_candidate (endpoint_key endpoint) ts_list stats = candidate endpoint ts_list stats := by
  unfold key_candidate
  rw [splitOn_endpoint_key]
  by_cases hcolon : ':' ∈ endpoint.1.toList
  · obtain ⟨before, after, hsplit⟩ := List.append_of_mem hcolon
    have hbefore : 0 < (before.splitOn ':').length := List.length_pos_iff.mpr (List.splitOnP_ne_nil _ before)
    have hafter : 0 < (after.splitOn ':').length := List.length_pos_iff.mpr (List.splitOnP_ne_nil _ after)
    rw [candidate, if_pos hcolon]
    split
    · rename_i dst_ip port_str hpair
      have hlength := congrArg List.length hpair
      rw [hsplit, splitOn_colon] at hlength
      simp only [List.length_append, List.length_cons, List.length_nil] at hlength
      omega
    · rfl
  · have hparts : endpoint.1.toList.splitOn ':' = [endpoint.1.toList] :=
      List.splitOnP_eq_singleton fun c hc => beq_eq_false_iff_ne.mpr fun heq => hcolon (heq ▸ hc)
    rw [hparts]
    simp only [List.singleton_append, String.ofList_toList, Json.to_int_toString]
    rfl

theorem endpoint_key_injective : Function.Injective endpoint_key := by
  intro endpoint other heq
  have hsplit := splitOn_endpoint_key endpoint
  rw [heq, splitOn_endpoint_key] at hsplit
  obtain ⟨hips, hports⟩ := List.append_inj' hsplit rfl
  have hip : endpoint.1.toList = other.1.toList := by
    have hjoined : [':'].intercalate (endpoint.1.toList.splitOn ':') = endpoint.1.toList := List.intercalate_splitOn ':'
    rw [← hips, List.intercalate_splitOn] at hjoined
    exact hjoined.symm
  have hport : toString endpoint.2 = toString other.2 := String.toList_inj.mp (List.cons.inj hports).1.symm
  have hread : (Json.str (toString endpoint.2)).to_int = (Json.str (toString other.2)).to_int := by rw [hport]
  rw [Json.to_int_toString, Json.to_int_toString] at hread
  exact Prod.ext (String.toList_inj.mp hip) (Except.ok.inj hread)

/-- The second loop on groups under their keys. -/
def find_key_candidates (sqrt : ℚ → ℚ) (min_connections : ℤ) (cv_threshold : ℚ) :
    List (String × List Time) → Except AppException (List BeaconCandidate)
  | [] => .ok []
  | (key, ts_list) :: rest =>
    let stats := analyze_intervals sqrt (calculate_intervals ts_list)
    if min_connections ≤ ts_list.length ∧ stats.cv ≤ cv_threshold ∧ min_connections - 1 ≤ stats.count then do
      let found ← key_candidate key ts_list stats
      let others ← find_key_candidates sqrt min_connections cv_threshold rest
      return found :: others
    else find_key_candidates sqrt min_connections cv_threshold rest

/-- `evaluate_connections` as it groups: by the text of the key. -/
def evaluate_connections_by_key (sqrt : ℚ → ℚ) (ignored_ips : List String) (connection_history : List HistoryEntry)
    (min_connections : ℤ) (cv_threshold : ℚ) : Except AppException (List BeaconCandidate) :=
  find_key_candidates sqrt min_connections cv_threshold
    (GroupBy.group (fun conn : HistoryEntry => endpoint_key (conn.dst_ip, conn.dst_port))
      (fun conn => conn.timestamp.getD 0) (connection_history.filter (considered ignored_ips)))

theorem find_key_candidates_eq (grouped : List ((String × ℤ) × List Time)) :
    find_key_candidates sqrt min_connections cv_threshold (grouped.map (Prod.map endpoint_key id)) =
      find_candidates sqrt min_connections cv_threshold grouped := by
  induction grouped with
  | nil => rfl
  | cons group rest ih =>
    obtain ⟨endpoint, ts_list⟩ := group
    rw [List.map_cons, Prod.map_apply, id, find_key_candidates, find_candidates, key_candidate_eq, ih]

/-- The text of the key stands for the endpoint, and it is read back as that endpoint or not at all. -/
theorem evaluate_connections_by_key_eq (history : List HistoryEntry) :
    evaluate_connections_by_key sqrt ignored_ips history min_connections cv_threshold =
      evaluate_connections sqrt ignored_ips history min_connections cv_threshold := by
  rw [evaluate_connections_by_key, evaluate_connections, groups, GroupBy.group_comp endpoint_key_injective,
    find_key_candidates_eq]

/-! ## The law -/

/-- The evaluation does not raise, finds the same in every order of the history, and finds the endpoints with a
regular rhythm, each with its own statistics. -/
def FindsBeacons (sqrt : ℚ → ℚ) (ignored_ips : List String) (history : List HistoryEntry) (min_connections : ℤ)
    (cv_threshold : ℚ) : Prop :=
  ∃ candidates, evaluate_connections_by_key sqrt ignored_ips history min_connections cv_threshold = .ok candidates ∧
    (∀ other, other.Perm history → ∃ again,
      evaluate_connections_by_key sqrt ignored_ips other min_connections cv_threshold = .ok again ∧
        again.Perm candidates) ∧
    (∀ endpoint, watched ignored_ips endpoint →
      ((∃ found ∈ candidates, (found.dst_ip, found.dst_port) = endpoint) ↔
        Beacons sqrt min_connections cv_threshold (timestamps history endpoint))) ∧
    ∀ found ∈ candidates, watched ignored_ips (found.dst_ip, found.dst_port) ∧
      found = record sqrt (found.dst_ip, found.dst_port) (timestamps history (found.dst_ip, found.dst_port))

/-- No endpoint with a regular rhythm has a colon in its address, and none has enough timestamps but less than three
intervals under a threshold of 1 or more. -/
def NothingUnreadable (sqrt : ℚ → ℚ) (ignored_ips : List String) (history : List HistoryEntry) (min_connections : ℤ)
    (cv_threshold : ℚ) : Prop :=
  ∀ endpoint, watched ignored_ips endpoint → timestamps history endpoint ≠ [] →
    (Beacons sqrt min_connections cv_threshold (timestamps history endpoint) → ':' ∉ endpoint.1.toList) ∧
    ¬ (min_connections ≤ (timestamps history endpoint).length ∧ 1 ≤ cv_threshold ∧
      (calculate_intervals (timestamps history endpoint)).length < 3 ∧
      min_connections - 1 ≤ (calculate_intervals (timestamps history endpoint)).length)

theorem nothingUnreadable_iff {history : List HistoryEntry} :
    NothingUnreadable sqrt ignored_ips history min_connections cv_threshold ↔
      ∀ group ∈ groups ignored_ips history,
        Passes sqrt min_connections cv_threshold group.2 → Readable group.1 group.2 := by
  rw [groups_eq]
  simp only [List.forall_mem_map, mem_endpoints, and_imp, passes_iff]
  refine forall₃_congr fun endpoint _ _ => ?_
  constructor
  · rintro ⟨hcolon, hfew⟩ (hbeacons | hless)
    · exact ⟨hcolon hbeacons, by exact_mod_cast (max_le_iff.mp hbeacons.2.1).1⟩
    · exact absurd hless hfew
  · intro h
    refine ⟨fun hbeacons => (h (.inl hbeacons)).1, fun hless => ?_⟩
    have hmany := (h (.inr hless)).2
    omega

theorem evaluate_connections_eq {history : List HistoryEntry}
    (h : NothingUnreadable sqrt ignored_ips history min_connections cv_threshold) :
    evaluate_connections sqrt ignored_ips history min_connections cv_threshold =
      .ok (((endpoints ignored_ips history).filter fun endpoint =>
        Passes sqrt min_connections cv_threshold (timestamps history endpoint)).map fun endpoint =>
          record sqrt endpoint (timestamps history endpoint)) := by
  rw [evaluate_connections, find_candidates_of_readable (nothingUnreadable_iff.mp h), groups_eq, List.filter_map,
    List.map_map]
  rfl

theorem endpoints_perm {history other : List HistoryEntry} (h : other.Perm history) :
    (endpoints ignored_ips other).Perm (endpoints ignored_ips history) :=
  GroupBy.keys_group_perm (h.filter _)

theorem NothingUnreadable.perm {history other : List HistoryEntry} (hperm : other.Perm history)
    (h : NothingUnreadable sqrt ignored_ips history min_connections cv_threshold) :
    NothingUnreadable sqrt ignored_ips other min_connections cv_threshold := by
  intro endpoint hwatched hne
  have htimes := timestamps_perm hperm endpoint
  have hhistory := h endpoint hwatched fun hnil => hne (List.perm_nil.mp (hnil ▸ htimes))
  unfold Beacons at hhistory ⊢
  rw [calculate_intervals_perm htimes, htimes.length_eq]
  exact hhistory

/-- Ten connections to an IPv6 address, thirty seconds apart. -/
def ipv6_history : List HistoryEntry :=
  (List.range 10).map fun n =>
    { dst_ip := "2001:db8::5", dst_port := 443, timestamp := some (seconds (30 * n)) }

end BeaconingDetectionService

end larp
