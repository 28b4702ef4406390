import ActiveResponse.Detection.Beaconing
import ActiveResponse.Detection.RuleContext
import Mathlib.Data.List.MinMax

namespace larp.HttpBeaconingRule

variable (context : RuleContext)

/-- `text.replace("Z", "+00:00")`. -/
def replace_z (text : String) : String :=
  String.ofList (text.toList.flatMap fun c => if c = 'Z' then "+00:00".toList else [c])

/-- The key and the timestamp of an entry of the history, unless it is passed over. -/
def read_entry : Json → Except AppException (Option (String × Time × Bool))
  | .obj conn =>
    match Dict.get_default conn "dst_ip" .null with
    | .str dst_ip =>
      let dst_port := Dict.get_default conn "dst_port" (.num 80)
      if dst_ip = "" ∨ dst_ip ∈ context.ignored_ips ∨ dst_ip.toList.take 4 = "127.".toList then .ok none
      else if (dst_port.py_eq (.num 8000) ∨ dst_port.py_eq (.num 8005)) ∧ in_docker_subnet dst_ip then .ok none
      else
        match Dict.get_default conn "timestamp" .null with
        | .str ts_raw =>
          .ok ((context.fromisoformat (replace_z ts_raw)).map fun ts => (dst_ip ++ ":" ++ context.text dst_port, ts))
        | _ => .ok none
    | dst_ip => if dst_ip.truthy then .error (.Fault "object has no attribute 'startswith'") else .ok none
  | _ => .error (.Fault "object has no attribute 'get'")

/-- The candidate that a group is found to be, if any. Timestamps with and without an offset cannot be sorted. -/
def find_candidate (min_connections : ℤ) (cv_threshold : ℚ) (key : String) (ts_list : List (Time × Bool)) :
    Except AppException (Option BeaconCandidate) :=
  if ts_list.length < min_connections then .ok none
  else if (ts_list.map Prod.snd).dedup.length = 2 then
    .error (.TypeError "can't compare offset-naive and offset-aware datetimes")
  else
    let timestamps := ts_list.map Prod.fst
    let stats := BeaconingDetectionService.analyze_intervals context.sqrt
      (BeaconingDetectionService.calculate_intervals timestamps)
    if stats.cv ≤ cv_threshold ∧ min_connections - 1 ≤ stats.count then
      match key.toList.splitOn ':' with
      | [dst_ip, port_str] => do
        let dst_port ← (Json.str (String.ofList port_str)).to_int
        let found ← BeaconingDetectionService.candidate (String.ofList dst_ip, dst_port) timestamps stats
        return some found
      | _ => .error (.ValueError "wrong number of values to unpack (expected 2)")
    else .ok none

/-- `BeaconingDetectionService.evaluate_connections` on the entries of a message. -/
def evaluate_connections (connection_history : List Json) (min_connections : ℤ) (cv_threshold : ℚ) :
    Except AppException (List BeaconCandidate) := do
  let entries ← connection_history.mapM (read_entry context)
  let groups := GroupBy.group Prod.fst Prod.snd entries.reduceOption
  let candidates ← groups.mapM fun group => find_candidate context min_connections cv_threshold group.1 group.2
  return candidates.reduceOption

def has_timestamp : Json → Except AppException Bool
  | .obj conn => .ok (Dict.get_default conn "timestamp" .null).truthy
  | _ => .error (.Fault "object has no attribute 'get'")

/-- Without a history the connections that have a timestamp are taken. -/
def connection_history (telemetry : Dict) : Except AppException (List Json) := do
  let connection_history := telemetry.get_default "connection_history" (.arr [])
  if connection_history.truthy then connection_history.items
  else
    let raw_conns ← (telemetry.get_default "network_connections" (.arr [])).items
    raw_conns.filterM has_timestamp

/-- The candidate with the highest `rhythm_score`, the first one of several. -/
def top_candidate (config telemetry : Dict) : Except AppException (Option BeaconCandidate) := do
  let connections ← connection_history telemetry
  if connections.isEmpty then return none
  else
    let min_conns ← (config.get_default "min_connections" (.num 8)).to_int
    let cv_th ← (config.get_default "cv_threshold" (.num 0.25)).to_float
    let candidates ← evaluate_connections context connections min_conns cv_th
    return candidates.argmax BeaconCandidate.rhythm_score

/-- The score of a host: a known malicious one has 90, whatever is configured. -/
def host_score (base_score : ℚ) (dst_ip : String) : ℚ :=
  if answered (context.check_ip (.str dst_ip)) then 90 else base_score

/-- `evaluate`, which multiplies by the weight of the rule. -/
def evaluate (weight base_score : ℚ) (config telemetry : Dict) : Except AppException ℚ := do
  match ← top_candidate context config telemetry with
  | none => return 0
  | some top => return min 100 (host_score context base_score top.dst_ip * weight)

variable {context} {config telemetry : Dict}

theorem evaluate_of_candidate {top : BeaconCandidate} (h : top_candidate context config telemetry = .ok (some top))
    (weight base_score : ℚ) : evaluate context weight base_score config telemetry =
      .ok (min 100 (host_score context base_score top.dst_ip * weight)) := by
  rw [evaluate, h]
  rfl

/-- Without a candidate the weight makes no difference. -/
theorem evaluate_of_no_candidate (h : ∀ top, top_candidate context config telemetry ≠ .ok (some top))
    (weight weight' base_score : ℚ) : evaluate context weight base_score config telemetry =
      evaluate context weight' base_score config telemetry := by
  unfold evaluate
  cases hfound : top_candidate context config telemetry with
  | error exc => rfl
  | ok found =>
    cases found with
    | none => rfl
    | some top => exact absurd hfound (h top)

end larp.HttpBeaconingRule
