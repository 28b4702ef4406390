import ActiveResponse.Detection.Beaconing
import ActiveResponse.Detection.RuleContext

namespace larp

open RiskProcessChainRule (or_else p_dict)

namespace NetworkConnectionRule

def DEFAULT_SUSPICIOUS_PORTS : List ℚ := [4444, 5555, 1337, 31337, 6667, 23, 8080, 445]

def get_suspicious_ports (config : Dict) : Except AppException (List Json) :=
  let config_ports := config.get_default "suspicious_ports" .null
  if config_ports.truthy then config_ports.items >>= py_set else .ok (DEFAULT_SUSPICIOUS_PORTS.map .num)

def is_suspicious (suspicious_ports : List Json) (conn : Dict) : Except AppException Bool := do
  if (conn.get_default "is_suspicious" (.bool false)).truthy then return true
  else if ← in_set (conn.get_default "dst_port" (.num 0)) suspicious_ports then return true
  else in_set (conn.get_default "src_port" (.num 0)) suspicious_ports

def is_threat (context : RuleContext) (conn : Dict) : Bool :=
  let dst_ip := conn.get_default "dst_ip" .null
  dst_ip.truthy && answered (context.check_ip dst_ip)

def evaluate (context : RuleContext) (base_score : ℚ) (config telemetry : Dict) : Except AppException ℚ := do
  let network_connections := telemetry.get_default "network_connections" (.arr [])
  if network_connections.truthy then
    let suspicious_ports ← get_suspicious_ports config
    let connections ← network_connections.items
    let suspicious_conns ← (connections.map p_dict).filterM (is_suspicious suspicious_ports)
    let threat_ips := (connections.map p_dict).filter (is_threat context)
    return (min 35 (suspicious_conns.length * 20) + if threat_ips.isEmpty then 0 else 30) * base_score
  else return 0

end NetworkConnectionRule

namespace C2CommunicationRule

def DEFAULT_SUSPICIOUS_DOMAINS : List String :=
  [".duckdns.org", ".ngrok.io", ".onion", ".bazar", ".bip.sh", ".serveo.net", ".trycloudflare.com"]

def DEFAULT_C2_PORTS : List ℚ := [4444, 8443, 9001, 31337, 6667]

/-- The text of a query. A dictionary may hold something else under `query`, which has no `lower`. -/
def query_text : Json → Except AppException String
  | .str query => .ok query
  | .obj entries =>
    match Dict.get_default entries "query" (.str "") with
    | .str query => .ok query
    | _ => .error (.Fault "object has no attribute 'lower'")
  | _ => .ok ""

def evaluate (context : RuleContext) (base_score : ℚ) (config telemetry : Dict) : Except AppException ℚ := do
  let dns_queries ← (telemetry.get_default "dns_queries" (.arr [])).items
  let queries ← dns_queries.filterM fun query => do
    let q_str ← query_text query
    let susp_domains ←
      (config.get_default "suspicious_domains" (.arr (DEFAULT_SUSPICIOUS_DOMAINS.map .str))).items
    any_contains (context.lower q_str) susp_domains
  let c2_ports ← (config.get_default "c2_ports" (.arr (DEFAULT_C2_PORTS.map .num))).items >>= py_set
  let network_connections ← (telemetry.get_default "network_connections" (.arr [])).items
  let connections ← network_connections.filterM fun conn =>
    in_set ((p_dict conn).get_default "dst_port" (.num 0)) c2_ports
  let c2_indicators := queries.length + connections.length
  return if c2_indicators = 0 then 0 else min 45 (c2_indicators * 35) * base_score

end C2CommunicationRule

namespace LateralMovementRule

def ADMIN_PORTS : List Json := [.num 445, .num 135, .num 5985, .num 5986, .num 3389]

def is_lateral_command (context : RuleContext) : Json → Except AppException Bool
  | .str cmd => .ok (contains_text (context.lower cmd) "nmap" || contains_text (context.lower cmd) "lateral")
  | _ => .error (.Fault "object has no attribute 'lower'")

/-- All connections to administrative ports are one finding. -/
def evaluate (context : RuleContext) (base_score : ℚ) (telemetry : Dict) : Except AppException ℚ := do
  let lateral_events ← (telemetry.get_default "lateral_movement_events" (.arr [])).items
  let network_connections ← (telemetry.get_default "network_connections" (.arr [])).items
  let internal_targets ← network_connections.filterM fun conn =>
    in_set ((p_dict conn).get_default "dst_port" (.num 0)) ADMIN_PORTS
  let suspicious_commands ← (telemetry.get_default "suspicious_commands" (.arr [])).items
  let commands ← suspicious_commands.filterM (is_lateral_command context)
  let events_found := lateral_events.length + (if internal_targets.isEmpty then 0 else 1) + commands.length
  return if events_found = 0 then 0 else min 45 (events_found * 35) * base_score

end LateralMovementRule

namespace DnsAnalyzerService

def COMMON_LEGIT_DOMAINS : List String :=
  ["google.com", "microsoft.com", "cloudflare.com", "apple.com", "amazon.com", "github.com", "ubuntu.com",
    "debian.org", "docker.com", "larp.local", "local"]

structure DnsAnalysis where
  query_type : String
  entropy : ℚ
  length : ℕ
  is_suspicious : Bool

variable (context : RuleContext)

def calculate_shannon_entropy (text : List Char) : ℚ :=
  if text.isEmpty then 0
  else round_digits 3 (-(text.dedup.map fun c =>
    let prob : ℚ := text.count c / text.length
    prob * context.log2 prob).sum)

/-- `".".join(labels)`. -/
def join_labels (labels : List (List Char)) : List Char := (labels.intersperse ['.']).flatten

/-- The query without its last two labels, if it has more than two; of two labels the first. -/
def subdomain_part (labels : List (List Char)) : List Char :=
  if labels.length = 2 then labels.headD [] else if labels.length < 2 then join_labels labels
  else join_labels (labels.take (labels.length - 2))

def apex_domain (labels : List (List Char)) : List Char := join_labels (labels.drop (labels.length - 2))

def is_legit (apex_domain : List Char) : Bool :=
  COMMON_LEGIT_DOMAINS.any fun d => apex_domain = d.toList ∨ '.' :: d.toList <:+ apex_domain

def analyze_query (query query_type : String) : DnsAnalysis :=
  let clean_q := (context.lower (py_strip query)).toList.rdropWhile (· = '.')
  let labels := clean_q.splitOn '.'
  let subdomain := subdomain_part labels
  let entropy := calculate_shannon_entropy context subdomain
  let q_type_upper := RiskProcessChainRule.upper query_type
  { query_type := q_type_upper
    entropy
    length := clean_q.length
    is_suspicious := !is_legit (apex_domain labels) &&
      ((3.8 < entropy ∧ 15 ≤ subdomain.length) ∨
        50 < clean_q.length ∨ (labels.any fun label => 35 < label.length) ∨
        (q_type_upper ∈ ["TXT", "NULL", "ANY", "CNAME"] ∧ 20 ≤ subdomain.length)) }

/-- What is neither a text nor a dictionary is passed over. -/
def analyze_item : Json → Except AppException (Option DnsAnalysis)
  | .str query => .ok (some (analyze_query context query "A"))
  | .obj entries =>
    match Dict.get_default entries "query" (.str "") with
    | .str query =>
      .ok (some (analyze_query context query (context.text (Dict.get_default entries "query_type" (.str "A")))))
    | _ => .error (.Fault "object has no attribute 'strip'")
  | _ => .ok none

/-- The `details` of `analyze_batch`. -/
def analyze_batch (dns_queries : List Json) : Except AppException (List DnsAnalysis) := do
  let results ← dns_queries.mapM (analyze_item context)
  return results.reduceOption

end DnsAnalyzerService

/-- `DnsTunnelingRule.evaluate`. -/
def DnsTunnelingRule.evaluate (context : RuleContext) (base_score : ℚ) (config telemetry : Dict) :
    Except AppException ℚ := do
  let dns_queries := telemetry.get_default "dns_queries" (.arr [])
  if dns_queries.truthy then
    let details ← DnsAnalyzerService.analyze_batch context (← dns_queries.items)
    let suspicious_items := details.filter fun d => d.is_suspicious
    let txt_count := details.countP fun d => d.query_type = "TXT" ∨ d.query_type = "NULL"
    if suspicious_items.isEmpty then
      let txt_th ← (config.get_default "txt_rate_threshold" (.num 10)).to_int
      if txt_count < txt_th then return 0
    let entropy_th ← (config.get_default "entropy_threshold" (.num 3.8)).to_float
    let len_th ← (config.get_default "length_threshold" (.num 45)).to_int
    let txt_th ← (config.get_default "txt_rate_threshold" (.num 10)).to_int
    let score : ℚ := (if suspicious_items.any fun d => len_th ≤ d.length then 25 else 0) +
      (if suspicious_items.any fun d => entropy_th ≤ d.entropy then 35 else 0) +
      if txt_th ≤ txt_count then 30 else 0
    return if 0 < score then min 80 (score * base_score) else 0
  else return 0

end larp
