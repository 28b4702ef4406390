import ActiveResponse.Detection.RuleContext

namespace larp

open RiskProcessChainRule (or_else p_dict)

namespace SuspiciousProcessRule

def SUSPICIOUS_PATTERNS : List String :=
  [r"\bmimikatz\b", r"\bmeterpreter\b", r"\bcobaltstrike\b", r"\blazagne\b", r"\bprocdump(?:\.exe)?\b.*\blsass\b",
    r"\bcomsvcs\.dll\b.*MiniDump", r"\bsekurlsa::", r"\blsadump::", r"\bkerberos::golden",
    r"\bnc(?:\.exe)?\b.*-e\b", r"\bnc(?:\.exe)?\b.*-l", r"\bncat\b.*-e\b",
    "\\bpowershell\\b.*-enc\\b.*[A-Za-z0-9+/=]\x7b50,\x7d", r"\bpowershell\b.*-w(?:indowstyle)?\s+hidden",
    r"\bmsbuild(?:\.exe)?\b.*/t:Run", r"\bcertutil\b.*-urlcache.*-split", r"\bcertutil\b.*-decodehex",
    "\\\\users\\\\public\\\\[^\\\\/\\s\\\"']+\\.(?:exe|dll|ps1|vbs|js)\\b",
    "\\\\appdata\\\\local\\\\temp\\\\[^\\\\/\\s\\\"']+\\.(?:exe|dll|ps1|vbs|js)\\b",
    r"\bkey_test\b", r"\bransomware_sim\b", r"\bbackdoor_sim\b", r"\bpsexec\b", r"\bchisel\b"]

def HIGH_SEVERITY_PATTERNS : List String :=
  [r"\bnc(?:\.exe)?\b.*-e\b", r"\bncat\b.*-e\b", r"\bmimikatz\b", r"\bmeterpreter\b", r"\bcobaltstrike\b",
    r"\bprocdump(?:\.exe)?\b.*\blsass\b", r"\bcomsvcs\.dll\b.*MiniDump", r"\bpowershell\b.*-enc\b"]

/-- Folders in which no executable is expected. -/
def TEMP_FOLDERS : List String := ["/tmp/", "/dev/shm/", "/var/tmp/", "\\temp\\", "c:\\temp\\"]

def LEGIT_FOLDERS : List String :=
  ["c:\\program files", "c:\\program files (x86)", "c:\\windows", "/usr/bin", "/usr/sbin", "/bin", "/sbin"]

def starts_with (text start : String) : Bool := decide (start.toList <+: text.toList)

/-- The binary lies in a temporary folder, or the agent has flagged it and it is not installed properly. -/
def suspicious_exe (exe : String) (is_susp_flag : Bool) : Bool :=
  (exe ≠ "" && TEMP_FOLDERS.any (starts_with exe)) ||
    (is_susp_flag &&
      (exe = "" || !(LEGIT_FOLDERS.any (starts_with exe) || contains_text exe "\\programs\\microsoft vs code")))

structure Counts where
  suspicious_count : ℕ := 0
  has_high_severity : Bool := false
  threat_hash_count : ℕ := 0
  proc_names : List Json := []

variable (context : RuleContext)

/-- One round of the loop over the processes. -/
def Counts.add (self : Counts) (process : Dict) : Counts :=
  let value key := process.get_default key .null
  let lowered value := context.lower (py_strip (context.text value))
  let name := lowered (or_else (value "name") (.str ""))
  let cmdline := lowered (or_else (value "cmdline") (.str ""))
  let exe := lowered (or_else (value "exe") (or_else (value "path") (or_else (value "exe_path") (.str ""))))
  let is_susp_flag := (value "is_suspicious").truthy
  if contains_text cmdline "agent.py" ∨ name = "agent.py" then self
  else if answered (context.is_whitelisted name exe) then self
  else
    let counts :=
      if (value "hash").truthy ∧ answered (context.check_hash (value "hash")) then
        { self with threat_hash_count := self.threat_hash_count + 1 }
      else self
    if cmdline = "" ∧ exe = "" ∧ !is_susp_flag then counts
    else
      let full_str := py_strip (name ++ " " ++ cmdline ++ " " ++ exe)
      let found pattern := context.re_search pattern full_str
      if SUSPICIOUS_PATTERNS.any found ∨ suspicious_exe exe is_susp_flag then
        let display_name := or_else (value "name") (or_else (.str name) (.str "suspicious_process"))
        { counts with
          suspicious_count := counts.suspicious_count + 1
          has_high_severity := counts.has_high_severity || HIGH_SEVERITY_PATTERNS.any found
          proc_names := if counts.proc_names.any display_name.py_eq then counts.proc_names
            else counts.proc_names ++ [display_name] }
      else counts

def Counts.score (self : Counts) : ℚ :=
  (if self.suspicious_count = 0 then 0
    else if self.has_high_severity then min 60 (max 50 (self.suspicious_count * 25))
    else min 45 (self.suspicious_count * 25)) +
    if self.threat_hash_count = 0 then 0 else 40

/-- The reason lists the first five names, so they have to be texts. -/
def evaluate (base_score : ℚ) (telemetry : Dict) : Except AppException ℚ := do
  let process_list := telemetry.get_default "process_list" (.arr [])
  if process_list.truthy then
    let processes ← process_list.items
    let counts := (processes.map p_dict).foldl (Counts.add context) {}
    joinable (counts.proc_names.take 5)
    return counts.score * base_score
  else return 0

end SuspiciousProcessRule

namespace FileChangesRule

/-- `file_changes >= threshold and threshold > 0`. -/
def reaches (file_changes threshold : Json) : Except AppException Bool := do
  if ← threshold.py_le file_changes then threshold.py_gt (.num 0) else return false

/-- The thresholds of the settings go before the ones of the config. -/
def evaluate (context : RuleContext) (base_score : ℚ) (config telemetry : Dict) : Except AppException ℚ := do
  let file_changes := telemetry.get_default "file_changes_count" (.num 0)
  let critical_threshold := config.get_default "critical_threshold" (config.get_default "high_threshold" (.num 100))
  let elevated_threshold := config.get_default "elevated_threshold" (config.get_default "medium_threshold" (.num 30))
  let thresholds : Dict := context.get_file_changes_thresholds.toOption.getD []
  let high_score ← (config.get_default "high_score" (.num 25)).to_number
  let medium_score ← (config.get_default "medium_score" (.num 10)).to_number
  if ← reaches file_changes (thresholds.get_default "file_changes_critical" critical_threshold) then
    return high_score * base_score
  else if ← reaches file_changes (thresholds.get_default "file_changes_elevated" elevated_threshold) then
    return medium_score * base_score
  else return 0

end FileChangesRule

/-- `InjectionRule.evaluate`. -/
def InjectionRule.evaluate (base_score : ℚ) (telemetry : Dict) : Except AppException ℚ := do
  let processes ← (telemetry.get_default "process_list" (.arr [])).items
  let injected_procs := processes.filter fun proc => ((p_dict proc).get_default "is_injected" .null).truthy
  return if injected_procs.isEmpty then 0 else min 50 (injected_procs.length * 40) * base_score

namespace RegistryRule

def DEFAULT_PERSISTENCE_KEYS : List String :=
  ["\\currentversion\\run", "\\currentversion\\runonce", "\\winlogon", "\\image file execution options",
    "\\system\\currentcontrolset\\services", "\\microsoft\\windows\\currentversion\\explorer\\user shell folders"]

def key_path (context : RuleContext) (change : Dict) : String :=
  let value key := change.get_default key .null
  context.lowered (or_else (value "key_path") (or_else (value "key") (or_else (value "path") (.str ""))))

def evaluate (context : RuleContext) (base_score : ℚ) (config telemetry : Dict) : Except AppException ℚ := do
  let registry_changes := telemetry.get_default "registry_changes" (.arr [])
  if registry_changes.truthy then
    let changes ← registry_changes.items
    let suspicious_changes ← changes.filterM fun change => do
      let persistence_keys ←
        (config.get_default "persistence_keys" (.arr (DEFAULT_PERSISTENCE_KEYS.map .str))).items
      any_contains (key_path context (p_dict change)) persistence_keys
    return if suspicious_changes.isEmpty then 0 else min 40 (suspicious_changes.length * 25) * base_score
  else return 0

end RegistryRule

/-- `MassFileModificationRule.evaluate`. -/
def MassFileModificationRule.evaluate (base_score : ℚ) (config telemetry : Dict) : Except AppException ℚ := do
  if (telemetry.get_default "mass_file_modification" (.bool false)).truthy then return 40 * base_score
  else
    let file_changes := telemetry.get_default "file_changes_count" (.num 0)
    if ← file_changes.py_gt (config.get_default "file_change_threshold" (.num 200)) then return 25 * base_score
    else return 0

namespace YaraMatchRule

/-- `matches.append` and `matches.extend` need a list. -/
def extended (listed : Json) (added : ℕ) : Except AppException ℕ :=
  match listed with
  | .arr values => .ok (values.length + added)
  | _ => .error (.Fault "object has no attribute 'append'")

/-- The number of matches: those that are listed, else those of the file events, else those of the details. -/
def found (telemetry : Dict) : Except AppException ℕ := do
  let listed := telemetry.get_default "yara_matches" (.arr [])
  if listed.truthy then
    match listed with
    | .arr values => return values.length
    | .str text => return text.length
    | _ => .error (.TypeError "object is not subscriptable")
  else
    let fim_events ← (telemetry.get_default "fim_events" (.arr [])).items
    let flagged := fim_events.filter fun evt => ((p_dict evt).get_default "yara_match" .null).truthy
    let details := telemetry.get_default "details" (.obj [])
    let matched_rules := (p_dict details).get_default "matched_rules" .null
    if !flagged.isEmpty then extended listed flagged.length
    else if matched_rules.truthy then do extended listed (← matched_rules.items).length
    else return 0

def evaluate (base_score : ℚ) (telemetry : Dict) : Except AppException ℚ := do
  let matches_found ← found telemetry
  return if matches_found = 0 then 0 else min 100 (base_score + min 10 (((matches_found : ℚ) - 1) * 5))

end YaraMatchRule

/-- `MLAnomalyRule.evaluate`. No exception gets out of it. -/
def MLAnomalyRule.evaluate (context : RuleContext) (base_score : ℚ) (telemetry : Dict) : ℚ :=
  let agent_id := or_else (.str context.agent_id) (telemetry.get_default "agent_id" .null)
  if agent_id.truthy then
    match context.score_telemetry agent_id telemetry with
    | .ok (is_anomaly, risk_points) =>
      if !context.ml_log_only ∧ is_anomaly ∧ 0 < risk_points then risk_points / 10 * base_score else 0
    | .error _ => 0
  else 0

end larp
