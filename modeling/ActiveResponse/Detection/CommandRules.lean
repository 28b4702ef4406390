import ActiveResponse.Detection.RuleContext

namespace larp

open RiskProcessChainRule (base_name or_else p_dict unhashable)

namespace LivingOffLandRule

def LOLBINS : List String :=
  ["msbuild.exe", "msbuild", "certutil.exe", "certutil", "rundll32.exe", "regsvr32.exe", "mshta.exe", "wmic.exe",
    "bitsadmin.exe", "schtasks.exe", "cscript.exe", "wscript.exe", "powershell.exe", "powershell", "pwsh.exe"]

def PARENT_SCORES : List (String × ℤ) :=
  [("devenv.exe", -25), ("msbuild.exe", -15), ("code.exe", -20), ("explorer.exe", 0), ("cmd.exe", 10),
    ("powershell.exe", 15), ("electron.exe", 50), ("winword.exe", 50), ("excel.exe", 50), ("powerpnt.exe", 50),
    ("outlook.exe", 50), ("chrome.exe", 40), ("firefox.exe", 40)]

def CMDLINE_PATTERNS : List (String × ℤ) :=
  [(r"\.csproj", 30), ("/t:Run", 40), ("-urlcache", 40), ("-decodehex", 40), ("-encodedcommand", 40),
    (r"-enc\b", 40), ("-windowstyle hidden", 30), (r"\\users\\public\\", 30), (r"\\appdata\\local\\temp\\", 30),
    (r"\\windows\\temp\\", 30)]

def SHELLS : List String := ["powershell.exe", "powershell", "cmd.exe", "cmd", "cscript.exe", "wscript.exe"]

variable (context : RuleContext)

/-- The scores of the patterns that are found. -/
def pattern_score (text : String) : ℤ :=
  ((CMDLINE_PATTERNS.filter fun entry => context.re_search entry.1 text).map Prod.snd).sum

/-- `pid_map.get(parent_pid)`: of two processes with one pid the map keeps the later one. -/
def find_parent (processes : List Json) (parent_pid : Json) : Except AppException (Option Dict) :=
  if unhashable parent_pid then .error (.TypeError "unhashable type")
  else .ok ((processes.map p_dict).reverse.find? fun process =>
    let pid := process.get_default "pid" .null
    !(pid matches .null) && pid.py_eq parent_pid)

def parent_score (parent : Dict) : ℤ :=
  let parent_name := context.field parent "name"
  ((PARENT_SCORES.lookup (base_name parent_name)).or (PARENT_SCORES.lookup parent_name)).getD 0

/-- Whether one of the processes is a shell with this parent. -/
def spawns_shell (processes : List Json) (my_pid : Json) : Bool :=
  !(my_pid matches .null) && processes.any fun child =>
    let value key := (p_dict child).get_default key .null
    ((value "ppid").py_eq my_pid || (value "parent_pid").py_eq my_pid) &&
      base_name (context.field (p_dict child) "name") ∈ SHELLS

/-- What a process adds to the score. -/
def proc_score (processes : List Json) (process : Dict) : Except AppException ℤ := do
  let name := context.field process "name"
  if name ∈ LOLBINS ∨ base_name name ∈ LOLBINS then
    let value key := process.get_default key .null
    let parent ← find_parent processes (or_else (value "ppid") (value "parent_pid"))
    let parent := parent.filter fun parent => !parent.isEmpty
    return max 0 (parent.elim 0 (parent_score context) + pattern_score context (context.cmdline process) +
      if spawns_shell context processes (value "pid") then 40 else 0)
  else return 0

def command_score (cmd : Json) : ℤ :=
  if LOLBINS.any (contains_text (context.lowered cmd)) then pattern_score context (context.text cmd) else 0

/-- The configured `base_score` is not used. -/
def evaluate (telemetry : Dict) : Except AppException ℚ := do
  let processes ← (telemetry.get_default "process_list" (.arr [])).items
  let _pids ← py_set (processes.map fun proc => (p_dict proc).get_default "pid" .null)
  let proc_scores ← processes.mapM fun proc => proc_score context processes (p_dict proc)
  let commands ← (telemetry.get_default "suspicious_commands" (.arr [])).items
  let total_score := proc_scores.sum + (commands.map (command_score context)).sum
  return if 0 < total_score then min 100 (max 0 (total_score : ℚ)) else 0

end LivingOffLandRule

namespace CredentialDumpingRule

def DUMP_PATTERNS : List (String × ℚ) :=
  [("procdump.*(-ma|-mm).*lsass", 80), (r"comsvcs\.dll.*MiniDump", 80), ("sekurlsa::logonpasswords", 90),
    ("sekurlsa::wdigest", 90), ("lsadump::sam", 90), ("kerberos::golden", 90), ("MiniDumpWriteDump", 60),
    (r"lsass\.exe.*(?:dump|procdump)", 70)]

variable (context : RuleContext)

/-- The score of the first pattern that is found. -/
def dump_score (text : String) : Option ℚ :=
  (DUMP_PATTERNS.find? fun entry => context.re_search entry.1 text).map Prod.snd

/-- A command line that is blank is passed over. The list of legitimate processes spares none that matches. -/
def process_score (process : Dict) : Option ℚ :=
  let cmdline := context.cmdline process
  if py_strip cmdline = "" then none else dump_score context cmdline

/-- The first command that matches counts, else the first process. -/
def evaluate (telemetry : Dict) : Except AppException ℚ := do
  let commands ← (telemetry.get_default "suspicious_commands" (.arr [])).items
  match commands.findSome? fun cmd => dump_score context (context.text cmd) with
  | some score => return score
  | none =>
    let processes ← (telemetry.get_default "process_list" (.arr [])).items
    return (processes.findSome? fun proc => process_score context (p_dict proc)).getD 0

end CredentialDumpingRule

namespace ShadowCopyRule

def SHADOW_PATTERNS : List String :=
  ["vssadmin delete shadows", "vssadmin", "wmic shadowcopy delete", "wmic shadowcopy",
    "bcdedit /set {default} recoveryenabled no", "bcdedit /set {default} bootstatuspolicy ignoreallfailures",
    "bcdedit", "wbadmin delete catalog", "wbadmin", "shadow_deletion", "delete shadows"]

variable (context : RuleContext)

def suspicious (text : String) : Bool := SHADOW_PATTERNS.any (contains_text text)

def full_str (process : Dict) : String :=
  context.lowered (process.get_default "name" (.str "")) ++ " " ++
    context.lowered (process.get_default "cmdline" (.str ""))

/-- The reason joins the indicators of a deletion that is reported, so they have to be texts. -/
def evaluate (base_score : ℚ) (telemetry : Dict) : Except AppException ℚ := do
  let shadow_flag := (telemetry.get_default "shadow_copy_deletion" (.bool false)).truthy
  let indicators := telemetry.get_default "shadow_copy_indicators" (.arr [])
  if shadow_flag ∧ indicators.truthy then joinable (← indicators.items)
  let commands ← (telemetry.get_default "suspicious_commands" (.arr [])).items
  let processes ← (telemetry.get_default "process_list" (.arr [])).items
  let detected := shadow_flag || commands.any (fun cmd => suspicious (context.lowered cmd)) ||
    processes.any fun proc => suspicious (full_str context (p_dict proc))
  return if detected then 50 * base_score else 0

end ShadowCopyRule

end larp
