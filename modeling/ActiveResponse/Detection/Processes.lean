import ActiveResponse.Core.Database

namespace larp

/-! ## Whitelist -/

/-- A text filter of a query: an empty value leaves the condition out, and only text can be bound. -/
def text_filter (value : Json) : Except AppException (Option String) :=
  match value with
  | .str text => .ok (if text = "" then none else some text)
  | value =>
    if value.truthy then .error (.DataError "invalid input for query argument (expected str)") else .ok none

namespace Database

/-- Whether the whitelist has a row that `select` picks. More than one such row is an error. -/
def whitelist_has (db : Database) (select : WhitelistEntry → Bool) : Except AppException Bool :=
  match db.whitelist.rows.filter select with
  | [] => .ok false
  | [_] => .ok true
  | _ => .error .MultipleResultsFound

/-- `WhitelistRepository.is_whitelisted`. -/
def is_whitelisted (db : Database) (agent_id : Option String) (process_name path : Json) :
    Except AppException Bool := do
  let process_name ← text_filter process_name
  let path ← text_filter path
  let agent_id := agent_id.filter (· ≠ "")
  if process_name.isNone ∧ path.isNone then
    if agent_id.isSome then db.whitelist_has fun entry => entry.agent_id = agent_id
    else return false
  else
    db.whitelist_has fun entry =>
      (entry.agent_id = none ∨ entry.agent_id = agent_id) ∧
        ((process_name.isSome ∧ entry.process_name = process_name) ∨ (path.isSome ∧ entry.path = path))

/-- The loop of `process_risk` over the reported processes: it ends at the first match. -/
def any_whitelisted (db : Database) (agent_id : String) : List Dict → Except AppException Bool
  | [] => return false
  | process :: processes => do
    let found ← db.is_whitelisted (some agent_id) ((process.get "name").getD .null)
      ((process.get "path").getD .null)
    if found then return true else db.any_whitelisted agent_id processes

theorem any_whitelisted_congr {db db' : Database} (h : db'.whitelist = db.whitelist) (agent_id : String)
    (processes : List Dict) : db'.any_whitelisted agent_id processes = db.any_whitelisted agent_id processes := by
  induction processes with
  | nil => rfl
  | cons process processes ih => simp only [any_whitelisted, is_whitelisted, whitelist_has, h, ih]

end Database

/-! ## Suspicious processes -/

def SUSPECT_KEYWORDS : List String :=
  ["mimikatz", "nmap", "chisel", "psexec", "procdump", "ransomware_sim", "backdoor_sim", "credential_dump",
    "lazagne", "vssadmin", "meterpreter", "cobaltstrike", "key_test", "keylog", "keylogger"]

/-- The tools that must stand as words of their own. -/
def SUSPECT_WORDS : List String := ["nc", "ncat", "netcat", "nc.exe", "ncat.exe", "netcat.exe"]

/-- The characters of a word: `[a-zA-Z0-9_\-\.]`. -/
def is_word_char (c : Char) : Bool :=
  c.isAlphanum ∨ c = '_' ∨ c = '-' ∨ c = '.'

def matches_suspect (text : String) : Bool :=
  SUSPECT_KEYWORDS.any (contains_text text) ||
    (text.toList.splitOnP fun c => !is_word_char c).any fun word => String.ofList word ∈ SUSPECT_WORDS

/-- `str(process.get(key, "")).strip().lower()`. -/
def process_text (py_str : Json → String) (process : Dict) (key : String) : String :=
  py_lower (String.ofList (strip (match process.get key with
    | none => ""
    | some (.str text) => text
    | some value => py_str value).toList))

structure SuspiciousProcess where
  pid : Json
  name : Json
  cmdline : String

/-- What a process is reported as: its name, if it has one. -/
def process_name (py_str : Json → String) (process : Dict) : Json :=
  let name := (process.get "name").getD .null
  if name.truthy then name
  else if process_text py_str process "name" ≠ "" then .str (process_text py_str process "name")
  else .str "suspicious_process"

def is_suspicious (py_str : Json → String) (process : Dict) : Bool :=
  ((process.get "is_suspicious").any Json.truthy) ||
    matches_suspect (process_text py_str process "name" ++ " " ++ process_text py_str process "cmdline")

/-- Note a process that is suspicious and has a process id that was not noted before. -/
def note_suspicious (py_str : Json → String) (noted : List SuspiciousProcess) (process : Dict) :
    List SuspiciousProcess :=
  let pid := (process.get "pid").getD .null
  if is_suspicious py_str process ∧ pid.truthy ∧ !noted.any fun other => other.pid.py_eq pid then
    noted ++ [{ pid, name := process_name py_str process, cmdline := process_text py_str process "cmdline" }]
  else noted

/-- The processes that `process_risk` has killed. -/
def suspicious_processes (py_str : Json → String) (processes : List Dict) : List SuspiciousProcess :=
  processes.foldl (note_suspicious py_str) []

/-- There is something to kill as soon as one suspicious process has a process id. -/
theorem suspicious_processes_ne_nil (py_str : Json → String) (processes : List Dict) :
    suspicious_processes py_str processes ≠ [] ↔
      ∃ process ∈ processes, is_suspicious py_str process ∧ ((process.get "pid").getD .null).truthy := by
  have hfold : ∀ noted, processes.foldl (note_suspicious py_str) noted = [] ↔
      noted = [] ∧ ∀ process ∈ processes,
        ¬(is_suspicious py_str process ∧ ((process.get "pid").getD .null).truthy) := by
    intro noted
    induction processes generalizing noted with
    | nil => simp
    | cons process processes ih =>
      rw [List.foldl_cons, ih, List.forall_mem_cons]
      cases noted with
      | nil =>
        by_cases h : is_suspicious py_str process ∧ ((process.get "pid").getD .null).truthy <;>
          simp [note_suspicious, h]
      | cons first rest =>
        unfold note_suspicious
        dsimp only
        split <;> simp
  rw [ne_eq, suspicious_processes, hfold]
  simp

end larp
