import ActiveResponse.Core.Values

namespace larp

/-- What Python and the operating system of the agent's machine answer to the command handlers.
An exception that a handler catches is given by its text. -/
structure Host where
  py_str : Json → String
  isolate : Except String Unit
  unisolate : Except String Unit
  kill : ℤ → Except String Unit
  /-- The processes killed from this pid downwards, and an exception other than `NoSuchProcess`. -/
  kill_tree : ℤ → List ℤ × Option String
  kill_by_name : String → List ℤ × Option String
  syn_flood : ℤ → String → Json → Except AppException Unit
  yara_scan : Dict → Except String ℕ

/-- The entries of a handler's result that `send_stats` reads. -/
structure CommandResult where
  status : String
  message : Option String := none
deriving DecidableEq

abbrev CommandHandler := Host → Dict → Except AppException CommandResult

def success (message : String) : Except AppException CommandResult :=
  .ok { status := "success", message := some message }

def failed (message : String) : Except AppException CommandResult :=
  .ok { status := "failed", message := some message }

def error_result (message : String) : Except AppException CommandResult :=
  .ok { status := "error", message := some message }

/-- `if not params.get(key)` is the negation of this. -/
def Dict.has (self : Dict) (key : String) : Bool :=
  (self.get key).any Json.truthy

def IsolateCommand : CommandHandler := fun host _ =>
  match host.isolate with
  | .ok () => success "Network isolated successfully"
  | .error e => error_result e

def UnisolateCommand : CommandHandler := fun host _ =>
  match host.unisolate with
  | .ok () => success "Network unisolated successfully"
  | .error e => error_result e

/-- Only this handler has no `except`: a bad duration or a failing subprocess raises. -/
def SynFloodCommand : CommandHandler := fun host params => do
  let target_port := host.py_str ((params.get "target_port").getD (.str "80"))
  let duration ← ((params.get "duration").getD (.num 10)).to_int
  if params.has "target_ip" then
    host.syn_flood duration target_port ((params.get "target_ip").getD .null)
    return { status := "success" }
  else error_result "Missing target_ip"

/-- `os.kill(int(pid), SIGKILL)`. -/
def Host.kill_pid (host : Host) (pid : Json) : Except String Unit :=
  match pid.to_int with
  | .ok n => host.kill n
  | .error e => .error e.message

def KillProcessCommand : CommandHandler := fun host params =>
  if params.has "pid" then
    let pid := (params.get "pid").getD .null
    match host.kill_pid pid with
    | .ok () => success ("Successfully killed process " ++ host.py_str pid)
    | .error e => failed ("Failed to kill process " ++ host.py_str pid ++ ": " ++ e)
  else failed "No PID provided"

/-- An error list with the text of an exception, if there was one. -/
def labelled (label : String) (raised : Option String) : List String :=
  (raised.map fun e => label ++ ": " ++ e).toList

/-- Kill the process tree starting from the PID. A pid that is not a number is passed over. -/
def Host.kill_from_pid (host : Host) (pid : Json) : List ℤ × List String :=
  match pid.to_int with
  | .ok target_pid =>
    ((host.kill_tree target_pid).1, labelled ("PID " ++ host.py_str pid) (host.kill_tree target_pid).2)
  | .error (.ValueError _) => ([], [])
  | .error e => ([], labelled ("PID " ++ host.py_str pid) (some e.message))

/-- The search by name, made if no process has been killed yet. -/
def Host.kill_from_name (host : Host) (process_name : Json) (found : List ℤ × List String) :
    List ℤ × List String :=
  if found.1.isEmpty then
    let scan := host.kill_by_name (host.py_str process_name)
    (scan.1, found.2 ++ labelled ("Name " ++ host.py_str process_name) scan.2)
  else found

/-- `str` of a list of integers. -/
def pid_list (pids : List ℤ) : String :=
  "[" ++ ", ".intercalate (pids.map toString) ++ "]"

/-- The processes killed by pid or, failing that, by name, and the errors on the way. -/
def Host.terminate (host : Host) (pid process_name : Json) : List ℤ × List String :=
  let from_pid := if pid.truthy then host.kill_from_pid pid else ([], [])
  if process_name.truthy then host.kill_from_name process_name from_pid else from_pid

def KillProcessTreeCommand : CommandHandler := fun host params =>
  let pid := (params.get "pid").getD .null
  let process_name := (params.get "process_name").getD .null
  let (killed_pids, errors) := host.terminate pid process_name
  if !killed_pids.isEmpty then
    success ("Successfully terminated process tree (Killed PIDs: " ++ pid_list killed_pids ++ ")")
  else if !errors.isEmpty then
    failed ("Failed to kill process tree: " ++ "; ".intercalate errors)
  else
    success ("No active matching process tree found for PID " ++ host.py_str pid ++ " / Name '" ++
      host.py_str process_name ++ "'")

def SelfUpdateCommand : CommandHandler := fun host params =>
  success ("Self-update initiated for version " ++
    host.py_str ((params.get "version").getD (.str "latest")))

def QuarantineCommand : CommandHandler := fun host params =>
  success ("Agent placed in quarantine mode: " ++
    host.py_str ((params.get "reason").getD (.str "Quarantine requested")))

def ReleaseQuarantineCommand : CommandHandler := fun _ _ =>
  success "Quarantine mode released successfully"

def YaraScanCommand : CommandHandler := fun host params =>
  match host.yara_scan params with
  | .ok matches_count =>
    success ("YARA scan completed on '" ++ host.py_str ((params.get "target_path").getD (.str "/tmp")) ++
      "'. Found " ++ toString matches_count ++ " matches.")
  | .error e => error_result ("YARA scan failed: " ++ e)

def COMMAND_HANDLERS : List (String × CommandHandler) :=
  [("syn_flood", SynFloodCommand), ("isolate", IsolateCommand), ("unisolate", UnisolateCommand),
    ("kill_process", KillProcessCommand), ("kill_process_tree", KillProcessTreeCommand),
    ("self_update", SelfUpdateCommand), ("quarantine", QuarantineCommand),
    ("release_quarantine", ReleaseQuarantineCommand), ("yara_scan", YaraScanCommand)]

def execute_command (host : Host) (action : String) (params : Dict) : Except AppException CommandResult :=
  match COMMAND_HANDLERS.lookup action with
  | none => error_result ("Unknown action '" ++ action ++ "'")
  | some handler => handler host params

/-- The payload of the `COMMAND_ACK` that `send_stats` builds from a result. -/
def command_ack (command_id : String) (result : CommandResult) (executed_at : Time) : Json :=
  .obj [("command_id", .str command_id), ("status", .str result.status),
    ("error_message", (result.message.map Json.str).getD .null),
    ("executed_at", .str (isoformat executed_at))]

/-- The handler exists, and neither its work on the machine nor a missing parameter makes it
answer with the status `error`. -/
def Host.completes (host : Host) (action : String) (params : Dict) : Prop :=
  (COMMAND_HANDLERS.lookup action).isSome ∧ (action = "isolate" → host.isolate = .ok ()) ∧
    (action = "unisolate" → host.unisolate = .ok ()) ∧ (action = "syn_flood" → params.has "target_ip") ∧
    (action = "yara_scan" → ∃ matches_count, host.yara_scan params = .ok matches_count)

/-! ## The statuses that the handlers report -/

/-- The statuses of the manager's enum that some handler reports. -/
def CommandResult.known (self : CommandResult) : Prop :=
  self.status = "success" ∨ self.status = "failed"

/-- The result is in the manager's vocabulary if `completed` holds and has the status `error`,
which is not, if it does not hold. -/
def CommandResult.Reports (self : CommandResult) (completed : Prop) : Prop :=
  (completed ∧ self.known) ∨ (¬ completed ∧ self.status = "error")

section Reports

variable {host : Host} {params : Dict} {result : CommandResult} {completed : Prop} {message : String}

theorem reports_of_success (h : success message = .ok result) (hcompleted : completed) :
    result.Reports completed := by
  cases h
  exact Or.inl ⟨hcompleted, Or.inl rfl⟩

theorem reports_of_failed (h : failed message = .ok result) (hcompleted : completed) :
    result.Reports completed := by
  cases h
  exact Or.inl ⟨hcompleted, Or.inr rfl⟩

theorem reports_of_error_result (h : error_result message = .ok result) (hcompleted : ¬ completed) :
    result.Reports completed := by
  cases h
  exact Or.inr ⟨hcompleted, rfl⟩

theorem CommandResult.Reports.known_iff (h : result.Reports completed) : result.known ↔ completed := by
  rcases h with ⟨hcompleted, hknown⟩ | ⟨hcompleted, herror⟩
  · exact iff_of_true hknown hcompleted
  · exact iff_of_false (by simp [known, herror]) hcompleted

theorem IsolateCommand_reports (h : IsolateCommand host params = .ok result) :
    result.Reports (host.isolate = .ok ()) := by
  unfold IsolateCommand at h
  split at h
  · rename_i hok
    exact reports_of_success h hok
  · rename_i e herror
    exact reports_of_error_result h (by simp [herror])

theorem UnisolateCommand_reports (h : UnisolateCommand host params = .ok result) :
    result.Reports (host.unisolate = .ok ()) := by
  unfold UnisolateCommand at h
  split at h
  · rename_i hok
    exact reports_of_success h hok
  · rename_i e herror
    exact reports_of_error_result h (by simp [herror])

theorem SynFloodCommand_reports (h : SynFloodCommand host params = .ok result) :
    result.Reports (params.has "target_ip") := by
  unfold SynFloodCommand at h
  rw [bind_eq_ok_iff] at h
  obtain ⟨duration, _, h⟩ := h
  split at h
  · rename_i htarget
    rw [bind_eq_ok_iff] at h
    obtain ⟨_, _, h⟩ := h
    cases h
    exact Or.inl ⟨htarget, Or.inl rfl⟩
  · rename_i htarget
    exact reports_of_error_result h htarget

/-- Both failures of this handler are reported with a status that the manager knows. -/
theorem KillProcessCommand_reports (h : KillProcessCommand host params = .ok result) :
    result.Reports True := by
  unfold KillProcessCommand at h
  split at h
  · dsimp only at h
    split at h
    · exact reports_of_success h trivial
    · exact reports_of_failed h trivial
  · exact reports_of_failed h trivial

theorem KillProcessTreeCommand_reports (h : KillProcessTreeCommand host params = .ok result) :
    result.Reports True := by
  unfold KillProcessTreeCommand at h
  dsimp only at h
  split at h
  · exact reports_of_success h trivial
  · split at h
    · exact reports_of_failed h trivial
    · exact reports_of_success h trivial

theorem YaraScanCommand_reports (h : YaraScanCommand host params = .ok result) :
    result.Reports (∃ matches_count, host.yara_scan params = .ok matches_count) := by
  unfold YaraScanCommand at h
  split at h
  · rename_i matches_count hok
    exact reports_of_success h ⟨matches_count, hok⟩
  · rename_i e herror
    exact reports_of_error_result h (by simp [herror])

end Reports

/-- A result is in the manager's vocabulary exactly when the handler exists and completes. -/
theorem execute_command_reports {host : Host} {action : String} {params : Dict} {result : CommandResult}
    (h : execute_command host action params = .ok result) :
    result.Reports (host.completes action params) := by
  unfold execute_command at h
  split at h
  · rename_i hlookup
    exact reports_of_error_result h fun hcompletes => by simpa [hlookup] using hcompletes.1
  · rename_i handler hlookup
    obtain ⟨before, after, hentries, _⟩ := List.lookup_eq_some_iff.mp hlookup
    have hmem : (action, handler) ∈ COMMAND_HANDLERS := by simp [hentries]
    simp only [COMMAND_HANDLERS, List.mem_cons, List.not_mem_nil, Prod.mk.injEq, or_false] at hmem
    unfold Host.completes
    rw [hlookup]
    rcases hmem with ⟨rfl, rfl⟩ | ⟨rfl, rfl⟩ | ⟨rfl, rfl⟩ | ⟨rfl, rfl⟩ | ⟨rfl, rfl⟩ | ⟨rfl, rfl⟩ |
      ⟨rfl, rfl⟩ | ⟨rfl, rfl⟩ | ⟨rfl, rfl⟩
    · simpa using SynFloodCommand_reports h
    · simpa using IsolateCommand_reports h
    · simpa using UnisolateCommand_reports h
    · simpa using KillProcessCommand_reports h
    · simpa using KillProcessTreeCommand_reports h
    · exact reports_of_success h (by simp)
    · exact reports_of_success h (by simp)
    · exact reports_of_success h (by simp)
    · simpa using YaraScanCommand_reports h

/-- A machine on which running `iptables` ends in this result, and the other handlers succeed. -/
def machine (iptables : Except String Unit) : Host where
  py_str
    | .str text => text
    | _ => "None"
  isolate := iptables
  unisolate := iptables
  kill _ := .ok ()
  kill_tree _ := ([], none)
  kill_by_name _ := ([], none)
  syn_flood _ _ _ := .ok ()
  yara_scan _ := .ok 0

end larp
