import ActiveResponse.Core.LoadedJson
import ActiveResponse.Lib.Table

namespace larp

/-- A row of `process_info` with the columns that the manager writes and reads. -/
structure StoredProcess where
  id : String
  agent_id : String
  pid : ℤ
  parent_pid : Option ℤ := none
  name : String
  exe : String := ""
  exe_path : Option String := none
  cmdline : String := ""
  session_id : Option String := none
  cpu_percent : PyFloat := .finite 0
  memory_percent : PyFloat := .finite 0
  hash : Option String := none
  is_suspicious : Bool := false
  created_at : Time

instance : Keyed StoredProcess String := ⟨StoredProcess.id⟩

namespace StoredProcess

def suspicious_names : List String :=
  ["nc", "netcat", "nmap", "mimikatz", "chisel", "metasploit", "meterpreter", "powershell_hidden"]

/-- `"/tmp/" in path or "/dev/shm" in path`. -/
def in_temporary_directory (path : String) : Bool :=
  contains_text path "/tmp/" || contains_text path "/dev/shm"

/-- `ProcessInfo.is_suspicious_process`. -/
def is_suspicious_process (self : StoredProcess) : Bool :=
  self.is_suspicious || suspicious_names.any (contains_text (py_lower self.name)) ||
    in_temporary_directory self.exe || self.exe_path.any in_temporary_directory

end StoredProcess

/-- `ProcessInfoRepository.find_by_agent`. -/
def find_by_agent (process_info : Table StoredProcess) (agent_id : String) : List StoredProcess :=
  process_info.rows.filter fun process => process.agent_id = agent_id

/-- `ProcessInfoRepository.get_by_agent`: the newest rows of the agent. -/
def get_by_agent (process_info : Table StoredProcess) (agent_id : String) (limit : ℕ) : List StoredProcess :=
  (process_info.select_desc (fun process => process.agent_id = agent_id) StoredProcess.created_at).take limit

end larp
