import ActiveResponse.Core.Conversions
import ActiveResponse.Models.StoredProcess

namespace larp

namespace ProcessList

/-- `proc_item.get(key)`. -/
def value (proc_item : List (String × LoadedJson)) (key : String) : LoadedJson :=
  (proc_item.lookup key).getD .null

/-- `safe_int(val)`. -/
def safe_int (val : LoadedJson) : Except PyException (Option ℤ) :=
  match val with
  | .null => .ok none
  | val =>
    match val.to_int with
    | .ok n => .ok (some n)
    | .error (.ValueError _) | .error (.TypeError _) => .ok none
    | .error e => .error e

/-- `safe_float(val)`. -/
def safe_float (val : LoadedJson) : Except PyException PyFloat :=
  match val with
  | .null => .ok (.finite 0)
  | val =>
    match val.to_float with
    | .ok x => .ok x
    | .error (.ValueError _) | .error (.TypeError _) => .ok (.finite 0)
    | .error e => .error e

/-- One call of `_save_process_list`: its agent and clock, how `str` writes what is not a text, the uuid that is
drawn for each item, and whether the database accepts the row of each item at its savepoint. -/
structure Call where
  target_agent_id : String
  now_dt : Time
  repr : LoadedJson → String
  hex : ℕ → String
  accepts : ℕ → Bool

/-- The rows of `process_info` as the session sees them, and the counters of the loop. -/
structure Saved where
  rows : List StoredProcess
  count : ℕ := 0
  skipped : ℕ := 0

def Saved.add (self : Saved) (pinfo : StoredProcess) : Saved :=
  { self with rows := self.rows ++ [pinfo], count := self.count + 1 }

def Saved.skip (self : Saved) : Saved := { self with skipped := self.skipped + 1 }

namespace Call

variable (self : Call)

/-- `str(val)`. -/
def py_str : LoadedJson → String
  | .str text => text
  | val => self.repr val

/-- `safe_str(val, max_len, default)`. -/
def safe_str (val : LoadedJson) (max_len : ℕ) (default : String) : String :=
  match val with
  | .null => default
  | val => String.ofList ((self.py_str val).toList.take max_len)

/-- The text of the command line before it is cut. -/
def cmdline_str (cmd_raw : LoadedJson) : String :=
  match cmd_raw with
  | .arr words => " ".intercalate (words.map self.py_str)
  | cmd_raw => self.py_str cmd_raw

/-- The row that is built from the item with this index. -/
def pinfo (index : ℕ) (pid : ℤ) (proc_item : List (String × LoadedJson)) : Except PyException StoredProcess := do
  let value := value proc_item
  let parent_pid ← safe_int (match value "parent_pid" with | .null => value "ppid" | parent_pid => parent_pid)
  let cmdline := self.cmdline_str ((value "cmdline").or_else (.str ""))
  let exe := (value "exe").or_else (value "path")
  let cpu_percent ← safe_float ((value "cpu_percent").or_else (value "cpu"))
  let memory_percent ← safe_float ((value "memory_percent").or_else (value "ram"))
  return {
    id := "proc_" ++ self.hex index
    agent_id := self.target_agent_id
    pid, parent_pid
    name := self.safe_str (value "name") 128 "unknown"
    exe := self.safe_str exe 512 ""
    exe_path := (some (self.safe_str ((value "exe_path").or_else exe) 512 "")).filter (· ≠ "")
    cmdline := self.safe_str (.str cmdline) 1024 ""
    cpu_percent, memory_percent
    is_suspicious := (value "is_suspicious").truthy
    hash := (some (self.safe_str (value "hash") 128 "")).filter (· ≠ "")
    created_at := self.now_dt }

/-- The body of the `try`, with what its `except` makes of a failure. -/
def try_item (saved : Saved) (index : ℕ) (pid : ℤ) (proc_item : List (String × LoadedJson)) : Saved :=
  match self.pinfo index pid proc_item with
  | .ok pinfo => if self.accepts index then saved.add pinfo else saved.skip
  | .error _ => saved.skip

/-- One round of the loop. -/
def save_item (saved : Saved) (index : ℕ) (item : LoadedJson) : Except PyException Saved :=
  match item with
  | .obj proc_item => do
    match ← safe_int (value proc_item "pid") with
    | some pid => if pid < 0 then return saved.skip else return self.try_item saved index pid proc_item
    | none => return saved.skip
  | item => .error (.AttributeError ("'" ++ item.type_name ++ "' object has no attribute 'get'"))

/-- The loop, from the item with this index. -/
def save_items (saved : Saved) (index : ℕ) : List LoadedJson → Except PyException Saved
  | [] => .ok saved
  | item :: items => do
    let saved ← self.save_item saved index item
    save_items saved (index + 1) items

/-- `_save_process_list`: the number of the rows that it has saved, and what `process_info` holds afterwards. -/
def save_process_list (rows : List StoredProcess) (processes_data : LoadedJson) :
    Except PyException (ℕ × List StoredProcess) :=
  match processes_data with
  | .arr items =>
    if items.isEmpty then .ok (0, rows)
    else
      (self.save_items { rows := rows.filter fun row => row.agent_id ≠ self.target_agent_id } 0 items).map
        fun saved => (saved.count, saved.rows)
  | _ => .ok (0, rows)

end Call

/-- The payload of a `PROCESS_LIST` message. -/
structure Payload where
  agent_id : Option String := none
  processes : LoadedJson := .arr []

/-- `_handle_process_list`: the count of the acknowledgement, and what `process_info` holds afterwards. -/
def handle_process_list (call : Call) (payload : Payload) (rows : List StoredProcess) :
    Except PyException (ℕ × List StoredProcess) :=
  let target_agent_id := payload.agent_id.getD call.target_agent_id
  { call with target_agent_id }.save_process_list rows payload.processes

/-- The pid of an item, if it is an object with a pid that converts to a nonnegative integer. -/
def pid_of : LoadedJson → Option ℤ
  | .obj proc_item => (value proc_item "pid").to_int.toOption.filter fun pid => 0 ≤ pid
  | _ => none

/-- The row of an item, if it has a pid and its other fields convert. -/
def row_of (call : Call) (index : ℕ) (item : LoadedJson) : Option StoredProcess :=
  match item with
  | .obj proc_item => (pid_of item).bind fun pid => (call.pinfo index pid proc_item).toOption
  | _ => none

/-- The row of an item, if the database accepts it. -/
def stored_row (call : Call) (entry : LoadedJson × ℕ) : Option StoredProcess :=
  if call.accepts entry.2 then row_of call entry.2 entry.1 else none

/-- The rows of the items that have one which the database accepts. -/
def stored_rows (call : Call) (items : List LoadedJson) : List StoredProcess :=
  items.zipIdx.filterMap (stored_row call)

/-- The rows that a call leaves in place: an empty list replaces nothing. -/
def kept_rows (call : Call) (rows : List StoredProcess) (items : List LoadedJson) : List StoredProcess :=
  if items.isEmpty then rows else rows.filter fun row => row.agent_id ≠ call.target_agent_id

/-- The law: the call returns, has stored the rows of exactly these items, and returns their number. -/
def Law (call : Call) (rows : List StoredProcess) (items : List LoadedJson) : Prop :=
  call.save_process_list rows (.arr items) =
    .ok ((stored_rows call items).length, kept_rows call rows items ++ stored_rows call items)

/-- An object whose pid is not an infinite float. -/
def Readable : LoadedJson → Prop
  | .obj proc_item => ∀ negative, value proc_item "pid" ≠ .float (.inf negative)
  | _ => False

theorem safe_int_eq {val : LoadedJson} (h : ∀ negative, val ≠ .float (.inf negative)) :
    safe_int val = .ok val.to_int.toOption := by
  cases val with
  | float x =>
    cases x with
    | inf negative => exact absurd rfl (h negative)
    | finite value => rfl
    | nan => rfl
  | str text =>
    rw [safe_int, LoadedJson.to_int]
    · cases py_int_text text <;> rfl
    · simp
  | _ => rfl

theorem safe_int_inf (negative : Bool) :
    safe_int (.float (.inf negative)) = .error (.OverflowError "cannot convert float infinity to integer") := rfl

section Loop

variable {call : Call}

/-- What one round does with the row of its item. -/
def Saved.put (saved : Saved) : Option StoredProcess → Saved
  | some row => saved.add row
  | none => saved.skip

theorem Saved.rows_put (saved : Saved) (row : Option StoredProcess) :
    (saved.put row).rows = saved.rows ++ row.toList := by
  cases row with
  | none => exact (List.append_nil _).symm
  | some row => rfl

theorem Saved.count_put (saved : Saved) (row : Option StoredProcess) :
    (saved.put row).count = saved.count + row.toList.length := by
  cases row <;> rfl

theorem try_item_eq (saved : Saved) (index : ℕ) (pid : ℤ) (proc_item : List (String × LoadedJson)) :
    call.try_item saved index pid proc_item =
      saved.put (if call.accepts index then (call.pinfo index pid proc_item).toOption else none) := by
  rw [Call.try_item]
  cases call.pinfo index pid proc_item <;> cases call.accepts index <;> rfl

theorem save_item_of_readable {item : LoadedJson} (h : Readable item) (saved : Saved) (index : ℕ) :
    call.save_item saved index item = .ok (saved.put (stored_row call (item, index))) := by
  cases item with
  | obj proc_item =>
    rw [Call.save_item, safe_int_eq h, stored_row, row_of, pid_of]
    cases (value proc_item "pid").to_int.toOption with
    | none => simp [Saved.put, Bind.bind, Except.bind, Pure.pure, Except.pure]
    | some pid =>
      by_cases hpid : pid < 0
      · have hnegative : ¬ 0 ≤ pid := not_le.mpr hpid
        simp [hpid, hnegative, Option.filter_some, Saved.put, Bind.bind, Except.bind, Pure.pure, Except.pure]
      · have hnonneg : 0 ≤ pid := not_lt.mp hpid
        simp [hpid, hnonneg, Option.filter_some, try_item_eq, Bind.bind, Except.bind, Pure.pure, Except.pure]
  | _ => exact h.elim

theorem readable_of_save_item {item : LoadedJson} {saved saved' : Saved} {index : ℕ}
    (h : call.save_item saved index item = .ok saved') : Readable item := by
  cases item with
  | obj proc_item =>
    intro negative hpid
    rw [Call.save_item, hpid, safe_int_inf] at h
    cases h
  | _ => cases h

/-- A run of the loop over readable items has stored their accepted rows and counted them. -/
theorem save_items_of_readable {items : List LoadedJson} (h : ∀ item ∈ items, Readable item) (saved : Saved)
    (index : ℕ) : ∃ saved', call.save_items saved index items = .ok saved' ∧
      saved'.rows = saved.rows ++ (items.zipIdx index).filterMap (stored_row call) ∧
      saved'.count = saved.count + ((items.zipIdx index).filterMap (stored_row call)).length := by
  induction items generalizing saved index with
  | nil => exact ⟨saved, rfl, by simp, by simp⟩
  | cons item items ih =>
    obtain ⟨saved', hsaved', hrows, hcount⟩ := ih (fun other hother => h other (List.mem_cons_of_mem _ hother))
      (saved.put (stored_row call (item, index))) (index + 1)
    have hfilter : ((item :: items).zipIdx index).filterMap (stored_row call) =
        (stored_row call (item, index)).toList ++ (items.zipIdx (index + 1)).filterMap (stored_row call) := by
      rw [List.zipIdx_cons, List.filterMap_cons]
      cases stored_row call (item, index) <;> rfl
    refine ⟨saved', ?_, ?_, ?_⟩
    · rw [Call.save_items, save_item_of_readable (h item List.mem_cons_self)]
      exact hsaved'
    · rw [hrows, Saved.rows_put, hfilter, List.append_assoc]
    · rw [hcount, Saved.count_put, hfilter, List.length_append, Nat.add_assoc]

/-- A run that has come to its end has read every item. -/
theorem readable_of_save_items {items : List LoadedJson} {saved saved' : Saved} {index : ℕ}
    (h : call.save_items saved index items = .ok saved') : ∀ item ∈ items, Readable item := by
  induction items generalizing saved index with
  | nil => simp
  | cons item items ih =>
    rw [Call.save_items] at h
    cases hitem : call.save_item saved index item with
    | error e =>
      rw [hitem] at h
      cases h
    | ok next =>
      rw [hitem] at h
      intro other hother
      rcases List.mem_cons.mp hother with rfl | hother
      · exact readable_of_save_item hitem
      · exact ih h other hother

end Loop

/-- A call returns exactly when each of its items is readable. -/
theorem readable_of_save {call : Call} {rows : List StoredProcess} {items : List LoadedJson}
    {result : ℕ × List StoredProcess} (h : call.save_process_list rows (.arr items) = .ok result) :
    ∀ item ∈ items, Readable item := by
  rw [Call.save_process_list] at h
  split at h
  · rename_i hempty
    simp [List.isEmpty_iff.mp hempty]
  · cases hsaved : call.save_items { rows := rows.filter fun row => row.agent_id ≠ call.target_agent_id } 0 items with
    | error e =>
      rw [hsaved] at h
      cases h
    | ok saved => exact readable_of_save_items hsaved

theorem law_of_readable {call : Call} {rows : List StoredProcess} {items : List LoadedJson}
    (h : ∀ item ∈ items, Readable item) : Law call rows items := by
  rw [Law, Call.save_process_list, kept_rows]
  split
  · rename_i hempty
    simp [List.isEmpty_iff.mp hempty, stored_rows]
  · obtain ⟨saved, hsaved, hrows, hcount⟩ := @save_items_of_readable call items h
      { rows := rows.filter fun row => row.agent_id ≠ call.target_agent_id } 0
    rw [hsaved, stored_rows, ← hrows, Except.map, hcount, Nat.zero_add]

/-- The law holds exactly when every item is an object whose pid is not an infinite float. -/
theorem processListLaw_iff (call : Call) (rows : List StoredProcess) (items : List LoadedJson) :
    Law call rows items ↔ ∀ item ∈ items, Readable item :=
  ⟨fun h => readable_of_save h, law_of_readable⟩

theorem agent_id_of_pinfo {call : Call} {index : ℕ} {pid : ℤ} {proc_item : List (String × LoadedJson)}
    {row : StoredProcess} (h : call.pinfo index pid proc_item = .ok row) : row.agent_id = call.target_agent_id := by
  simp only [Call.pinfo, Bind.bind, Except.bind, Pure.pure, Except.pure] at h
  split at h
  · cases h
  · split at h
    · cases h
    · split at h
      · cases h
      · obtain rfl := Except.ok.inj h
        rfl

theorem agent_id_of_mem_stored_rows {call : Call} {items : List LoadedJson} {row : StoredProcess}
    (h : row ∈ stored_rows call items) : row.agent_id = call.target_agent_id := by
  obtain ⟨entry, -, hstored⟩ := List.mem_filterMap.mp h
  rw [stored_row] at hstored
  split at hstored
  · unfold row_of at hstored
    split at hstored
    · rename_i proc_item hitem
      obtain ⟨pid, -, hrow⟩ := Option.bind_eq_some_iff.mp hstored
      cases hpinfo : call.pinfo entry.2 pid proc_item with
      | error e => simp [hpinfo, Except.toOption] at hrow
      | ok pinfo =>
        rw [hpinfo] at hrow
        obtain rfl := Option.some.inj hrow
        exact agent_id_of_pinfo hpinfo
    · cases hstored
  · cases hstored

theorem length_of_save {call : Call} {rows rows' : List StoredProcess} {count : ℕ} {items : List LoadedJson}
    (hne : items ≠ []) (h : call.save_process_list rows (.arr items) = .ok (count, rows')) :
    (rows'.filter fun row => row.agent_id = call.target_agent_id).length = count := by
  have hlaw : Law call rows items := law_of_readable (readable_of_save h)
  rw [Law, kept_rows, if_neg (by simpa using hne)] at hlaw
  obtain ⟨rfl, rfl⟩ := Prod.mk.inj (Except.ok.inj (h.symm.trans hlaw))
  have hkept : (rows.filter fun row => row.agent_id ≠ call.target_agent_id).filter
      (fun row => row.agent_id = call.target_agent_id) = [] := by
    simp [List.filter_filter]
  have hstored : (stored_rows call items).filter (fun row => row.agent_id = call.target_agent_id) =
      stored_rows call items :=
    List.filter_eq_self.mpr fun row hrow => decide_eq_true (agent_id_of_mem_stored_rows hrow)
  rw [List.filter_append, hkept, hstored, List.nil_append]

/-- A list that is not empty and is acknowledged has replaced the rows of the agent, and the count is their number. -/
theorem length_of_handle_process_list {call : Call} {payload : Payload} {rows rows' : List StoredProcess} {count : ℕ}
    {items : List LoadedJson} (hitems : payload.processes = .arr items) (hne : items ≠ [])
    (h : handle_process_list call payload rows = .ok (count, rows')) :
    (rows'.filter fun row => row.agent_id = payload.agent_id.getD call.target_agent_id).length = count := by
  rw [handle_process_list, hitems] at h
  exact length_of_save hne h

/-- The law for every list that an agent can send. -/
def ProcessListLaw : Prop :=
  ∀ (call : Call) (rows : List StoredProcess) (items : List LoadedJson), Law call rows items

private def web_1 : Call where
  target_agent_id := "web-1"
  now_dt := 0
  repr _ := ""
  hex index := zero_padded 12 index
  accepts _ := true

/-- A shell, and an item whose pid was sent as `Infinity`. -/
private def shell_and_infinity : List LoadedJson :=
  [.obj [("pid", .int 4), ("name", .str "sh")], .obj [("pid", .float (.inf false))]]

/-- One item with an infinite pid ends the whole call. -/
theorem not_processListLaw_infinity : ¬ ProcessListLaw := by
  intro h
  have hreadable := readable_of_save (h web_1 [] shell_and_infinity)
  exact hreadable (.obj [("pid", .float (.inf false))]) (by simp [shell_and_infinity]) false rfl

end ProcessList

end larp
