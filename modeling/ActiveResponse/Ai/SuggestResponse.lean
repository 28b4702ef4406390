import ActiveResponse.Ai.ApplySuggestion
import Mathlib.Data.List.Perm.Subperm

namespace larp

def ALLOWED_ACTIONS : List String :=
  ["kill_process", "kill_process_tree", "isolate", "suspend_process", "block_ip", "no_action"]

/-- A row of `process_info` with the columns that a suggestion is checked against. The pid is an `INTEGER`. -/
structure ProcessRow extends ProcessInfo where
  name : String
  created_at : Time
  pid_range : -2 ^ 31 ≤ pid ∧ pid < 2 ^ 31

/-- A row of `flows` with both of its addresses. -/
structure FlowRow extends Flow where
  src_ip : String

/-- The store with the columns of the telemetry that `suggest_response` reads. A dictionary holds no key twice. -/
structure SuggestionContext where
  store : SuggestionStore
  process_rows : List ProcessRow
  flow_rows : List FlowRow
  process_info : store.process_info = process_rows.map ProcessRow.toProcessInfo
  flows : store.flows = flow_rows.map FlowRow.toFlow
  keys : ∀ row ∈ store.analyses.rows, ∀ params ∈ row.suggestion_params, (params.map Prod.fst).Nodup

/-- What `suggest_response` reads from the answer of the model. -/
structure RawSuggestion where
  action : String
  params : Json
  reasoning : String
  confidence : ℚ

/-- The result of `_validate_suggestion`. -/
structure ValidatedSuggestion where
  action : String
  params : Json
  reasoning : String

namespace RawSuggestion

def no_action (reasoning : String) : ValidatedSuggestion := ⟨"no_action", .obj [], reasoning⟩

/-- `raw_params` of an answer that is no dictionary has no method `get`. -/
def dict : Json → Except AppException Dict
  | .obj params => .ok params
  | _ => .error (.Fault "object has no attribute 'get'")

variable (py_str : Json → String) (py_int : Json → Except AppException ℤ) (py_float : Json → Except AppException ℚ)

/-- The fields of the parsed answer, with their defaults. -/
def of_answer (parsed : Dict) : Except AppException RawSuggestion := do
  let confidence ← py_float ((parsed.get "confidence").getD (.num (7 / 10)))
  let reasoning := py_strip (py_str ((parsed.get "reasoning").getD (.str "")))
  let risk_if_not_act := py_strip (py_str ((parsed.get "risk_if_not_act").getD (.str "")))
  return {
    action := py_lower (py_strip (py_str ((parsed.get "suggested_action").getD (.str "no_action"))))
    params := ((parsed.get "params").filter Json.truthy).getD (.obj [])
    reasoning :=
      if risk_if_not_act ≠ "" ∧ ¬ risk_if_not_act.toList <:+ reasoning.toList then
        reasoning ++ " Nguy cơ nếu không hành động: " ++ risk_if_not_act
      else reasoning
    confidence }

/-- Rule 3 of `_validate_suggestion`: the pid of a running process. -/
def validate_process (self : RawSuggestion) (all_procs : List ProcessRow) : Except AppException ValidatedSuggestion :=
  if all_procs.isEmpty then
    .ok ⟨"isolate", .obj [], "Không có dữ liệu tiến trình để thực hiện " ++ self.action ++
      ". Đề xuất cô lập host (isolate) để ngăn chặn rủi ro. Lý do: " ++ self.reasoning⟩
  else do
    let params ← dict self.params
    match (params.get "pid").getD .null with
    | .null =>
      return no_action ("Đề xuất " ++ self.action ++ " nhưng thiếu tham số 'pid'. Chuyển sang no_action. Lý do: " ++
        self.reasoning)
    | pid =>
      match py_int pid with
      | .error (.ValueError _) | .error (.TypeError _) =>
        return no_action ("Tham số PID '" ++ py_str pid ++ "' không hợp lệ. Chuyển sang no_action.")
      | .error e => .error e
      | .ok pid_int =>
        match all_procs.find? (·.pid = pid_int) with
        | none =>
          return no_action ("PID " ++ toString pid_int ++
            " được đề xuất không tồn tại trên máy trạm (hallucinated PID). Đã chặn và chuyển sang no_action. Lý do: " ++
            self.reasoning)
        | some existing_proc =>
          let params := params.set "pid" (.num pid_int)
          let params :=
            if existing_proc.name = "" then params else params.set "process_name" (.str existing_proc.name)
          return ⟨self.action, .obj params, self.reasoning⟩

/-- Rule 4 of `_validate_suggestion`: the address of a connection. -/
def validate_block_ip (self : RawSuggestion) (recent_flows : List FlowRow) :
    Except AppException ValidatedSuggestion := do
  let params ← dict self.params
  match (params.get "ip").getD .null with
  | .str ip =>
    if ip = "" then
      return no_action ("Đề xuất block_ip nhưng thiếu tham số IP. Chuyển sang no_action. Lý do: " ++ self.reasoning)
    else if recent_flows.any fun f => f.dst_ip = py_strip ip ∨ f.src_ip = py_strip ip then
      return ⟨self.action, .obj (params.set "ip" (.str (py_strip ip))), self.reasoning⟩
    else
      return no_action ("Địa chỉ IP '" ++ py_strip ip ++
        "' không xuất hiện trong các kết nối mạng của máy trạm. Đã chặn đề xuất.")
  | _ => return no_action ("Đề xuất block_ip nhưng thiếu tham số IP. Chuyển sang no_action. Lý do: " ++ self.reasoning)

/-- `_validate_suggestion`. -/
def validate_suggestion (self : RawSuggestion) (all_procs : List ProcessRow) (recent_flows : List FlowRow) :
    Except AppException ValidatedSuggestion :=
  if self.action ∉ ALLOWED_ACTIONS then
    .ok (no_action ("Hành động đề xuất '" ++ self.action ++
      "' không nằm trong danh mục cho phép. Chuyển sang theo dõi (no_action). Ban đầu: " ++ self.reasoning))
  else if self.confidence < 0.6 then
    .ok (no_action ("Độ tin cậy của mô hình (" ++ score_fixed self.confidence ++
      ") dưới ngưỡng an toàn 0.60. Đề xuất quan sát (no_action). Lý do: " ++ self.reasoning))
  else if self.action ∈ ["kill_process", "kill_process_tree", "suspend_process"] then
    self.validate_process py_str py_int all_procs
  else if self.action = "block_ip" then self.validate_block_ip recent_flows
  else .ok ⟨self.action, self.params, self.reasoning⟩

end RawSuggestion

/-- What of a JSON value the column `suggestion_params` holds as a dictionary. The action of a value that is none
has no parameters that anybody reads. -/
def Json.entries : Json → Dict
  | .obj entries => entries
  | _ => []

def ValidatedSuggestion.suggestion (self : ValidatedSuggestion) : Suggestion where
  suggested_action := self.action
  suggestion_params := self.params.entries
  suggestion_reasoning := self.reasoning

namespace SuggestionContext

/-- `_get_processes`: the newest hundred rows. -/
def get_processes (self : SuggestionContext) (agent_id : Option String) : List ProcessRow :=
  if present agent_id then
    ((self.process_rows.filter fun p => some p.agent_id = agent_id).insertionSort
      fun p q => q.created_at ≤ p.created_at).take 100
  else []

/-- `_get_flows`: ten of the newest twenty rows. -/
def get_flows (self : SuggestionContext) (agent_id : Option String) : List FlowRow :=
  if present agent_id then
    (((self.flow_rows.filter fun f => f.agent_id = agent_id).insertionSort
      fun f g => g.start_time ≤ f.start_time).take 20).take 10
  else []

variable (py_str : Json → String) (py_int : Json → Except AppException ℤ) (py_float : Json → Except AppException ℚ)

/-- The checks of an answer against the agent of the incident. -/
def validated_answer (self : SuggestionContext) (incident : Incident) (parsed : Dict) :
    Except AppException ValidatedSuggestion := do
  let raw ← RawSuggestion.of_answer py_str py_float parsed
  raw.validate_suggestion py_str py_int (self.get_processes incident.agent_id) (self.get_flows incident.agent_id)

/-- `suggest_response` with the answer that the model gives: the stored analysis, or `none` if nothing is stored. -/
def suggest_response (self : SuggestionContext) (incident_id : String) (parsed : Dict) :
    Option (AIAnalysis × SuggestionStore) := do
  let analysis ← self.store.latest_triage incident_id
  let incident ← self.store.db.incidents.get incident_id
  let validated ← (self.validated_answer py_str py_int py_float incident parsed).toOption
  let write := analysis.suggest validated.suggestion
  return (write analysis, { self.store with analyses := self.store.analyses.modify analysis.id write })

end SuggestionContext

/-! ## What passes the validation -/

namespace RawSuggestion

variable {py_str : Json → String} {py_int : Json → Except AppException ℤ} {raw : RawSuggestion}
  {all_procs : List ProcessRow} {recent_flows : List FlowRow} {validated : ValidatedSuggestion}

/-- What `_validate_suggestion` returns: a process action names the pid of one of the processes, and `block_ip` the
address of an end of one of the flows. -/
inductive Passed (all_procs : List ProcessRow) (recent_flows : List FlowRow) : ValidatedSuggestion → Prop where
  | no_action (params : Json) (reasoning : String) : Passed all_procs recent_flows ⟨"no_action", params, reasoning⟩
  | isolate (params : Json) (reasoning : String) : Passed all_procs recent_flows ⟨"isolate", params, reasoning⟩
  | process (action : String) (params : Dict) (reasoning : String) (proc : ProcessRow)
      (haction : action ∈ ["kill_process", "kill_process_tree", "suspend_process"]) (hproc : proc ∈ all_procs)
      (hpid : params.get "pid" = some (.num proc.pid)) :
      Passed all_procs recent_flows ⟨action, .obj params, reasoning⟩
  | block_ip (params : Dict) (reasoning ip : String) (flow : FlowRow) (hflow : flow ∈ recent_flows)
      (hend : flow.dst_ip = ip ∨ flow.src_ip = ip) (hip : params.get "ip" = some (.str ip)) :
      Passed all_procs recent_flows ⟨"block_ip", .obj params, reasoning⟩

private theorem validate_process_passed
    (haction : raw.action ∈ ["kill_process", "kill_process_tree", "suspend_process"])
    (h : raw.validate_process py_str py_int all_procs = .ok validated) : Passed all_procs recent_flows validated := by
  unfold validate_process at h
  split at h
  · cases h
    exact .isolate _ _
  · obtain ⟨params, _, h⟩ := bind_eq_ok_iff.mp h
    split at h
    · cases h
      exact .no_action _ _
    · split at h
      · cases h
        exact .no_action _ _
      · cases h
        exact .no_action _ _
      · cases h
      · split at h
        · cases h
          exact .no_action _ _
        · rename_i pid_int _ _ proc hfind
          cases h
          have hpid : proc.pid = pid_int := by simpa using List.find?_some hfind
          refine .process _ _ _ proc haction (List.mem_of_find?_eq_some hfind) ?_
          split <;> simp [hpid]

private theorem validate_block_ip_passed (haction : raw.action = "block_ip")
    (h : raw.validate_block_ip recent_flows = .ok validated) : Passed all_procs recent_flows validated := by
  obtain ⟨params, _, h⟩ := bind_eq_ok_iff.mp h
  split at h
  · split at h
    · cases h
      exact .no_action _ _
    · split at h
      · rename_i hany
        obtain ⟨flow, hflow, hend⟩ := List.any_eq_true.mp hany
        cases h
        rw [haction]
        exact .block_ip _ _ _ flow hflow (of_decide_eq_true hend) (by simp)
      · cases h
        exact .no_action _ _
  · cases h
    exact .no_action _ _

theorem validate_suggestion_passed (h : raw.validate_suggestion py_str py_int all_procs recent_flows = .ok validated) :
    Passed all_procs recent_flows validated := by
  unfold validate_suggestion at h
  split at h
  · cases h
    exact .no_action _ _
  · rename_i hallowed
    split at h
    · cases h
      exact .no_action _ _
    · split at h
      · rename_i haction
        exact validate_process_passed haction h
      · rename_i hprocess
        split at h
        · rename_i haction
          exact validate_block_ip_passed haction h
        · rename_i hblock
          cases h
          have hrest : raw.action = "isolate" ∨ raw.action = "no_action" := by
            simp only [ALLOWED_ACTIONS, List.mem_cons, List.not_mem_nil, or_false, not_or] at hallowed hprocess
            tauto
          rcases hrest with hisolate | hno_action
          · rw [hisolate]
            exact .isolate _ _
          · rw [hno_action]
            exact .no_action _ _

theorem Passed.action_mem (h : Passed all_procs recent_flows validated) : validated.action ∈ ALLOWED_ACTIONS := by
  cases h with
  | no_action | isolate | block_ip => simp [ALLOWED_ACTIONS]
  | process _ _ _ _ haction =>
    simp only [List.mem_cons, List.not_mem_nil, or_false] at haction
    rcases haction with rfl | rfl | rfl <;> simp [ALLOWED_ACTIONS]

end RawSuggestion

/-! ## The stored parameters -/

/-- `params.get(key)` of a stored suggestion. -/
def AIAnalysis.param (self : AIAnalysis) (key : String) : Json :=
  ((self.suggestion_params.getD []).get key).getD .null

section Dictionaries

theorem Dict.exists_get {self : Dict} {key : String} (h : key ∈ self.map Prod.fst) :
    ∃ value, self.get key = some value := by
  obtain ⟨entry, hentry, rfl⟩ := List.mem_map.mp h
  rw [← Option.isSome_iff_exists, Dict.get, List.lookup_isSome_iff]
  exact ⟨entry, hentry, beq_self_eq_true _⟩

/-- Dictionaries that Python calls equal have the same keys, and equal values under each. -/
theorem Json.get_of_py_eq {xs ys : Dict} (hkeys : (xs.map Prod.fst).Nodup) (h : (Json.obj xs).py_eq (.obj ys))
    {key : String} {y : Json} (hget : ys.get key = some y) : ∃ x, xs.get key = some x ∧ x.py_eq y := by
  simp only [Json.py_eq, decide_eq_true_eq] at h
  obtain ⟨hlength, hentries⟩ := h
  have hsubset : xs.map Prod.fst ⊆ ys.map Prod.fst := by
    intro k hk
    obtain ⟨entry, hentry, rfl⟩ := List.mem_map.mp hk
    obtain ⟨value, hvalue, _⟩ := Json.py_eq_entries_mem hentries hentry
    exact List.mem_map.mpr ⟨_, Dict.mem_of_get hvalue, rfl⟩
  have hperm : (xs.map Prod.fst).Perm (ys.map Prod.fst) :=
    (List.subperm_of_subset hkeys hsubset).perm_of_length_le (by simp [hlength])
  have hmem : key ∈ xs.map Prod.fst := hperm.mem_iff.mpr (List.mem_map.mpr ⟨_, Dict.mem_of_get hget, rfl⟩)
  obtain ⟨x, hx⟩ := Dict.exists_get hmem
  obtain ⟨other, hother, heq⟩ := Json.py_eq_entries_mem hentries (Dict.mem_of_get hx)
  rw [hget] at hother
  cases hother
  exact ⟨x, hx, heq⟩

/-- A value that Python calls equal to an integer is read as that integer. -/
theorem Json.to_int_of_py_eq {value : Json} {n : ℤ} (h : value.py_eq (.num n)) : value.to_int = .ok n := by
  cases value with
  | num q =>
    have hq : q = n := by simpa [Json.py_eq] using h
    rw [hq, Json.to_int, truncate]
    split <;> simp
  | bool b =>
    have hn : (n : ℚ) = if b then 1 else 0 := by simpa [Json.py_eq] using h
    cases b <;> simp_all [Json.to_int]
  | null | str | arr | obj => simp [Json.py_eq] at h

theorem Json.truthy_of_py_eq {value : Json} {n : ℤ} (h : value.py_eq (.num n)) (hzero : ¬ value.py_eq (.num 0)) :
    value.truthy := by
  cases value with
  | num q => simpa [Json.py_eq, Json.truthy] using hzero
  | bool b => cases b <;> simp_all [Json.py_eq, Json.truthy]
  | null | str | arr | obj => simp [Json.py_eq] at h

theorem Json.eq_str_of_py_eq {value : Json} {text : String} (h : value.py_eq (.str text)) : value = .str text := by
  cases value with
  | str s =>
    have hs : s = text := by simpa [Json.py_eq] using h
    rw [hs]
  | null | bool | num | arr | obj => simp [Json.py_eq] at h

end Dictionaries

theorem SuggestionStore.validate_eq (self : SuggestionStore) (py_str : Json → String) (now : Time) (agent_id : String)
    (row : AIAnalysis) : self.validate py_str now agent_id row =
      let suggested := row.suggested_action.getD ""
      if suggested ∈ ["kill_process", "kill_process_tree", "suspend_process"] then
        self.validate_pid py_str agent_id suggested (row.param "pid")
      else if suggested = "block_ip" then self.validate_ip now agent_id (row.param "ip")
      else if suggested ∈ ["isolate", "unisolate"] then .ok ()
      else if suggested = "no_action" then
        .error (.ValueError "Cannot apply 'no_action' — analyst should dismiss instead")
      else .error (.ValueError ("Unsupported suggested action '" ++ suggested ++ "'")) := rfl

namespace SuggestionContext

variable {self : SuggestionContext} {py_str : Json → String} {py_int : Json → Except AppException ℤ}
  {py_float : Json → Except AppException ℚ} {incident_id agent_id : String} {parsed : Dict} {row : AIAnalysis}
  {store : SuggestionStore} {now : Time}

theorem mem_get_processes {agent : Option String} {proc : ProcessRow} (h : proc ∈ self.get_processes agent) :
    proc ∈ self.process_rows ∧ some proc.agent_id = agent := by
  unfold get_processes at h
  split at h
  · have hmem := List.mem_filter.mp ((List.mem_insertionSort _).mp (List.mem_of_mem_take h))
    exact ⟨hmem.1, of_decide_eq_true hmem.2⟩
  · cases h

/-- What `suggest_response` has stored when it returns an analysis. -/
theorem suggest_response_ok
    (h : self.suggest_response py_str py_int py_float incident_id parsed = some (row, store)) :
    ∃ analysis incident validated, self.store.latest_triage incident_id = some analysis ∧
      self.store.db.incidents.get incident_id = some incident ∧
      RawSuggestion.Passed (self.get_processes incident.agent_id) (self.get_flows incident.agent_id) validated ∧
      row = analysis.suggest validated.suggestion analysis ∧
      store.analyses = self.store.analyses.modify analysis.id (analysis.suggest validated.suggestion) ∧
      store.process_info = self.store.process_info ∧ store.flows = self.store.flows := by
  simp only [suggest_response, Option.bind_eq_bind, Option.bind_eq_some_iff, Option.pure_def, Option.some.injEq,
    Prod.mk.injEq] at h
  obtain ⟨analysis, hlatest, incident, hincident, validated, hvalidated, rfl, rfl⟩ := h
  refine ⟨analysis, incident, validated, hlatest, hincident, ?_, rfl, rfl, rfl, rfl⟩
  cases hanswer : self.validated_answer py_str py_int py_float incident parsed with
  | error e => simp [hanswer, Except.toOption] at hvalidated
  | ok result =>
    obtain ⟨raw, _, hraw⟩ := bind_eq_ok_iff.mp hanswer
    obtain rfl : result = validated := by simpa [hanswer, Except.toOption] using hvalidated
    exact RawSuggestion.validate_suggestion_passed hraw

/-- A parameter of the suggestion is in the stored row, up to Python's equality of numbers. -/
theorem param_suggest {analysis : AIAnalysis} {suggestion : Suggestion}
    (hkeys : ∀ params ∈ analysis.suggestion_params, (params.map Prod.fst).Nodup) {key : String} {value : Json}
    (hrefl : value.py_eq value) (hget : suggestion.suggestion_params.get key = some value) :
    ((analysis.suggest suggestion analysis).param key).py_eq value := by
  simp only [AIAnalysis.param, AIAnalysis.suggest, assign]
  split
  · rename_i hsame
    cases hparams : analysis.suggestion_params with
    | none => simp [hparams, option_eq] at hsame
    | some params =>
      rw [hparams] at hsame
      obtain ⟨x, hx, heq⟩ := Json.get_of_py_eq (hkeys params hparams) hsame hget
      simpa [hx] using heq
  · simpa [hget] using hrefl

/-- The next call of `apply_suggestion` finds the suggestion that has been stored. -/
theorem select_suggestion_of_suggest_response
    (h : self.suggest_response py_str py_int py_float incident_id parsed = some (row, store)) :
    store.select_suggestion incident_id = .ok row := by
  obtain ⟨analysis, incident, validated, hlatest, _, hpassed, rfl, hanalyses, _⟩ := suggest_response_ok h
  have hstored : store.latest_triage incident_id = some (analysis.suggest validated.suggestion analysis) := by
    unfold SuggestionStore.latest_triage at hlatest ⊢
    rw [hanalyses, Table.latest_modify (AIAnalysis.key_suggest _ _) (fun _ => rfl) (fun _ => rfl), hlatest, Option.map_some]
    exact congrArg some (if_pos rfl)
  have haction : present (analysis.suggest validated.suggestion analysis).suggested_action := by
    have hnonempty : validated.action ≠ "" := by
      rintro hempty
      exact absurd (hempty ▸ hpassed.action_mem) (by decide)
    simpa [AIAnalysis.suggest, present, ValidatedSuggestion.suggestion] using hnonempty
  have hreview : (analysis.suggest validated.suggestion analysis).check_idempotency = .ok () := by
    simp [AIAnalysis.check_idempotency, AIAnalysis.applied, AIAnalysis.suggest, present]
  simp only [SuggestionStore.select_suggestion, hstored, haction, if_true, hreview]
  rfl

private theorem suggestion_agent_ok {store : SuggestionStore}
    (h : store.suggestion_agent incident_id = .ok agent_id) {incident : Incident}
    (hincident : store.db.incidents.get incident_id = some incident) : incident.agent_id = some agent_id := by
  simp only [SuggestionStore.suggestion_agent, hincident, Option.bind_some] at h
  split at h
  · rename_i hagent
    split at h
    · cases h
    · cases h
      exact hagent
  · cases h

/-- The pid of a process of the agent is accepted, unless it is 0. -/
private theorem validate_pid_ok {store : SuggestionStore} (hstore : store.process_info = self.store.process_info)
    {action : String} {pid : Json} {proc : ProcessRow} (hproc : proc ∈ self.process_rows)
    (hagent : proc.agent_id = agent_id) (hpid : pid.py_eq (.num proc.pid)) (hzero : ¬ pid.py_eq (.num 0)) :
    store.validate_pid py_str agent_id action pid = .ok () := by
  have hrange : ¬ (proc.pid < -2 ^ 31 ∨ 2 ^ 31 ≤ proc.pid) := by
    have hpid_range := proc.pid_range
    omega
  have hfound : (store.process_info.any fun row => row.agent_id = agent_id ∧ row.pid = proc.pid) = true := by
    rw [hstore, self.process_info, List.any_map, List.any_eq_true]
    exact ⟨proc, hproc, by simp [hagent]⟩
  simp only [SuggestionStore.validate_pid, Json.truthy_of_py_eq hpid hzero, not_true_eq_false, if_false,
    Json.to_int_of_py_eq hpid, hrange, hfound, if_true]

/-- A flow of the last hour to the address. -/
def contacted (self : SuggestionContext) (agent_id ip : String) (now : Time) : Prop :=
  ∃ flow ∈ self.flow_rows, flow.agent_id = some agent_id ∧ flow.dst_ip = ip ∧ now - seconds 3600 ≤ flow.start_time

/-- A flow of the last hour from or to the address. -/
def connected (self : SuggestionContext) (agent_id ip : String) (now : Time) : Prop :=
  ∃ flow ∈ self.flow_rows, flow.agent_id = some agent_id ∧ (flow.dst_ip = ip ∨ flow.src_ip = ip) ∧
    now - seconds 3600 ≤ flow.start_time

private theorem validate_ip_eq {store : SuggestionStore} (hstore : store.flows = self.store.flows) {ip : String}
    (hip : ip ≠ "") :
    (self.contacted agent_id ip now → store.validate_ip now agent_id (.str ip) = .ok ()) ∧
      (¬ self.contacted agent_id ip now →
        ∃ message, store.validate_ip now agent_id (.str ip) = .error (.ValueError message)) := by
  have hfound : (store.flows.any fun flow =>
      flow.agent_id = some agent_id ∧ flow.dst_ip = ip ∧ now - seconds 3600 ≤ flow.start_time) = true ↔
        self.contacted agent_id ip now := by
    rw [hstore, self.flows, List.any_map, List.any_eq_true]
    simp [contacted]
  have htruthy : (Json.str ip).truthy = true := by simpa [Json.truthy] using hip
  simp only [SuggestionStore.validate_ip, htruthy, not_true_eq_false, if_false]
  exact ⟨fun h => if_pos (hfound.mpr h), fun h => ⟨_, if_neg (fun hany => h (hfound.mp hany))⟩⟩

/-- A suggestion that passes `_validate_suggestion` also passes the checks of `apply_suggestion` on the same telemetry:
an isolation always, a process action unless its pid is 0, and the blocking of an address if a flow of the last hour
goes to it. An address without any flow of the last hour is refused as stale. -/
theorem validate_suggest_response
    (h : self.suggest_response py_str py_int py_float incident_id parsed = some (row, store))
    (hagent : self.store.suggestion_agent incident_id = .ok agent_id) (haction : row.suggested_action ≠ some "no_action") :
    store.select_suggestion incident_id = .ok row ∧
    ((row.suggested_action = some "isolate" ∧ store.validate py_str now agent_id row = .ok ()) ∨
    ((∃ action ∈ ["kill_process", "kill_process_tree", "suspend_process"], row.suggested_action = some action) ∧
      (¬ (row.param "pid").py_eq (.num 0) → store.validate py_str now agent_id row = .ok ())) ∨
    (row.suggested_action = some "block_ip" ∧ ∃ ip, row.param "ip" = .str ip ∧ (ip ≠ "" →
      (self.contacted agent_id ip now → store.validate py_str now agent_id row = .ok ()) ∧
      (¬ self.connected agent_id ip now →
        ∃ message, store.validate py_str now agent_id row = .error (.ValueError message))))) := by
  refine ⟨select_suggestion_of_suggest_response h, ?_⟩
  obtain ⟨analysis, incident, validated, hlatest, hincident, hpassed, rfl, _, hprocess_info, hflows⟩ :=
    suggest_response_ok h
  have hstored : (analysis.suggest validated.suggestion analysis).suggested_action = some validated.action :=
    assign_loaded _ _
  have hincident_agent := suggestion_agent_ok hagent hincident
  have hkeys := self.keys analysis (Table.mem_of_latest hlatest).1
  rw [hstored] at haction ⊢
  rw [SuggestionStore.validate_eq, hstored, Option.getD_some]
  cases hpassed with
  | no_action => exact absurd rfl haction
  | isolate => exact Or.inl ⟨rfl, by simp⟩
  | process action params reasoning proc hprocess hproc hpid =>
    obtain ⟨hrow, hproc_agent⟩ := mem_get_processes hproc
    rw [hincident_agent, Option.some.injEq] at hproc_agent
    have hparam : ((analysis.suggest ⟨action, params, reasoning⟩ analysis).param "pid").py_eq _ :=
      param_suggest hkeys (by simp [Json.py_eq]) hpid
    refine Or.inr (Or.inl ⟨⟨action, hprocess, rfl⟩, fun hzero => ?_⟩)
    rw [if_pos hprocess]
    exact validate_pid_ok hprocess_info hrow hproc_agent hparam hzero
  | block_ip params reasoning ip flow hflow hend hip =>
    have hparam : (analysis.suggest ⟨"block_ip", params, reasoning⟩ analysis).param "ip" = .str ip :=
      Json.eq_str_of_py_eq (param_suggest hkeys (by simp [Json.py_eq]) hip)
    refine Or.inr (Or.inr ⟨rfl, ip, hparam, fun hnonempty => ?_⟩)
    rw [if_neg (show "block_ip" ∉ _ by decide), if_pos rfl]
    obtain ⟨haccepted, hrefused⟩ : (self.contacted agent_id ip now → _) ∧ _ := validate_ip_eq hflows hnonempty
    refine ⟨fun hcontacted => hparam ▸ haccepted hcontacted, fun hnot => hparam ▸ hrefused fun hcontacted => hnot ?_⟩
    obtain ⟨flow, hmem, hflow_agent, hdst, hrecent⟩ := hcontacted
    exact ⟨flow, hmem, hflow_agent, Or.inl hdst, hrecent⟩

/-- An agent that has contacted an address, and an incident of it with a triage. -/
def one_contact : SuggestionContext where
  store := { SuggestionSessions.suggested_isolation with
    flows := [{ agent_id := some "web-1", dst_ip := "203.0.113.9", start_time := 0 }] }
  process_rows := []
  flow_rows := [{ agent_id := some "web-1", dst_ip := "203.0.113.9", start_time := 0, src_ip := "10.0.0.5" }]
  process_info := rfl
  flows := rfl
  keys := by
    rintro row hrow params hparams
    obtain rfl := List.mem_singleton.mp hrow
    cases hparams

/-- The answer that suggests to block the address. -/
def blocking_answer : Dict :=
  [("suggested_action", .str "block_ip"), ("params", .obj [("ip", .str "203.0.113.9")]), ("confidence", .num 0.9)]

def json_text : Json → String
  | .str text => text
  | _ => ""

def blocked_contact : Option (AIAnalysis × SuggestionStore) :=
  one_contact.suggest_response json_text Json.to_int Json.to_float "inc_1" blocking_answer

theorem validate_blocked_contact : ∃ row store, blocked_contact = some (row, store) ∧
    store.validate json_text (seconds 60) "web-1" row = .ok () := by
  have hstored : blocked_contact.isSome := by decide +kernel
  obtain ⟨⟨row, store⟩, hresult⟩ := Option.isSome_iff_exists.mp hstored
  have hblock : (blocked_contact.all fun result => result.1.suggested_action = some "block_ip" ∧
      ((result.1.param "ip").py_eq (.str "203.0.113.9"))) = true := by decide +kernel
  rw [hresult] at hblock
  obtain ⟨haction, hip⟩ := of_decide_eq_true hblock
  have hagent : one_contact.store.suggestion_agent "inc_1" = .ok "web-1" := by decide +kernel
  have hspec := @validate_suggest_response one_contact json_text Json.to_int Json.to_float "inc_1" "web-1"
    blocking_answer row store (seconds 60) hresult hagent (by rw [haction]; decide)
  rw [haction] at hspec
  rcases hspec.2 with ⟨hisolate, _⟩ | ⟨⟨action, hprocess, heq⟩, _⟩ | ⟨_, ip, hparam, hblocked⟩
  · exact absurd hisolate (by decide)
  · rw [← Option.some.inj heq] at hprocess
    exact absurd hprocess (by decide)
  · rw [Json.eq_str_of_py_eq hip] at hparam
    cases hparam
    refine ⟨row, store, hresult, (hblocked (by decide)).1 ⟨_, List.mem_singleton_self _, rfl, rfl, by decide⟩⟩

/-- Two hours later the same suggestion is refused. -/
theorem not_validate_blocked_contact : ¬ ∀ now row store, blocked_contact = some (row, store) →
    row.suggested_action ≠ some "no_action" → store.validate json_text now "web-1" row = .ok () := by
  intro h
  have hstored : blocked_contact.isSome := by decide +kernel
  obtain ⟨⟨row, store⟩, hresult⟩ := Option.isSome_iff_exists.mp hstored
  have hrefused : (blocked_contact.all fun result => result.1.suggested_action = some "block_ip" ∧
      (result.2.validate json_text (seconds 7200) "web-1" result.1).isOk = false) = true := by decide +kernel
  rw [hresult] at hrefused
  obtain ⟨haction, hvalidate⟩ := of_decide_eq_true hrefused
  have haccepted := h (seconds 7200) row store hresult (by rw [haction]; decide)
  rw [haccepted] at hvalidate
  cases hvalidate

end SuggestionContext

end larp
