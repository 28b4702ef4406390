import ActiveResponse.Ai.SuggestResponse

namespace larp

namespace RawSuggestion

open SuggestionContext (json_text)

/-- The actions on a process, rule 3. -/
def process_actions : List String := ["kill_process", "kill_process_tree", "suspend_process"]

/-- What reaches the analyst of a suggestion of the model, with the telemetry that it is checked against. -/
structure Gated (raw : RawSuggestion) (all_procs : List ProcessRow) (recent_flows : List FlowRow)
    (validated : ValidatedSuggestion) : Prop where
  allowed : validated.action ∈ ALLOWED_ACTIONS
  refused : raw.confidence < 0.6 ∨ raw.action ∉ ALLOWED_ACTIONS → validated.action = "no_action"
  pid : validated.action ∈ process_actions → ∃ params : Dict, validated.params = .obj params ∧
    ∃ proc ∈ all_procs, params.get "pid" = some (.num proc.pid)
  ip : validated.action = "block_ip" → ∃ params : Dict, validated.params = .obj params ∧
    ∃ flow ∈ recent_flows, ∃ ip, params.get "ip" = some (.str ip) ∧ (flow.dst_ip = ip ∨ flow.src_ip = ip)
  unchanged : validated.action = raw.action ∨ validated.action = "no_action" ∨
    validated.action = "isolate" ∧ raw.action ∈ process_actions ∧ all_procs = []

variable {py_str : Json → String} {py_int : Json → Except AppException ℤ} {raw : RawSuggestion}
  {all_procs : List ProcessRow} {recent_flows : List FlowRow} {validated : ValidatedSuggestion}

private theorem Passed.pid (h : Passed all_procs recent_flows validated)
    (haction : validated.action ∈ process_actions) :
    ∃ params : Dict, validated.params = .obj params ∧
      ∃ proc ∈ all_procs, params.get "pid" = some (.num proc.pid) := by
  cases h with
  | process action params reasoning proc _ hproc hpid => exact ⟨params, rfl, proc, hproc, hpid⟩
  | no_action | isolate | block_ip => simp [process_actions] at haction

private theorem Passed.ip (h : Passed all_procs recent_flows validated) (haction : validated.action = "block_ip") :
    ∃ params : Dict, validated.params = .obj params ∧
      ∃ flow ∈ recent_flows, ∃ ip, params.get "ip" = some (.str ip) ∧ (flow.dst_ip = ip ∨ flow.src_ip = ip) := by
  cases h with
  | block_ip params reasoning ip flow hflow hend hip => exact ⟨params, rfl, flow, hflow, ip, hip, hend⟩
  | process action params reasoning proc hprocess =>
    rw [show action = "block_ip" from haction] at hprocess
    simp at hprocess
  | no_action | isolate => simp at haction

private theorem validate_process_action (h : raw.validate_process py_str py_int all_procs = .ok validated) :
    validated.action = raw.action ∨ validated.action = "no_action" ∨
      validated.action = "isolate" ∧ all_procs = [] := by
  unfold validate_process at h
  split at h
  · rename_i hempty
    cases h
    exact .inr (.inr ⟨rfl, List.isEmpty_iff.mp hempty⟩)
  · obtain ⟨params, -, h⟩ := bind_eq_ok_iff.mp h
    split at h
    · cases h
      exact .inr (.inl rfl)
    · split at h
      · cases h
        exact .inr (.inl rfl)
      · cases h
        exact .inr (.inl rfl)
      · cases h
      · split at h <;> cases h
        · exact .inr (.inl rfl)
        · exact .inl rfl

private theorem validate_block_ip_action (h : raw.validate_block_ip recent_flows = .ok validated) :
    validated.action = raw.action ∨ validated.action = "no_action" := by
  obtain ⟨params, -, h⟩ := bind_eq_ok_iff.mp h
  split at h
  · split at h
    · cases h
      exact .inr rfl
    · split at h <;> cases h
      · exact .inl rfl
      · exact .inr rfl
  · cases h
    exact .inr rfl

private theorem validate_suggestion_action
    (h : raw.validate_suggestion py_str py_int all_procs recent_flows = .ok validated) :
    (raw.confidence < 0.6 ∨ raw.action ∉ ALLOWED_ACTIONS) ∧ validated.action = "no_action" ∨
      ¬ (raw.confidence < 0.6 ∨ raw.action ∉ ALLOWED_ACTIONS) ∧
        (validated.action = raw.action ∨ validated.action = "no_action" ∨
          validated.action = "isolate" ∧ raw.action ∈ process_actions ∧ all_procs = []) := by
  unfold validate_suggestion at h
  split at h
  · rename_i hnot
    cases h
    exact .inl ⟨.inr hnot, rfl⟩
  · rename_i hallowed
    split at h
    · rename_i hlow
      cases h
      exact .inl ⟨.inl hlow, rfl⟩
    · rename_i hhigh
      refine .inr ⟨not_or.mpr ⟨hhigh, hallowed⟩, ?_⟩
      split at h
      · rename_i hprocess
        obtain hsame | hnone | ⟨hisolate, hempty⟩ := validate_process_action h
        · exact .inl hsame
        · exact .inr (.inl hnone)
        · exact .inr (.inr ⟨hisolate, hprocess, hempty⟩)
      · split at h
        · obtain hsame | hnone := validate_block_ip_action h
          · exact .inl hsame
          · exact .inr (.inl hnone)
        · cases h
          exact .inl rfl

private theorem eq_some_getD {value : Option Json} (h : value.getD .null = .null → False) :
    value = some (value.getD .null) := by
  cases value with
  | none => exact (h rfl).elim
  | some value => rfl

/-- With a dictionary of parameters the only exceptions are those of `int(pid)` that nothing catches. -/
private theorem validate_suggestion_error {params : Dict} (hparams : raw.params = .obj params) {e : AppException}
    (h : raw.validate_suggestion py_str py_int all_procs recent_flows = .error e) :
    ∃ pid, params.get "pid" = some pid ∧ py_int pid = .error e ∧
      (∀ message, e ≠ .ValueError message) ∧ ∀ message, e ≠ .TypeError message := by
  unfold validate_suggestion at h
  split at h
  · cases h
  · split at h
    · cases h
    · split at h
      · unfold validate_process at h
        rw [hparams] at h
        split at h
        · cases h
        · simp only [dict, bind, Except.bind] at h
          split at h
          · cases h
          · rename_i hnull
            split at h
            · cases h
            · cases h
            · rename_i hvalue htype herror
              cases h
              exact ⟨_, eq_some_getD hnull, herror, hvalue, htype⟩
            · split at h <;> cases h
      · split at h
        · unfold validate_block_ip at h
          rw [hparams] at h
          simp only [dict, bind, Except.bind] at h
          split at h
          · split at h
            · cases h
            · split at h <;> cases h
          · cases h
        · cases h

/-- Whatever the model answers, nothing but a gated suggestion is returned. With a dictionary of parameters the check
returns, unless `int(pid)` raises an exception of its own. -/
theorem validate_suggestion_gated (py_str : Json → String) (py_int : Json → Except AppException ℤ)
    (raw : RawSuggestion) (params : Dict) (hparams : raw.params = .obj params) (all_procs : List ProcessRow)
    (recent_flows : List FlowRow) :
    (∀ validated, raw.validate_suggestion py_str py_int all_procs recent_flows = .ok validated →
      raw.Gated all_procs recent_flows validated) ∧
    ∀ e, raw.validate_suggestion py_str py_int all_procs recent_flows = .error e →
      ∃ pid, params.get "pid" = some pid ∧ py_int pid = .error e ∧
        (∀ message, e ≠ .ValueError message) ∧ ∀ message, e ≠ .TypeError message := by
  refine ⟨fun validated h => ?_, fun e => validate_suggestion_error hparams⟩
  have hpassed := validate_suggestion_passed h
  refine ⟨hpassed.action_mem, fun hrefused => ?_, hpassed.pid, hpassed.ip, ?_⟩
  · obtain ⟨-, hnone⟩ | ⟨haccepted, -⟩ := validate_suggestion_action h
    · exact hnone
    · exact absurd hrefused haccepted
  · obtain ⟨-, hnone⟩ | ⟨-, haction⟩ := validate_suggestion_action h
    · exact .inr (.inl hnone)
    · exact haction

/-- The model suggests to kill a process, whose pid it gives as a text. -/
def kill_suggestion : RawSuggestion where
  action := "kill_process"
  params := .obj [("pid", .str "4242")]
  reasoning := "Beaconing process."
  confidence := 0.9

def listed_process : ProcessRow where
  agent_id := "web-1"
  pid := 4242
  name := "beacon.exe"
  created_at := 0
  pid_range := by decide

theorem validate_kill_suggestion : ∃ validated,
    kill_suggestion.validate_suggestion json_text Json.to_int [listed_process] [] = .ok validated ∧
      validated.action = "kill_process" ∧ kill_suggestion.Gated [listed_process] [] validated := by
  have hreturned : (kill_suggestion.validate_suggestion json_text Json.to_int [listed_process] []).toOption.any
      fun validated => validated.action = "kill_process" := by decide +kernel
  cases hresult : kill_suggestion.validate_suggestion json_text Json.to_int [listed_process] [] with
  | error e => simp [hresult, Except.toOption] at hreturned
  | ok validated =>
    have hgated := validate_suggestion_gated json_text Json.to_int kill_suggestion _ rfl [listed_process] []
    exact ⟨validated, rfl, by simpa [hresult, Except.toOption] using hreturned, hgated.1 validated hresult⟩

end RawSuggestion

end larp
