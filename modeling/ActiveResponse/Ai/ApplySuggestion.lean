import ActiveResponse.Lib.OneShot
import ActiveResponse.Response.History

namespace larp

/-- A row of `ai_analysis`: what a triage stores and what the response assistant adds to it. -/
structure AIAnalysis where
  id : String
  incident_id : String
  analysis_type : String := "triage"
  confidence : ℚ := 0
  suggested_action : Option String := none
  suggestion_params : Option Dict := none
  suggestion_reasoning : Option String := none
  applied_by_analyst : Option String := none
  applied_at : Option Time := none
  dismissed_by_analyst : Option String := none
  dismissed_at : Option Time := none
  dismiss_reason : Option String := none
  created_at : Time

instance : Keyed AIAnalysis String := ⟨AIAnalysis.id⟩

structure ProcessInfo where
  agent_id : String
  pid : ℤ

structure Flow where
  agent_id : Option String := none
  dst_ip : String
  start_time : Time
  end_time : Option Time := none

/-- The suggestion that `suggest_response` has validated. -/
structure Suggestion where
  suggested_action : String
  suggestion_params : Dict := []
  suggestion_reasoning : String := ""

/-- `==` of two columns that may be empty. -/
def option_eq {A : Type} (eq : A → A → Bool) : Option A → Option A → Bool
  | none, none => true
  | some a, some b => eq a b
  | _, _ => false

namespace AIAnalysis

def applied (self : AIAnalysis) : Bool := present self.applied_by_analyst

/-- The idempotency check of `apply_suggestion`. -/
def check_idempotency (self : AIAnalysis) : Except AppException Unit :=
  if self.applied then
    .error (.ValueError ("Suggestion already applied by '" ++ self.applied_by_analyst.getD "" ++ "' at " ++
      (self.applied_at.map isoformat).getD "N/A" ++ ". Regenerate AI suggestion to apply again."))
  else if present self.dismissed_by_analyst then
    .error (.ValueError ("Suggestion was dismissed by '" ++ self.dismissed_by_analyst.getD "" ++ "' (reason: " ++
      text_or self.dismiss_reason "none" ++ "). Regenerate to apply."))
  else .ok ()

/-- The arguments that `apply_suggestion` passes to `create_and_apply_action`. -/
def request (self : AIAnalysis) (agent_id incident_id analyst : String) : ActionRequest where
  agent_id
  action_type := self.suggested_action.getD ""
  action_params := Dict.set (self.suggestion_params.getD []) "reason"
    (.str ("Applied AI suggestion: " ++
      String.ofList ((self.suggestion_reasoning.getD "").toList.take 200)))
  incident_id := some incident_id
  actor := analyst

def feedback_signal (self : AIAnalysis) (analyst : String) : Dict :=
  [("source", .str "ai_suggestion"), ("confidence", .num self.confidence), ("analyst", .str analyst),
    ("suggested_action", .str (self.suggested_action.getD ""))]

/-- The second commit of `apply_suggestion`: the session's copy writes to the row. -/
def mark_applied (self : AIAnalysis) (analyst : String) (now : Time) (row : AIAnalysis) : AIAnalysis :=
  { row with
    applied_by_analyst := assign (· = ·) self.applied_by_analyst (some analyst) row.applied_by_analyst
    applied_at := assign (· = ·) self.applied_at (some now) row.applied_at }

/-- The commit of `suggest_response`: the suggestion is replaced and the review fields are reset. -/
def suggest (self : AIAnalysis) (suggestion : Suggestion) (row : AIAnalysis) : AIAnalysis :=
  { row with
    suggested_action :=
      assign (· = ·) self.suggested_action (some suggestion.suggested_action) row.suggested_action
    suggestion_params :=
      assign (option_eq fun a b => (Json.obj a).py_eq (.obj b)) self.suggestion_params
        (some suggestion.suggestion_params) row.suggestion_params
    suggestion_reasoning :=
      assign (· = ·) self.suggestion_reasoning (some suggestion.suggestion_reasoning) row.suggestion_reasoning
    applied_by_analyst := assign (· = ·) self.applied_by_analyst none row.applied_by_analyst
    applied_at := assign (· = ·) self.applied_at none row.applied_at
    dismissed_by_analyst := assign (· = ·) self.dismissed_by_analyst none row.dismissed_by_analyst
    dismissed_at := assign (· = ·) self.dismissed_at none row.dismissed_at
    dismiss_reason := assign (· = ·) self.dismiss_reason none row.dismiss_reason }

/-- `dismiss_suggestion`. -/
def dismiss (analyst reason : String) (now : Time) (self : AIAnalysis) : AIAnalysis :=
  { self with
    dismissed_by_analyst := some analyst
    dismissed_at := some now
    dismiss_reason := some (text_or (some reason) "No reason provided") }

@[simp] theorem key_mark_applied (self : AIAnalysis) (analyst : String) (now : Time) (row : AIAnalysis) :
    Keyed.key (self.mark_applied analyst now row) = Keyed.key row := rfl

@[simp] theorem key_suggest (self : AIAnalysis) (suggestion : Suggestion) (row : AIAnalysis) :
    Keyed.key (self.suggest suggestion row) = Keyed.key row := rfl

@[simp] theorem key_dismiss (analyst reason : String) (now : Time) (self : AIAnalysis) :
    Keyed.key (self.dismiss analyst reason now) = Keyed.key self := rfl

end AIAnalysis

/-- The committed rows that `apply_suggestion` reads and writes. The column `feedback_signal` of an
action is kept beside its row. -/
structure SuggestionStore where
  db : Database
  analyses : Table AIAnalysis := Table.empty
  process_info : List ProcessInfo := []
  flows : List Flow := []
  feedback_signal : String → Option Dict := fun _ => none

namespace SuggestionStore

/-- The query for the newest triage of an incident. -/
def latest_triage (self : SuggestionStore) (incident_id : String) : Option AIAnalysis :=
  self.analyses.latest (fun row => row.incident_id = incident_id ∧ row.analysis_type = "triage")
    AIAnalysis.created_at

/-- The suggestion of an incident that may be applied. -/
def select_suggestion (self : SuggestionStore) (incident_id : String) : Except AppException AIAnalysis :=
  match self.latest_triage incident_id with
  | some suggestion =>
    if present suggestion.suggested_action then suggestion.check_idempotency.map fun _ => suggestion
    else .error (.NotFoundError ("No response suggestion found for incident '" ++ incident_id ++ "'"))
  | none => .error (.NotFoundError ("No response suggestion found for incident '" ++ incident_id ++ "'"))

/-- The agent of the incident. -/
def suggestion_agent (self : SuggestionStore) (incident_id : String) : Except AppException String :=
  match (self.db.incidents.get incident_id).bind Incident.agent_id with
  | some agent_id =>
    if agent_id = "" then
      .error (.NotFoundError ("Incident '" ++ incident_id ++ "' or associated agent ID was not found"))
    else .ok agent_id
  | none => .error (.NotFoundError ("Incident '" ++ incident_id ++ "' or associated agent ID was not found"))

def validate_pid (self : SuggestionStore) (py_str : Json → String) (agent_id suggested : String) (pid : Json) :
    Except AppException Unit :=
  if ¬ pid.truthy then .error (.ValueError ("Missing 'pid' param for " ++ suggested))
  else
    match pid.to_int with
    | .error _ => .error (.ValueError ("Invalid 'pid' param: " ++ py_str pid ++ " (must be integer)"))
    | .ok pid_int =>
      if pid_int < -2 ^ 31 ∨ 2 ^ 31 ≤ pid_int then .error (.DataError "value out of int32 range")
      else if self.process_info.any fun row => row.agent_id = agent_id ∧ row.pid = pid_int then .ok ()
      else
        .error (.ValueError ("PID " ++ toString pid_int ++ " not found in process_info for agent " ++ agent_id ++
          ". AI suggestion is stale or hallucinated — refusing to dispatch."))

def validate_ip (self : SuggestionStore) (now : Time) (agent_id : String) (ip : Json) : Except AppException Unit :=
  if ¬ ip.truthy then .error (.ValueError "Missing 'ip' param for block_ip")
  else
    match ip with
    | .str ip =>
      if self.flows.any fun flow =>
        flow.agent_id = some agent_id ∧ flow.dst_ip = ip ∧ now - seconds 3600 ≤ flow.start_time then .ok ()
      else
        .error (.ValueError ("IP " ++ ip ++ " not found in recent flows (1h) for agent " ++ agent_id ++
          ". Refusing to dispatch block_ip."))
    | _ => .error (.DataError "invalid input for query argument (expected str)")

/-- The validation block of `apply_suggestion`. -/
def validate (self : SuggestionStore) (py_str : Json → String) (now : Time) (agent_id : String)
    (suggestion : AIAnalysis) : Except AppException Unit :=
  let suggested := suggestion.suggested_action.getD ""
  let param (key : String) : Json := ((suggestion.suggestion_params.getD []).get key).getD .null
  if suggested ∈ ["kill_process", "kill_process_tree", "suspend_process"] then
    self.validate_pid py_str agent_id suggested (param "pid")
  else if suggested = "block_ip" then self.validate_ip now agent_id (param "ip")
  else if suggested ∈ ["isolate", "unisolate"] then .ok ()
  else if suggested = "no_action" then
    .error (.ValueError "Cannot apply 'no_action' — analyst should dismiss instead")
  else .error (.ValueError ("Unsupported suggested action '" ++ suggested ++ "'"))

/-- The call of `create_and_apply_action`. The audit log takes the analyst as its actor. -/
def create_action (self : SuggestionStore) (now : Time) (action_id cmd_id agent_id incident_id analyst : String)
    (suggestion : AIAnalysis) : Except AppException (ResponseAction × Database) := do
  let created ← self.db.create_and_apply_action now action_id cmd_id
    (suggestion.request agent_id incident_id analyst)
  let _actor ← Database.varchar 64 (some (.str analyst))
  return created

def mark_applied (self : SuggestionStore) (now : Time) (action_id analyst : String) (suggestion : AIAnalysis) :
    SuggestionStore :=
  { self with
    analyses := self.analyses.modify suggestion.id (suggestion.mark_applied analyst now)
    feedback_signal := Function.update self.feedback_signal action_id (some (suggestion.feedback_signal analyst)) }

/-- `AIResponseService.apply_suggestion`, when nothing happens between its statements. The clock is
read at the validation, in `create_and_apply_action` and at the end. -/
def apply_suggestion (self : SuggestionStore) (py_str : Json → String) (validated_at created_at applied_at : Time)
    (action_id cmd_id incident_id analyst : String) : Except AppException (ResponseAction × SuggestionStore) := do
  let suggestion ← self.select_suggestion incident_id
  let agent_id ← self.suggestion_agent incident_id
  self.validate py_str validated_at agent_id suggestion
  let (action, db) ← self.create_action created_at action_id cmd_id agent_id incident_id analyst suggestion
  return (action, { self with db }.mark_applied applied_at action_id analyst suggestion)

end SuggestionStore

/-- How far a call of `apply_suggestion` has come. -/
inductive ApplyPhase where
  | checked
  | located (agent_id : String)
  | validated (agent_id : String)
  | created (action_id : String)

/-- A call of `apply_suggestion` that has passed the idempotency check: the copy that it has loaded,
and which generation of the suggestion that was. -/
structure ApplyCall where
  incident_id : String
  analyst : String
  suggestion : AIAnalysis
  generation : ℕ
  phase : ApplyPhase

/-- An action and its command, and the suggestion that they were created from. -/
structure Application where
  analysis_id : String
  generation : ℕ
  action_id : String
  cmd_id : String

def Application.suggestion (self : Application) : String × ℕ := (self.analysis_id, self.generation)

def ApplyCall.claimed (self : ApplyCall) : String × ℕ := (self.suggestion.id, self.generation)

/-- The sessions of the endpoints. Each commit of `suggest_response` starts a new generation of the
suggestion of its row. -/
structure SuggestionSessions where
  store : SuggestionStore
  generation : String → ℕ := fun _ => 0
  calls : ℕ → Option ApplyCall := fun _ => none
  suggesting : ℕ → Option AIAnalysis := fun _ => none
  applied : List Application := []

inductive SuggestionStep where
  | select (sid : ℕ) (incident_id analyst : String)
  | get_incident (sid : ℕ)
  | validate (sid : ℕ) (now : Time)
  | create (sid : ℕ) (now : Time) (action_id cmd_id : String)
  | mark (sid : ℕ) (now : Time)
  | fail (sid : ℕ)
  | load_triage (sid : ℕ) (incident_id : String)
  | regenerate (sid : ℕ) (suggestion : Suggestion)
  | dismiss (incident_id analyst reason : String) (now : Time)
  | triage (id incident_id : String) (confidence : ℚ) (now : Time)
  | telemetry (process_info : List ProcessInfo) (flows : List Flow)
  | other (call : Call)

namespace SuggestionSessions

/-- The call of the session goes on, or ends. -/
def set_call (self : SuggestionSessions) (sid : ℕ) (call : Option ApplyCall) : SuggestionSessions :=
  { self with calls := Function.update self.calls sid call }

/-- The next statement of a call: without a result it has raised, which ends the call. -/
def advance {A : Type} (self : SuggestionSessions) (sid : ℕ) (result : Except AppException A)
    (next : A → SuggestionSessions) : SuggestionSessions :=
  match result with
  | .ok a => next a
  | .error _ => self.set_call sid none

/-- A statement of the call that the session is in. -/
def resume (self : SuggestionSessions) (sid : ℕ) (next : ApplyCall → SuggestionSessions) : SuggestionSessions :=
  match self.calls sid with
  | some call => next call
  | none => self

def select (self : SuggestionSessions) (sid : ℕ) (incident_id analyst : String) : SuggestionSessions :=
  self.advance sid (self.store.select_suggestion incident_id) fun suggestion =>
    self.set_call sid (some {
      incident_id, analyst, suggestion, generation := self.generation suggestion.id, phase := .checked })

def get_incident (self : SuggestionSessions) (sid : ℕ) (call : ApplyCall) : SuggestionSessions :=
  match call.phase with
  | .checked =>
    self.advance sid (self.store.suggestion_agent call.incident_id) fun agent_id =>
      self.set_call sid (some { call with phase := .located agent_id })
  | _ => self

def validate (self : SuggestionSessions) (py_str : Json → String) (sid : ℕ) (now : Time) (call : ApplyCall) :
    SuggestionSessions :=
  match call.phase with
  | .located agent_id =>
    self.advance sid (self.store.validate py_str now agent_id call.suggestion) fun _ =>
      self.set_call sid (some { call with phase := .validated agent_id })
  | _ => self

/-- The first commit of a call. -/
def create (self : SuggestionSessions) (sid : ℕ) (now : Time) (action_id cmd_id : String) (call : ApplyCall) :
    SuggestionSessions :=
  match call.phase with
  | .validated agent_id =>
    self.advance sid
      (self.store.create_action now action_id cmd_id agent_id call.incident_id call.analyst call.suggestion)
      fun created =>
        { self.set_call sid (some { call with phase := .created action_id }) with
          store := { self.store with db := created.2 }
          applied := self.applied ++ [⟨call.suggestion.id, call.generation, action_id, cmd_id⟩] }
  | _ => self

/-- The second commit of a call. -/
def mark (self : SuggestionSessions) (sid : ℕ) (now : Time) (call : ApplyCall) : SuggestionSessions :=
  match call.phase with
  | .created action_id =>
    { self.set_call sid none with store := self.store.mark_applied now action_id call.analyst call.suggestion }
  | _ => self

def set_analyses (self : SuggestionSessions) (analyses : Table AIAnalysis) : SuggestionSessions :=
  { self with store := { self.store with analyses } }

/-- The commit of `suggest_response`. -/
def regenerate (self : SuggestionSessions) (sid : ℕ) (loaded : AIAnalysis) (suggestion : Suggestion) :
    SuggestionSessions :=
  { self.set_analyses (self.store.analyses.modify loaded.id (loaded.suggest suggestion)) with
    suggesting := Function.update self.suggesting sid none
    generation := Function.update self.generation loaded.id (self.generation loaded.id + 1) }

variable (is_datetime : Json → Bool) (py_str : Json → String)

/-- The steps of the sessions. A step that does not come next in its session has no effect. -/
def step (self : SuggestionSessions) : SuggestionStep → SuggestionSessions
  | .select sid incident_id analyst =>
    if (self.calls sid).isSome then self else self.select sid incident_id analyst
  | .get_incident sid => self.resume sid (self.get_incident sid)
  | .validate sid now => self.resume sid (self.validate py_str sid now)
  | .create sid now action_id cmd_id => self.resume sid (self.create sid now action_id cmd_id)
  | .mark sid now => self.resume sid (self.mark sid now)
  | .fail sid => self.set_call sid none
  | .load_triage sid incident_id =>
    { self with suggesting := Function.update self.suggesting sid (self.store.latest_triage incident_id) }
  | .regenerate sid suggestion =>
    match self.suggesting sid with
    | some loaded => self.regenerate sid loaded suggestion
    | none => self
  | .dismiss incident_id analyst reason now =>
    match self.store.latest_triage incident_id with
    | some row => self.set_analyses (self.store.analyses.modify row.id (.dismiss analyst reason now))
    | none => self
  | .triage id incident_id confidence now =>
    match self.store.analyses.insert { id, incident_id, confidence, created_at := now } with
    | some analyses => self.set_analyses analyses
    | none => self
  | .telemetry process_info flows => { self with store := { self.store with process_info, flows } }
  | .other call => { self with store := { self.store with db := self.store.db.step is_datetime call } }

/-- At most one action, with one command, has been created from each generation of a suggestion. -/
def AppliedOnce (self : SuggestionSessions) : Prop :=
  (self.applied.map Application.suggestion).Nodup

/-- The condition on a step. A call that passes the idempotency check overlaps no other call on the
same suggestion, a call does not end between its two commits, and the analyst has a name. -/
def Separate (self : SuggestionSessions) : SuggestionStep → Prop
  | .select sid incident_id _ => ∀ suggestion, self.store.select_suggestion incident_id = .ok suggestion →
      ∀ other ≠ sid, ∀ call, self.calls other = some call →
        call.claimed ≠ (suggestion.id, self.generation suggestion.id)
  | .fail sid => ∀ call action_id, self.calls sid = some call → call.phase = .created action_id →
      call.generation ≠ self.generation call.suggestion.id
  | .mark sid _ => ∀ call action_id, self.calls sid = some call → call.phase = .created action_id →
      call.analyst ≠ ""
  | _ => True

@[simp] theorem store_set_call (self : SuggestionSessions) (sid : ℕ) (call : Option ApplyCall) :
    (self.set_call sid call).store = self.store := rfl

@[simp] theorem set_call_set_call (self : SuggestionSessions) (sid : ℕ) (first second : Option ApplyCall) :
    (self.set_call sid first).set_call sid second = self.set_call sid second := by
  simp [set_call]

@[simp] theorem resume_set_call (self : SuggestionSessions) (sid : ℕ) (call : ApplyCall)
    (next : ApplyCall → SuggestionSessions) : (self.set_call sid (some call)).resume sid next = next call := by
  simp [resume, set_call]

theorem resume_idle {self : SuggestionSessions} {sid : ℕ} (h : self.calls sid = none)
    (next : ApplyCall → SuggestionSessions) : self.resume sid next = self := by
  simp [resume, h]

/-- A session that no other one interferes with performs `apply_suggestion`. -/
theorem apply_suggestion_alone (self : SuggestionSessions) (sid : ℕ) (validated_at created_at applied_at : Time)
    (action_id cmd_id incident_id analyst : String) (hidle : self.calls sid = none) :
    (transition.run (step is_datetime py_str) self [.select sid incident_id analyst, .get_incident sid,
      .validate sid validated_at, .create sid created_at action_id cmd_id, .mark sid applied_at]).store =
      match self.store.apply_suggestion py_str validated_at created_at applied_at action_id cmd_id incident_id
        analyst with
      | .ok (_, store) => store
      | .error _ => self.store := by
  have hended : (self.set_call sid none).calls sid = none := Function.update_self ..
  simp only [transition.run_cons, transition.run_nil, step, hidle, Option.isSome_none, Bool.false_eq_true, if_false,
    SuggestionStore.apply_suggestion]
  cases hselect : self.store.select_suggestion incident_id with
  | error e =>
    simp only [select, advance, hselect, resume_idle hended]
    rfl
  | ok suggestion =>
    simp only [select, advance, hselect, resume_set_call, get_incident, store_set_call, set_call_set_call]
    cases hagent : self.store.suggestion_agent incident_id with
    | error e =>
      simp only [resume_idle hended]
      rfl
    | ok agent_id =>
      simp only [resume_set_call, validate, advance, store_set_call, set_call_set_call]
      cases hvalid : self.store.validate py_str validated_at agent_id suggestion with
      | error e =>
        simp only [resume_idle hended, bind, Except.bind, hvalid]
        rfl
      | ok _ =>
        simp only [resume_set_call, create, advance, store_set_call, set_call_set_call]
        cases hcreate : self.store.create_action created_at action_id cmd_id agent_id incident_id analyst suggestion with
        | error e =>
          simp only [resume_idle hended, bind, Except.bind, hvalid, hcreate]
          rfl
        | ok created =>
          simp only [bind, Except.bind, hvalid, hcreate]
          simp [resume, set_call, mark, pure, Except.pure]

/-! ## The suggestions as tokens -/

/-- What a session may still create an action from. -/
def claims_of (call : Option ApplyCall) : List (String × ℕ) :=
  match call with
  | some call =>
    match call.phase with
    | .created _ => []
    | _ => [call.claimed]
  | none => []

/-- What a session has created an action from, and not marked yet. -/
def owed_by (call : Option ApplyCall) : List (String × ℕ) :=
  match call with
  | some call =>
    match call.phase with
    | .created _ => [call.claimed]
    | _ => []
  | none => []

/-- The generations of the suggestions are used by the calls that create an action, and spent once
they are marked as applied. -/
def one_shot (self : SuggestionSessions) : OneShot ℕ String where
  episode := self.generation
  spent := fun id => (self.store.analyses.get id).any AIAnalysis.applied
  claims := claims_of ∘ self.calls
  owed := owed_by ∘ self.calls
  used := self.applied.map Application.suggestion

/-- A call works on a stored row, which its copy shows as not applied. -/
def Loaded (self : SuggestionSessions) : Prop :=
  ∀ sid call, self.calls sid = some call →
    call.suggestion.applied = false ∧ (self.store.analyses.get call.suggestion.id).isSome

theorem latest_triage_get {store : SuggestionStore} {incident_id : String} {row : AIAnalysis}
    (h : store.latest_triage incident_id = some row) : store.analyses.get row.id = some row :=
  Table.get_of_mem (Table.mem_of_latest h).1

private theorem select_suggestion_ok {store : SuggestionStore} {incident_id : String} {suggestion : AIAnalysis}
    (h : store.select_suggestion incident_id = .ok suggestion) :
    store.analyses.get suggestion.id = some suggestion ∧ suggestion.applied = false := by
  unfold SuggestionStore.select_suggestion at h
  split at h
  · rename_i row hlatest
    split at h
    · unfold AIAnalysis.check_idempotency at h
      split at h
      · cases h
      · rename_i happlied
        split at h
        · cases h
        · cases h
          exact ⟨latest_triage_get hlatest, by simpa using happlied⟩
    · cases h
  · cases h

variable {self : SuggestionSessions} {sid : ℕ} {call : ApplyCall}

theorem advance_cases {A : Type} {result : Except AppException A} {next : A → SuggestionSessions}
    {P : SuggestionSessions → Prop} (hok : ∀ a, result = .ok a → P (next a)) (herror : P (self.set_call sid none)) :
    P (self.advance sid result next) := by
  cases result with
  | ok a => exact hok a rfl
  | error e => exact herror

theorem resume_cases {next : ApplyCall → SuggestionSessions} {P : SuggestionSessions → Prop}
    (hcall : ∀ call, self.calls sid = some call → P (next call)) (hidle : P self) : P (self.resume sid next) := by
  unfold resume
  split
  · rename_i call hcalls
    exact hcall call hcalls
  · exact hidle

/-- The tokens of the session while its call goes on, or ends. -/
theorem one_shot_set_call (call : Option ApplyCall) : (self.set_call sid call).one_shot =
    { self.one_shot with
      claims := Function.update self.one_shot.claims sid (claims_of call)
      owed := Function.update self.one_shot.owed sid (owed_by call) } := by
  simp only [one_shot, set_call, Function.comp_update]

/-- The sessions refine the tokens: a step is a run of allowed steps of these. -/
def Refines (self next : SuggestionSessions) : Prop :=
  ∃ ops, transition.Along OneShot.step OneShot.Allowed self.one_shot ops ∧
    next.one_shot = transition.run OneShot.step self.one_shot ops

/-- A call that has not created its action yet may end at any time. -/
private theorem refines_end (howed : self.one_shot.owed sid = []) : self.Refines (self.set_call sid none) := by
  refine transition.Reaches.of_step (.release sid) ?_ (one_shot_set_call none)
  simp [OneShot.Allowed, howed]

private theorem refines_select (incident_id analyst : String) (hidle : self.calls sid = none)
    (hseparate : self.Separate (.select sid incident_id analyst)) :
    self.Refines (self.select sid incident_id analyst) := by
  have howed : self.one_shot.owed sid = [] := by simp [one_shot, hidle, owed_by]
  refine advance_cases (fun suggestion hsuggestion => ?_) (refines_end howed)
  obtain ⟨hget, happlied⟩ := select_suggestion_ok hsuggestion
  refine transition.Reaches.of_step (.claim sid [suggestion.id]) ⟨by simp, ?_⟩ ?_
  · intro id hid
    obtain rfl := List.mem_singleton.mp hid
    refine ⟨by simp [one_shot, hget, happlied], by simp [howed], fun other hne => ?_⟩
    have hother := hseparate suggestion hsuggestion other hne
    cases hcall : self.calls other with
    | none => simp [one_shot, hcall, claims_of, owed_by]
    | some call =>
      have hclaimed := hother call hcall
      simp only [one_shot, Function.comp_apply, hcall, claims_of, owed_by, OneShot.token]
      split <;> simp [Ne.symm hclaimed]
  · rw [one_shot_set_call, OneShot.step]
    have hclaim : claims_of (some ⟨incident_id, analyst, suggestion, self.generation suggestion.id, .checked⟩) =
        [suggestion.id].map self.one_shot.token := rfl
    rw [hclaim]
    simp [owed_by, ← howed]

private theorem refines_next (hcall : self.calls sid = some call) {next : ApplyCall}
    (hclaims : claims_of (some next) = claims_of (some call)) (howed : owed_by (some next) = owed_by (some call)) :
    self.Refines (self.set_call sid (some next)) := by
  refine transition.Reaches.of_eq ?_
  rw [one_shot_set_call, hclaims, howed, ← hcall]
  simp [one_shot]

private theorem refines_get_incident (hcall : self.calls sid = some call) :
    self.Refines (self.get_incident sid call) := by
  unfold get_incident
  split
  · rename_i hphase
    exact advance_cases
      (fun agent_id _ => refines_next hcall (by simp [claims_of, hphase, ApplyCall.claimed])
        (by simp [owed_by, hphase]))
      (refines_end (by simp [one_shot, hcall, owed_by, hphase]))
  · exact transition.Reaches.of_eq rfl

private theorem refines_validate (py_str : Json → String) (now : Time) (hcall : self.calls sid = some call) :
    self.Refines (self.validate py_str sid now call) := by
  unfold validate
  split
  · rename_i agent_id hphase
    exact advance_cases
      (fun _ _ => refines_next hcall (by simp [claims_of, hphase, ApplyCall.claimed]) (by simp [owed_by, hphase]))
      (refines_end (by simp [one_shot, hcall, owed_by, hphase]))
  · exact transition.Reaches.of_eq rfl

private theorem refines_create (now : Time) (action_id cmd_id : String) (hcall : self.calls sid = some call) :
    self.Refines (self.create sid now action_id cmd_id call) := by
  unfold create
  split
  · rename_i agent_id hphase
    have howed : self.one_shot.owed sid = [] := by simp [one_shot, hcall, owed_by, hphase]
    have hclaims : self.one_shot.claims sid = [call.claimed] := by simp [one_shot, hcall, claims_of, hphase]
    refine advance_cases (fun created _ => transition.Reaches.of_step (.use sid) howed ?_) (refines_end howed)
    simp only [OneShot.step, hclaims]
    simp [one_shot, set_call, Function.comp_update, claims_of, owed_by, ApplyCall.claimed, Application.suggestion]
  · exact transition.Reaches.of_eq rfl

/-- The row is marked because the copy of the session shows it as not applied. -/
private theorem applied_mark {row : AIAnalysis} {analyst : String} (now : Time) (hname : analyst ≠ "")
    (hcopy : call.suggestion.applied = false) : (call.suggestion.mark_applied analyst now row).applied := by
  have hchanged : call.suggestion.applied_by_analyst ≠ some analyst := by
    intro heq
    simp [AIAnalysis.applied, present, heq, hname] at hcopy
  simp [AIAnalysis.applied, AIAnalysis.mark_applied, assign, hchanged, present, hname]

private theorem refines_mark (now : Time) (hloaded : self.Loaded) (hcall : self.calls sid = some call)
    (hseparate : self.Separate (.mark sid now)) : self.Refines (self.mark sid now call) := by
  unfold mark
  split
  · rename_i action_id hphase
    obtain ⟨hcopy, hrow⟩ := hloaded sid call hcall
    have hname := hseparate call action_id hcall hphase
    have howed : self.one_shot.owed sid = [call.claimed] := by simp [one_shot, hcall, owed_by, hphase]
    have hclaims : claims_of ∘ Function.update self.calls sid none = claims_of ∘ self.calls := by
      rw [Function.comp_update, Function.update_eq_self_iff]
      simp [hcall, claims_of, hphase]
    refine transition.Reaches.of_step (.settle sid) trivial ?_
    simp only [OneShot.step, howed]
    simp only [one_shot, set_call, SuggestionStore.mark_applied, OneShot.mk.injEq, hclaims, Function.comp_update,
      true_and, and_true]
    refine ⟨funext fun id => propext ?_, rfl⟩
    rw [Table.get_modify (AIAnalysis.key_mark_applied _ _ _)]
    by_cases hid : call.suggestion.id = id
    · subst hid
      obtain ⟨row, hget⟩ := Option.isSome_iff_exists.mp hrow
      simp [hget, applied_mark now hname hcopy, ApplyCall.claimed]
    · simp [hid, ApplyCall.claimed, Ne.symm hid]
  · exact transition.Reaches.of_eq rfl

private theorem refines_fail (hseparate : self.Separate (.fail sid)) : self.Refines (self.set_call sid none) := by
  refine transition.Reaches.of_step (.release sid) (fun t ht heq => ?_) (one_shot_set_call none)
  cases hcall : self.calls sid with
  | none => simp [one_shot, hcall, owed_by] at ht
  | some call =>
    cases hphase : call.phase with
    | created action_id =>
      simp only [one_shot, Function.comp_apply, hcall, owed_by, hphase, List.mem_singleton] at ht
      subst ht
      exact absurd (Prod.mk.inj heq).2 (hseparate call action_id hcall hphase)
    | checked | located | validated => simp [one_shot, hcall, owed_by, hphase] at ht

/-- A write to the analyses that is none of `apply_suggestion` nor of `suggest_response`. -/
private theorem refines_set_analyses {analyses : Table AIAnalysis}
    (happlied : ∀ id, (analyses.get id).any AIAnalysis.applied =
      (self.store.analyses.get id).any AIAnalysis.applied) : self.Refines (self.set_analyses analyses) := by
  refine transition.Reaches.of_eq ?_
  simp only [one_shot, set_analyses, happlied]

private theorem refines_regenerate (loaded : AIAnalysis) (suggestion : Suggestion) :
    self.Refines (self.regenerate sid loaded suggestion) := by
  refine transition.Reaches.of_step (.renew (fun id => id = loaded.id)
    (self.regenerate sid loaded suggestion).one_shot.spent) (fun id hspent => ?_) ?_
  · by_cases hid : id = loaded.id
    · exact Or.inl (by simpa using hid)
    · refine Or.inr ?_
      simpa [one_shot, regenerate, set_analyses, Table.get_modify (AIAnalysis.key_suggest _ _), Ne.symm hid]
        using hspent
  · simp only [OneShot.step, one_shot, regenerate, set_analyses, OneShot.mk.injEq, and_true,
      decide_eq_true_eq]
    funext id
    rw [Function.update_apply]
    split
    · rename_i hid
      rw [hid]
    · rfl

variable (is_datetime : Json → Bool) (py_str : Json → String)

/-- Every step of the sessions that meets the condition is allowed for the tokens. -/
theorem refines_step (hloaded : self.Loaded) (op : SuggestionStep) (hseparate : self.Separate op) :
    self.Refines (self.step is_datetime py_str op) := by
  cases op with
  | select sid incident_id analyst =>
    simp only [step]
    split
    · exact transition.Reaches.of_eq rfl
    · rename_i hidle
      exact refines_select incident_id analyst (by simpa using hidle) hseparate
  | get_incident sid => exact resume_cases (fun _ hcall => refines_get_incident hcall) (transition.Reaches.of_eq rfl)
  | validate sid now =>
    exact resume_cases (fun _ hcall => refines_validate py_str now hcall) (transition.Reaches.of_eq rfl)
  | create sid now action_id cmd_id =>
    exact resume_cases (fun _ hcall => refines_create now action_id cmd_id hcall) (transition.Reaches.of_eq rfl)
  | mark sid now =>
    exact resume_cases (fun _ hcall => refines_mark now hloaded hcall hseparate) (transition.Reaches.of_eq rfl)
  | fail sid => exact refines_fail hseparate
  | load_triage | telemetry | other => exact transition.Reaches.of_eq rfl
  | regenerate sid suggestion =>
    simp only [step]
    split
    · exact refines_regenerate _ suggestion
    · exact transition.Reaches.of_eq rfl
  | dismiss incident_id analyst reason now =>
    simp only [step]
    split
    · rename_i row hlatest
      refine refines_set_analyses fun id => ?_
      rw [Table.get_modify (AIAnalysis.key_dismiss _ _ _)]
      split
      · rw [Option.any_map]
        rfl
      · rfl
    · exact transition.Reaches.of_eq rfl
  | triage id incident_id confidence now =>
    simp only [step]
    split
    · rename_i analyses hinsert
      refine refines_set_analyses fun other => ?_
      rw [Table.get_of_insert hinsert]
      split
      · rename_i hid
        rw [← hid, (Table.insert_eq_some_iff.mp hinsert).1]
        rfl
      · rfl
    · exact transition.Reaches.of_eq rfl

private theorem Loaded.set_call (h : self.Loaded) {next : Option ApplyCall}
    (hnext : ∀ call, next = some call → call.suggestion.applied = false ∧
      (self.store.analyses.get call.suggestion.id).isSome) : (self.set_call sid next).Loaded := by
  intro other call hcall
  by_cases hne : other = sid
  · subst hne
    exact hnext call (by simpa [SuggestionSessions.set_call] using hcall)
  · exact h other call (by simpa [SuggestionSessions.set_call, Function.update_of_ne hne] using hcall)

private theorem Loaded.end_call (h : self.Loaded) : (self.set_call sid none).Loaded :=
  h.set_call fun _ hcall => by cases hcall

private theorem Loaded.next (h : self.Loaded) (hcall : self.calls sid = some call) (next : ApplyCall)
    (hcopy : next.suggestion = call.suggestion) : (self.set_call sid (some next)).Loaded :=
  h.set_call fun _ hnext => by
    cases hnext
    rw [hcopy]
    exact h sid call hcall

private theorem Loaded.of_rows (h : self.Loaded) {next : SuggestionSessions} (hcalls : next.calls = self.calls)
    (hrows : ∀ id, (self.store.analyses.get id).isSome → (next.store.analyses.get id).isSome) : next.Loaded := by
  intro sid call hcall
  rw [hcalls] at hcall
  exact (h sid call hcall).imp_right (hrows _)

private theorem Loaded.step (h : self.Loaded) (op : SuggestionStep) : (self.step is_datetime py_str op).Loaded := by
  cases op with
  | select sid incident_id analyst =>
    simp only [SuggestionSessions.step]
    split
    · exact h
    · refine advance_cases (fun suggestion hsuggestion => h.set_call fun call hcall => ?_) h.end_call
      obtain ⟨hget, happlied⟩ := select_suggestion_ok hsuggestion
      cases hcall
      exact ⟨happlied, by rw [hget]; rfl⟩
  | get_incident sid =>
    refine resume_cases (fun call hcall => ?_) h
    unfold get_incident
    split
    · exact advance_cases (fun _ _ => h.next hcall _ rfl) h.end_call
    · exact h
  | validate sid now =>
    refine resume_cases (fun call hcall => ?_) h
    unfold validate
    split
    · exact advance_cases (fun _ _ => h.next hcall _ rfl) h.end_call
    · exact h
  | create sid now action_id cmd_id =>
    refine resume_cases (fun call hcall => ?_) h
    unfold create
    split
    · refine advance_cases (fun created _ => ?_) h.end_call
      exact (h.next hcall { call with phase := .created action_id } rfl).of_rows rfl fun _ hrow => hrow
    · exact h
  | mark sid now =>
    refine resume_cases (fun call hcall => ?_) h
    unfold mark
    split
    · exact h.end_call.of_rows rfl fun _ hrow => Table.isSome_get_modify (AIAnalysis.key_mark_applied _ _ _) hrow
    · exact h
  | fail sid => exact h.end_call
  | load_triage | telemetry | other => exact h.of_rows rfl fun _ hrow => hrow
  | regenerate sid suggestion =>
    simp only [SuggestionSessions.step]
    split
    · exact h.of_rows rfl fun _ hrow => Table.isSome_get_modify (AIAnalysis.key_suggest _ _) hrow
    · exact h
  | dismiss incident_id analyst reason now =>
    simp only [SuggestionSessions.step]
    split
    · exact h.of_rows rfl fun _ hrow => Table.isSome_get_modify (AIAnalysis.key_dismiss _ _ _) hrow
    · exact h
  | triage id incident_id confidence now =>
    simp only [SuggestionSessions.step]
    split
    · rename_i analyses hinsert
      refine h.of_rows rfl fun other hrow => ?_
      simp only [set_analyses, Table.get_of_insert hinsert]
      split
      · rfl
      · exact hrow
    · exact h

/-- Every application is one of an action in the database, which names the command created with it. -/
def Recorded (self : SuggestionSessions) : Prop :=
  ∀ a ∈ self.applied, ∃ action, self.store.db.response_actions.get a.action_id = some action ∧
    action.command_id = some a.cmd_id

private theorem create_action_ok {store : SuggestionStore} {now : Time}
    {action_id cmd_id agent_id incident_id analyst : String} {suggestion : AIAnalysis}
    {created : ResponseAction × Database}
    (h : store.create_action now action_id cmd_id agent_id incident_id analyst suggestion = .ok created) :
    created.1.id = action_id ∧ created.1.command_id = some cmd_id ∧
      store.db.response_actions.insert created.1 = some created.2.response_actions := by
  unfold SuggestionStore.create_action at h
  rw [bind_eq_ok_iff] at h
  obtain ⟨⟨action, db⟩, hcreate, h⟩ := h
  rw [bind_eq_ok_iff] at h
  obtain ⟨_, _, h⟩ := h
  cases h
  obtain ⟨_, _, actions, _, _, _, _, rfl, hinsert, _, rfl⟩ := Database.create_and_apply_action_ok hcreate
  exact ⟨rfl, by simp [ResponseAction.command_id, ActionRequest.response_action], hinsert⟩

private theorem Recorded.create (h : self.Recorded) (now : Time) (action_id cmd_id : String) :
    (self.create sid now action_id cmd_id call).Recorded := by
  unfold SuggestionSessions.create
  split
  · refine advance_cases (fun created hcreated a ha => ?_) h
    obtain ⟨hid, hcommand, hinsert⟩ := create_action_ok hcreated
    rcases List.mem_append.mp ha with ha | ha
    · obtain ⟨action, hget, hold⟩ := h a ha
      exact ⟨action, Table.get_of_insert_of_get hinsert hget, hold⟩
    · cases List.mem_singleton.mp ha
      exact ⟨created.1, by rw [Table.get_of_insert hinsert]; exact if_pos hid, hcommand⟩
  · exact h

private theorem Recorded.step (h : self.Recorded) (op : SuggestionStep) :
    (self.step is_datetime py_str op).Recorded := by
  cases op with
  | select sid incident_id analyst =>
    simp only [SuggestionSessions.step]
    split
    · exact h
    · exact advance_cases (fun _ _ => h) h
  | get_incident sid =>
    refine resume_cases (fun call _ => ?_) h
    unfold get_incident
    split
    · exact advance_cases (fun _ _ => h) h
    · exact h
  | validate sid now =>
    refine resume_cases (fun call _ => ?_) h
    unfold validate
    split
    · exact advance_cases (fun _ _ => h) h
    · exact h
  | create sid now action_id cmd_id => exact resume_cases (fun call _ => h.create now action_id cmd_id) h
  | mark sid now =>
    refine resume_cases (fun call _ => ?_) h
    unfold mark
    split <;> exact h
  | fail | load_triage | telemetry => exact h
  | regenerate | dismiss | triage =>
    simp only [SuggestionSessions.step]
    split <;> exact h
  | other call =>
    intro a ha
    obtain ⟨action, hget, hcommand⟩ := h a ha
    obtain ⟨action', hget', hchange⟩ := Database.action_change_step is_datetime call hget
    refine ⟨action', hget', ?_⟩
    rw [ResponseAction.command_id, hchange.sameRequest.action_params]
    exact hcommand

/-- The log of the applications is about the actions and commands that the calls have committed. -/
theorem recorded_run (store : SuggestionStore) (steps : List SuggestionStep) :
    (transition.run (step is_datetime py_str) { store } steps).Recorded :=
  transition.run_preserves (I := Recorded) (fun _ op h => h.step is_datetime py_str op)
    (fun _ ha => by cases ha) steps

/-- The sessions before any call. -/
theorem sound_start (store : SuggestionStore) : ({ store } : SuggestionSessions).one_shot.Sound := by
  constructor <;> simp [one_shot, claims_of]

/-- Over every interleaving in which the calls on a suggestion do not overlap, none of them ends between
its commits and every analyst has a name, at most one action is created from a suggestion until it is
regenerated. -/
theorem appliedOnce_of_separate (store : SuggestionStore) (steps : List SuggestionStep)
    (hsteps : transition.Along (step is_datetime py_str) Separate { store } steps) :
    (transition.run (step is_datetime py_str) { store } steps).AppliedOnce := by
  have hinvariant := transition.run_invariant
    (I := fun self : SuggestionSessions => self.Loaded ∧ self.one_shot.Sound)
    (fun self op h hseparate => by
      have hrefines := refines_step is_datetime py_str h.1 op hseparate
      exact ⟨h.1.step is_datetime py_str op, h.2.reaches hrefines⟩)
    hsteps ⟨by simp [Loaded], sound_start store⟩
  exact hinvariant.2.used_nodup

/-- An incident whose triage suggests to isolate its agent. -/
def suggested_isolation : SuggestionStore where
  db := { Database.one_agent with
    incidents := ⟨[{ id := "inc_1", agent_id := some "web-1", created_at := 0 }], by decide⟩ }
  analyses := ⟨[{
    id := "ai_1", incident_id := "inc_1", suggested_action := some "isolate", created_at := 0 }], by decide⟩

/-- The statements of a call up to its first commit. -/
def apply_steps (sid : ℕ) (action_id cmd_id analyst : String) : List SuggestionStep :=
  [.select sid "inc_1" analyst, .get_incident sid, .validate sid 0, .create sid 0 action_id cmd_id]

/-- An analyst applies the suggestion, and another one wants to apply it again. -/
def applied_again : List SuggestionStep :=
  apply_steps 0 "act_1" "cmd_1" "alice" ++ [.mark 0 1, .select 1 "inc_1" "bob"]

theorem appliedOnce_applied_again : (transition.run (step (fun _ => false) fun _ => "")
    { store := suggested_isolation } applied_again).AppliedOnce := by
  refine appliedOnce_of_separate (fun _ => false) (fun _ => "") suggested_isolation applied_again
    ⟨fun _ _ _ _ call hcall => (by cases hcall), trivial, trivial, trivial, fun call _ hcall _ => ?_,
      fun suggestion hsuggestion => ?_, trivial⟩
  · have hname : ((transition.run (step (fun _ => false) fun _ => "") { store := suggested_isolation }
        (applied_again.take 4)).calls 0).all fun call => call.analyst ≠ "" := by decide +kernel
    exact of_decide_eq_true ((Option.all_eq_true _ _).mp hname call hcall)
  · have hrefused : ((transition.run (step (fun _ => false) fun _ => "") { store := suggested_isolation }
        (applied_again.take 5)).store.select_suggestion "inc_1").isOk = false := by decide +kernel
    exact absurd (hrefused.symm.trans (congrArg Except.isOk hsuggestion)) Bool.false_ne_true

/-- Two analysts apply the suggestion at the same time: the second passes the idempotency check while
the call of the first has not been marked. -/
def applied_concurrently : List SuggestionStep :=
  .select 1 "inc_1" "bob" :: apply_steps 0 "act_1" "cmd_1" "alice" ++
    [.get_incident 1, .validate 1 0, .create 1 0 "act_2" "cmd_2", .mark 0 1, .mark 1 1]

theorem not_appliedOnce_concurrently : ¬ (transition.run (step (fun _ => false) fun _ => "")
    { store := suggested_isolation } applied_concurrently).AppliedOnce := by
  unfold AppliedOnce
  decide +kernel

end SuggestionSessions

end larp
