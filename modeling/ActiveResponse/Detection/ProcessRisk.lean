import ActiveResponse.Detection.Processes
import ActiveResponse.Detection.Scores
import ActiveResponse.Response.PolicyEngine

namespace larp

/-- The incident that a score opens or updates, if it reaches the threshold. -/
def open_incident (env : Env) (agent_id : String) (smoothed threshold : ℚ) : Service (Option String) :=
  if threshold ≤ smoothed then do
    let inc_id ← Service.fresh env "inc_" 0
    let incident_id ← Service.call env (.create_from_risk env.now inc_id agent_id smoothed)
    return some incident_id
  else return none

/-- The parameters of the command that kills a suspicious process. -/
def SuspiciousProcess.params (self : SuspiciousProcess) (smoothed threshold : ℚ) : Dict :=
  [("pid", self.pid), ("process_name", self.name),
    ("reason", .str ("Automated Process Tree Kill triggered by Risk Score " ++ float_str smoothed ++
      " (threshold: " ++ float_str threshold ++ ")"))]

/-- Act through an action, or through a raw command when that raises. -/
def act_or_queue (env : Env) (req : ActionRequest) (raw : RawCommand → Op) : Service String :=
  tryCatch (create_and_apply env req) fun _ => do
    let cmd_id ← Service.fresh env "cmd_" 0
    Service.call env (raw { id := cmd_id, agent_id := req.agent_id, payload := req.action_params })

def kill_process (env : Env) (agent_id : String) (params : Dict) (incident_id : Option String) :
    Service String :=
  act_or_queue env {
    agent_id, action_type := "kill_process_tree", action_params := params, incident_id
    actor := "risk_assessment" } fun raw => .queue_command raw "kill_process_tree"

def kill_processes (env : Env) (agent_id : String) (smoothed threshold : ℚ) (incident_id : Option String) :
    List SuspiciousProcess → Service Unit
  | [] => return ()
  | process :: processes => do
    let _ ← kill_process env agent_id (process.params smoothed threshold) incident_id
    kill_processes env agent_id smoothed threshold incident_id processes

/-- The live policy engine; an exception counts as not executed. -/
def run_policy_engine (env : Env) (agent_id : String) (smoothed : ℚ) (factors : Dict)
    (incident_id : Option String) : Service Bool :=
  tryCatch
    (do
      let response ← evaluate_and_execute env agent_id smoothed factors false incident_id
      return response.matched_policy.isSome && response.executed)
    fun _ => return false

/-- The legacy isolation. The raw command marks the agent as isolated before it has confirmed. -/
def auto_isolate (env : Env) (agent_id : String) (smoothed : ℚ) (incident_id : Option String) :
    Service String :=
  act_or_queue env {
    agent_id, action_type := "isolate"
    action_params :=
      [("reason", .str ("Auto isolation triggered by Risk Assessment Score " ++ float_str smoothed))]
    incident_id, actor := "policy_engine" } .isolate_fallback

/-- The response to a score of an agent that is registered and not whitelisted. -/
def respond (env : Env) (agent_id : String) (smoothed : ℚ) (factors : Dict) (action : String)
    (processes : List Dict) : Service Unit := do
  let db ← Service.read_db
  let thresholds ← db.get_risk_thresholds
  let incident_id ← open_incident env agent_id smoothed thresholds.incident_creation_threshold
  kill_processes env agent_id smoothed thresholds.auto_kill_threshold incident_id
    (if thresholds.auto_kill_threshold ≤ smoothed then suspicious_processes env.py_str processes else [])
  let policy_executed ← run_policy_engine env agent_id smoothed factors incident_id
  if !policy_executed ∧ action = "auto_isolate" then do
    let _ ← auto_isolate env agent_id smoothed incident_id
    return ()
  else return ()

/-- The row that `process_risk` stores. -/
def Database.risk_record (db : Database) (env : Env) (record_id agent_id : String) (raw_score : ℚ)
    (factors : Dict) : RiskScoreRecord where
  id := record_id
  agent_id := agent_id
  score := raw_score
  smoothed_score := some (db.smoothed_score agent_id raw_score)
  factors := factors
  timestamp := env.now

/-- `RiskAssessmentService.process_risk`, given what `evaluate` made of the telemetry. -/
def process_risk (env : Env) (agent_id : String) (raw_score : ℚ) (factors : Dict) (processes : List Dict) :
    Service RiskScoreRecord := do
  let db ← Service.read_db
  let record_id ← Service.fresh env "risk_" 0
  let _ ← Service.call env (.add_risk_record (db.risk_record env record_id agent_id raw_score factors))
  let stored ← Service.read_db
  let thresholds ← stored.get_risk_thresholds
  if (stored.agents.get agent_id).isNone then
    return db.risk_record env record_id agent_id raw_score factors
  else do
    let whitelisted ← stored.any_whitelisted agent_id processes
    if whitelisted then return db.risk_record env record_id agent_id raw_score factors
    else do
      respond env agent_id (db.smoothed_score agent_id raw_score) factors
        (Database.determine_action thresholds (db.smoothed_score agent_id raw_score)) processes
      return db.risk_record env record_id agent_id raw_score factors

/-! ## Attempts, step by step -/

section Attempts

variable (env : Env) (agent_id : String)

theorem within_open_incident (smoothed threshold : ℚ) :
    (open_incident env agent_id smoothed threshold).Within World.Extends := by
  unfold open_incident
  split
  · exact (Service.within_fresh env "inc_" 0).bind fun _ =>
      (Service.within_call env rfl).bind fun _ => Program.within_pure _
  · exact Program.within_pure none

theorem attempts_open_incident (smoothed threshold : ℚ) (w : World) :
    ((open_incident env agent_id smoothed threshold).exec w).2.attempts = w.attempts := by
  unfold open_incident
  split
  · have hcall := Service.attempts_call env (.create_from_risk env.now ("inc_" ++ env.uuid (2 * w.trace.length + 0))
      agent_id smoothed) w
    rw [Program.exec_bind_ok (Service.exec_fresh env "inc_" 0 w), Program.exec_bind]
    rcases hrun : (Service.call env _).exec w with ⟨_ | id, w'⟩ <;> rw [hrun] at hcall <;>
      simpa [Op.attempt] using hcall
  · rfl

/-- One action is attempted, and another one when the raw command counts as such. -/
theorem attempts_act_or_queue (req : ActionRequest) (raw : RawCommand → Op) (w : World) :
    w.attempts < ((act_or_queue env req raw).exec w).2.attempts ∧
      ((∀ cmd, (raw cmd).attempt = false) →
        ((act_or_queue env req raw).exec w).2.attempts = w.attempts + 1) := by
  have hattempts := attempts_create_and_apply env req w
  rw [act_or_queue, Program.exec_catch]
  rcases hrun : (create_and_apply env req).exec w with ⟨e | id, w'⟩ <;> rw [hrun] at hattempts <;>
    dsimp only at hattempts ⊢
  · rw [Program.exec_bind_ok (Service.exec_fresh env "cmd_" 0 w'), Service.attempts_call]
    exact ⟨by omega, fun hraw => by simp [hraw, hattempts]⟩
  · exact ⟨by omega, fun _ => hattempts⟩

theorem attempts_kill_process (params : Dict) (incident_id : Option String) (w : World) :
    ((kill_process env agent_id params incident_id).exec w).2.attempts = w.attempts + 1 :=
  (attempts_act_or_queue env _ _ w).2 fun _ => rfl

theorem attempts_auto_isolate (smoothed : ℚ) (incident_id : Option String) (w : World) :
    w.attempts < ((auto_isolate env agent_id smoothed incident_id).exec w).2.attempts :=
  (attempts_act_or_queue env _ _ w).1

theorem within_kill_process (params : Dict) (incident_id : Option String) :
    (kill_process env agent_id params incident_id).Within World.Extends :=
  (within_create_and_apply env _).catch fun _ =>
    (Service.within_fresh env "cmd_" 0).bind fun _ => Service.within_call env rfl

theorem within_kill_processes (smoothed threshold : ℚ) (incident_id : Option String)
    (processes : List SuspiciousProcess) :
    (kill_processes env agent_id smoothed threshold incident_id processes).Within World.Extends := by
  induction processes with
  | nil => exact Program.within_pure ()
  | cons process processes ih => exact (within_kill_process env agent_id _ incident_id).bind fun _ => ih

/-- Each process is attempted once, as long as no raw command is refused. -/
theorem attempts_kill_processes (smoothed threshold : ℚ) (incident_id : Option String)
    {processes : List SuspiciousProcess} {w w' : World}
    (hexec : (kill_processes env agent_id smoothed threshold incident_id processes).exec w = (.ok (), w')) :
    w'.attempts = w.attempts + processes.length := by
  induction processes generalizing w with
  | nil =>
    obtain ⟨-, rfl⟩ := Prod.mk.inj hexec
    rfl
  | cons process processes ih =>
    obtain ⟨cmd_id, w₁, hkill, hrest⟩ := Program.exec_bind_eq_ok_iff.mp hexec
    have hattempts := attempts_kill_process env agent_id (process.params smoothed threshold) incident_id w
    rw [hkill] at hattempts
    dsimp only at hattempts
    rw [ih hrest, hattempts, List.length_cons]
    omega

theorem within_run_policy_engine (smoothed : ℚ) (factors : Dict) (incident_id : Option String) :
    (run_policy_engine env agent_id smoothed factors incident_id).Within World.Extends :=
  ((within_evaluate_and_execute env agent_id smoothed factors false incident_id).bind fun _ =>
    Program.within_pure _).catch fun _ => Program.within_pure false

/-- The engine either executes, and then attempts something exactly when `policy_acts` says so, or
leaves it to the legacy isolation. -/
theorem run_policy_engine_returns {agent : Agent} (smoothed : ℚ) (factors : Dict) (incident_id : Option String)
    {w : World} (hagent : w.db.agents.get agent_id = some agent) :
    (run_policy_engine env agent_id smoothed factors incident_id).Returns w fun executed w' =>
      (executed = true → (w.attempts < w'.attempts ↔ w.db.policy_acts agent_id smoothed)) ∧
        (executed = false → w.db.policy_acts agent_id smoothed) := by
  refine Program.Ends.catch (R := fun _ => w.db.policy_acts agent_id smoothed)
    ((evaluate_and_execute_ends env smoothed factors incident_id hagent).bind
      fun response w' hengaged => Program.ends_pure ?_)
    fun e w' hacts => Program.returns_pure ⟨fun h => absurd h Bool.false_ne_true, fun _ => hacts⟩
  rw [hengaged.matched, Bool.true_and]
  exact ⟨hengaged.executed, hengaged.asked⟩

end Attempts

/-! ## The containment of a score that reaches `auto_isolate` -/

/-- Whether `process_risk` answers a score with an attempt: the score reaches the kill threshold and a
suspicious process has a process id, or the live policy engine acts. -/
def Database.contains_risk (db : Database) (py_str : Json → String) (thresholds : RiskThresholds)
    (agent_id : String) (smoothed : ℚ) (processes : List Dict) : Bool :=
  (thresholds.auto_kill_threshold ≤ smoothed ∧
    ∃ process ∈ processes, is_suspicious py_str process ∧ ((process.get "pid").getD .null).truthy) ∨
  db.policy_acts agent_id smoothed

theorem respond_attempts (env : Env) {agent_id : String} {agent : Agent} {smoothed : ℚ} {factors : Dict}
    {processes : List Dict} {thresholds : Database.RiskThresholds} {w w' : World}
    (hexec : (respond env agent_id smoothed factors "auto_isolate" processes).exec w = (.ok (), w'))
    (hagent : w.db.agents.get agent_id = some agent) (hthresholds : w.db.get_risk_thresholds = .ok thresholds) :
    w.attempts < w'.attempts ↔ w.db.contains_risk env.py_str thresholds agent_id smoothed processes := by
  rw [respond, Program.exec_bind_ok (Service.exec_read_db w),
    Program.exec_bind_ok (Program.exec_lift_ok hthresholds w)] at hexec
  obtain ⟨incident_id, w₁, hincident, hexec⟩ := Program.exec_bind_eq_ok_iff.mp hexec
  obtain ⟨_, w₂, hkill, hexec⟩ := Program.exec_bind_eq_ok_iff.mp hexec
  have hincidents := (within_open_incident env agent_id smoothed _).of_exec hincident
  have hkills := (within_kill_processes env agent_id smoothed _ incident_id _).of_exec hkill
  have hroster : w₂.db.roster = w.db.roster := hkills.roster.trans hincidents.roster
  have hfirst : w₁.attempts = w.attempts := by
    have hattempts := attempts_open_incident env agent_id smoothed thresholds.incident_creation_threshold w
    rwa [hincident] at hattempts
  have hkilled := attempts_kill_processes env agent_id smoothed _ incident_id hkill
  have hagent₂ : w₂.db.agents.get agent_id = some agent := by
    rw [show w₂.db.agents = w.db.agents from congrArg Prod.fst hroster]
    exact hagent
  obtain ⟨executed, w₃, hengine, hexecuted, hasked⟩ :=
    run_policy_engine_returns env agent_id smoothed factors incident_id hagent₂
  rw [Database.policy_acts_congr hroster] at hexecuted hasked
  have hmono := ((within_run_policy_engine env agent_id smoothed factors incident_id).of_exec hengine).attempts
  rw [Program.exec_bind_ok hengine] at hexec
  -- the engine and the legacy isolation together attempt something exactly when `policy_acts` says so
  have hrest : w₂.attempts ≤ w'.attempts ∧ (w₂.attempts < w'.attempts ↔ w.db.policy_acts agent_id smoothed) := by
    cases executed with
    | true =>
      obtain ⟨-, rfl⟩ := Prod.mk.inj hexec
      exact ⟨hmono, hexecuted rfl⟩
    | false =>
      obtain ⟨_, w₄, hisolate, hlast⟩ := Program.exec_bind_eq_ok_iff.mp hexec
      obtain ⟨-, rfl⟩ := Prod.mk.inj hlast
      have hlt := attempts_auto_isolate env agent_id smoothed incident_id w₃
      rw [hisolate] at hlt
      dsimp only at hlt
      exact ⟨by omega, iff_of_true (by omega) (hasked rfl)⟩
  have hkill_iff : w₁.attempts < w₂.attempts ↔ thresholds.auto_kill_threshold ≤ smoothed ∧
      ∃ process ∈ processes, is_suspicious env.py_str process ∧ ((process.get "pid").getD .null).truthy := by
    rw [hkilled, ← suspicious_processes_ne_nil, ← List.length_pos_iff]
    split <;> rename_i hreached <;> simp [hreached]
  rw [Database.contains_risk, decide_eq_true_iff, ← hkill_iff, ← hrest.2]
  omega

/-- A record is stored for registered agents only, and storing it is no attempt. -/
theorem call_add_risk_record {env : Env} {record : RiskScoreRecord} {id : String} {w w' : World}
    (h : (Service.call env (.add_risk_record record)).exec w = (.ok id, w')) :
    (w.db.agents.get record.agent_id).isSome ∧
      (∃ risk_score_records, w'.db = { w.db with risk_score_records }) ∧ w'.attempts = w.attempts := by
  have hattempts := Service.attempts_call env (.add_risk_record record) w
  have hanswer := Service.exec_call env (.add_risk_record record) w
  rw [h] at hattempts hanswer
  obtain ⟨hid, hworld⟩ := Prod.mk.inj hanswer
  have hdb : w'.db = (w.db.answer env.is_datetime
      { op := .add_risk_record record, fault := env.fault w.trace.length }).2 := by rw [hworld]
  cases hfault : env.fault w.trace.length with
  | some e => simp [Database.answer, hfault] at hid
  | none =>
    simp only [Database.answer, hfault, Database.perform] at hid hdb
    cases hadd : w.db.add_risk_record record with
    | error e => simp [hadd, Database.committed, Except.map] at hid
    | ok db' =>
      obtain ⟨hagent, risk_score_records, rfl⟩ := Database.add_risk_record_ok hadd
      exact ⟨hagent, ⟨risk_score_records, by rw [hdb, hadd]; rfl⟩, hattempts⟩

/-- Every score that reaches the `auto_isolate` threshold, of an agent that is not whitelisted, is answered
with an attempt to act. -/
def ContainmentLaw (env : Env) : Prop :=
  ∀ (agent_id : String) (raw_score : ℚ) (factors : Dict) (processes : List Dict)
    (thresholds : Database.RiskThresholds) (record : RiskScoreRecord) (w w' : World),
    (process_risk env agent_id raw_score factors processes).exec w = (.ok record, w') →
      w.db.any_whitelisted agent_id processes = .ok false →
      w.db.get_risk_thresholds = .ok thresholds →
      thresholds.auto_isolate ≤ w.db.smoothed_score agent_id raw_score → w.attempts < w'.attempts

/-- For an agent that is not whitelisted and a smoothed score that reaches the `auto_isolate` threshold,
`process_risk` attempts an action exactly when `contains_risk` holds before it: the policy engine
reports a policy as executed also when it had no group to execute it on. -/
theorem process_risk_attempts_iff (env : Env) {agent_id : String} {raw_score : ℚ} {factors : Dict}
    {processes : List Dict} {thresholds : Database.RiskThresholds} {record : RiskScoreRecord} {w w' : World}
    (hexec : (process_risk env agent_id raw_score factors processes).exec w = (.ok record, w'))
    (hwhitelist : w.db.any_whitelisted agent_id processes = .ok false)
    (hthresholds : w.db.get_risk_thresholds = .ok thresholds)
    (hscore : thresholds.auto_isolate ≤ w.db.smoothed_score agent_id raw_score) :
    w.attempts < w'.attempts ↔
      w.db.contains_risk env.py_str thresholds agent_id (w.db.smoothed_score agent_id raw_score) processes := by
  rw [process_risk, Program.exec_bind_ok (Service.exec_read_db w),
    Program.exec_bind_ok (Service.exec_fresh env "risk_" 0 w)] at hexec
  obtain ⟨_, w₁, hstore, hexec⟩ := Program.exec_bind_eq_ok_iff.mp hexec
  obtain ⟨hregistered, ⟨risk_score_records, hdb⟩, hattempts⟩ := call_add_risk_record hstore
  obtain ⟨agent, hagent⟩ := Option.isSome_iff_exists.mp hregistered
  -- storing the record changes nothing that the rest of the assessment looks at
  have hagent₁ : w₁.db.agents.get agent_id = some agent := by rw [hdb]; exact hagent
  have hthresholds₁ : w₁.db.get_risk_thresholds = .ok thresholds := by rw [hdb]; exact hthresholds
  have hwhitelist₁ : w₁.db.any_whitelisted agent_id processes = .ok false :=
    (Database.any_whitelisted_congr (by rw [hdb]) agent_id processes).trans hwhitelist
  have hacts : w₁.db.policy_acts agent_id = w.db.policy_acts agent_id :=
    funext fun score => Database.policy_acts_congr (by rw [hdb]; rfl) agent_id score
  have haction : Database.determine_action thresholds (w.db.smoothed_score agent_id raw_score) = "auto_isolate" :=
    if_pos hscore
  rw [Program.exec_bind_ok (Service.exec_read_db w₁),
    Program.exec_bind_ok (Program.exec_lift_ok hthresholds₁ w₁), hagent₁, Option.isNone_some,
    if_neg Bool.false_ne_true, Program.exec_bind_ok (Program.exec_lift_ok hwhitelist₁ w₁),
    if_neg Bool.false_ne_true, haction] at hexec
  obtain ⟨_, w₂, hrespond, hlast⟩ := Program.exec_bind_eq_ok_iff.mp hexec
  obtain ⟨-, rfl⟩ := Prod.mk.inj hlast
  have hiff := respond_attempts env hrespond hagent₁ hthresholds₁
  rwa [hattempts, Database.contains_risk, hacts, ← Database.contains_risk] at hiff

/-! ## A malware signature on a single agent -/

def yara_factors : Dict :=
  [("yara_match", .str "YARA signature match detected: WannaCry"), ("total_score", .num 90)]

/-- Without stored policies the graduated response isolates the agent. -/
theorem process_risk_attempts_without_policies :
    ∃ record w', (process_risk quiet_env "web-1" 90 yara_factors []).exec { db := .one_agent } = (.ok record, w') ∧
      (0 < w'.attempts ↔ Database.one_agent.contains_risk quiet_env.py_str Database.default_risk_thresholds "web-1"
        (Database.one_agent.smoothed_score "web-1" 90) []) := by
  obtain ⟨record, hexec⟩ := Program.exec_of_isOk (x := process_risk quiet_env "web-1" 90 yara_factors [])
    (w := { db := .one_agent }) (by decide +kernel)
  exact ⟨record, _, hexec, process_risk_attempts_iff quiet_env hexec rfl rfl (by decide +kernel)⟩

/-- The group policy matches an agent that is in no group, and nothing is attempted. -/
theorem not_containmentLaw_group_policy : ¬ContainmentLaw quiet_env := by
  intro hlaw
  obtain ⟨record, hexec⟩ := Program.exec_of_isOk (x := process_risk quiet_env "web-1" 90 yara_factors [])
    (w := { db := { Database.one_agent with response_policies := ⟨[pol_isolate_group], by decide⟩ } })
    (by decide +kernel)
  have hattempts := hlaw "web-1" 90 yara_factors [] Database.default_risk_thresholds record _ _ hexec rfl rfl
    (by decide +kernel)
  exact absurd hattempts (by decide +kernel)

end larp
