import Mathlib.Data.Prod.Lex
import ActiveResponse.Response.Batch

namespace larp

/-- A level of the graduated response, used when no stored policy matches. -/
structure PolicyLevel where
  min_score : ℕ
  max_score : ℕ
  action : String
  auto : Bool
  rollback_window : Option ℤ := none

def POLICY_LEVELS : List PolicyLevel :=
  [{ min_score := 0, max_score := 29, action := "log_only", auto := true },
    { min_score := 30, max_score := 49, action := "alert", auto := true },
    { min_score := 50, max_score := 69, action := "alert_with_action", auto := false },
    { min_score := 70, max_score := 84, action := "kill_process_tree", auto := true, rollback_window := some 300 },
    { min_score := 85, max_score := 100, action := "isolate", auto := true, rollback_window := some 300 }]

/-- The level of a score. A score between two levels gets the lowest one. -/
def get_action_for_score (score : ℚ) : PolicyLevel :=
  match POLICY_LEVELS.find? fun level => level.min_score ≤ score ∧ score ≤ level.max_score with
  | some level => level
  | none =>
    if 85 ≤ score then POLICY_LEVELS.getLast (by decide) else POLICY_LEVELS.head (by decide)

theorem get_action_for_score_mem (score : ℚ) : get_action_for_score score ∈ POLICY_LEVELS := by
  unfold get_action_for_score
  split
  · rename_i level hfind
    exact List.mem_of_find?_eq_some hfind
  · split
    · exact List.getLast_mem _
    · exact List.head_mem _

/-- A level that is not automatic asks the analyst to act: it neither logs nor alerts only. -/
theorem asks_of_not_auto {score : ℚ} (h : ¬(get_action_for_score score).auto) :
    (get_action_for_score score).action ∉ ["log_only", "alert"] := by
  have hlevels : ∀ level ∈ POLICY_LEVELS, ¬level.auto → level.action ∉ ["log_only", "alert"] := by
    simp [POLICY_LEVELS]
  exact hlevels _ (get_action_for_score_mem score) h

namespace Database

/-- `ResponsePolicyRepository.find_matching_policies`. -/
def find_matching_policies (db : Database) (score : ℚ) (group_ids : List String) : List ResponsePolicy :=
  db.response_policies.select_desc
    (fun policy =>
      policy.is_active ∧ policy.min_score ≤ score ∧ score ≤ policy.max_score ∧
        ∀ group_id ∈ policy.target_group_id, group_id ∈ group_ids)
    fun policy => toLex (policy.priority, policy.min_score)

/-- `ResponsePolicyService.match_policy`. -/
def match_policy (db : Database) (score : ℚ) (group_ids : List String) : Option ResponsePolicy :=
  (db.find_matching_policies score group_ids).head?

end Database

structure ResponsePolicyResponse extends ResponsePolicy where
  target_group_name : Option String := none

structure AffectedGroupInfo where
  id : String
  name : String

def AgentGroup.info (self : AgentGroup) : AffectedGroupInfo where
  id := self.id
  name := self.name

structure AffectedAgentInfo where
  id : String
  hostname : String
  ip : String
  status : String
  is_isolated : Bool

def Agent.info (self : Agent) : AffectedAgentInfo where
  id := self.id
  hostname := self.hostname
  ip := self.ip_address
  status := self.status.value
  is_isolated := self.is_isolated

structure SimulatedActionInfo where
  agent_id : String
  hostname : String
  ip_address : String
  action_type : String
  auto_rollback_seconds : Option ℤ

def Agent.simulate (action_type : String) (auto_rollback_seconds : Option ℤ) (self : Agent) :
    SimulatedActionInfo where
  agent_id := self.id
  hostname := self.hostname
  ip_address := self.ip_address
  action_type := action_type
  auto_rollback_seconds := auto_rollback_seconds

structure PolicyEvaluateResponse where
  dry_run : Bool
  agent_id : String
  risk_score : ℚ
  matched_policy : Option ResponsePolicyResponse := none
  scope : String
  action_type : Option String := none
  affected_groups : List AffectedGroupInfo := []
  affected_agents : List AffectedAgentInfo := []
  simulated_actions : List SimulatedActionInfo := []
  executed : Bool := false
  execution_summary : Dict := []

/-- The incident that an automatic action is filed under: the one given, else the one named in the
context. -/
def effective_incident_id (incident_id : Option String) (context : Dict) : Option String :=
  match incident_id with
  | some "" | none =>
    if context.isEmpty then incident_id
    else
      match context.get "incident_id" with
      | some (.str id) => some id
      | _ => none
  | some id => some id

def optional_num (n : Option ℤ) : Json :=
  (n.map fun n => .num n).getD .null

/-- What `execution_summary` notes for one attempt. -/
def attempt_detail (agent_id : String) : Except AppException String → Json
  | .ok action_id =>
    .obj [("action_id", .str action_id), ("agent_id", .str agent_id), ("status", .str "applied")]
  | .error e =>
    .obj [("agent_id", .str agent_id), ("status", .str "failed"), ("error", .str e.message)]

def GroupBatchActionResult.detail (group_id : String) (self : GroupBatchActionResult) : Json :=
  .obj [("action_id", (self.action_id.map .str).getD .null), ("agent_id", .str self.agent_id),
    ("group_id", .str group_id), ("status", .str self.status), ("error", (self.error.map .str).getD .null)]

/-! ## The graduated response -/

/-- The text `min-max` of a level. -/
def PolicyLevel.range (self : PolicyLevel) : String :=
  toString self.min_score ++ "-" ++ toString self.max_score

/-- The policy that stands in for a level. -/
def PolicyLevel.policy (self : PolicyLevel) (description : String) (action_params : Dict)
    (auto_rollback_seconds : Option ℤ) : ResponsePolicyResponse where
  id := "graduated_" ++ self.action
  name := "Graduated Policy (" ++ self.action ++ ")"
  description := some description
  min_score := .finite self.min_score
  max_score := .finite self.max_score
  action_type := self.action
  scope := "agent"
  action_params := action_params
  auto_rollback_seconds := auto_rollback_seconds
  priority := 0
  is_active := true

/-- `PolicyEngineService._create_alert_only`. -/
def create_alert_only (agent : Agent) (risk_score : ℚ) (level : PolicyLevel) (dry_run : Bool) :
    PolicyEvaluateResponse where
  dry_run := dry_run
  agent_id := agent.id
  risk_score := risk_score
  matched_policy := some (level.policy
    ("Graduated response level for score " ++ level.range ++ ": Alert with analyst action button")
    [("auto", .bool false), ("requires_analyst", .bool true)] none)
  scope := "agent"
  action_type := some level.action
  affected_agents := [agent.info]
  execution_summary :=
    [("status", .str "alert_with_action"), ("action", .str level.action), ("auto", .bool false),
      ("message", .str "Graduated response: alert generated. Action requires analyst confirmation.")]

/-- The levels whose action acts on the agent and is undone automatically. -/
def PolicyLevel.rollback (self : PolicyLevel) : Option ℤ :=
  if self.action ∈ ["kill_process_tree", "isolate"] then some (self.rollback_window.getD 300) else none

/-- `f"{rollback_window}"`. -/
def rollback_text (rollback_window : Option ℤ) : String :=
  (rollback_window.map toString).getD "None"

/-- The parameters of an action that a level takes. -/
def PolicyLevel.action_params (self : PolicyLevel) (agent_id : String) (risk_score : ℚ) (context : Dict) :
    Dict :=
  let params : Dict :=
    [("trigger_agent_id", .str agent_id), ("trigger_score", .num risk_score),
      ("policy_name", .str ("Graduated Response (" ++ self.action ++ ")")),
      ("reason", .str ("Graduated auto action '" ++ self.action ++ "' triggered by score " ++
        score_fixed risk_score ++ " (rollback: " ++ rollback_text self.rollback ++ "s)")),
      ("auto_rollback_seconds", optional_num self.rollback)]
  let params := (context.get "pid").elim params (params.set "pid")
  (context.get "process_name").elim params (params.set "process_name")

/-- `PolicyEngineService._execute`. The levels that only log or alert count as executed. After a failed flush the agent
can no longer be read for the response. -/
def execute_level (env : Env) (agent : Agent) (risk_score : ℚ) (level : PolicyLevel) (context : Dict)
    (incident_id : Option String) (dry_run : Bool) : Service PolicyEvaluateResponse := do
  let response (executed : Bool) (execution_summary : Dict) : PolicyEvaluateResponse :=
    { dry_run, agent_id := agent.id, risk_score
      matched_policy := some (level.policy ("Graduated response auto policy for score " ++ level.range)
        [("auto", .bool true)] level.rollback)
      scope := "agent", action_type := some level.action, affected_agents := [agent.info]
      simulated_actions := [agent.simulate level.action level.rollback], executed, execution_summary }
  if dry_run then
    return response false [("status", .str "dry_run_completed"), ("action", .str level.action)]
  else if level.action = "log_only" then
    return response true [("status", .str "logged"), ("reason", .str "Risk score within normal threshold")]
  else if level.action = "alert" then
    return response true
      [("status", .str "alert_only"), ("reason", .str "Low-to-medium risk alert triggered")]
  else do
    let result ← (create_and_apply env {
      agent_id := agent.id, action_type := level.action
      action_params := level.action_params agent.id risk_score context
      incident_id := effective_incident_id incident_id context
      actor := "policy_engine", auto_rollback_seconds := level.rollback }).outcome
    liftM (reload_row result)
    return response true
      [("status", .str "executed"), ("action", .str level.action),
        ("rollback_window", optional_num level.rollback), ("total_executed", .num 1),
        ("details", .arr [attempt_detail agent.id result])]

/-! ## Stored policies -/

/-- The groups that a policy of scope `group` affects. -/
def ResponsePolicy.relevant_groups (self : ResponsePolicy) (db : Database) (agent_groups : List AgentGroup) :
    List AgentGroup :=
  match self.target_group_id with
  | some "" | none => agent_groups
  | some target =>
    match agent_groups.filter fun group => group.id = target with
    | [] => (db.agent_groups.get target).toList
    | groups => groups

/-- The agents of a list of groups, each once. -/
def unique_agents : List Agent → List Agent
  | [] => []
  | agent :: agents => agent :: (unique_agents agents).filter fun other => other.id ≠ agent.id

/-- The groups that a policy acts on, as the response names them. -/
def ResponsePolicy.affected_groups (self : ResponsePolicy) (db : Database) (agent_groups : List AgentGroup) :
    List AgentGroup :=
  if self.scope = "group" then self.relevant_groups db agent_groups else []

/-- The agents that a policy announces as its targets. An agent without groups stands in for its
group. -/
def ResponsePolicy.target_agents (self : ResponsePolicy) (db : Database) (agent : Agent)
    (agent_groups : List AgentGroup) : List Agent :=
  if self.scope = "agent" then [agent]
  else if self.scope = "group" then
    match unique_agents ((self.relevant_groups db agent_groups).flatMap fun group =>
        db.get_agents_in_group group.id) with
    | [] => [agent]
    | agents => agents
  else []

/-- The request that a policy makes for its own agent, and, agent by agent, for a group. -/
def ResponsePolicy.request (self : ResponsePolicy) (agent_id : String) (risk_score : ℚ)
    (incident_id : Option String) : ActionRequest where
  agent_id := agent_id
  action_type := self.action_type
  action_params :=
    ((((self.action_params.set "trigger_agent_id" (.str agent_id)).set "trigger_score" (.num risk_score)).set
      "policy_id" (.str self.id)).set "policy_name" (.str self.name)).set "reason"
        (.str ("Auto policy '" ++ self.name ++ "' triggered by score " ++ float_str risk_score))
  incident_id := incident_id
  actor := "policy_engine"
  auto_rollback_seconds := self.auto_rollback_seconds

/-- The loop over the affected groups; a group whose action raises is skipped. After a failed flush the policy can no
longer be read for the groups that are left, nor for the response. -/
def execute_groups (env : Env) (request : ActionRequest) : List AgentGroup → Service (List Json)
  | [] => return []
  | group :: groups => do
    let result ← (Batch.execute_group_action env group.id request).outcome
    liftM (reload_row result)
    let details ← execute_groups env request groups
    match result with
    | .ok response => return response.actions.map (·.detail group.id) ++ details
    | .error _ => return details

/-- The live part of `evaluate_and_execute`: what is executed depends on the scope, not on the targets
that were announced. -/
def execute_policy (env : Env) (policy : ResponsePolicy) (request : ActionRequest)
    (affected_groups : List AgentGroup) : Service (List Json) :=
  if policy.scope = "agent" then do
    let result ← (create_and_apply env request).outcome
    liftM (reload_row result)
    return [attempt_detail request.agent_id result]
  else if policy.scope = "group" then execute_groups env request affected_groups
  else return []

def Database.policy_response (db : Database) (policy : ResponsePolicy) : ResponsePolicyResponse :=
  { policy with
    target_group_name := (policy.target_group_id.bind db.agent_groups.get).map AgentGroup.name }

/-- The part of `evaluate_and_execute` for a stored policy. -/
def evaluate_policy (env : Env) (agent : Agent) (risk_score : ℚ) (policy : ResponsePolicy)
    (agent_groups : List AgentGroup) (context : Dict) (incident_id : Option String) (dry_run : Bool) :
    Service PolicyEvaluateResponse := do
  let db ← Service.read_db
  let affected_groups := policy.affected_groups db agent_groups
  let target_agents := policy.target_agents db agent agent_groups
  let response (executed : Bool) (execution_summary : Dict) : PolicyEvaluateResponse :=
    { dry_run, agent_id := agent.id, risk_score, matched_policy := some (db.policy_response policy)
      scope := policy.scope, action_type := some policy.action_type
      affected_groups := affected_groups.map AgentGroup.info
      affected_agents := target_agents.map Agent.info
      simulated_actions := target_agents.map (Agent.simulate policy.action_type policy.auto_rollback_seconds)
      executed, execution_summary }
  if dry_run then
    return response false
      [("status", .str "dry_run_completed"), ("simulated_count", .num target_agents.length)]
  else do
    let details ← execute_policy env policy
      (policy.request agent.id risk_score (effective_incident_id incident_id context)) affected_groups
    return response true
      [("status", .str "executed"), ("total_executed", .num details.length), ("details", .arr details)]

/-- `PolicyEngineService.evaluate_and_execute`. -/
def evaluate_and_execute (env : Env) (agent_id : String) (risk_score : ℚ) (context : Dict) (dry_run : Bool)
    (incident_id : Option String) : Service PolicyEvaluateResponse := do
  let db ← Service.read_db
  let agent ← db.require_agent agent_id
  let agent_groups := db.get_groups_for_agent agent_id
  match db.match_policy risk_score (agent_groups.map AgentGroup.id) with
  | some policy => evaluate_policy env agent risk_score policy agent_groups context incident_id dry_run
  | none =>
    let level := get_action_for_score risk_score
    if level.auto then execute_level env agent risk_score level context incident_id dry_run
    else return create_alert_only agent risk_score level dry_run

/-! ## Matching -/

theorem Database.match_policy_some {db : Database} {score : ℚ} {group_ids : List String}
    {policy : ResponsePolicy} (h : db.match_policy score group_ids = some policy) :
    policy ∈ db.response_policies.rows ∧ policy.is_active ∧ policy.min_score ≤ score ∧
      score ≤ policy.max_score ∧ ∀ group_id ∈ policy.target_group_id, group_id ∈ group_ids := by
  have hmem := List.mem_of_mem_head? h
  rw [find_matching_policies, Table.mem_select_desc] at hmem
  simpa using hmem

section RelevantGroups

variable {policy : ResponsePolicy} {db : Database} {agent_groups : List AgentGroup}

/-- A policy that matched affects groups of the agent, and some of them if there are any. -/
theorem ResponsePolicy.relevant_groups_of_match
    (hmatch : ∀ group_id ∈ policy.target_group_id, group_id ∈ agent_groups.map AgentGroup.id) :
    policy.relevant_groups db agent_groups ⊆ agent_groups ∧
      (policy.relevant_groups db agent_groups = [] ↔ agent_groups = []) := by
  unfold relevant_groups
  split
  · exact ⟨List.Subset.refl _, Iff.rfl⟩
  · exact ⟨List.Subset.refl _, Iff.rfl⟩
  · rename_i target _ htarget
    obtain ⟨group, hgroup, rfl⟩ := List.mem_map.mp (hmatch target htarget)
    have hmem : group ∈ agent_groups.filter fun other => other.id = group.id := by simp [hgroup]
    split
    · rename_i _ hnone
      simp [hnone] at hmem
    · exact ⟨List.filter_subset_self _, iff_of_false (List.ne_nil_of_mem hmem) (List.ne_nil_of_mem hgroup)⟩

end RelevantGroups

/-! ## What the live engine attempts -/

section Live

variable (env : Env)

theorem within_execute_groups (request : ActionRequest) (groups : List AgentGroup) :
    (execute_groups env request groups).Within World.Extends := by
  induction groups with
  | nil => exact Program.within_pure []
  | cons group groups ih =>
    refine (within_execute_group_action env group.id request).outcome.bind fun result =>
      (Program.within_lift (reload_row result)).bind fun _ => ih.bind fun details => ?_
    cases result <;> exact Program.within_pure _

/-- One action is attempted and its failure noted, unless it breaks the session. -/
theorem ends_attempt {A : Type} (req : ActionRequest) (f : Except AppException String → A) (w : World) :
    (do
      let result ← (create_and_apply env req).outcome
      liftM (reload_row result)
      return f result : Service A).Ends w (fun _ w' => w.attempts < w'.attempts) fun w' => w.attempts < w'.attempts := by
  have hattempts := attempts_create_and_apply env req w
  refine Program.ends_step (Program.exec_outcome _ w) (Program.ends_lift (fun _ => ?_) fun _ _ => Program.ends_pure ?_) <;>
    omega

/-- The loop over the groups attempts something in the first one. -/
theorem lt_attempts_execute_groups (request : ActionRequest) {group : AgentGroup} (groups : List AgentGroup)
    {w : World} (hgroup : w.db.agent_groups.get group.id = some group)
    (hmembers : w.db.get_agents_in_group group.id ≠ []) :
    w.attempts < ((execute_groups env request (group :: groups)).exec w).2.attempts := by
  have hfirst := lt_attempts_execute_group_action env request hgroup hmembers
  rw [execute_groups, Program.exec_bind_ok (Program.exec_outcome _ w)]
  refine hfirst.trans_le (World.Extends.attempts ?_)
  refine ((Program.within_lift _).bind fun _ => (within_execute_groups env request groups).bind fun details => ?_) _
  split <;> exact Program.within_pure _

/-- Whether the live engine attempts an action for an agent at a score: the matching policy has the
agent as its scope, or a group and the agent is in one; without a policy, the level of the score
is neither for logging nor for alerting only. -/
def Database.policy_acts (db : Database) (agent_id : String) (score : ℚ) : Bool :=
  match db.match_policy score ((db.get_groups_for_agent agent_id).map AgentGroup.id) with
  | some policy =>
    policy.scope = "agent" ∨ (policy.scope = "group" ∧ !(db.get_groups_for_agent agent_id).isEmpty)
  | none => (get_action_for_score score).action ∉ ["log_only", "alert"]

theorem within_execute_policy (policy : ResponsePolicy) (request : ActionRequest) (groups : List AgentGroup) :
    (execute_policy env policy request groups).Within World.Extends := by
  unfold execute_policy
  split
  · exact (within_create_and_apply env request).outcome.bind fun result =>
      (Program.within_lift (reload_row result)).bind fun _ => Program.within_pure _
  · split
    · exact within_execute_groups env request groups
    · exact Program.within_pure []

/-- Executing a policy attempts something for the agent itself, or when there is a group to act on. It raises only when
an attempt has broken the session. -/
theorem execute_policy_ends (policy : ResponsePolicy) (request : ActionRequest) (groups : List AgentGroup)
    {w : World} (hgroups : ∀ group ∈ groups, w.db.agent_groups.get group.id = some group ∧
      w.db.get_agents_in_group group.id ≠ []) :
    (execute_policy env policy request groups).Ends w
      (fun _ w' => w.attempts < w'.attempts ↔ policy.scope = "agent" ∨ policy.scope = "group" ∧ groups ≠ [])
      fun w' => w.attempts < w'.attempts ∧ (policy.scope = "agent" ∨ policy.scope = "group" ∧ groups ≠ []) := by
  unfold execute_policy
  split
  · rename_i hagent
    simpa [hagent] using ends_attempt env request (fun result => [attempt_detail request.agent_id result]) w
  · rename_i hagent
    split
    · rename_i hgroup
      cases groups with
      | nil => exact Program.ends_pure (by simp [hgroup])
      | cons group groups =>
        have hfirst := lt_attempts_execute_groups env request groups (hgroups group List.mem_cons_self).1
          (hgroups group List.mem_cons_self).2
        unfold Program.Ends
        split <;> rename_i hexec <;> rw [hexec] at hfirst <;> simp [hgroup, hfirst]
    · rename_i hgroup
      exact Program.ends_pure (by simp [hagent, hgroup])

/-- The groups of a matching policy exist and have the agent as a member. -/
theorem affected_groups_of_match {db : Database} {agent : Agent} {policy : ResponsePolicy}
    {score : ℚ} (hagent : agent ∈ db.agents.rows)
    (hmatch : db.match_policy score ((db.get_groups_for_agent agent.id).map AgentGroup.id) = some policy) :
    ∀ group ∈ policy.affected_groups db (db.get_groups_for_agent agent.id),
      db.agent_groups.get group.id = some group ∧ db.get_agents_in_group group.id ≠ [] := by
  intro group hgroup
  have htarget := (Database.match_policy_some hmatch).2.2.2.2
  have hmember : group ∈ db.get_groups_for_agent agent.id := by
    unfold ResponsePolicy.affected_groups at hgroup
    split at hgroup
    · exact (ResponsePolicy.relevant_groups_of_match htarget).1 hgroup
    · cases hgroup
  obtain ⟨hrow, hlink⟩ := Database.mem_get_groups_for_agent.mp hmember
  exact ⟨Table.get_of_mem hrow,
    List.ne_nil_of_mem (Database.mem_get_agents_in_group.mpr ⟨hagent, hlink⟩)⟩

/-- The answer of the live engine: an executed response has attempted something exactly when
`policy_acts` says so, and one that only asks the analyst leaves the action to its caller. -/
structure Engaged (db : Database) (agent_id : String) (score : ℚ) (w w' : World)
    (response : PolicyEvaluateResponse) : Prop where
  matched : response.matched_policy.isSome
  executed : response.executed → (w.attempts < w'.attempts ↔ db.policy_acts agent_id score)
  asked : response.executed = false → db.policy_acts agent_id score

theorem Engaged.of_executed {db : Database} {agent_id : String} {score : ℚ} {w w' : World}
    {response : PolicyEvaluateResponse} (hmatched : response.matched_policy.isSome)
    (hexecuted : response.executed) (hacts : w.attempts < w'.attempts ↔ db.policy_acts agent_id score) :
    Engaged db agent_id score w w' response :=
  ⟨hmatched, fun _ => hacts, fun h => absurd hexecuted (by simp [h])⟩

theorem evaluate_policy_ends {agent : Agent} {score : ℚ} {policy : ResponsePolicy} (context : Dict)
    (incident_id : Option String) {w : World} (hagent : agent ∈ w.db.agents.rows)
    (hmatch : w.db.match_policy score ((w.db.get_groups_for_agent agent.id).map AgentGroup.id) = some policy) :
    (evaluate_policy env agent score policy (w.db.get_groups_for_agent agent.id) context incident_id
      false).Ends w (fun response w' => Engaged w.db agent.id score w w' response)
        fun _ => w.db.policy_acts agent.id score := by
  have htarget := (Database.match_policy_some hmatch).2.2.2.2
  have hnone : policy.relevant_groups w.db (w.db.get_groups_for_agent agent.id) = [] ↔
      w.db.get_groups_for_agent agent.id = [] := (ResponsePolicy.relevant_groups_of_match htarget).2
  have hacts : w.db.policy_acts agent.id score ↔ policy.scope = "agent" ∨
      policy.scope = "group" ∧ policy.affected_groups w.db (w.db.get_groups_for_agent agent.id) ≠ [] := by
    rw [Database.policy_acts, hmatch]
    by_cases hscope : policy.scope = "group" <;> simp [hscope, ResponsePolicy.affected_groups, hnone]
  have hexecute := execute_policy_ends env policy
    (policy.request agent.id score (effective_incident_id incident_id context)) _ (affected_groups_of_match hagent hmatch)
  refine Program.ends_step (Service.exec_read_db w) (Program.Ends.bind (P := fun _ w' =>
    w.attempts < w'.attempts ↔ w.db.policy_acts agent.id score) ?_ fun details w' hattempts =>
      Program.ends_pure (.of_executed rfl rfl hattempts))
  unfold Program.Ends at hexecute ⊢
  split <;> rename_i hexec <;> rw [hexec] at hexecute
  · rw [hacts]
    exact hexecute
  · exact hacts.mpr hexecute.2

theorem execute_level_ends {agent : Agent} {score : ℚ} (context : Dict) (incident_id : Option String)
    {w : World} (hnone : w.db.match_policy score ((w.db.get_groups_for_agent agent.id).map AgentGroup.id) = none) :
    (execute_level env agent score (get_action_for_score score) context incident_id
      false).Ends w (fun response w' => Engaged w.db agent.id score w w' response)
        fun _ => w.db.policy_acts agent.id score := by
  simp only [execute_level, Bool.false_eq_true, if_false]
  split
  · rename_i hlog
    exact Program.ends_pure (.of_executed rfl rfl (by simp [Database.policy_acts, hnone, hlog]))
  · rename_i hlog
    split
    · rename_i halert
      exact Program.ends_pure (.of_executed rfl rfl (by simp [Database.policy_acts, hnone, halert]))
    · rename_i halert
      have hacts : w.db.policy_acts agent.id score := by simp [Database.policy_acts, hnone, hlog, halert]
      refine Program.ends_step (Program.exec_outcome _ w) (Program.ends_lift (fun _ => hacts) fun _ _ =>
        Program.ends_pure (.of_executed rfl rfl (iff_of_true ?_ hacts)))
      rw [attempts_create_and_apply]
      exact Nat.lt_succ_self _

/-- The live engine returns for every registered agent, or raises after it has attempted something. -/
theorem evaluate_and_execute_ends {agent_id : String} {agent : Agent} (score : ℚ) (context : Dict)
    (incident_id : Option String) {w : World} (hagent : w.db.agents.get agent_id = some agent) :
    (evaluate_and_execute env agent_id score context false incident_id).Ends w
      (fun response w' => Engaged w.db agent_id score w w' response) fun _ => w.db.policy_acts agent_id score := by
  obtain rfl : agent.id = agent_id := Table.key_of_get hagent
  refine Program.ends_step (Service.exec_read_db w)
    (Program.ends_step (Program.exec_lift_ok (Database.require_agent_eq_ok_iff.mpr hagent) w) ?_)
  cases hmatch : w.db.match_policy score ((w.db.get_groups_for_agent agent.id).map AgentGroup.id) with
  | some policy =>
    simp only [hmatch]
    exact evaluate_policy_ends env context incident_id (Table.get_mem hagent) hmatch
  | none =>
    simp only [hmatch]
    split
    · exact execute_level_ends env context incident_id hmatch
    · rename_i hauto
      refine Program.ends_pure ⟨rfl, fun h => absurd h Bool.false_ne_true, fun _ => ?_⟩
      simp only [Database.policy_acts, hmatch]
      exact decide_eq_true (asks_of_not_auto hauto)

theorem within_evaluate_and_execute (agent_id : String) (score : ℚ) (context : Dict) (dry_run : Bool)
    (incident_id : Option String) :
    (evaluate_and_execute env agent_id score context dry_run incident_id).Within World.Extends := by
  refine Service.within_read_db.bind fun db => (Program.within_lift _).bind fun agent => ?_
  dsimp only
  split
  · refine Service.within_read_db.bind fun db => ?_
    dsimp only
    split
    · exact Program.within_pure _
    · exact (within_execute_policy env _ _ _).bind fun _ => Program.within_pure _
  · split
    · unfold execute_level
      dsimp only
      split_ifs
      · exact Program.within_pure _
      · exact Program.within_pure _
      · exact Program.within_pure _
      · exact (within_create_and_apply env _).outcome.bind fun result =>
          (Program.within_lift (reload_row result)).bind fun _ => Program.within_pure _
    · exact Program.within_pure _

/-- What the engine looks up to decide stays as it is while a service acts. -/
theorem Database.policy_acts_congr {db db' : Database} (h : db'.roster = db.roster) (agent_id : String)
    (score : ℚ) : db'.policy_acts agent_id score = db.policy_acts agent_id score := by
  simp only [roster, Prod.mk.injEq] at h
  obtain ⟨-, hpolicies, hgroups, hmembers⟩ := h
  have hgroup : db'.get_groups_for_agent agent_id = db.get_groups_for_agent agent_id := by
    simp only [get_groups_for_agent, hgroups, hmembers]
  have hmatch (group_ids : List String) : db'.match_policy score group_ids = db.match_policy score group_ids := by
    simp only [match_policy, find_matching_policies, hpolicies]
  simp only [policy_acts, hgroup, hmatch]

end Live

/-- The seeded policy that isolates the groups of an agent at a critical score. -/
def pol_isolate_group : ResponsePolicy where
  id := "pol_isolate_group"
  name := "Critical Risk Isolate Group"
  description := some "Isolate entire department / network zone when critical score (85+)"
  min_score := 85
  max_score := 100
  action_type := "isolate"
  scope := "group"
  auto_rollback_seconds := some 300
  priority := 40

end larp
