import ActiveResponse.Response.PolicyEngine

namespace larp

/-- The agent and the type of an action that a transaction attempts to create. -/
def Op.requested : Op → Option (String × String)
  | .create_and_apply_action _ _ _ req => some (req.agent_id, req.action_type)
  | _ => none

/-- The calls of `create_and_apply_action` made so far, as pairs of agent and action type. -/
def World.requests (self : World) : List (String × String) :=
  self.trace.filterMap fun call => call.op.requested

def SimulatedActionInfo.target (self : SimulatedActionInfo) : String × String :=
  (self.agent_id, self.action_type)

/-! ## What the live engine requests -/

section Requests

variable (env : Env)

theorem requests_call (op : Op) (w : World) :
    ((Service.call env op).exec w).2.requests = w.requests ++ op.requested.toList := by
  rw [Service.exec_call]
  simp only [World.requests, List.filterMap_append, List.append_cancel_left_eq]
  cases h : op.requested <;> simp [h]

theorem requests_create_and_apply (req : ActionRequest) (w : World) :
    ((create_and_apply env req).exec w).2.requests = w.requests ++ [(req.agent_id, req.action_type)] := by
  rw [create_and_apply, Program.exec_bind_ok (Service.exec_fresh env "act_" 0 w),
    Program.exec_bind_ok (Service.exec_fresh env "cmd_" 1 w), requests_call]
  rfl

/-- The members of the groups, one group after the other. -/
def Database.visits (db : Database) (groups : List AgentGroup) : List (AgentGroup × Agent) :=
  groups.flatMap fun group => (db.get_agents_in_group group.id).map fun agent => (group, agent)

/-- What the live run asks for on its visit to a member. -/
def visit_action (request : ActionRequest) (visit : AgentGroup × Agent) : Service String :=
  Batch.member_action env (request.for_member visit.1) visit.2

theorem requests_ending (request : ActionRequest) (visits : List (AgentGroup × Agent)) (w : World) :
    (Batch.ending (visit_action env request) visits w).requests =
      w.requests ++ visits.map fun visit => (visit.2.id, request.action_type) := by
  induction visits generalizing w with
  | nil => rw [List.map_nil, List.append_nil]; rfl
  | cons visit visits ih =>
    rw [Batch.ending, ih, visit_action, Batch.member_action, requests_create_and_apply, List.append_assoc]
    rfl

theorem visits_congr {db db' : Database} (h : db'.roster = db.roster) : db'.visits = db.visits := by
  simp only [Database.roster, Prod.mk.injEq] at h
  obtain ⟨hagents, -, -, hmembers⟩ := h
  funext groups
  simp only [Database.visits, Database.get_agents_in_group, hagents, hmembers]

/-- The part of the visits that belongs to one group is an action on the group. -/
theorem exec_visit_group (request : ActionRequest) {group : AgentGroup} {w : World}
    (hgroup : w.db.agent_groups.get group.id = some group) :
    ∃ result, (Batch.execute_group_action env group.id request).exec w =
        (result, Batch.ending (visit_action env request)
          (Batch.attempted (visit_action env request) (w.db.visits [group]) w) w) ∧
      (reload_row result = .ok () ↔ Batch.Usable (Batch.outcomes (visit_action env request) (w.db.visits [group]) w)) := by
  obtain ⟨result, hexec, hreload⟩ := exec_execute_group_action env request hgroup
  have hcall : (fun agent => visit_action env request (group, agent)) =
      Batch.member_action env (request.for_member group) := rfl
  have hvisits : w.db.visits [group] = (w.db.get_agents_in_group group.id).map fun agent => (group, agent) :=
    List.flatMap_singleton _ _
  refine ⟨result, ?_, ?_⟩
  · rw [hexec, hvisits, Batch.attempted_map, Batch.ending_map, hcall]
  · rw [hreload, hvisits, Batch.outcomes_map, hcall]

/-- The live engine visits the members of all affected groups, until an attempt breaks the session. -/
theorem exec_execute_groups (request : ActionRequest) (groups : List AgentGroup) (w : World)
    (hgroups : ∀ group ∈ groups, w.db.agent_groups.get group.id = some group) :
    ((execute_groups env request groups).exec w).2 = Batch.ending (visit_action env request)
      (Batch.attempted (visit_action env request) (w.db.visits groups) w) w := by
  induction groups generalizing w with
  | nil => rfl
  | cons group groups ih =>
    obtain ⟨result, hexec, hreload⟩ := exec_visit_group env request (hgroups group List.mem_cons_self)
    have hroster := (within_execute_group_action env group.id request).of_exec hexec |>.roster
    have hvisits : w.db.visits ([group] ++ groups) = w.db.visits [group] ++ w.db.visits groups :=
      List.flatMap_append
    rw [List.singleton_append] at hvisits
    rw [execute_groups, Program.exec_bind_ok (Program.exec_outcome _ w), hexec, hvisits]
    by_cases husable : Batch.Usable (Batch.outcomes (visit_action env request) (w.db.visits [group]) w)
    · rw [Batch.attempted_of_usable husable] at hroster ⊢
      rw [Program.exec_bind_ok (Program.exec_lift_ok (hreload.mpr husable) _),
        Batch.attempted_append_of_usable _ husable, Batch.ending_append, ← congrFun (visits_congr hroster) groups, ← ih]
      · refine Program.exec_bind_snd (fun details w' => ?_) _
        cases result <;> rfl
      · intro other hother
        have hkept := congrArg (fun roster => roster.2.2.1) hroster
        dsimp only [Database.roster] at hkept
        rw [hkept]
        exact hgroups other (List.mem_cons_of_mem group hother)
    · rw [Batch.attempted_append_of_not_usable _ husable, Program.exec_bind, Program.exec_lift]
      cases hrow : reload_row result with
      | ok _ => exact absurd (hreload.mp hrow) husable
      | error e => rfl

/-- The pairs that a policy requests when it is executed. -/
def ResponsePolicy.live_targets (self : ResponsePolicy) (request : ActionRequest) (w : World)
    (affected_groups : List AgentGroup) : List (String × String) :=
  if self.scope = "agent" then [(request.agent_id, self.action_type)]
  else if self.scope = "group" then
    (Batch.attempted (visit_action env request) (w.db.visits affected_groups) w).map
      fun visit => (visit.2.id, self.action_type)
  else []

theorem execute_policy_requests (policy : ResponsePolicy) (request : ActionRequest) (groups : List AgentGroup)
    {w : World} (htype : request.action_type = policy.action_type)
    (hgroups : ∀ group ∈ groups, w.db.agent_groups.get group.id = some group) :
    ((execute_policy env policy request groups).exec w).2.requests =
      w.requests ++ policy.live_targets env request w groups := by
  unfold execute_policy ResponsePolicy.live_targets
  split
  · rw [Program.exec_bind_ok (Program.exec_outcome _ w), Program.exec_bind, Program.exec_lift]
    cases reload_row ((create_and_apply env request).exec w).1 <;>
      exact (requests_create_and_apply env request w).trans (by rw [htype])
  · split
    · rw [exec_execute_groups env request groups w hgroups, requests_ending, htype]
    · simp

theorem evaluate_policy_requests {agent : Agent} {score : ℚ} {policy : ResponsePolicy} (context : Dict)
    (incident_id : Option String) {w : World} (hagent : agent ∈ w.db.agents.rows)
    (hmatch : w.db.match_policy score ((w.db.get_groups_for_agent agent.id).map AgentGroup.id) = some policy) :
    ((evaluate_policy env agent score policy (w.db.get_groups_for_agent agent.id) context incident_id
      false).exec w).2.requests = w.requests ++ policy.live_targets env
        (policy.request agent.id score (effective_incident_id incident_id context)) w
        (policy.affected_groups w.db (w.db.get_groups_for_agent agent.id)) := by
  have hgroups := fun group hgroup => (affected_groups_of_match hagent hmatch group hgroup).1
  have hrequests := execute_policy_requests env policy
    (policy.request agent.id score (effective_incident_id incident_id context)) _ rfl hgroups
  rw [← hrequests, evaluate_policy, Program.exec_bind_ok (Service.exec_read_db w)]
  simp only [Bool.false_eq_true, if_false]
  rw [Program.exec_bind_snd (fun _ _ => rfl)]

theorem evaluate_policy_preview (agent : Agent) (score : ℚ) (policy : ResponsePolicy)
    (agent_groups : List AgentGroup) (context : Dict) (incident_id : Option String) (w : World) :
    (evaluate_policy env agent score policy agent_groups context incident_id true).Returns w
      fun response w' => w' = w ∧ response.simulated_actions.map SimulatedActionInfo.target =
        (policy.target_agents w.db agent agent_groups).map fun target => (target.id, policy.action_type) := by
  refine Program.returns_step (Service.exec_read_db w) (Program.returns_pure ⟨rfl, ?_⟩)
  rw [List.map_map]
  rfl

/-- With a matching policy the engine hands over to it. -/
theorem exec_evaluate_of_match {agent_id : String} {agent : Agent} {score : ℚ} {policy : ResponsePolicy}
    (context : Dict) (dry_run : Bool) (incident_id : Option String) {w : World}
    (hagent : w.db.agents.get agent_id = some agent)
    (hmatch : w.db.match_policy score ((w.db.get_groups_for_agent agent_id).map AgentGroup.id) = some policy) :
    (evaluate_and_execute env agent_id score context dry_run incident_id).exec w =
      (evaluate_policy env agent score policy (w.db.get_groups_for_agent agent_id) context incident_id
        dry_run).exec w := by
  rw [evaluate_and_execute, Program.exec_bind_ok (Service.exec_read_db w),
    Program.exec_bind_ok (Program.exec_lift_ok (Database.require_agent_eq_ok_iff.mpr hagent) w)]
  simp only [hmatch]

end Requests

/-! ## Agents named once -/

theorem unique_agents_nodup (agents : List Agent) : ((unique_agents agents).map Agent.id).Nodup := by
  induction agents with
  | nil => exact List.nodup_nil
  | cons agent agents ih =>
    rw [unique_agents, List.map_cons, List.nodup_cons]
    refine ⟨by simp, ih.sublist ?_⟩
    exact List.filter_sublist.map Agent.id

theorem mem_unique_agents {agents : List Agent} {id : String} :
    id ∈ (unique_agents agents).map Agent.id ↔ id ∈ agents.map Agent.id := by
  induction agents with
  | nil => rfl
  | cons agent agents ih =>
    rw [unique_agents, List.map_cons, List.mem_cons, List.map_cons, List.mem_cons, ← ih]
    by_cases hid : id = agent.id
    · simp [hid]
    · simp only [hid, false_or, List.mem_map, List.mem_filter]
      constructor
      · rintro ⟨other, ⟨hother, -⟩, rfl⟩
        exact ⟨other, hother, rfl⟩
      · rintro ⟨other, hother, rfl⟩
        exact ⟨other, ⟨hother, by simpa using hid⟩, rfl⟩

theorem Database.agents_in_group_nodup (db : Database) (group : AgentGroup) :
    ((db.get_agents_in_group group.id).map Agent.id).Nodup := by
  have hrows : (db.agents.rows.map Agent.id).Nodup := db.agents.nodup
  have hfilter : ((db.agents.rows.filter fun agent =>
      ⟨group.id, agent.id⟩ ∈ db.agent_group_members).map Agent.id).Nodup :=
    hrows.sublist (List.filter_sublist.map Agent.id)
  exact ((List.perm_insertionSort _ _).map Agent.id).nodup_iff.mpr hfilter

/-! ## Visits to each member -/

def visited_ids (visits : List (AgentGroup × Agent)) : List String := visits.map fun visit => visit.2.id

section Visits

variable {db : Database} {agent : Agent} {policy : ResponsePolicy} {score : ℚ}

theorem visited_ids_cons (group : AgentGroup) (groups : List AgentGroup) : visited_ids (db.visits (group :: groups)) =
    (db.get_agents_in_group group.id).map Agent.id ++ visited_ids (db.visits groups) := by
  simp only [visited_ids, Database.visits, List.flatMap_cons, List.map_append, List.map_map]
  rfl

/-- The agent of a matching policy is visited in every group that the policy affects. -/
theorem mem_group_of_match (hagent : agent ∈ db.agents.rows)
    (hmatch : db.match_policy score ((db.get_groups_for_agent agent.id).map AgentGroup.id) = some policy) :
    ∀ group ∈ policy.relevant_groups db (db.get_groups_for_agent agent.id),
      agent.id ∈ (db.get_agents_in_group group.id).map Agent.id := by
  intro group hgroup
  have htarget := (Database.match_policy_some hmatch).2.2.2.2
  have hlink := (Database.mem_get_groups_for_agent.mp ((ResponsePolicy.relevant_groups_of_match htarget).1 hgroup)).2
  exact List.mem_map_of_mem (Database.mem_get_agents_in_group.mpr ⟨hagent, hlink⟩)

/-- No member is visited twice exactly if there is one group: the agent is visited in each. -/
theorem nodup_visited_ids_iff (hagent : agent ∈ db.agents.rows)
    (hmatch : db.match_policy score ((db.get_groups_for_agent agent.id).map AgentGroup.id) = some policy)
    (hsome : policy.relevant_groups db (db.get_groups_for_agent agent.id) ≠ []) :
    (visited_ids (db.visits (policy.relevant_groups db (db.get_groups_for_agent agent.id)))).Nodup ↔
      (policy.relevant_groups db (db.get_groups_for_agent agent.id)).length = 1 := by
  have hmem := mem_group_of_match hagent hmatch
  generalize policy.relevant_groups db (db.get_groups_for_agent agent.id) = groups at hmem hsome
  cases groups with
  | nil => exact absurd rfl hsome
  | cons first rest =>
    rw [visited_ids_cons]
    cases rest with
    | nil => simpa [Database.visits, visited_ids] using db.agents_in_group_nodup first
    | cons second rest =>
      refine iff_of_false (fun hnodup => ?_) (by simp)
      rw [visited_ids_cons, List.nodup_append'] at hnodup
      exact hnodup.2.2 (hmem first (by simp)) (List.mem_append_left _ (hmem second (by simp)))

/-- The agents that a group policy announces are those that are visited, each once. -/
theorem target_agents_of_group (hscope : policy.scope = "group") (hagent : agent ∈ db.agents.rows)
    (hmatch : db.match_policy score ((db.get_groups_for_agent agent.id).map AgentGroup.id) = some policy)
    (hsome : policy.relevant_groups db (db.get_groups_for_agent agent.id) ≠ []) :
    ((policy.target_agents db agent (db.get_groups_for_agent agent.id)).map Agent.id).Nodup ∧
      ∀ id, id ∈ (policy.target_agents db agent (db.get_groups_for_agent agent.id)).map Agent.id ↔
        id ∈ visited_ids (db.visits (policy.relevant_groups db (db.get_groups_for_agent agent.id))) := by
  have hmem := mem_group_of_match hagent hmatch
  have hvisits : visited_ids (db.visits (policy.relevant_groups db (db.get_groups_for_agent agent.id))) =
      ((policy.relevant_groups db (db.get_groups_for_agent agent.id)).flatMap fun group =>
        db.get_agents_in_group group.id).map Agent.id := by
    simp only [visited_ids, Database.visits, List.map_flatMap, List.map_map]
    rfl
  have htargets : policy.target_agents db agent (db.get_groups_for_agent agent.id) =
      unique_agents ((policy.relevant_groups db (db.get_groups_for_agent agent.id)).flatMap fun group =>
        db.get_agents_in_group group.id) := by
    simp only [ResponsePolicy.target_agents, hscope, show ("group" : String) ≠ "agent" by decide, if_false, if_true]
    split
    · rename_i hnil
      obtain ⟨group, hgroup⟩ := List.exists_mem_of_ne_nil _ hsome
      obtain ⟨member, hmember, -⟩ := List.mem_map.mp (hmem group hgroup)
      have hflat : member ∈ (policy.relevant_groups db (db.get_groups_for_agent agent.id)).flatMap fun group =>
          db.get_agents_in_group group.id := List.mem_flatMap.mpr ⟨group, hgroup, hmember⟩
      have hvisited := mem_unique_agents.mpr (List.mem_map_of_mem (f := Agent.id) hflat)
      rw [hnil] at hvisited
      cases hvisited
    · rfl
  rw [hvisits, htargets]
  exact ⟨unique_agents_nodup _, fun id => mem_unique_agents⟩

end Visits

/-- A failed flush ends the visits just when each member has had one. -/
def EndsInTime (env : Env) (request : ActionRequest) (visits : List (AgentGroup × Agent)) (w : World) : Prop :=
  ∃ before last after, visits = before ++ last :: after ∧
    Batch.Usable (Batch.outcomes (visit_action env request) before w) ∧
    ¬ Batch.Usable (Batch.outcomes (visit_action env request) (before ++ [last]) w) ∧
    (visited_ids (before ++ [last])).Nodup ∧ ∀ visit ∈ after, visit.2.id ∈ visited_ids (before ++ [last])

/-- The attempts reach each member once exactly if all visits are made and none is a second one, or if a failed flush
ends them in time. -/
theorem attempted_once_iff (env : Env) (request : ActionRequest) (visits : List (AgentGroup × Agent)) (w : World) :
    ((visited_ids (Batch.attempted (visit_action env request) visits w)).Nodup ∧
      ∀ id ∈ visited_ids visits, id ∈ visited_ids (Batch.attempted (visit_action env request) visits w)) ↔
      (visited_ids visits).Nodup ∧ Batch.Usable (Batch.outcomes (visit_action env request) visits w) ∨
        EndsInTime env request visits w := by
  constructor
  · rintro ⟨hnodup, hall⟩
    by_cases husable : Batch.Usable (Batch.outcomes (visit_action env request) visits w)
    · rw [Batch.attempted_of_usable husable] at hnodup
      exact .inl ⟨hnodup, husable⟩
    · obtain ⟨before, last, after, rfl, hbefore, hbroken⟩ := Batch.exists_break husable
      rw [Batch.attempted_of_break hbefore hbroken] at hnodup hall
      refine .inr ⟨before, last, after, rfl, hbefore, hbroken, hnodup, fun visit hvisit => hall _ ?_⟩
      exact List.mem_map_of_mem (f := fun visit : AgentGroup × Agent => visit.2.id)
        (List.mem_append_right before (List.mem_cons_of_mem last hvisit))
  · rintro (⟨hnodup, husable⟩ | ⟨before, last, after, rfl, hbefore, hbroken, hnodup, hafter⟩)
    · rw [Batch.attempted_of_usable husable]
      exact ⟨hnodup, fun _ hid => hid⟩
    · rw [Batch.attempted_of_break hbefore hbroken]
      refine ⟨hnodup, fun id hid => ?_⟩
      rw [List.append_cons, visited_ids, List.map_append, List.mem_append] at hid
      rcases hid with hid | hid
      · exact hid
      · obtain ⟨visit, hvisit, rfl⟩ := List.mem_map.mp hid
        exact hafter visit hvisit

theorem attempted_subset {A : Type} {op : A → Service String} {items : List A} {w : World} :
    Batch.attempted op items w ⊆ items := by
  by_cases husable : Batch.Usable (Batch.outcomes op items w)
  · rw [Batch.attempted_of_usable husable]
    exact List.Subset.refl _
  · obtain ⟨before, last, after, rfl, hbefore, hbroken⟩ := Batch.exists_break husable
    rw [Batch.attempted_of_break hbefore hbroken, List.append_cons before last after]
    exact List.subset_append_left _ _

/-- Targets without repetition that are those of the visits are what the attempts reach, exactly if these reach each
member once. -/
theorem targets_perm_attempted_iff {targets : List Agent} {visits visited : List (AgentGroup × Agent)}
    (action_type : String) (hnodup : (targets.map Agent.id).Nodup)
    (hmem : ∀ id, id ∈ targets.map Agent.id ↔ id ∈ visited_ids visits) (hsubset : visited ⊆ visits) :
    ((targets.map fun target => (target.id, action_type)).Perm
      (visited.map fun visit => (visit.2.id, action_type))) ↔
      (visited_ids visited).Nodup ∧ ∀ id ∈ visited_ids visits, id ∈ visited_ids visited := by
  have hinjective : Function.Injective fun id : String => (id, action_type) := fun _ _ h => (Prod.mk.inj h).1
  have hpairs : ((targets.map fun target => (target.id, action_type)).Perm
      (visited.map fun visit => (visit.2.id, action_type))) ↔
      (targets.map Agent.id).Perm (visited_ids visited) := by
    rw [← List.map_perm_map_iff hinjective, visited_ids, List.map_map, List.map_map]
    rfl
  rw [hpairs]
  constructor
  · intro hperm
    exact ⟨hperm.nodup_iff.mp hnodup, fun id hid => hperm.mem_iff.mp ((hmem id).mpr hid)⟩
  · rintro ⟨honce, hall⟩
    refine (List.perm_ext_iff_of_nodup hnodup honce).mpr fun id => ?_
    rw [hmem]
    refine ⟨hall id, fun hid => ?_⟩
    obtain ⟨visit, hvisit, rfl⟩ := List.mem_map.mp hid
    exact List.mem_map_of_mem (hsubset hvisit)

/-- The announced targets of a policy are what it requests, up to order, exactly when its scope is not
`group`, or it affects exactly one group and no attempt breaks the session, or one does after each member
was attempted once. -/
theorem targets_perm_iff (env : Env) {w : World} {agent : Agent} {policy : ResponsePolicy} {score : ℚ}
    {request : ActionRequest} (hrequest : request.agent_id = agent.id) (hagent : agent ∈ w.db.agents.rows)
    (hmatch : w.db.match_policy score ((w.db.get_groups_for_agent agent.id).map AgentGroup.id) = some policy) :
    let groups := policy.relevant_groups w.db (w.db.get_groups_for_agent agent.id)
    ((policy.target_agents w.db agent (w.db.get_groups_for_agent agent.id)).map
        fun target => (target.id, policy.action_type)).Perm
      (policy.live_targets env request w (policy.affected_groups w.db (w.db.get_groups_for_agent agent.id))) ↔
      policy.scope ≠ "group" ∨
        groups.length = 1 ∧ Batch.Usable (Batch.outcomes (visit_action env request) (w.db.visits groups) w) ∨
        EndsInTime env request (w.db.visits groups) w := by
  dsimp only
  by_cases hgroup : policy.scope = "group"
  · simp only [ResponsePolicy.live_targets, ResponsePolicy.affected_groups, hgroup,
      show ("group" : String) ≠ "agent" by decide, if_false, if_true, ne_eq, not_true_eq_false, false_or]
    by_cases hnone : policy.relevant_groups w.db (w.db.get_groups_for_agent agent.id) = []
    · -- the agent stands in for its groups, and nothing is requested
      rw [hnone]
      refine iff_of_false (fun hperm => ?_) ?_
      · have hlength := hperm.length_eq
        simp [Database.visits, Batch.attempted, ResponsePolicy.target_agents, hgroup, hnone, unique_agents] at hlength
      · rintro (⟨hone, -⟩ | ⟨before, last, after, hvisits, -⟩)
        · cases hone
        · simp [Database.visits] at hvisits
    · obtain ⟨hnodup, hmem⟩ := target_agents_of_group hgroup hagent hmatch hnone
      rw [← nodup_visited_ids_iff hagent hmatch hnone, ← attempted_once_iff]
      exact targets_perm_attempted_iff policy.action_type hnodup hmem attempted_subset
  · by_cases hscope : policy.scope = "agent" <;>
      simp [ResponsePolicy.live_targets, ResponsePolicy.target_agents, hgroup, hscope, hrequest]

/-- What a dry run simulates for a stored policy is what the live run from the same state requests. -/
def DryRunLaw (env : Env) : Prop :=
  ∀ (agent_id : String) (agent : Agent) (score : ℚ) (policy : ResponsePolicy) (context : Dict)
    (incident_id : Option String) (w w₁ w₂ : World) (preview : PolicyEvaluateResponse)
    (live : Except AppException PolicyEvaluateResponse) (attempts : List (String × String)),
    w.db.agents.get agent_id = some agent →
      w.db.match_policy score ((w.db.get_groups_for_agent agent_id).map AgentGroup.id) = some policy →
      (evaluate_and_execute env agent_id score context true incident_id).exec w = (.ok preview, w₁) →
      (evaluate_and_execute env agent_id score context false incident_id).exec w = (live, w₂) →
      w₂.requests = w.requests ++ attempts →
      (preview.simulated_actions.map SimulatedActionInfo.target).Perm attempts

/-- For a matching policy the simulated actions of a dry run are the actions that the live run requests,
up to order, exactly when the scope of the policy is not `group`, or it affects exactly one group and no
attempt breaks the session, or one does after each member was attempted once: the live run loops over the
groups, where the dry run has collected the agents. -/
theorem dry_run_agrees_iff (env : Env) {agent_id : String} {agent : Agent} {score : ℚ}
    {policy : ResponsePolicy} (context : Dict) (incident_id : Option String) {w : World}
    (hagent : w.db.agents.get agent_id = some agent)
    (hmatch : w.db.match_policy score ((w.db.get_groups_for_agent agent_id).map AgentGroup.id) = some policy) :
    let groups := policy.relevant_groups w.db (w.db.get_groups_for_agent agent_id)
    let request := policy.request agent_id score (effective_incident_id incident_id context)
    ∃ preview live w' attempts,
      (evaluate_and_execute env agent_id score context true incident_id).exec w = (.ok preview, w) ∧
        (evaluate_and_execute env agent_id score context false incident_id).exec w = (live, w') ∧
        w'.requests = w.requests ++ attempts ∧
        ((preview.simulated_actions.map SimulatedActionInfo.target).Perm attempts ↔
          policy.scope ≠ "group" ∨
            groups.length = 1 ∧ Batch.Usable (Batch.outcomes (visit_action env request) (w.db.visits groups) w) ∨
            EndsInTime env request (w.db.visits groups) w) := by
  obtain rfl : agent.id = agent_id := Table.key_of_get hagent
  obtain ⟨preview, w₁, hpreview, hsame, hsimulated⟩ :=
    evaluate_policy_preview env agent score policy (w.db.get_groups_for_agent agent.id) context incident_id w
  rw [hsame] at hpreview
  have hrequests := evaluate_policy_requests env context incident_id (Table.get_mem hagent) hmatch
  obtain ⟨live, w', hlive⟩ : ∃ live w', (evaluate_policy env agent score policy (w.db.get_groups_for_agent agent.id)
      context incident_id false).exec w = (live, w') := ⟨_, _, rfl⟩
  rw [hlive] at hrequests
  refine ⟨preview, live, w', _, ?_, ?_, hrequests, ?_⟩
  · rw [exec_evaluate_of_match env context true incident_id hagent hmatch]
    exact hpreview
  · rw [exec_evaluate_of_match env context false incident_id hagent hmatch]
    exact hlive
  · rw [hsimulated]
    exact targets_perm_iff env rfl (Table.get_mem hagent) hmatch

/-- The agent is in one group, which the seeded policy affects. -/
def one_group : Database :=
  { Database.one_agent with
    agent_groups := ⟨[{ id := "grp_1", name := "servers" }], by decide⟩
    agent_group_members := [⟨"grp_1", "web-1"⟩]
    response_policies := ⟨[pol_isolate_group], by decide⟩ }

theorem dry_run_agrees_one_group :
    ∃ (policy : ResponsePolicy) (preview : PolicyEvaluateResponse) (live : Except AppException PolicyEvaluateResponse)
      (w' : World) (attempts : List (String × String)),
      (evaluate_and_execute quiet_env "web-1" 90 [] true none).exec { db := one_group } =
          (.ok preview, { db := one_group }) ∧
        (evaluate_and_execute quiet_env "web-1" 90 [] false none).exec { db := one_group } = (live, w') ∧
        w'.requests = [] ++ attempts ∧
        ((preview.simulated_actions.map SimulatedActionInfo.target).Perm attempts ↔
          policy.scope ≠ "group" ∨
            (policy.relevant_groups one_group (one_group.get_groups_for_agent "web-1")).length = 1 ∧
              Batch.Usable (Batch.outcomes (visit_action quiet_env (policy.request "web-1" 90 none))
                (one_group.visits (policy.relevant_groups one_group (one_group.get_groups_for_agent "web-1")))
                { db := one_group }) ∨
            EndsInTime quiet_env (policy.request "web-1" 90 none)
              (one_group.visits (policy.relevant_groups one_group (one_group.get_groups_for_agent "web-1")))
              { db := one_group }) := by
  obtain ⟨policy, hmatch⟩ := Option.isSome_iff_exists.mp (by decide +kernel :
    (one_group.match_policy 90 ((one_group.get_groups_for_agent "web-1").map AgentGroup.id)).isSome)
  exact ⟨policy, dry_run_agrees_iff quiet_env [] none rfl hmatch⟩

/-- For an agent that is in no group the dry run announces the agent, and the live run requests nothing. -/
theorem not_dryRunLaw_no_group : ¬DryRunLaw quiet_env := by
  intro hlaw
  let w : World := { db := { Database.one_agent with response_policies := ⟨[pol_isolate_group], by decide⟩ } }
  obtain ⟨policy, hmatch⟩ := Option.isSome_iff_exists.mp (by decide +kernel :
    (w.db.match_policy 90 ((w.db.get_groups_for_agent "web-1").map AgentGroup.id)).isSome)
  obtain ⟨preview, hpreview⟩ := Program.exec_of_isOk (x := evaluate_and_execute quiet_env "web-1" 90 [] true none)
    (w := w) (by decide +kernel)
  have hattempts := hlaw "web-1" _ 90 policy [] none w _ _ preview _ [] rfl hmatch hpreview rfl (by decide +kernel)
  have hsimulated : ((evaluate_and_execute quiet_env "web-1" 90 [] true none).exec w).1.toOption.map
      (fun response => response.simulated_actions.map SimulatedActionInfo.target) = some [("web-1", "isolate")] := by
    decide +kernel
  rw [hpreview] at hsimulated
  have hlist : preview.simulated_actions.map SimulatedActionInfo.target = [("web-1", "isolate")] :=
    Option.some.inj hsimulated
  rw [hlist] at hattempts
  exact absurd hattempts (by decide)

end larp
