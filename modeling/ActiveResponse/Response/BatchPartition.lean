import ActiveResponse.Response.Batch

namespace larp

/-! ## Attempts, row by row -/

/-- The row that an operation of a batch is about. -/
def Op.subject : Op → Option String
  | .create_and_apply_action _ _ _ req => some req.agent_id
  | .rollback_action _ _ action_id _ _ => some action_id
  | _ => none

namespace Batch

/-- One call for each row, in their order, and no other. -/
def Attempted (ids : List String) (w w' : World) : Prop :=
  ∃ calls, w'.trace = w.trace ++ calls ∧ calls.map (fun call => call.op.subject) = ids.map some

/-- An operation that asks the database for one transaction about its item. -/
def Attempts {A : Type} (op : A → Service String) (id : A → String) : Prop :=
  ∀ item w, ∃ call, ((op item).exec w).2.trace = w.trace ++ [call] ∧ call.op.subject = some (id item)

theorem attempted_ending {A : Type} {op : A → Service String} {id : A → String} (hop : Attempts op id) (items : List A)
    (w : World) : Attempted (items.map id) w (ending op items w) := by
  induction items generalizing w with
  | nil => exact ⟨[], by rw [List.append_nil]; rfl, rfl⟩
  | cons item items ih =>
    obtain ⟨calls, htrace, hsubjects⟩ := ih ((op item).exec w).2
    obtain ⟨call, hcall, hsubject⟩ := hop item w
    refine ⟨call :: calls, ?_, ?_⟩
    · rw [ending, htrace, hcall, List.append_assoc, List.singleton_append]
    · rw [List.map_cons, hsubject, hsubjects, List.map_cons, List.map_cons]

/-! ## The four batches -/

/-- An entry of the details of an undo. Only a group's undo names the agents. -/
structure UndoDetail where
  action_id : String
  agent_id : Option String
  status : String
  error : Option String := none

structure UndoBatchResponse where
  reverted : ℕ
  failed : ℕ
  action_ids : List String
  details : List UndoDetail

/-- What an undo keeps while it goes through the actions. -/
structure UndoTally where
  reverted_ids : List String := []
  failed_count : ℕ := 0
  details : List UndoDetail := []

def UndoTally.note (agent_id : ResponseAction → Option String) (self : UndoTally) (act : ResponseAction) :
    Except AppException String → UndoTally
  | .ok _ =>
    { self with
      reverted_ids := self.reverted_ids ++ [act.id]
      details := self.details ++ [{ action_id := act.id, agent_id := agent_id act, status := "reverted" }] }
  | .error e =>
    { self with
      failed_count := self.failed_count + 1
      details := self.details ++
        [{ action_id := act.id, agent_id := agent_id act, status := "failed", error := some e.message }] }

def UndoTally.response (self : UndoTally) : UndoBatchResponse where
  reverted := self.reverted_ids.length
  failed := self.failed_count
  action_ids := self.reverted_ids
  details := self.details

section Services

variable (env : Env)

/-- `RollbackService.rollback_action`, called by a batch. -/
def rollback_action (reason actor : String) (act : ResponseAction) : Service String := do
  let cmd_id ← Service.fresh env "cmd_" 0
  Service.call env (.rollback_action env.now cmd_id act.id reason actor)

def undo_actions (agent_id : ResponseAction → Option String) (reason actor : String)
    (actions : List ResponseAction) : Service UndoBatchResponse := do
  let tally ← loop (rollback_action env reason actor) (UndoTally.note agent_id) {} actions
  return tally.response

def rollback_incident_actions (incident_id reason actor : String) : Service UndoBatchResponse := do
  let db ← Service.read_db
  undo_actions env (fun _ => none) (reason ++ " (Incident: " ++ incident_id ++ ")") actor
    (db.get_active_applied_by_incident incident_id)

def rollback_agent_actions (agent_id reason actor : String) : Service UndoBatchResponse := do
  let db ← Service.read_db
  undo_actions env (fun _ => none) (reason ++ " (Agent: " ++ agent_id ++ ")") actor
    (db.get_active_applied_by_agent agent_id)

def rollback_group_actions (group_id reason actor : String) : Service UndoBatchResponse := do
  let db ← Service.read_db
  let group ← db.require_group group_id
  match (db.get_agents_in_group group_id).map Agent.id with
  | [] => return { reverted := 0, failed := 0, action_ids := [], details := [] }
  | agent_ids =>
    undo_actions env (fun act => some act.agent_id) (reason ++ " (Group: " ++ group.name ++ ")") actor
      (db.get_active_applied_by_agents agent_ids)

end Services

/-! ## What the tallies add up to -/

/-- The response of a group action against the outcomes of its attempts. -/
structure GroupPartition (agents : List Agent) (results : List (Except AppException String))
    (response : GroupBatchActionResponse) : Prop where
  members : response.actions.map GroupBatchActionResult.agent_id = agents.map Agent.id
  statuses : response.actions.map GroupBatchActionResult.status =
    results.map fun result => if result.isOk then "applied" else "failed"
  action_ids : response.actions.map GroupBatchActionResult.action_id = results.map Except.toOption
  succeeded : response.succeeded = results.countP Except.isOk
  total : response.succeeded + response.failed = agents.length
  total_agents : response.total_agents = agents.length

/-- The response of an undo against the outcomes of its attempts. -/
structure UndoPartition (actions : List ResponseAction) (results : List (Except AppException String))
    (response : UndoBatchResponse) : Prop where
  details : response.details.map UndoDetail.action_id = actions.map ResponseAction.id
  statuses : response.details.map UndoDetail.status =
    results.map fun result => if result.isOk then "reverted" else "failed"
  action_ids : response.action_ids =
    ((actions.zip results).filter fun entry => entry.2.isOk).map fun entry => entry.1.id
  reverted : response.reverted = response.action_ids.length
  total : response.reverted + response.failed = actions.length

theorem noted_group (tally : GroupTally) {agents : List Agent} {results : List (Except AppException String)}
    (hlength : results.length = agents.length) :
    noted GroupTally.note tally agents results =
      { results := tally.results ++ agents.zipWith (fun agent result => .of_attempt agent.id result) results
        succeeded_count := tally.succeeded_count + results.countP Except.isOk
        failed_count := tally.failed_count + results.countP fun result => !result.isOk } := by
  induction agents generalizing tally results with
  | nil =>
    obtain rfl := List.length_eq_zero_iff.mp hlength
    simp [noted]
  | cons agent agents ih =>
    obtain ⟨result, results, rfl⟩ := List.exists_cons_of_length_eq_add_one hlength
    have hrest := ih (tally.note agent result) (Nat.succ.inj hlength)
    refine hrest.trans ?_
    cases result with
    | ok id => simp [GroupTally.note, Except.isOk, Except.toBool, List.countP_cons, Nat.add_assoc, Nat.add_comm 1]
    | error e => simp [GroupTally.note, Except.isOk, Except.toBool, Nat.add_assoc, Nat.add_comm 1]

theorem countP_isOk_add (results : List (Except AppException String)) :
    results.countP Except.isOk + results.countP (fun result => !result.isOk) = results.length := by
  rw [List.length_eq_countP_add_countP Except.isOk]
  congr 2
  funext result
  cases result.isOk <;> rfl

/-- Each member has its own entry, made from its own outcome. -/
theorem zipWith_of_attempt {agents : List Agent} {results : List (Except AppException String)}
    (hlength : results.length = agents.length) :
    (agents.zipWith (fun agent result => GroupBatchActionResult.of_attempt agent.id result) results).map
        GroupBatchActionResult.agent_id = agents.map Agent.id ∧
      (agents.zipWith (fun agent result => GroupBatchActionResult.of_attempt agent.id result) results).map
        GroupBatchActionResult.status = results.map (fun result => if result.isOk then "applied" else "failed") ∧
      (agents.zipWith (fun agent result => GroupBatchActionResult.of_attempt agent.id result) results).map
        GroupBatchActionResult.action_id = results.map Except.toOption := by
  induction agents generalizing results with
  | nil =>
    obtain rfl := List.length_eq_zero_iff.mp hlength
    exact ⟨rfl, rfl, rfl⟩
  | cons agent agents ih =>
    obtain ⟨result, results, rfl⟩ := List.exists_cons_of_length_eq_add_one hlength
    obtain ⟨hmembers, hstatuses, hids⟩ := ih (Nat.succ.inj hlength)
    simp only [List.zipWith_cons_cons, List.map_cons, hmembers, hstatuses, hids]
    cases result <;> exact ⟨rfl, rfl, rfl⟩

/-- The response of a group action, when every outcome is noted. -/
theorem group_response_partition (group : AgentGroup) (action_type : String) {agents : List Agent}
    {results : List (Except AppException String)} (hlength : results.length = agents.length) :
    (∃ response, (noted GroupTally.note {} agents results).response group action_type agents = .ok response ∧
      GroupPartition agents results response) ∨
    (∃ message, (noted GroupTally.note {} agents results).response group action_type agents =
      .error (.FlappingCooldownError message)) ∧ ∀ result ∈ results, result.isOk = false := by
  have hpartition : GroupPartition agents results {
      group_id := group.id, group_name := group.name, action_type, total_agents := agents.length
      succeeded := results.countP Except.isOk, failed := results.countP fun result => !result.isOk
      actions := agents.zipWith (fun agent result => .of_attempt agent.id result) results } :=
    { members := (zipWith_of_attempt hlength).1
      statuses := (zipWith_of_attempt hlength).2.1
      action_ids := (zipWith_of_attempt hlength).2.2
      succeeded := rfl
      total := (countP_isOk_add results).trans hlength
      total_agents := rfl }
  rw [noted_group {} hlength]
  simp only [GroupTally.response, List.nil_append, Nat.zero_add]
  by_cases hnone : results.countP Except.isOk = 0 ∧ 0 < results.countP fun result => !result.isOk
  · rw [if_pos hnone]
    cases cooldown_error (agents.zipWith (fun agent result => .of_attempt agent.id result) results) with
    | some message =>
      refine .inr ⟨⟨message, rfl⟩, fun result hresult => ?_⟩
      simpa using List.countP_eq_zero.mp hnone.1 result hresult
    | none => exact .inl ⟨_, rfl, hpartition⟩
  · rw [if_neg hnone]
    exact .inl ⟨_, rfl, hpartition⟩

theorem noted_undo (agent_id : ResponseAction → Option String) (tally : UndoTally) {actions : List ResponseAction}
    {results : List (Except AppException String)} (hlength : results.length = actions.length) :
    (noted (UndoTally.note agent_id) tally actions results).reverted_ids = tally.reverted_ids ++
        ((actions.zip results).filter fun entry => entry.2.isOk).map (fun entry => entry.1.id) ∧
      (noted (UndoTally.note agent_id) tally actions results).failed_count =
        tally.failed_count + results.countP (fun result => !result.isOk) ∧
      (noted (UndoTally.note agent_id) tally actions results).details.map UndoDetail.action_id =
        tally.details.map UndoDetail.action_id ++ actions.map ResponseAction.id ∧
      (noted (UndoTally.note agent_id) tally actions results).details.map UndoDetail.status =
        tally.details.map UndoDetail.status ++
          results.map fun result => if result.isOk then "reverted" else "failed" := by
  induction actions generalizing tally results with
  | nil =>
    obtain rfl := List.length_eq_zero_iff.mp hlength
    simp [noted]
  | cons act actions ih =>
    obtain ⟨result, results, rfl⟩ := List.exists_cons_of_length_eq_add_one hlength
    obtain ⟨hids, hfailed, hdetails, hstatuses⟩ := ih (tally.note agent_id act result) (Nat.succ.inj hlength)
    refine ⟨hids.trans ?_, hfailed.trans ?_, hdetails.trans ?_, hstatuses.trans ?_⟩
    · cases result <;> simp [UndoTally.note, Except.isOk, Except.toBool]
    · cases result <;> simp [UndoTally.note, Except.isOk, Except.toBool, Nat.add_assoc, Nat.add_comm 1]
    · cases result <;> simp [UndoTally.note]
    · cases result <;> simp [UndoTally.note, Except.isOk, Except.toBool]

theorem undo_response_partition (agent_id : ResponseAction → Option String) {actions : List ResponseAction}
    {results : List (Except AppException String)} (hlength : results.length = actions.length) :
    UndoPartition actions results (noted (UndoTally.note agent_id) {} actions results).response := by
  obtain ⟨hids, hfailed, hdetails, hstatuses⟩ := noted_undo agent_id {} hlength
  refine ⟨hdetails, hstatuses, hids, rfl, ?_⟩
  have hreverted : (((actions.zip results).filter fun entry => entry.2.isOk).map fun entry => entry.1.id).length =
      results.countP Except.isOk := by
    rw [List.length_map, ← List.countP_eq_length_filter]
    conv_rhs => rw [← List.map_snd_zip hlength.le, List.countP_map]
    rfl
  change (noted (UndoTally.note agent_id) {} actions results).reverted_ids.length +
    (noted (UndoTally.note agent_id) {} actions results).failed_count = actions.length
  rw [hids, hfailed, List.nil_append, hreverted, Nat.zero_add, countP_isOk_add, hlength]

/-! ## The partition law -/

/-- The law for a group action: every member is attempted once, in order, and each attempt has its entry in the
response. Only when nothing has succeeded is the batch refused, with a cooldown. -/
def GroupLaw (op : Agent → Service String) (program : Service GroupBatchActionResponse) (agents : List Agent)
    (w : World) : Prop :=
  ∃ result w', program.exec w = (result, w') ∧ Attempted (agents.map Agent.id) w w' ∧
    ((∃ response, result = .ok response ∧ GroupPartition agents (outcomes op agents w) response) ∨
      (∃ message, result = .error (.FlappingCooldownError message)) ∧
        ∀ outcome ∈ outcomes op agents w, outcome.isOk = false)

/-- The law for an undo. -/
def UndoLaw (op : ResponseAction → Service String) (program : Service UndoBatchResponse)
    (actions : List ResponseAction) (w : World) : Prop :=
  ∃ response w', program.exec w = (.ok response, w') ∧ Attempted (actions.map ResponseAction.id) w w' ∧
    UndoPartition actions (outcomes op actions w) response

section Law

variable (env : Env)

theorem attempts_member_action (request : String → ActionRequest)
    (hrequest : ∀ agent_id, (request agent_id).agent_id = agent_id) :
    Attempts (member_action env request) Agent.id := by
  intro agent w
  rw [member_action, create_and_apply, Program.exec_bind_ok (Service.exec_fresh env "act_" 0 w),
    Program.exec_bind_ok (Service.exec_fresh env "cmd_" 1 w), Service.exec_call]
  exact ⟨_, rfl, congrArg some (hrequest agent.id)⟩

theorem attempts_rollback_action (reason actor : String) :
    Attempts (rollback_action env reason actor) ResponseAction.id := by
  intro act w
  rw [rollback_action, Program.exec_bind_ok (Service.exec_fresh env "cmd_" 0 w), Service.exec_call]
  exact ⟨_, rfl, rfl⟩

theorem undo_actions_law_iff (agent_id : ResponseAction → Option String) (reason actor : String)
    (actions : List ResponseAction) (w : World) :
    UndoLaw (rollback_action env reason actor) (undo_actions env agent_id reason actor actions) actions w ↔
      Usable (outcomes (rollback_action env reason actor) actions w) := by
  constructor
  · rintro ⟨response, w', hexec, -, -⟩
    by_contra hbroken
    obtain ⟨tally, w₁, htally, -⟩ := Program.exec_bind_eq_ok_iff.mp hexec
    rw [exec_loop_of_not_usable _ _ hbroken] at htally
    cases htally
  · intro husable
    refine ⟨_, _, ?_, attempted_ending (attempts_rollback_action env reason actor) actions w,
      undo_response_partition agent_id (length_outcomes actions w)⟩
    rw [undo_actions, Program.exec_bind_ok (exec_loop_of_usable _ _ husable), Program.exec_pure]

theorem group_action_law_iff (group_id : String) (request : ActionRequest) {group : AgentGroup} {w : World}
    (hgroup : w.db.require_group group_id = .ok group) :
    GroupLaw (member_action env (request.for_member group))
        (execute_group_action env group_id request) (w.db.get_agents_in_group group_id) w ↔
      Usable (outcomes (member_action env (request.for_member group))
        (w.db.get_agents_in_group group_id) w) := by
  have hhead : (execute_group_action env group_id request).exec w =
      (loop (member_action env (request.for_member group)) GroupTally.note {}
        (w.db.get_agents_in_group group_id) >>= fun tally =>
          liftM (tally.response group request.action_type (w.db.get_agents_in_group group_id))).exec w := by
    rw [execute_group_action, Program.exec_bind_ok (Service.exec_read_db w),
      Program.exec_bind_ok (Program.exec_lift_ok hgroup w)]
  constructor
  · rintro ⟨result, w', hexec, -, hresult⟩
    by_contra hbroken
    rw [hhead, Program.exec_bind, exec_loop_of_not_usable _ _ hbroken] at hexec
    obtain ⟨rfl, -⟩ := Prod.mk.inj hexec
    obtain ⟨response, hok, -⟩ | ⟨⟨message, herror⟩, -⟩ := hresult
    · cases hok
    · cases herror
  · intro husable
    refine ⟨_, _, ?_, attempted_ending (attempts_member_action env (request.for_member group) fun _ => rfl) _ w,
      group_response_partition group request.action_type (length_outcomes _ w)⟩
    rw [hhead, Program.exec_bind_ok (exec_loop_of_usable _ _ husable), Program.exec_lift]

/-- A group without members has nothing to undo. -/
theorem exec_rollback_group_actions (group_id reason actor : String) {group : AgentGroup} {w : World}
    (hgroup : w.db.require_group group_id = .ok group) :
    (rollback_group_actions env group_id reason actor).exec w =
      (undo_actions env (fun act => some act.agent_id) (reason ++ " (Group: " ++ group.name ++ ")") actor
        (w.db.get_active_applied_by_agents ((w.db.get_agents_in_group group_id).map Agent.id))).exec w := by
  rw [rollback_group_actions, Program.exec_bind_ok (Service.exec_read_db w),
    Program.exec_bind_ok (Program.exec_lift_ok hgroup w)]
  cases hagents : (w.db.get_agents_in_group group_id).map Agent.id with
  | cons agent_id agent_ids => rfl
  | nil =>
    have hnone : w.db.get_active_applied_by_agents [] = [] := by
      refine List.eq_nil_iff_forall_not_mem.mpr fun act hact => ?_
      simpa using (Table.mem_select_desc.mp hact).2
    rw [hnone]
    rfl

theorem UndoLaw.congr {op : ResponseAction → Service String} {program program' : Service UndoBatchResponse}
    {actions : List ResponseAction} {w : World} (h : program.exec w = program'.exec w) :
    UndoLaw op program actions w ↔ UndoLaw op program' actions w := by
  rw [UndoLaw, UndoLaw, h]

end Law

/-- A call of one of the four batches. -/
inductive BatchCall where
  | execute_group_action (group_id : String) (request : ActionRequest)
  | rollback_incident_actions (incident_id reason actor : String)
  | rollback_agent_actions (agent_id reason actor : String)
  | rollback_group_actions (group_id reason actor : String)

namespace BatchCall

variable (env : Env) (w : World)

/-- The partition law of a call. The group of a call exists. -/
def Law : BatchCall → Prop
  | .execute_group_action group_id request => ∀ group, w.db.require_group group_id = .ok group →
    GroupLaw (member_action env (request.for_member group))
      (Batch.execute_group_action env group_id request) (w.db.get_agents_in_group group_id) w
  | .rollback_incident_actions incident_id reason actor =>
    UndoLaw (rollback_action env (reason ++ " (Incident: " ++ incident_id ++ ")") actor)
      (Batch.rollback_incident_actions env incident_id reason actor)
      (w.db.get_active_applied_by_incident incident_id) w
  | .rollback_agent_actions agent_id reason actor =>
    UndoLaw (rollback_action env (reason ++ " (Agent: " ++ agent_id ++ ")") actor)
      (Batch.rollback_agent_actions env agent_id reason actor) (w.db.get_active_applied_by_agent agent_id) w
  | .rollback_group_actions group_id reason actor => ∀ group, w.db.require_group group_id = .ok group →
    UndoLaw (rollback_action env (reason ++ " (Group: " ++ group.name ++ ")") actor)
      (Batch.rollback_group_actions env group_id reason actor)
      (w.db.get_active_applied_by_agents ((w.db.get_agents_in_group group_id).map Agent.id)) w

/-- The operations of a call, run one after the other, leave the session usable. -/
def SessionUsable : BatchCall → Prop
  | .execute_group_action group_id request => ∀ group, w.db.require_group group_id = .ok group →
    Usable (outcomes (member_action env (request.for_member group))
      (w.db.get_agents_in_group group_id) w)
  | .rollback_incident_actions incident_id reason actor =>
    Usable (outcomes (rollback_action env (reason ++ " (Incident: " ++ incident_id ++ ")") actor)
      (w.db.get_active_applied_by_incident incident_id) w)
  | .rollback_agent_actions agent_id reason actor =>
    Usable (outcomes (rollback_action env (reason ++ " (Agent: " ++ agent_id ++ ")") actor)
      (w.db.get_active_applied_by_agent agent_id) w)
  | .rollback_group_actions group_id reason actor => ∀ group, w.db.require_group group_id = .ok group →
    Usable (outcomes (rollback_action env (reason ++ " (Group: " ++ group.name ++ ")") actor)
      (w.db.get_active_applied_by_agents ((w.db.get_agents_in_group group_id).map Agent.id)) w)

/-- A batch obeys the law exactly when no operation of it breaks the session that they share. -/
theorem batchLaw_iff (self : BatchCall) : self.Law env w ↔ self.SessionUsable env w := by
  cases self with
  | execute_group_action group_id request =>
    exact forall_congr' fun group => imp_congr_right fun hgroup => group_action_law_iff env group_id request hgroup
  | rollback_incident_actions incident_id reason actor =>
    exact (UndoLaw.congr (Program.exec_bind_ok (Service.exec_read_db w))).trans (undo_actions_law_iff env _ _ _ _ w)
  | rollback_agent_actions agent_id reason actor =>
    exact (UndoLaw.congr (Program.exec_bind_ok (Service.exec_read_db w))).trans (undo_actions_law_iff env _ _ _ _ w)
  | rollback_group_actions group_id reason actor =>
    exact forall_congr' fun group => imp_congr_right fun hgroup =>
      (UndoLaw.congr (exec_rollback_group_actions env group_id reason actor hgroup)).trans
        (undo_actions_law_iff env _ _ _ _ w)

end BatchCall

/-! ## An undo with a long reason -/

private def applied (id : String) : ResponseAction :=
  { id, agent_id := "web-1", incident_id := some "inc_1", action_type := "kill_process", status := .applied
    created_at := 0, updated_at := 0 }

private def two_applied : World where
  db := { response_actions := ⟨[applied "act_1", applied "act_2"], by decide⟩ }

/-- The longest reason that the endpoint accepts: with the incident behind it, it does not fit into its column. -/
private def long_reason : String := String.ofList (List.replicate 255 'x')

/-- The first action cannot be undone, and the second is not attempted. -/
theorem not_law_long_reason : ¬ ∀ (env : Env) (w : World) (call : BatchCall), call.Law env w := by
  intro h
  obtain ⟨response, w', hexec, -⟩ :=
    h quiet_env two_applied (.rollback_incident_actions "inc_1" long_reason "analyst")
  have hraises : ((rollback_incident_actions quiet_env "inc_1" long_reason "analyst").exec two_applied).1.isOk =
      false := by decide +kernel
  rw [hexec] at hraises
  cases hraises

end Batch

end larp
