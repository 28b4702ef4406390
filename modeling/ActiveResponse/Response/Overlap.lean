import ActiveResponse.System

namespace larp

/-- The record says that the agent is cut off. -/
def Agent.contained (self : Agent) : Bool :=
  self.is_isolated ∨ self.status = .ISOLATED ∨ self.status = .QUARANTINE

/-- The record of an isolated agent has both flags set. -/
def Agent.Marked (agent : Agent) : Prop :=
  agent.status = .ISOLATED → agent.is_isolated = true

/-- A containment action that is applied and not undone. -/
def ResponseAction.in_force (self : ResponseAction) : Bool :=
  self.status = .applied ∧ is_containment self.action_type

theorem Agent.confirm_contained {action : String} (h : action ≠ "unisolate") {agent : Agent}
    (hcontained : agent.contained) : (agent.confirm action).contained := by
  unfold confirm
  split
  · rfl
  · split
    · simp [contained]
    · exact hcontained

theorem Agent.Marked.confirm (action : String) {agent : Agent} (h : agent.Marked) :
    (agent.confirm action).Marked := by
  unfold Agent.confirm
  split
  · exact fun _ => rfl
  · split
    · exact fun hstatus => nomatch hstatus
    · split
      · exact fun hstatus => nomatch hstatus
      · exact h

theorem Agent.Marked.restore (compensation : Compensation) {agent : Agent} (h : agent.Marked)
    (hboth : compensation.restore_is_isolated = some false → compensation.restore_agent_status = some .ACTIVE) :
    (compensation.restore agent).Marked := by
  intro hstatus
  simp only [Compensation.restore] at hstatus ⊢
  split at hstatus
  · cases hstatus
  · rename_i hkept
    rw [if_neg fun hfalse => hkept (hboth hfalse)]
    exact h hstatus

theorem Agent.Marked.refresh (dto : HeartbeatDTO) {agent : Agent} (h : agent.Marked) :
    (dto.refresh agent).Marked := by
  intro hstatus
  simp only [HeartbeatDTO.refresh, Agent.update_heartbeat] at hstatus ⊢
  split at hstatus
  · cases hstatus
  · exact h hstatus

/-- A heartbeat revives only agents that are not cut off. -/
theorem HeartbeatDTO.refresh_contained (dto : HeartbeatDTO) {agent : Agent} (h : agent.contained) :
    (dto.refresh agent).contained := by
  simp only [Agent.contained, decide_eq_true_eq, refresh, Agent.update_heartbeat] at h ⊢
  split
  · rename_i hdead
    simp only [hdead.2, Bool.false_eq_true, false_or] at h
    rcases hdead.1 with hstatus | hstatus <;> simp [hstatus] at h
  · exact h

theorem Op.marked_agent_write {op : Op} {raw : RawCommand} {action : String} {write : Agent → Agent}
    (h : op.agent_write = some (raw, action, write)) {agent : Agent} (_ : agent.Marked) :
    (write agent).Marked := by
  intro hstatus
  cases op <;> cases h <;> first | rfl | cases hstatus

theorem ResponseAction.compensation_restores_both (action : ResponseAction) :
    action.compensation.restore_is_isolated = some false →
      action.compensation.restore_agent_status = some .ACTIVE := by
  unfold compensation get_compensation_action
  split
  · exact fun _ => rfl
  · split
    · exact fun _ => rfl
    · split <;> exact fun h => nomatch h

namespace Database

/-- The containment actions in force on an agent. -/
def in_force_on (db : Database) (agent_id : String) : List ResponseAction :=
  db.response_actions.rows.filter fun action => action.agent_id = agent_id ∧ action.in_force

theorem mem_in_force_on {db : Database} {agent_id : String} {action : ResponseAction} :
    action ∈ db.in_force_on agent_id ↔
      action ∈ db.response_actions.rows ∧ action.agent_id = agent_id ∧ action.in_force := by
  simp [in_force_on]

private theorem not_isEmpty_in_force_on {db : Database} {action : ResponseAction}
    (hmem : action ∈ db.response_actions.rows) (hforce : action.in_force) :
    ¬ (db.in_force_on action.agent_id).isEmpty := by
  rw [List.isEmpty_iff]
  exact List.ne_nil_of_mem (mem_in_force_on.mpr ⟨hmem, rfl, hforce⟩)

/-- The undo of an action queues a release command only while no other containment action is in
force on the agent. -/
def ReleasesAlone (is_datetime : Json → Bool) (db : Database) (call : Call) : Prop :=
  ∀ now cmd_id action_id reason actor, call.op = .rollback_action now cmd_id action_id reason actor →
    ∀ action, db.response_actions.get action_id = some action →
    ∀ cmd ∈ (db.step is_datetime call).commands.rows, cmd ∉ db.commands.rows →
    cmd.action = "unisolate" ∨ cmd.action = "release_quarantine" →
    ∀ other ∈ db.in_force_on action.agent_id, other.id = action_id

/-- The law of overlapping containment over a run. -/
structure OverlapLaw (is_datetime : Json → Bool) (db : Database) (calls : List Call) : Prop where
  contained : ∀ action ∈ (transition.run (step is_datetime) db calls).response_actions.rows,
    action.in_force → ∃ agent,
      (transition.run (step is_datetime) db calls).agents.get action.agent_id = some agent ∧ agent.contained
  releases : transition.Along (step is_datetime) (ReleasesAlone is_datetime) db calls

/-- The condition under which a call respects the law. An action is undone only when it is the last
one in force on its agent and its cooldown can be told; an acknowledgement that applies a
containment action leaves its agent contained; and nothing else releases an agent while an
action is in force on it. -/
def releases_last (is_datetime : Json → Bool) (db : Database) (call : Call) : Bool :=
  match call.fault, call.op with
  | some _, _ => true
  | none, .rollback_action now _ action_id _ _ =>
    match db.response_actions.get action_id with
    | some action =>
      !action.in_force || ((db.in_force_on action.agent_id).all fun other => other.id = action_id) &&
        (match db.rollback_cooldown now action.action_type with
          | .ok _ => true
          | .error _ => false)
    | none => true
  | none, .command_ack _ agent_id payload =>
    match db.resolve_ack is_datetime agent_id payload with
    | some (dto, cmd, action) =>
      dto.status ≠ .SUCCESS ∨
        ((cmd.action ≠ "unisolate" ∨ (db.in_force_on agent_id).isEmpty) ∧
          (action.all fun action => !is_containment action.action_type ||
            (db.agents.get action.agent_id).any fun agent =>
              (if agent_id = action.agent_id then agent.confirm cmd.action else agent).contained))
    | none => true
  | none, op =>
    match op.agent_write with
    | some (raw, _, write) =>
      (db.in_force_on raw.agent_id).isEmpty || (db.agents.get raw.agent_id).all fun agent => (write agent).contained
    | none => true

variable {is_datetime : Json → Bool}

/-- What every state of a run satisfies. -/
structure Contained (db : Database) : Prop where
  contained : ∀ action ∈ db.response_actions.rows, action.in_force → ∃ agent,
    db.agents.get action.agent_id = some agent ∧ agent.contained
  marked : ∀ id agent, db.agents.get id = some agent → agent.Marked
  foreign_key : db.ActionsHaveAgents

/-- A step keeps the law when every action in force afterwards was in force before or has a contained
agent, and every contained agent with an action in force stays contained. -/
private theorem Contained.of_kept {db db' : Database} (h : Contained db)
    (hforce : ∀ action' ∈ db'.response_actions.rows, action'.in_force →
      (∃ action ∈ db.response_actions.rows, action.agent_id = action'.agent_id ∧ action.in_force) ∨
      ∃ agent, db'.agents.get action'.agent_id = some agent ∧ agent.contained)
    (hagents : ∀ id agent, db.agents.get id = some agent → agent.contained →
      (∃ action' ∈ db'.response_actions.rows, action'.agent_id = id ∧ action'.in_force) →
      ∃ agent', db'.agents.get id = some agent' ∧ agent'.contained)
    (hmarked : ∀ id agent, db'.agents.get id = some agent → agent.Marked)
    (hkeys : db'.ActionsHaveAgents) : Contained db' := by
  refine ⟨?_, hmarked, hkeys⟩
  intro action' hmem' hforce'
  rcases hforce action' hmem' hforce' with ⟨action, hmem, hagent, hold⟩ | hnew
  · obtain ⟨agent, hget, hcontained⟩ := h.contained action hmem hold
    rw [hagent] at hget
    exact hagents _ agent hget hcontained ⟨action', hmem', rfl, hforce'⟩
  · exact hnew

/-- The rows after a write to one action: the written one, and the old ones with other ids. -/
private theorem mem_modify_action {actions : Table ResponseAction} {target : ResponseAction}
    (hget : actions.get target.id = some target) {f : ResponseAction → ResponseAction}
    (hkey : ∀ action, Keyed.key (f action) = Keyed.key action) {action' : ResponseAction}
    (hmem : action' ∈ (actions.modify target.id f).rows) :
    (action' ∈ actions.rows ∧ action'.id ≠ target.id) ∨ action' = f target := by
  obtain ⟨old, hold, rfl⟩ := (Table.mem_modify hkey).mp hmem
  have hrow := Table.get_of_mem hold
  split
  · rename_i htarget
    rw [← htarget, hget] at hrow
    exact Or.inr (congrArg f (Option.some.inj hrow).symm)
  · rename_i htarget
    exact Or.inl ⟨hold, Ne.symm htarget⟩

private theorem marked_modify {agents : Table Agent} {target : String} {f : Agent → Agent}
    (hkey : ∀ agent, Keyed.key (f agent) = Keyed.key agent)
    (hmarked : ∀ id agent, agents.get id = some agent → agent.Marked)
    (hf : ∀ agent, agent.Marked → (f agent).Marked) :
    ∀ id agent, (agents.modify target f).get id = some agent → agent.Marked := by
  intro id agent hget
  rw [Table.get_modify hkey] at hget
  split at hget
  · obtain ⟨old, hold, rfl⟩ := Option.map_eq_some_iff.mp hget
    exact hf old (hmarked id old hold)
  · exact hmarked id agent hget

private theorem marked_effect {db db' : Database} {op : Op} {result : Except AppException String}
    (heffect : Effect is_datetime db op (result, db'))
    (hmarked : ∀ id agent, db.agents.get id = some agent → agent.Marked) :
    ∀ id agent, db'.agents.get id = some agent → agent.Marked := by
  cases heffect with
  | refused e | created | unknown_ack | queued | recorded => exact hmarked
  | @acked now agent_id payload dto cmd action logs hack =>
    dsimp only
    split
    · exact marked_modify (Agent.key_confirm _) hmarked fun _ h => h.confirm _
    · exact hmarked
  | @undo_failed now cmd_id reason actor action | @undone now cmd_id reason actor action =>
    exact marked_modify (Compensation.key_restore _) hmarked
      fun _ h => h.restore _ action.compensation_restores_both
  | written hop => exact marked_modify (Op.key_agent_write hop) hmarked fun _ h => Op.marked_agent_write hop h
  | heartbeat =>
    intro id agent hget
    rw [get_handle_heartbeat] at hget
    split at hget
    · cases hget
      cases hold : db.agents.get id with
      | none => exact Agent.Marked.refresh _ (by simp [HeartbeatDTO.agent, Agent.Marked])
      | some old => exact (hmarked id old hold).refresh _
    · exact hmarked id agent hget
  | swept =>
    intro id agent hget hstatus
    simp only [sweep_dead_agents, Table.get_update, Option.map_eq_some_iff] at hget
    obtain ⟨old, hold, rfl⟩ := hget
    split at hstatus
    · cases hstatus
    · rename_i halive
      rw [if_neg halive]
      exact hmarked id old hold hstatus

/-- Undoing an action that is not a containment action leaves the agents alone. -/
private theorem get_restore_other {db : Database} {action : ResponseAction}
    (h : ¬ is_containment action.action_type) (id : String) :
    (db.agents.modify action.agent_id action.compensation.restore).get id = db.agents.get id := by
  rw [Table.get_modify (Compensation.key_restore _)]
  split
  · cases hget : db.agents.get id with
    | none => rfl
    | some agent =>
      have hsame := get_compensation_action_other h action.action_params action.snapshot agent
      simpa [ResponseAction.compensation] using hsame
  · rfl

/-- An acknowledgement under the condition keeps the law. -/
private theorem Contained.acked {db db' : Database} (h : Contained db) {call : Call} {now : Time}
    {agent_id : String} {payload : Json} {dto : CommandAckDTO} {cmd : Command}
    {action : Option ResponseAction} (hreleases : db.releases_last is_datetime call)
    (hfault : call.fault = none) (hop : call.op = .command_ack now agent_id payload)
    (hack : db.resolve_ack is_datetime agent_id payload = some (dto, cmd, action))
    (hactions : db'.response_actions = db.acked_actions now dto.status action)
    (hagents : db'.agents =
      if dto.status = .SUCCESS then db.agents.modify agent_id (.confirm cmd.action) else db.agents)
    (hmarked : ∀ id agent, db'.agents.get id = some agent → agent.Marked)
    (hkeys : db'.ActionsHaveAgents) : Contained db' := by
  by_cases hsuccess : dto.status = .SUCCESS
  · have hguard : (cmd.action ≠ "unisolate" ∨ (db.in_force_on agent_id).isEmpty) ∧
        (action.all fun action => !is_containment action.action_type ||
          (db.agents.get action.agent_id).any fun agent =>
            (if agent_id = action.agent_id then agent.confirm cmd.action else agent).contained) := by
      simpa [releases_last, hfault, hop, hack, hsuccess] using hreleases
    rw [if_pos hsuccess] at hagents
    have htarget : ∀ target, action = some target → is_containment target.action_type →
        ∃ agent, db'.agents.get target.agent_id = some agent ∧ agent.contained := by
      rintro target rfl hcontainment
      have hany := hguard.2
      simp only [Option.all_some, hcontainment, Bool.not_true, Bool.false_or, Option.any_eq_true] at hany
      obtain ⟨agent, hget, hcontained⟩ := hany
      rw [hagents, Table.get_modify (Agent.key_confirm _), hget]
      split
      · rename_i hown
        rw [if_pos hown] at hcontained
        exact ⟨_, rfl, hcontained⟩
      · rename_i hother
        rw [if_neg hother] at hcontained
        exact ⟨_, rfl, hcontained⟩
    have hold : ∀ action' ∈ db'.response_actions.rows, action'.in_force →
        (∃ old ∈ db.response_actions.rows, old.agent_id = action'.agent_id ∧ old.in_force) ∨
        ∃ agent, db'.agents.get action'.agent_id = some agent ∧ agent.contained := by
      intro action' hmem' hforce'
      rw [hactions] at hmem'
      cases action with
      | none => exact Or.inl ⟨action', hmem', rfl, hforce'⟩
      | some target =>
        rcases mem_modify_action (get_of_resolve_ack hack) (ResponseAction.key_acked _ _) hmem' with ⟨hmem, _⟩ | rfl
        · exact Or.inl ⟨action', hmem, rfl, hforce'⟩
        · right
          have hcontainment : is_containment target.action_type := by
            simp only [ResponseAction.in_force, ResponseAction.acked, hsuccess, if_true,
              ResponseAction.apply, decide_eq_true_eq] at hforce'
            exact hforce'.2
          rw [ResponseAction.acked_agent_id]
          exact htarget target rfl hcontainment
    refine h.of_kept hold ?_ hmarked hkeys
    rintro id agent hget hcontained ⟨action', hmem', rfl, hforce'⟩
    rcases hold action' hmem' hforce' with ⟨old, hmem, howner, hforce⟩ | hnew
    · rw [hagents, Table.get_modify (Agent.key_confirm _), hget]
      split
      · rename_i hconnection
        refine ⟨_, rfl, Agent.confirm_contained (fun hrelease => ?_) hcontained⟩
        have hempty := hguard.1.resolve_left (not_not.mpr hrelease)
        rw [hconnection, ← howner] at hempty
        exact not_isEmpty_in_force_on hmem hforce hempty
      · exact ⟨agent, rfl, hcontained⟩
    · exact hnew
  · rw [if_neg hsuccess] at hagents
    refine h.of_kept ?_ (fun id agent hget hcontained _ => ⟨agent, by rw [hagents]; exact hget, hcontained⟩)
      hmarked hkeys
    intro action' hmem' hforce'
    left
    rw [hactions] at hmem'
    cases action with
    | none => exact ⟨action', hmem', rfl, hforce'⟩
    | some target =>
      rcases mem_modify_action (get_of_resolve_ack hack) (ResponseAction.key_acked _ _) hmem' with ⟨hmem, _⟩ | rfl
      · exact ⟨action', hmem, rfl, hforce'⟩
      · simp [ResponseAction.in_force, ResponseAction.acked_of_ne_success now hsuccess,
          ResponseAction.fail] at hforce'

/-- Under the condition, the undo of an action in force is the undo of the last one on its agent, and
does not fail. -/
private theorem last_of_releases {db : Database} {call : Call} {now : Time} {cmd_id reason actor : String}
    {action : ResponseAction} (hreleases : db.releases_last is_datetime call) (hfault : call.fault = none)
    (hop : call.op = .rollback_action now cmd_id action.id reason actor)
    (hget : db.response_actions.get action.id = some action) (hforce : action.in_force) :
    (∀ other ∈ db.in_force_on action.agent_id, other.id = action.id) ∧
      ∃ cooldown_until, db.rollback_cooldown now action.action_type = .ok cooldown_until := by
  unfold releases_last at hreleases
  simp only [hfault, hop, hget, hforce, Bool.not_true, Bool.false_or, Bool.and_eq_true] at hreleases
  refine ⟨by simpa using hreleases.1, ?_⟩
  have hcooldown := hreleases.2
  split at hcooldown
  · rename_i cooldown_until hok
    exact ⟨cooldown_until, hok⟩
  · cases hcooldown

/-- The undo of an action in force, under the condition, keeps the law: nothing else is in force on
the agent that it releases. -/
private theorem Contained.undone {db db' : Database} (h : Contained db) {call : Call} {now : Time}
    {cmd_id reason actor : String} {action : ResponseAction} {cooldown_until : Option Time}
    (hreleases : db.releases_last is_datetime call) (hfault : call.fault = none)
    (hop : call.op = .rollback_action now cmd_id action.id reason actor)
    (hget : db.response_actions.get action.id = some action) (happlied : action.status = .applied)
    (hactions : db'.response_actions =
      db.response_actions.modify action.id (.revert now actor reason cooldown_until))
    (hagents : db'.agents = db.agents.modify action.agent_id action.compensation.restore)
    (hmarked : ∀ id agent, db'.agents.get id = some agent → agent.Marked)
    (hkeys : db'.ActionsHaveAgents) : Contained db' := by
  have hrow : ∀ action' ∈ db'.response_actions.rows, action'.in_force →
      action' ∈ db.response_actions.rows ∧ action'.id ≠ action.id := by
    intro action' hmem' hforce'
    rw [hactions] at hmem'
    rcases mem_modify_action hget (ResponseAction.key_revert _ _ _ _) hmem' with hold | rfl
    · exact hold
    · simp [ResponseAction.in_force, ResponseAction.revert] at hforce'
  refine h.of_kept (fun action' hmem' hforce' => Or.inl ⟨action', (hrow action' hmem' hforce').1, rfl, hforce'⟩)
    ?_ hmarked hkeys
  rintro id agent hagent hcontained ⟨action', hmem', rfl, hforce'⟩
  obtain ⟨hmem, hne⟩ := hrow action' hmem' hforce'
  by_cases hcontainment : is_containment action.action_type
  · have hlast := (last_of_releases hreleases hfault hop hget
      (by simp [ResponseAction.in_force, happlied, hcontainment])).1
    have hother : action.agent_id ≠ action'.agent_id := by
      intro hsame
      exact hne (hlast action' (mem_in_force_on.mpr ⟨hmem, hsame.symm, hforce'⟩))
    refine ⟨agent, ?_, hcontained⟩
    rw [hagents, Table.get_modify (Compensation.key_restore _), if_neg hother]
    exact hagent
  · exact ⟨agent, by rw [hagents, get_restore_other hcontainment]; exact hagent, hcontained⟩

/-- Every call under the condition keeps the law. -/
theorem Contained.step {db : Database} {call : Call} (h : Contained db)
    (hreleases : db.releases_last is_datetime call) : Contained (db.step is_datetime call) := by
  have heffect := answer_effect is_datetime db call
  obtain ⟨result, db', hanswer⟩ : ∃ result db', db.answer is_datetime call = (result, db') :=
    ⟨_, _, rfl⟩
  rw [Database.step, hanswer]
  rw [hanswer] at heffect
  have hmarked := marked_effect heffect h.marked
  have hkeys := heffect.actionsHaveAgents h.foreign_key
  cases hfault : call.fault with
  | some e =>
    obtain ⟨_, rfl⟩ : Except.error e = result ∧ db = db' := by simpa [answer, hfault] using hanswer
    exact h
  | none =>
    generalize hop : call.op = op at heffect
    cases heffect with
    | refused e | unknown_ack => exact h
    | queued | recorded => exact ⟨h.contained, hmarked, hkeys⟩
    | created hagent hinsert hcommand =>
      refine h.of_kept ?_ (fun id agent hget hcontained _ => ⟨agent, hget, hcontained⟩) hmarked hkeys
      intro action' hmem' hforce'
      rcases (Table.mem_of_insert hinsert).mp hmem' with hmem | rfl
      · exact Or.inl ⟨action', hmem, rfl, hforce'⟩
      · simp [ResponseAction.in_force, ActionRequest.response_action] at hforce'
    | acked hack => exact h.acked hreleases hfault hop hack rfl rfl hmarked hkeys
    | @undo_failed now cmd_id reason actor action e commands logs hget happlied hcooldown =>
      have hother : ¬ is_containment action.action_type := by
        intro hcontainment
        obtain ⟨cooldown_until, hok⟩ := (last_of_releases hreleases hfault hop hget
          (by simp [ResponseAction.in_force, happlied, hcontainment])).2
        rw [hok] at hcooldown
        cases hcooldown
      refine h.of_kept ?_ ?_ hmarked hkeys
      · intro action' hmem' hforce'
        rcases mem_modify_action hget (ResponseAction.key_set_status _) hmem' with ⟨hmem, _⟩ | rfl
        · exact Or.inl ⟨action', hmem, rfl, hforce'⟩
        · simp [ResponseAction.in_force, ResponseAction.set_status, hother] at hforce'
      · intro id agent hagent hcontained _
        exact ⟨agent, by rw [get_restore_other hother]; exact hagent, hcontained⟩
    | undone hget happlied => exact h.undone hreleases hfault hop hget happlied rfl rfl hmarked hkeys
    | @written _ raw action write commands hwrite =>
      have hguard : (db.in_force_on raw.agent_id).isEmpty ∨
          (db.agents.get raw.agent_id).all fun agent => (write agent).contained := by
        unfold releases_last at hreleases
        split at hreleases
        · simp_all
        · rename_i hrollback
          rw [← hop, hrollback] at hwrite
          cases hwrite
        · rename_i hack
          rw [← hop, hack] at hwrite
          cases hwrite
        · simpa [hop, hwrite] using hreleases
      refine h.of_kept (fun action' hmem' hforce' => Or.inl ⟨action', hmem', rfl, hforce'⟩) ?_ hmarked hkeys
      rintro id agent hagent hcontained ⟨action', hmem', rfl, hforce'⟩
      rw [Table.get_modify (Op.key_agent_write hwrite), hagent]
      split
      · rename_i htarget
        rcases hguard with hempty | hall
        · rw [htarget] at hempty
          exact absurd hempty (not_isEmpty_in_force_on hmem' hforce')
        · rw [htarget, hagent] at hall
          exact ⟨write agent, rfl, by simpa using hall⟩
      · exact ⟨agent, rfl, hcontained⟩
    | heartbeat =>
      refine h.of_kept ?_ ?_ hmarked hkeys
      · intro action' hmem' hforce'
        rw [handle_heartbeat_response_actions] at hmem'
        exact Or.inl ⟨action', hmem', rfl, hforce'⟩
      · intro id agent hagent hcontained _
        rw [get_handle_heartbeat]
        split
        · exact ⟨_, rfl, by rw [hagent]; exact HeartbeatDTO.refresh_contained _ hcontained⟩
        · exact ⟨agent, hagent, hcontained⟩
    | swept =>
      refine h.of_kept (fun action' hmem' hforce' => Or.inl ⟨action', hmem', rfl, hforce'⟩) ?_ hmarked hkeys
      intro id agent hagent hcontained _
      simp only [sweep_dead_agents, Table.get_update, hagent, Option.map_some]
      refine ⟨_, rfl, ?_⟩
      split
      · rename_i hdead
        simp only [is_dead_agent, decide_eq_true_eq] at hdead
        simp only [Agent.contained, decide_eq_true_eq] at hcontained ⊢
        rcases hcontained with hisolated | hisolated | hquarantine
        · exact Or.inl hisolated
        · exact Or.inl (h.marked id agent hagent hisolated)
        · rcases hdead.2 with hstatus | hstatus <;> simp [hstatus] at hquarantine
      · exact hcontained

/-- A command that a compensation queued, if it releases an agent, undoes a containment action. -/
private theorem containment_of_compensated {db : Database} {action : ResponseAction} {cmd_id : String}
    {commands : Table Command} (hcommands : db.Compensated action cmd_id commands) {cmd : Command}
    (hmem : cmd ∈ commands.rows) (hnew : cmd ∉ db.commands.rows)
    (hrelease : cmd.action = "unisolate" ∨ cmd.action = "release_quarantine") :
    is_containment action.action_type := by
  rw [hcommands.rows, List.mem_append, Option.mem_toList] at hmem
  obtain ⟨_, hcommand, rfl⟩ := Option.map_eq_some_iff.mp (hmem.resolve_left hnew)
  exact command_action_of_release hcommand hrelease

theorem releasesAlone_of_releases {db : Database} {call : Call}
    (hreleases : db.releases_last is_datetime call) : ReleasesAlone is_datetime db call := by
  intro now cmd_id action_id reason actor hop action hget cmd hmem hnew hrelease
  have heffect := answer_effect is_datetime db call
  obtain ⟨result, db', hanswer⟩ : ∃ result db', db.answer is_datetime call = (result, db') :=
    ⟨_, _, rfl⟩
  rw [Database.step, hanswer] at hmem
  rw [hanswer] at heffect
  cases hfault : call.fault with
  | some e =>
    obtain ⟨_, rfl⟩ : Except.error e = result ∧ db = db' := by simpa [answer, hfault] using hanswer
    exact absurd hmem hnew
  | none =>
    rw [hop] at heffect
    cases heffect with
    | refused e => exact absurd hmem hnew
    | undo_failed hrow happlied hcooldown hcommands | undone hrow happlied hcooldown hcommands =>
      obtain rfl := Option.some.inj (hrow.symm.trans hget)
      have hcontainment := containment_of_compensated hcommands hmem hnew hrelease
      exact (last_of_releases hreleases hfault hop hrow
        (by simp [ResponseAction.in_force, happlied, hcontainment])).1
    | written hwrite => cases hwrite
    | recorded hrecords => cases hrecords

/-- The law of overlapping containment holds over every run in which agents are released, by an undo
or otherwise, only when nothing else is in force on them. -/
theorem overlapLaw_of_releases (is_datetime : Json → Bool) (db : Database) (calls : List Call)
    (hinit : db.response_actions.rows = []) (hmarked : ∀ agent ∈ db.agents.rows, agent.Marked)
    (hreleases : transition.Along (step is_datetime) (fun db call => db.releases_last is_datetime call)
      db calls) :
    OverlapLaw is_datetime db calls := by
  have hcontained : Contained db := by
    refine ⟨by simp [hinit], fun id agent hget => hmarked agent (Table.get_mem hget), ?_⟩
    simp [ActionsHaveAgents, hinit]
  refine ⟨?_, hreleases.mono fun _ _ => releasesAlone_of_releases⟩
  exact (transition.run_invariant (fun _ _ h hcall => Contained.step h hcall) hreleases hcontained).contained

theorem overlapLaw_isolate_and_undo : OverlapLaw (fun _ => true) one_agent isolate_and_undo :=
  overlapLaw_of_releases (fun _ => true) one_agent isolate_and_undo rfl
    (by intro agent _ hstatus; simp_all [one_agent]) ⟨by decide, by decide, by decide, trivial⟩

/-- An isolation by an analyst and one by the risk engine, both confirmed, of which the second is
undone. -/
def isolate_twice_undo_one : List Call :=
  [{ op := .create_and_apply_action 0 "act_1" "cmd_1" { agent_id := "web-1", action_type := "isolate" } },
    { op := .command_ack 1 "web-1" (ack_payload "cmd_1" "success") },
    { op := .create_and_apply_action 2 "act_2" "cmd_2"
        { agent_id := "web-1", action_type := "auto_isolate" } },
    { op := .command_ack 3 "web-1" (ack_payload "cmd_2" "success") },
    { op := .rollback_action 4 "cmd_3" "act_2" "false alarm" "system" }]

/-- Undoing the second isolation clears the record of the agent that the first one still isolates. -/
theorem not_overlapLaw_isolate_twice :
    ¬ OverlapLaw (fun _ => true) one_agent isolate_twice_undo_one := by
  intro hlaw
  have hforce : ((transition.run (step fun _ => true) one_agent isolate_twice_undo_one).response_actions.get
      "act_1").map (fun action => (action.agent_id, action.in_force)) = some ("web-1", true) := by decide
  have hcleared : ((transition.run (step fun _ => true) one_agent isolate_twice_undo_one).agents.get
      "web-1").map Agent.contained = some false := by decide
  obtain ⟨action, hget, hpair⟩ := Option.map_eq_some_iff.mp hforce
  obtain ⟨howner, hin⟩ := Prod.mk.inj hpair
  obtain ⟨agent, hagent, hcontained⟩ := hlaw.contained action (Table.get_mem hget) hin
  rw [howner] at hagent
  simp [hagent, hcontained] at hcleared

end Database

end larp
