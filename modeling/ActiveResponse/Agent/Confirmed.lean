import Mathlib.Logic.Function.Basic
import ActiveResponse.System

namespace larp

/-- The columns of an agent that say whether it is contained. -/
def Agent.flags (self : Agent) : Bool × AgentStatus :=
  (self.is_isolated, self.status)

/-- Whether a command with this name isolates the agent (`true`) or releases it (`false`). -/
def isolation_of (action : String) : Option Bool :=
  if action ∈ ["isolate", "auto_isolate"] then some true
  else if action = "unisolate" then some false
  else none

theorem Agent.confirm_is_isolated (action : String) (self : Agent) :
    (self.confirm action).is_isolated = (isolation_of action).getD self.is_isolated := by
  unfold confirm isolation_of
  split
  · rfl
  · split
    · rfl
    · split <;> rfl

namespace Database

/-- The confirmation that a call brings: the agent whose command it acknowledges with success, and
what that command did to the agent's isolation. -/
def confirmation (is_datetime : Json → Bool) (db : Database) (call : Call) : Option (String × Bool) :=
  match call.op with
  | .command_ack _ agent_id payload =>
    match (db.answer is_datetime call).1, db.resolve_ack is_datetime agent_id payload with
    | .ok _, some (dto, cmd, _) =>
      if dto.status = .SUCCESS then (isolation_of cmd.action).map fun isolated => (cmd.agent_id, isolated)
      else none
    | _, _ => none
  | _ => none

/-- The database together with the last isolating or releasing command that each agent's commands
have confirmed. -/
structure Observed where
  db : Database
  confirmed : String → Option Bool := fun _ => none

def observe (is_datetime : Json → Bool) (s : Observed) (call : Call) : Observed where
  db := s.db.step is_datetime call
  confirmed :=
    match s.db.confirmation is_datetime call with
    | some (agent_id, isolated) => Function.update s.confirmed agent_id (some isolated)
    | none => s.confirmed

/-- The call queues commands, undoes an action or reports anything but success: the agent has
confirmed nothing. -/
def unconfirmed (is_datetime : Json → Bool) (db : Database) (call : Call) : Bool :=
  match call.op with
  | .create_and_apply_action .. | .rollback_action .. | .queue_command .. | .isolate_fallback ..
  | .activate_fallback .. => true
  | .command_ack _ agent_id payload =>
    match db.resolve_ack is_datetime agent_id payload with
    | some (dto, _, _) => dto.status ≠ .SUCCESS
    | none => true
  | _ => false

/-- The flags of every agent are the same in both tables. -/
def FlagsKept (before after : Table Agent) : Prop :=
  ∀ id, (after.get id).map Agent.flags = (before.get id).map Agent.flags

/-- The confirmed-state law over a run. -/
structure ConfirmedLaw (is_datetime : Json → Bool) (db : Database) (calls : List Call) : Prop where
  record : ∀ id agent, (transition.run (observe is_datetime) { db } calls).db.agents.get id = some agent →
    (agent.is_isolated = true ↔
      (transition.run (observe is_datetime) { db } calls).confirmed id = some true)
  frame : transition.Along (step is_datetime)
    (fun db call => db.unconfirmed is_datetime call → FlagsKept db.agents (db.step is_datetime call).agents)
    db calls

/-- The condition under which a call respects the law: an acknowledgement that confirms an isolation
or a release comes from the agent the command was addressed to, and a write that does not wait
for the agent finds the record as it would leave it. -/
def waits_for_agent (is_datetime : Json → Bool) (db : Database) (call : Call) : Bool :=
  match call.fault, call.op with
  | some _, _ => true
  | none, .command_ack _ agent_id payload =>
    match db.resolve_ack is_datetime agent_id payload with
    | some (dto, cmd, _) =>
      dto.status ≠ .SUCCESS ∨ isolation_of cmd.action = none ∨ cmd.agent_id = agent_id
    | none => true
  | none, .rollback_action _ _ action_id _ _ =>
    match db.response_actions.get action_id with
    | some action =>
      action.status ≠ .applied ∨
        (db.agents.get action.agent_id).all fun agent =>
          (action.compensation.restore agent).flags = agent.flags
    | none => true
  | none, op =>
    match op.agent_write with
    | some (raw, _, write) => (db.agents.get raw.agent_id).all fun agent => (write agent).flags = agent.flags
    | none => true

variable {is_datetime : Json → Bool}

/-- The isolation of every agent is the same in both tables, and an agent that is only in the
second is not isolated. -/
private def IsolationKept (before after : Table Agent) : Prop :=
  ∀ id agent', after.get id = some agent' →
    agent'.is_isolated = ((before.get id).map Agent.is_isolated).getD false

private theorem FlagsKept.refl (agents : Table Agent) : FlagsKept agents agents := fun _ => rfl

private theorem FlagsKept.isolationKept {before after : Table Agent} (h : FlagsKept before after) :
    IsolationKept before after := by
  intro id agent' hget
  have hflags := h id
  rw [hget] at hflags
  cases hbefore : before.get id with
  | none => simp [hbefore] at hflags
  | some agent =>
    simp only [hbefore, Option.map_some, Option.some.injEq] at hflags
    exact congrArg Prod.fst hflags

/-- A write that finds the flags as it leaves them keeps all flags. -/
private theorem flagsKept_modify {agents : Table Agent} {target : String} {f : Agent → Agent}
    (hkey : ∀ agent, Keyed.key (f agent) = Keyed.key agent)
    (hflags : ∀ agent, agents.get target = some agent → (f agent).flags = agent.flags) :
    FlagsKept agents (agents.modify target f) := by
  intro id
  rw [Table.get_modify hkey]
  split
  · rename_i hid
    subst hid
    cases hget : agents.get target with
    | none => rfl
    | some agent => simp [hflags agent hget]
  · rfl

private theorem isolationKept_heartbeat (db : Database) (dto : HeartbeatDTO) :
    IsolationKept db.agents (db.handle_heartbeat dto).2.agents := by
  intro id agent' hget
  rw [get_handle_heartbeat] at hget
  split at hget
  · cases hget
    cases db.agents.get id with
    | none => rfl
    | some agent => rfl
  · simp [hget]

private theorem isolationKept_sweep (db : Database) (cutoff : Time) :
    IsolationKept db.agents (db.sweep_dead_agents cutoff).agents := by
  intro id agent' hget
  simp only [sweep_dead_agents, Table.get_update, Option.map_eq_some_iff] at hget
  obtain ⟨agent, hagent, rfl⟩ := hget
  simp only [hagent, Option.map_some, Option.getD_some]
  split <;> rfl

/-- What every state of a run satisfies: the record of an agent agrees with the last confirmation,
only registered agents have confirmed anything, and commands have agents. -/
structure Tracked (s : Observed) : Prop where
  record : ∀ id agent, s.db.agents.get id = some agent →
    (agent.is_isolated = true ↔ s.confirmed id = some true)
  known : ∀ id, (s.confirmed id).isSome → (s.db.agents.get id).isSome
  foreign_key : s.db.CommandsHaveAgents

/-- Without a new confirmation it is enough that the isolation of the agents is kept. -/
private theorem Tracked.of_isolationKept {s : Observed} {db : Database} (h : Tracked s)
    (hkept : IsolationKept s.db.agents db.agents)
    (hpersist : ∀ id, (s.db.agents.get id).isSome → (db.agents.get id).isSome)
    (hkeys : db.CommandsHaveAgents) : Tracked ⟨db, s.confirmed⟩ := by
  refine ⟨?_, fun id hid => hpersist id (h.known id hid), hkeys⟩
  intro id agent' hget
  rw [hkept id agent' hget]
  cases hbefore : s.db.agents.get id with
  | some agent => simpa using h.record id agent hbefore
  | none =>
    have hunknown : s.confirmed id = none := by
      rw [← Option.not_isSome_iff_eq_none]
      intro hknown
      simpa [hbefore] using h.known id hknown
    simp [hunknown]

/-- The answer of a call and what it does, read off the effect. -/
private theorem observe_eq {s : Observed} {call : Call} {result : Except AppException String} {db' : Database}
    (hanswer : s.db.answer is_datetime call = (result, db')) (hnone : s.db.confirmation is_datetime call = none) :
    observe is_datetime s call = ⟨db', s.confirmed⟩ := by
  simp [observe, step, hanswer, hnone]

private theorem confirmation_of_not_ack {db : Database} {call : Call}
    (h : ∀ now agent_id payload, call.op ≠ .command_ack now agent_id payload) :
    db.confirmation is_datetime call = none := by
  unfold confirmation
  split
  · rename_i now agent_id payload hop
    exact absurd hop (h now agent_id payload)
  · rfl

private theorem confirmation_of_error {db db' : Database} {call : Call} {e : AppException}
    (hanswer : db.answer is_datetime call = (.error e, db')) : db.confirmation is_datetime call = none := by
  simp only [confirmation, hanswer]
  split <;> rfl

/-- A rollback that waits for the agent finds the flags as it leaves them. -/
private theorem flagsKept_rollback {db : Database} {call : Call} {now : Time} {cmd_id reason actor : String}
    {action : ResponseAction} (hwaits : db.waits_for_agent is_datetime call) (hfault : call.fault = none)
    (hop : call.op = .rollback_action now cmd_id action.id reason actor)
    (hget : db.response_actions.get action.id = some action) (happlied : action.status = .applied) :
    FlagsKept db.agents (db.agents.modify action.agent_id action.compensation.restore) := by
  refine flagsKept_modify (Compensation.key_restore _) fun agent hagent => ?_
  simpa [waits_for_agent, hfault, hop, hget, happlied, hagent] using hwaits

private theorem flagsKept_written {db : Database} {call : Call} {raw : RawCommand} {action : String}
    {write : Agent → Agent} (hwaits : db.waits_for_agent is_datetime call) (hfault : call.fault = none)
    (hop : call.op.agent_write = some (raw, action, write)) :
    FlagsKept db.agents (db.agents.modify raw.agent_id write) := by
  refine flagsKept_modify (Op.key_agent_write hop) fun agent hagent => ?_
  unfold waits_for_agent at hwaits
  split at hwaits
  · simp_all
  · rename_i heq _ hack
    simp [hack, Op.agent_write] at hop
  · rename_i hack
    simp [hack, Op.agent_write] at hop
  · simpa [hop, hagent] using hwaits

/-- An acknowledgement with success writes what its command confirms, to the agent it was addressed to. -/
private theorem Tracked.of_confirm {s : Observed} (h : Tracked s) {call : Call} {now : Time}
    {agent_id : String} {payload : Json} {dto : CommandAckDTO} {cmd : Command}
    {action : Option ResponseAction} {db' : Database}
    (hwaits : s.db.waits_for_agent is_datetime call) (hfault : call.fault = none)
    (hop : call.op = .command_ack now agent_id payload)
    (hack : s.db.resolve_ack is_datetime agent_id payload = some (dto, cmd, action))
    (hanswer : s.db.answer is_datetime call = (.ok agent_id, db'))
    (hagents : db'.agents =
      if dto.status = .SUCCESS then s.db.agents.modify agent_id (.confirm cmd.action) else s.db.agents)
    (hpersist : ∀ id, (s.db.agents.get id).isSome → (db'.agents.get id).isSome)
    (hkeys : db'.CommandsHaveAgents) : Tracked (observe is_datetime s call) := by
  have hconfirmation : s.db.confirmation is_datetime call =
      if dto.status = .SUCCESS then (isolation_of cmd.action).map fun isolated => (cmd.agent_id, isolated)
      else none := by
    simp [confirmation, hop, hanswer, hack]
  by_cases hsuccess : dto.status = .SUCCESS
  · simp only [hsuccess, if_true] at hconfirmation hagents
    cases hisolation : isolation_of cmd.action with
    | none =>
      rw [hisolation] at hconfirmation
      rw [observe_eq hanswer hconfirmation]
      refine h.of_isolationKept ?_ hpersist hkeys
      intro id agent' hget
      rw [hagents, Table.get_modify (Agent.key_confirm _)] at hget
      split at hget
      · obtain ⟨agent, hagent, rfl⟩ := Option.map_eq_some_iff.mp hget
        simp [hagent, Agent.confirm_is_isolated, hisolation]
      · simp [hget]
    | some isolated =>
      have howner : cmd.agent_id = agent_id := by
        simpa [waits_for_agent, hfault, hop, hack, hsuccess, hisolation] using hwaits
      have hobserve : observe is_datetime s call =
          ⟨db', Function.update s.confirmed agent_id (some isolated)⟩ := by
        simp [observe, step, hanswer, hconfirmation, hisolation, howner]
      rw [hobserve]
      refine ⟨?_, ?_, hkeys⟩
      · intro id agent' hget
        simp only [hagents, Table.get_modify (Agent.key_confirm _)] at hget
        by_cases hid : agent_id = id
        · subst hid
          rw [if_pos rfl, Option.map_eq_some_iff] at hget
          obtain ⟨agent, _, rfl⟩ := hget
          simp [Agent.confirm_is_isolated, hisolation]
        · rw [if_neg hid] at hget
          simp only [Function.update_of_ne (Ne.symm hid)]
          exact h.record id agent' hget
      · intro id hid
        by_cases hsame : id = agent_id
        · subst hsame
          rw [← howner]
          exact hpersist _ (h.foreign_key cmd (Table.get_mem (resolve_ack_some hack).2.1))
        · simp only [Function.update_of_ne hsame] at hid
          exact hpersist id (h.known id hid)
  · simp only [hsuccess, if_false] at hconfirmation hagents
    rw [observe_eq hanswer hconfirmation]
    refine h.of_isolationKept ?_ hpersist hkeys
    rw [hagents]
    exact (FlagsKept.refl _).isolationKept

/-- A call that waits for the agent keeps the record in agreement with the confirmations. -/
theorem Tracked.observe {s : Observed} {call : Call} (h : Tracked s)
    (hwaits : s.db.waits_for_agent is_datetime call) : Tracked (observe is_datetime s call) := by
  have heffect := answer_effect is_datetime s.db call
  obtain ⟨result, db', hanswer⟩ : ∃ result db', s.db.answer is_datetime call = (result, db') :=
    ⟨_, _, rfl⟩
  rw [hanswer] at heffect
  have hpersist := fun id (hid : (s.db.agents.get id).isSome) => heffect.agents_persist hid
  have hkeys := heffect.commandsHaveAgents h.foreign_key
  cases hfault : call.fault with
  | some e =>
    have hrefused : s.db.answer is_datetime call = (.error e, s.db) := by simp [answer, hfault]
    rw [observe_eq hrefused (confirmation_of_error hrefused)]
    exact h
  | none =>
    generalize hop : call.op = op at heffect
    cases heffect with
    | refused e =>
      rw [observe_eq hanswer (confirmation_of_error hanswer)]
      exact h
    | unknown_ack hack =>
      rw [observe_eq hanswer (by simp [confirmation, hop, hanswer, hack])]
      exact h
    | @acked now agent_id payload dto cmd action logs hack =>
      exact h.of_confirm hwaits hfault hop hack hanswer rfl hpersist hkeys
    | undo_failed hget happlied =>
      rw [observe_eq hanswer (confirmation_of_error hanswer)]
      exact h.of_isolationKept (flagsKept_rollback hwaits hfault hop hget happlied).isolationKept hpersist hkeys
    | undone hget happlied =>
      rw [observe_eq hanswer (confirmation_of_not_ack (by simp [hop]))]
      exact h.of_isolationKept (flagsKept_rollback hwaits hfault hop hget happlied).isolationKept hpersist hkeys
    | written hwrite =>
      rw [observe_eq hanswer (confirmation_of_not_ack (by
        rintro _ _ _ hack
        rw [← hop, hack] at hwrite
        cases hwrite))]
      exact h.of_isolationKept (flagsKept_written hwaits hfault (hop ▸ hwrite)).isolationKept hpersist hkeys
    | created | queued =>
      rw [observe_eq hanswer (confirmation_of_not_ack (by simp [hop]))]
      exact h.of_isolationKept (FlagsKept.refl _).isolationKept hpersist hkeys
    | heartbeat =>
      rw [observe_eq hanswer (confirmation_of_not_ack (by simp [hop]))]
      exact h.of_isolationKept (isolationKept_heartbeat _ _) hpersist hkeys
    | swept =>
      rw [observe_eq hanswer (confirmation_of_not_ack (by simp [hop]))]
      exact h.of_isolationKept (isolationKept_sweep _ _) hpersist hkeys
    | recorded hrecords =>
      rw [observe_eq hanswer (confirmation_of_not_ack (by
        rintro _ _ _ hack
        rw [← hop, hack] at hrecords
        cases hrecords))]
      exact h.of_isolationKept (FlagsKept.refl _).isolationKept hpersist hkeys

/-- A call that confirms nothing and waits for the agent leaves every flag alone. -/
theorem flagsKept_of_unconfirmed {db : Database} {call : Call}
    (hwaits : db.waits_for_agent is_datetime call) (hunconfirmed : db.unconfirmed is_datetime call) :
    FlagsKept db.agents (db.step is_datetime call).agents := by
  have heffect := answer_effect is_datetime db call
  obtain ⟨result, db', hanswer⟩ : ∃ result db', db.answer is_datetime call = (result, db') :=
    ⟨_, _, rfl⟩
  rw [step, hanswer]
  rw [hanswer] at heffect
  cases hfault : call.fault with
  | some e =>
    obtain ⟨_, rfl⟩ : Except.error e = result ∧ db = db' := by simpa [answer, hfault] using hanswer
    exact FlagsKept.refl _
  | none =>
    generalize hop : call.op = op at heffect
    cases heffect with
    | refused e | created | unknown_ack | queued | recorded => exact FlagsKept.refl _
    | @acked now agent_id payload dto cmd action logs hack =>
      have hfailure : dto.status ≠ .SUCCESS := by simpa [unconfirmed, hop, hack] using hunconfirmed
      dsimp only
      rw [if_neg hfailure]
      exact FlagsKept.refl _
    | undo_failed hget happlied | undone hget happlied =>
      exact flagsKept_rollback hwaits hfault hop hget happlied
    | written hwrite => exact flagsKept_written hwaits hfault (hop ▸ hwrite)
    | heartbeat | swept => simp [unconfirmed, hop] at hunconfirmed

/-- The confirmed-state law holds over every run in which no call writes an agent's record before
the agent has confirmed. -/
theorem confirmedLaw_of_waits (is_datetime : Json → Bool) (db : Database) (calls : List Call)
    (hinit : ∀ agent ∈ db.agents.rows, agent.is_isolated = false) (hkeys : db.CommandsHaveAgents)
    (hwaits : transition.Along (step is_datetime) (fun db call => db.waits_for_agent is_datetime call)
      db calls) :
    ConfirmedLaw is_datetime db calls := by
  have htracked : Tracked { db } := by
    refine ⟨?_, by simp, hkeys⟩
    intro id agent hget
    simp [hinit agent (Table.get_mem hget)]
  have hwaits' : transition.Along (observe is_datetime)
      (fun s call => s.db.waits_for_agent is_datetime call) { db } calls :=
    (transition.along_map (P := fun db call => db.waits_for_agent is_datetime call)
      (fun s call => show (observe is_datetime s call).db = step is_datetime s.db call from rfl)).mpr hwaits
  refine ⟨?_, ?_⟩
  · exact (transition.run_invariant (fun _ _ h hcall => Tracked.observe h hcall) hwaits' htracked).record
  · exact hwaits.mono fun _ _ hcall hunconfirmed => flagsKept_of_unconfirmed hcall hunconfirmed

/-- An isolation and a release that the agent confirms one after the other. -/
theorem confirmedLaw_isolate_unisolate : ConfirmedLaw (fun _ => true) one_agent
    [{ op := .create_and_apply_action 0 "act_1" "cmd_1" { agent_id := "web-1", action_type := "isolate" } },
      { op := .command_ack 1 "web-1" (ack_payload "cmd_1" "success") },
      { op := .create_and_apply_action 2 "act_2" "cmd_2"
          { agent_id := "web-1", action_type := "unisolate" } },
      { op := .command_ack 3 "web-1" (ack_payload "cmd_2" "success") }] :=
  confirmedLaw_of_waits (fun _ => true) one_agent _ (by decide) (by intro cmd hcmd; cases hcmd)
    ⟨by decide, by decide, by decide, by decide, trivial⟩

/-- The undo of a confirmed isolation clears the record although nothing but the isolation was
ever confirmed. -/
theorem not_confirmedLaw_undo : ¬ ConfirmedLaw (fun _ => true) one_agent isolate_and_undo := by
  intro hlaw
  have hflag : ((transition.run (observe fun _ => true) { db := one_agent } isolate_and_undo).db.agents.get
      "web-1").map Agent.is_isolated = some false := by decide
  have hconfirmed : (transition.run (observe fun _ => true) { db := one_agent } isolate_and_undo).confirmed
      "web-1" = some true := by decide
  obtain ⟨agent, hget, hfalse⟩ := Option.map_eq_some_iff.mp hflag
  simpa [hfalse] using (hlaw.record _ _ hget).mpr hconfirmed

end Database

end larp
