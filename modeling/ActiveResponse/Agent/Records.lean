import ActiveResponse.System

namespace larp

/-- What the sweep writes to the record of an agent that it finds dead. -/
def Agent.die (self : Agent) : Agent :=
  { self with status := .DEAD }

/-- What a transaction can do to the record of the agent `id`. -/
inductive RecordChange (op : Op) (id : String) (before : Option Agent) : Option Agent → Prop where
  | kept : RecordChange op id before before
  | confirmed {agent : Agent} (hbefore : before = some agent) (action : String) :
      RecordChange op id before (some (agent.confirm action))
  | restored {agent : Agent} (hbefore : before = some agent) (action : ResponseAction) :
      RecordChange op id before (some (action.compensation.restore agent))
  | written {agent : Agent} (hbefore : before = some agent) {raw : RawCommand} {action : String}
      {write : Agent → Agent} (hop : op.agent_write = some (raw, action, write)) :
      RecordChange op id before (some (write agent))
  | heard {dto : HeartbeatDTO} (hop : op = .heartbeat dto) (hid : dto.agent_id = id) :
      RecordChange op id before (some (dto.refresh (before.getD dto.agent)))
  | swept {agent : Agent} (hbefore : before = some agent) {cutoff : Time} (hop : op = .sweep_dead_agents cutoff)
      (hdead : Database.is_dead_agent cutoff agent) : RecordChange op id before (some agent.die)

/-- A sweep writes the records of the agents that it finds dead. -/
theorem Database.get_sweep_dead_agents (db : Database) (cutoff : Time) (id : String) :
    (db.sweep_dead_agents cutoff).agents.get id =
      (db.agents.get id).map fun agent => if is_dead_agent cutoff agent then agent.die else agent := by
  rw [sweep_dead_agents, Table.get_update]
  rfl

/-- A write to one record is a change of that record, and keeps the others. -/
private theorem recordChange_modify {db : Database} {op : Op} {id target : String} {write : Agent → Agent}
    (hkey : ∀ agent, Keyed.key (write agent) = Keyed.key agent)
    (hchange : ∀ agent, db.agents.get id = some agent →
      RecordChange op id (db.agents.get id) (some (write agent))) :
    RecordChange op id (db.agents.get id) ((db.agents.modify target write).get id) := by
  rw [Table.get_modify hkey]
  split
  · rename_i hid
    subst hid
    cases hget : db.agents.get target with
    | none => exact .kept
    | some agent =>
      rw [hget] at hchange
      exact hchange agent rfl
  · exact .kept

/-- Every transaction changes the record of an agent in one of these ways. -/
theorem Effect.recordChange {is_datetime : Json → Bool} {db db' : Database} {op : Op}
    {result : Except AppException String} (h : Effect is_datetime db op (result, db')) (id : String) :
    RecordChange op id (db.agents.get id) (db'.agents.get id) := by
  cases h with
  | refused | created | unknown_ack | queued | recorded => exact .kept
  | @acked now agent_id payload dto cmd action logs hack =>
    dsimp only
    split
    · exact recordChange_modify (Agent.key_confirm cmd.action) fun agent hget => .confirmed hget cmd.action
    · exact .kept
  | @undo_failed now cmd_id reason actor action e commands logs hget happlied hcooldown hcommands =>
    exact recordChange_modify (Compensation.key_restore _) fun agent hbefore => .restored hbefore action
  | @undone now cmd_id reason actor action cooldown_until commands logs hget happlied hcooldown hcommands =>
    exact recordChange_modify (Compensation.key_restore _) fun agent hbefore => .restored hbefore action
  | written hop =>
    exact recordChange_modify (Op.key_agent_write hop) fun agent hbefore => .written hbefore hop
  | heartbeat =>
    rw [Database.get_handle_heartbeat]
    split
    · rename_i hid
      exact .heard rfl hid
    · exact .kept
  | @swept cutoff =>
    rw [Database.get_sweep_dead_agents]
    cases hget : db.agents.get id with
    | none => exact .kept
    | some agent =>
      rw [Option.map_some]
      split
      · rename_i hdead
        exact .swept rfl rfl hdead
      · exact .kept

/-- Every call of the manager changes the record of an agent in one of these ways. -/
theorem Database.step_recordChange (is_datetime : Json → Bool) (db : Database) (call : Call) (id : String) :
    RecordChange call.op id (db.agents.get id) ((db.step is_datetime call).agents.get id) :=
  (db.answer_effect is_datetime call).recordChange id

section LastSeen

variable {op : Op} {id : String}

theorem Agent.last_seen_confirm (action : String) (self : Agent) :
    (self.confirm action).last_seen = self.last_seen := by
  unfold confirm
  split
  · rfl
  · split
    · rfl
    · split <;> rfl

theorem Op.last_seen_agent_write {raw : RawCommand} {action : String} {write : Agent → Agent}
    (h : op.agent_write = some (raw, action, write)) (agent : Agent) : (write agent).last_seen = agent.last_seen := by
  cases op <;> cases h <;> rfl

/-- Only a heartbeat of the agent changes when it was last seen, and registers it. -/
theorem RecordChange.last_seen {before after : Option Agent} (h : RecordChange op id before after)
    (hother : ∀ dto, op = .heartbeat dto → dto.agent_id ≠ id) :
    after.map Agent.last_seen = before.map Agent.last_seen := by
  cases h with
  | kept => rfl
  | confirmed hbefore action =>
    rw [hbefore]
    exact congrArg some (Agent.last_seen_confirm action _)
  | restored hbefore => rw [hbefore]; rfl
  | written hbefore hop =>
    rw [hbefore]
    exact congrArg some (Op.last_seen_agent_write hop _)
  | heard hop hid => exact absurd hid (hother _ hop)
  | swept hbefore => rw [hbefore]; rfl

end LastSeen

end larp
