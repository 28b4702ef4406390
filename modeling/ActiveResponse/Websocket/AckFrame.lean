import ActiveResponse.System

namespace larp

/-- The command names whose success is written to the record of an agent. -/
def CONFIRMED_ACTIONS : List String := ["isolate", "auto_isolate", "unisolate", "quarantine"]

theorem Agent.confirm_of_not_mem {action : String} (h : action ∉ CONFIRMED_ACTIONS) (self : Agent) :
    self.confirm action = self := by
  simp only [CONFIRMED_ACTIONS, List.mem_cons, List.not_mem_nil, or_false, not_or] at h
  simp [confirm, h]

namespace Database

/-- The database after a `COMMAND_ACK` on the connection of an agent. -/
def acknowledge (is_datetime : Json → Bool) (db : Database) (now : Time) (agent_id : String) (payload : Json) :
    Database :=
  db.step is_datetime { op := .command_ack now agent_id payload }

/-- The command that an acknowledgement changes belongs to the agent of the connection. -/
def AckOwnsCommand (is_datetime : Json → Bool) (db : Database) (now : Time) (agent_id : String)
    (payload : Json) : Prop :=
  ∀ id cmd, db.commands.get id = some cmd →
    (db.acknowledge is_datetime now agent_id payload).commands.get id ≠ some cmd → cmd.agent_id = agent_id

/-- The action that an acknowledgement changes was created together with the command it names. -/
def AckOwnsAction (is_datetime : Json → Bool) (db : Database) (now : Time) (agent_id : String)
    (payload : Json) : Prop :=
  ∀ id action, db.response_actions.get id = some action →
    (db.acknowledge is_datetime now agent_id payload).response_actions.get id ≠ some action →
    ∃ dto, CommandAckDTO.of_payload is_datetime payload = .ok dto ∧
      action.action_params.get "command_id" = some (.str dto.command_id)

/-- The record that an acknowledgement changes is that of the agent the command was addressed to. -/
def AckOwnsRecord (is_datetime : Json → Bool) (db : Database) (now : Time) (agent_id : String)
    (payload : Json) : Prop :=
  ∀ id agent, db.agents.get id = some agent →
    (db.acknowledge is_datetime now agent_id payload).agents.get id ≠ some agent →
    ∃ dto cmd, CommandAckDTO.of_payload is_datetime payload = .ok dto ∧
      db.commands.get dto.command_id = some cmd ∧ cmd.agent_id = id

/-- Why an acknowledgement writes an action: the payload of the command names it or, when it names no
row, it is the newest pending action of the connection's agent whose type is the command's name. -/
def AckTarget (db : Database) (agent_id : String) (cmd : Command) (action : ResponseAction) : Prop :=
  cmd.payload.get "action_id" = some (.str action.id) ∨
    (db.action_of_payload cmd = .ok none ∧
      action.agent_id = agent_id ∧ action.action_type = cmd.action ∧ action.status = .pending ∧
      ∀ other ∈ db.response_actions.rows, other.agent_id = agent_id → other.action_type = cmd.action →
        other.status = .pending → other.created_at ≤ action.created_at)

/-- Everything an acknowledgement may change. -/
structure AckFrame (is_datetime : Json → Bool) (db : Database) (now : Time) (agent_id : String)
    (payload : Json) (after : Database) : Prop where
  commands : ∀ id, after.commands.get id ≠ db.commands.get id →
    ∃ dto cmd, CommandAckDTO.of_payload is_datetime payload = .ok dto ∧ dto.command_id = id ∧
      db.commands.get id = some cmd ∧
      after.commands.get id = some (cmd.acked now dto.status dto.error_message)
  actions : ∀ id, after.response_actions.get id ≠ db.response_actions.get id →
    ∃ dto cmd action, CommandAckDTO.of_payload is_datetime payload = .ok dto ∧
      db.commands.get dto.command_id = some cmd ∧ db.response_actions.get id = some action ∧
      db.AckTarget agent_id cmd action ∧
      after.response_actions.get id = some (action.acked now dto.status)
  agents : ∀ id, after.agents.get id ≠ db.agents.get id →
    id = agent_id ∧ ∃ dto cmd agent, CommandAckDTO.of_payload is_datetime payload = .ok dto ∧
      db.commands.get dto.command_id = some cmd ∧ dto.status = .SUCCESS ∧
      cmd.action ∈ CONFIRMED_ACTIONS ∧ db.agents.get id = some agent ∧
      after.agents.get id = some (agent.confirm cmd.action)
  others : after = { db with
    commands := after.commands
    response_actions := after.response_actions
    agents := after.agents
    action_audit_logs := after.action_audit_logs }

variable {is_datetime : Json → Bool} {db : Database} {now : Time} {agent_id : String} {payload : Json}

theorem AckFrame.refl : AckFrame is_datetime db now agent_id payload db where
  commands _ h := absurd rfl h
  actions _ h := absurd rfl h
  agents _ h := absurd rfl h
  others := rfl

theorem ackTarget_of_resolve_ack {dto : CommandAckDTO} {cmd : Command} {action : ResponseAction}
    (h : db.resolve_ack is_datetime agent_id payload = some (dto, cmd, some action)) :
    db.AckTarget agent_id cmd action := by
  rcases (associated_action_some (resolve_ack_some h).2.2).1 with hnamed | ⟨hnone, hlatest⟩
  · exact Or.inl hnamed
  · obtain ⟨_, ⟨hagent, htype, hstatus⟩, hnewest⟩ := latest_pending_some hlatest
    exact Or.inr ⟨hnone, hagent, htype, hstatus, hnewest⟩

/-- The frame of `_handle_command_ack`, for every database, connection and payload. -/
theorem ackFrame_acknowledge (is_datetime : Json → Bool) (db : Database) (now : Time) (agent_id : String)
    (payload : Json) :
    AckFrame is_datetime db now agent_id payload (db.acknowledge is_datetime now agent_id payload) := by
  have heffect := answer_effect is_datetime db
    { op := .command_ack now agent_id payload }
  obtain ⟨result, after, hanswer⟩ : ∃ result after,
      db.answer is_datetime { op := .command_ack now agent_id payload } = (result, after) := ⟨_, _, rfl⟩
  rw [acknowledge, step, hanswer]
  rw [hanswer] at heffect
  cases heffect with
  | refused e => exact .refl
  | unknown_ack hack => exact .refl
  | @acked _ _ _ dto cmd action logs hack =>
    obtain ⟨hdto, hget, _⟩ := resolve_ack_some hack
    refine ⟨?_, ?_, ?_, rfl⟩
    · intro id hchanged
      simp only [Table.get_put] at hchanged ⊢
      split at hchanged
      · rename_i hid
        have hkey : dto.command_id = id := by
          have hcmd : cmd.id = dto.command_id := Table.key_of_get hget
          have hacked : (cmd.acked now dto.status dto.error_message).id = id := hid
          rw [← hacked, Command.acked_id, hcmd]
        subst hkey
        exact ⟨dto, cmd, hdto, rfl, hget, by simp [hid, hget]⟩
      · exact absurd rfl hchanged
    · intro id hchanged
      cases action with
      | none => exact absurd rfl hchanged
      | some action =>
        simp only [acked_actions, Table.get_modify (ResponseAction.key_acked now dto.status)] at hchanged ⊢
        split at hchanged
        · rename_i hid
          subst hid
          have hrow := get_of_resolve_ack hack
          exact ⟨dto, cmd, action, hdto, hget, hrow, ackTarget_of_resolve_ack hack, by simp [hrow]⟩
        · exact absurd rfl hchanged
    · intro id hchanged
      dsimp only at hchanged ⊢
      split at hchanged
      · rename_i hsuccess
        rw [if_pos hsuccess]
        simp only [Table.get_modify (Agent.key_confirm cmd.action)] at hchanged ⊢
        split at hchanged
        · rename_i hid
          subst hid
          cases hagent : db.agents.get agent_id with
          | none => simp [hagent] at hchanged
          | some agent =>
            refine ⟨rfl, dto, cmd, agent, hdto, hget, hsuccess, ?_, rfl, by simp⟩
            by_contra hother
            simp [hagent, Agent.confirm_of_not_mem hother] at hchanged
        · exact absurd rfl hchanged
      · exact absurd rfl hchanged
  | written hop => cases hop
  | recorded hop => cases hop

/-- Two agents; the first has a raw isolate command, the second a pending isolation of its own. -/
def two_agents : Database :=
  transition.run (step fun _ => true)
    { agents := ⟨[
        { id := "web-1", hostname := "web-1", ip_address := "10.0.0.5", mac_address := "02:00:00:00:00:05"
          last_seen := 0 },
        { id := "web-2", hostname := "web-2", ip_address := "10.0.0.6", mac_address := "02:00:00:00:00:06"
          last_seen := 0 }], by decide⟩ }
    [{ op := .queue_command { id := "raw_1", agent_id := "web-1" } "isolate" },
      { op := .create_and_apply_action 0 "act_2" "cmd_2" { agent_id := "web-2", action_type := "isolate" } }]

/-- The second agent acknowledges the raw command of the first: the command of the other agent changes,
the pending isolation of the second agent becomes applied although its own command is still queued,
and the second agent is recorded as isolated by a command that was not addressed to it. -/
theorem not_ackOwns_foreign_raw :
    ¬ AckOwnsCommand (fun _ => true) two_agents 1 "web-2" (ack_payload "raw_1" "success") ∧
    ¬ AckOwnsAction (fun _ => true) two_agents 1 "web-2" (ack_payload "raw_1" "success") ∧
    ¬ AckOwnsRecord (fun _ => true) two_agents 1 "web-2" (ack_payload "raw_1" "success") := by
  have hdto : ∀ dto, CommandAckDTO.of_payload (fun _ => true) (ack_payload "raw_1" "success") = .ok dto →
      dto.command_id = "raw_1" := by
    intro dto h
    obtain rfl : CommandAckDTO.mk "raw_1" .SUCCESS none = dto := Except.ok.inj h
    rfl
  have hcommand : (two_agents.commands.get "raw_1").map (fun cmd => (cmd.agent_id, cmd.status)) =
      some ("web-1", .PENDING) := by decide
  obtain ⟨cmd, hcmd, hpair⟩ := Option.map_eq_some_iff.mp hcommand
  obtain ⟨hagent, hpending⟩ := Prod.mk.inj hpair
  refine ⟨fun howned => ?_, fun howned => ?_, fun howned => ?_⟩
  · have hafter : ((two_agents.acknowledge (fun _ => true) 1 "web-2"
        (ack_payload "raw_1" "success")).commands.get "raw_1").map Command.status = some .SUCCESS := by decide
    have hforeign := howned "raw_1" cmd hcmd (fun hsame => by simp [hsame, hpending] at hafter)
    rw [hagent] at hforeign
    exact absurd hforeign (by decide)
  · have hbefore : (two_agents.response_actions.get "act_2").map (fun action =>
        (action.status, action.command_id)) = some (.pending, some "cmd_2") := by decide
    have hafter : ((two_agents.acknowledge (fun _ => true) 1 "web-2"
        (ack_payload "raw_1" "success")).response_actions.get "act_2").map ResponseAction.status =
          some .applied := by decide
    obtain ⟨action, haction, hpair⟩ := Option.map_eq_some_iff.mp hbefore
    obtain ⟨hstatus, hcommand_id⟩ := Prod.mk.inj hpair
    obtain ⟨dto, hok, hown⟩ := howned "act_2" action haction (fun hsame => by simp [hsame, hstatus] at hafter)
    simp [ResponseAction.command_id, hown, hdto dto hok] at hcommand_id
  · have hbefore : (two_agents.agents.get "web-2").map Agent.is_isolated = some false := by decide
    have hafter : ((two_agents.acknowledge (fun _ => true) 1 "web-2"
        (ack_payload "raw_1" "success")).agents.get "web-2").map Agent.is_isolated = some true := by decide
    obtain ⟨agent, hrow, hfalse⟩ := Option.map_eq_some_iff.mp hbefore
    obtain ⟨dto, other, hok, hget, hown⟩ :=
      howned "web-2" agent hrow (fun hsame => by simp [hsame, hfalse] at hafter)
    rw [hdto dto hok, hcmd] at hget
    cases hget
    rw [hagent] at hown
    exact absurd hown (by decide)

end Database

end larp
