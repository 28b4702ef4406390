import ActiveResponse.Response.AuditTrail
import ActiveResponse.Response.Groups
import ActiveResponse.Response.History
import ActiveResponse.Websocket.ConcurrentPulls

namespace larp

structure AgentCreate where
  id : String
  hostname : String
  ip_address : String
  mac_address : String
  status : Option AgentStatus := none

/-- The record of an agent that registers. -/
def AgentCreate.agent (self : AgentCreate) (now : Time) : Agent where
  id := self.id
  hostname := self.hostname
  ip_address := self.ip_address
  mac_address := self.mac_address
  status := self.status.getD .ACTIVE
  last_seen := now

namespace Database

/-! ## Agents, incidents and whitelist entries by hand -/

/-- `AgentService.register_agent`. -/
def register_agent (db : Database) (reads : Reads) (now : Time) (dto : AgentCreate) : Except AppException Database :=
  if ((reads 0).agents.get dto.id).isSome then
    .error (.ConflictError ("Agent with ID '" ++ dto.id ++ "' already exists."))
  else
    match db.agents.insert (dto.agent now) with
    | some agents => .ok { db with agents }
    | none => .error (.IntegrityError "agents_pkey")

/-- A row names the agent that is not deleted with it. -/
def holds_agent (db : Database) (agent_id : String) : Bool :=
  db.commands.rows.any (fun cmd => cmd.agent_id = agent_id) ||
    db.incidents.rows.any (fun incident => incident.agent_id = some agent_id) ||
    db.risk_score_records.rows.any (fun record => record.agent_id = agent_id) ||
    db.whitelist.rows.any fun entry => entry.agent_id = some agent_id

/-- `DELETE FROM agents`, with what the foreign keys delete along with the agent: its actions, their log and its
memberships. -/
def without_agent (db : Database) (agent_id : String) : Database :=
  { db with
    agents := db.agents.delete agent_id
    response_actions := db.response_actions.delete_where fun action => action.agent_id = agent_id
    action_audit_logs := db.action_audit_logs.filter fun log =>
      (db.response_actions.get log.action_id).all fun action => action.agent_id ≠ agent_id
    agent_group_members := db.agent_group_members.filter fun member => member.agent_id ≠ agent_id }

/-- `AgentService.delete_agent`. The tables that are not modelled may name the agent too, which `elsewhere` tells. -/
def delete_agent (db : Database) (reads : Reads) (agent_id : String) (elsewhere : Bool) :
    Except AppException Database :=
  if ((reads 0).agents.get agent_id).isNone then .ok db
  else if elsewhere || db.holds_agent agent_id then .error (.IntegrityError "agent_id_fkey")
  else .ok (db.without_agent agent_id)

/-- The agent that a row may name is checked. -/
def check_agent_key (db : Database) (agent_id : Option String) (constraint : String) : Except AppException Unit :=
  if agent_id.any fun agent_id => (db.agents.get agent_id).isNone then .error (.IntegrityError constraint) else .ok ()

/-- `INSERT INTO incidents`, as `create_incident` does it. -/
def add_incident (db : Database) (incident : Incident) : Except AppException Database := do
  db.check_agent_key incident.agent_id "incidents_agent_id_fkey"
  match db.incidents.insert incident with
  | some incidents => return { db with incidents }
  | none => throw (.IntegrityError "incidents_pkey")

/-- `WhitelistService.add_entry`. -/
def add_entry (db : Database) (entry : WhitelistEntry) : Except AppException Database := do
  db.check_agent_key entry.agent_id "whitelist_entries_agent_id_fkey"
  match db.whitelist.insert entry with
  | some whitelist => return { db with whitelist }
  | none => throw (.IntegrityError "whitelist_entries_pkey")

/-- `WhitelistService.remove_entry`. -/
def remove_entry (db : Database) (entry_id : String) : Database :=
  { db with whitelist := db.whitelist.delete entry_id }

end Database

/-- The agent and the incident that an action is about. -/
def ResponseAction.subject (self : ResponseAction) : String × Option String := (self.agent_id, self.incident_id)

/-- The requests that write the database. -/
inductive Write where
  | call (call : Call)
  | group (op : GroupOp)
  | register_agent (reads : Reads) (now : Time) (dto : AgentCreate)
  | delete_agent (reads : Reads) (agent_id : String) (elsewhere : Bool)
  | add_incident (incident : Incident)
  | add_entry (entry : WhitelistEntry)
  | remove_entry (entry_id : String)

/-- A request that raises is rolled back. -/
def Database.settle (db : Database) (result : Except AppException Database) : Database :=
  match result with
  | .ok db' => db'
  | .error _ => db

def Database.write (is_datetime : Json → Bool) (py_str : PyFloat → String) (db : Database) : Write → Database
  | .call call => db.step is_datetime call
  | .group op => db.settle (db.perform_group py_str op)
  | .register_agent reads now dto => db.settle (db.register_agent reads now dto)
  | .delete_agent reads agent_id elsewhere => db.settle (db.delete_agent reads agent_id elsewhere)
  | .add_incident incident => db.settle (db.add_incident incident)
  | .add_entry entry => db.settle (db.add_entry entry)
  | .remove_entry entry_id => db.remove_entry entry_id

/-- The foreign keys: what a row names is there. -/
structure Database.References (db : Database) : Prop where
  commands : db.CommandsHaveAgents
  actions : db.ActionsHaveAgents
  action_incidents : ∀ action ∈ db.response_actions.rows, ∀ incident_id ∈ action.incident_id,
    (db.incidents.get incident_id).isSome
  incidents : ∀ incident ∈ db.incidents.rows, ∀ agent_id ∈ incident.agent_id, (db.agents.get agent_id).isSome
  risk_score_records : ∀ record ∈ db.risk_score_records.rows, (db.agents.get record.agent_id).isSome
  whitelist : ∀ entry ∈ db.whitelist.rows, ∀ agent_id ∈ entry.agent_id, (db.agents.get agent_id).isSome
  action_audit_logs : ∀ log ∈ db.action_audit_logs, (db.response_actions.get log.action_id).isSome

namespace Database

/-! ## Incidents and risk records -/

/-- What a transaction does to the incidents and the risk records: the incidents stay, and what is new names an agent
that is there. -/
structure Assessed (db db' : Database) : Prop where
  kept : ∀ id, (db.incidents.get id).isSome → (db'.incidents.get id).isSome
  incidents : ∀ incident ∈ db'.incidents.rows, (∃ old ∈ db.incidents.rows, incident.agent_id = old.agent_id) ∨
    ∃ agent_id, incident.agent_id = some agent_id ∧ (db.agents.get agent_id).isSome
  risk_score_records : ∀ record ∈ db'.risk_score_records.rows,
    record ∈ db.risk_score_records.rows ∨ (db.agents.get record.agent_id).isSome

variable {is_datetime : Json → Bool} {db db' : Database}

theorem Assessed.of_eq (hincidents : db'.incidents = db.incidents)
    (hrecords : db'.risk_score_records = db.risk_score_records) : Assessed db db' where
  kept _ hid := hincidents ▸ hid
  incidents incident hincident := .inl ⟨incident, hincidents ▸ hincident, rfl⟩
  risk_score_records _ hrecord := .inl (hrecords ▸ hrecord)

theorem assessed_create_from_risk {now : Time} {inc_id agent_id id : String} {risk_score : ℚ}
    (h : db.create_from_risk now inc_id agent_id risk_score = .ok (id, db')) : Assessed db db' := by
  unfold create_from_risk at h
  split at h
  · rename_i existing hactive
    obtain ⟨-, rfl⟩ := Prod.mk.inj (Except.ok.inj h)
    refine ⟨fun id hid => Table.isSome_get_put hid, fun incident hincident => .inl ?_, fun _ hrecord => .inl hrecord⟩
    obtain ⟨rfl, -⟩ | ⟨hold, -⟩ := Table.mem_put.mp hincident
    · exact ⟨existing, (Table.mem_of_latest hactive).1, rfl⟩
    · exact ⟨incident, hold, rfl⟩
  · split at h
    · cases h
    · rename_i hagent
      split at h
      · rename_i incidents hinsert
        obtain ⟨-, rfl⟩ := Prod.mk.inj (Except.ok.inj h)
        refine ⟨fun id hid => ?_, fun incident hincident => ?_, fun _ hrecord => .inl hrecord⟩
        · obtain ⟨old, hold⟩ := Option.isSome_iff_exists.mp hid
          rw [Table.get_of_insert_of_get hinsert hold]
          rfl
        · obtain hold | rfl := (Table.mem_of_insert hinsert).mp hincident
          · exact .inl ⟨incident, hold, rfl⟩
          · exact .inr ⟨agent_id, rfl, by simpa [Option.isSome_iff_ne_none] using hagent⟩
      · cases h

theorem assessed_add_risk_record {record : RiskScoreRecord} (h : db.add_risk_record record = .ok db') :
    Assessed db db' := by
  obtain ⟨hagent, -⟩ := add_risk_record_ok h
  unfold add_risk_record at h
  split at h
  · cases h
  · split at h
    · rename_i records hinsert
      obtain rfl := Except.ok.inj h
      refine ⟨fun _ hid => hid, fun incident hincident => .inl ⟨incident, hincident, rfl⟩, fun other hother => ?_⟩
      obtain hold | rfl := (Table.mem_of_insert hinsert).mp hother
      · exact .inl hold
      · exact .inr hagent
    · cases h

/-- A transaction that raises is rolled back. -/
theorem assessed_committed {result : Except AppException (String × Database)}
    (h : ∀ id db', result = .ok (id, db') → Assessed db db') : Assessed db (db.committed result).2 := by
  cases result with
  | error e => exact .of_eq rfl rfl
  | ok written => exact h written.1 written.2 rfl

theorem perform_assessed (op : Op) : Assessed db (db.perform is_datetime op).2 := by
  have heffect : Effect is_datetime db op (db.perform is_datetime op) := perform_effect op
  cases op with
  | create_from_risk now inc_id agent_id risk_score =>
    exact assessed_committed fun _ _ h => assessed_create_from_risk h
  | add_risk_record record =>
    refine assessed_committed fun _ _ h => ?_
    obtain ⟨written, hok, heq⟩ := map_eq_ok_iff.mp h
    obtain ⟨-, rfl⟩ := Prod.mk.inj heq
    exact assessed_add_risk_record hok
  | set_key key value =>
    refine assessed_committed fun _ _ h => ?_
    obtain ⟨written, hok, heq⟩ := map_eq_ok_iff.mp h
    obtain ⟨-, rfl⟩ := Prod.mk.inj heq
    obtain ⟨system_settings, rfl⟩ := set_key_ok hok
    exact .of_eq rfl rfl
  | heartbeat dto =>
    simp only [perform, handle_heartbeat, pull_pending_commands, update_heartbeat]
    split
    · exact .of_eq rfl rfl
    · split <;> exact .of_eq rfl rfl
  | _ =>
    -- The other transactions write neither.
    generalize db.perform is_datetime _ = answer at heffect ⊢
    cases heffect with
    | recorded hop => cases hop
    | _ => exact .of_eq rfl rfl

/-! ## What the actions are about -/

/-- An action is stored for an incident that is there. -/
theorem incident_of_create {now : Time} {action_id cmd_id : String} {req : ActionRequest} {action : ResponseAction}
    (h : db.create_and_apply_action now action_id cmd_id req = .ok (action, db')) :
    ∀ incident_id ∈ req.incident_id, (db.incidents.get incident_id).isSome := by
  unfold create_and_apply_action at h
  rw [bind_eq_ok_iff] at h
  obtain ⟨agent, -, h⟩ := h
  rw [bind_eq_ok_iff] at h
  obtain ⟨_, -, h⟩ := h
  rw [bind_eq_ok_iff] at h
  obtain ⟨settings, -, h⟩ := h
  rw [bind_eq_ok_iff] at h
  obtain ⟨_, -, h⟩ := h
  rw [bind_eq_ok_iff] at h
  obtain ⟨db₁, hadd, -⟩ := h
  intro incident_id hincident
  have hid : (req.response_action db settings now action_id cmd_id).incident_id = some incident_id := hincident
  unfold add_response_action at hadd
  split at hadd
  · cases hadd
  · rename_i hmissing
    rw [hid] at hmissing
    simpa [Option.isSome_iff_ne_none] using hmissing

/-- What a change does not touch is there before it. -/
theorem subject_of_modify {actions : Table ResponseAction} {target : String} {f : ResponseAction → ResponseAction}
    (hkey : ∀ action, Keyed.key (f action) = Keyed.key action)
    (hsubject : ∀ action, (f action).subject = action.subject) {action : ResponseAction}
    (h : action ∈ (actions.modify target f).rows) : ∃ old ∈ actions.rows, action.subject = old.subject := by
  obtain ⟨old, hold, rfl⟩ := (Table.mem_modify hkey).mp h
  refine ⟨old, hold, ?_⟩
  split
  · exact hsubject old
  · rfl

theorem acked_subject (now : Time) (status : CommandStatus) (action : ResponseAction) :
    (action.acked now status).subject = action.subject := by
  unfold ResponseAction.acked
  split <;> rfl

/-- An action is about what it was created for, and its agent has been sent a command. -/
theorem Effect.subject {op : Op} {result : Except AppException String} (h : Effect is_datetime db op (result, db'))
    {action : ResponseAction} (haction : action ∈ db'.response_actions.rows) :
    (∃ old ∈ db.response_actions.rows, action.subject = old.subject) ∨
      ∃ now action_id cmd_id req, op = .create_and_apply_action now action_id cmd_id req ∧ result = .ok action_id ∧
        action.subject = (req.agent_id, req.incident_id) ∧ ∃ cmd ∈ db'.commands.rows, cmd.agent_id = req.agent_id := by
  cases h with
  | refused e | unknown_ack | queued | written | swept | recorded => exact .inl ⟨action, haction, rfl⟩
  | created hagent hinsert hcommand =>
    obtain hold | rfl := (Table.mem_of_insert hinsert).mp haction
    · exact .inl ⟨action, hold, rfl⟩
    · exact .inr ⟨_, _, _, _, rfl, rfl, rfl, _, (Table.mem_of_insert hcommand).mpr (.inr rfl), rfl⟩
  | @acked now agent_id payload dto cmd target logs hack =>
    cases target with
    | none => exact .inl ⟨action, haction, rfl⟩
    | some target =>
      exact .inl (subject_of_modify (ResponseAction.key_acked now dto.status) (acked_subject now dto.status) haction)
  | undo_failed => exact .inl (subject_of_modify (ResponseAction.key_set_status _) (fun _ => rfl) haction)
  | undone => exact .inl (subject_of_modify (ResponseAction.key_revert _ _ _ _) (fun _ => rfl) haction)
  | heartbeat =>
    rw [handle_heartbeat_response_actions] at haction
    exact .inl ⟨action, haction, rfl⟩

theorem perform_incident_id {op : Op} {action : ResponseAction}
    (haction : action ∈ (db.perform is_datetime op).2.response_actions.rows) :
    (∃ old ∈ db.response_actions.rows, action.incident_id = old.incident_id) ∨
      ∀ incident_id ∈ action.incident_id, (db.incidents.get incident_id).isSome := by
  have heffect : Effect is_datetime db op (db.perform is_datetime op) := perform_effect op
  obtain ⟨old, hold, hsubject⟩ | ⟨now, action_id, cmd_id, req, rfl, hok, hsubject, -⟩ := Effect.subject heffect haction
  · exact .inl ⟨old, hold, congrArg Prod.snd hsubject⟩
  · right
    have hincident : action.incident_id = req.incident_id := congrArg Prod.snd hsubject
    rw [hincident]
    cases hcreate : db.create_and_apply_action now action_id cmd_id req with
    | error e =>
      simp only [hcreate] at hok
      cases hok
    | ok created => exact incident_of_create hcreate

/-! ## The foreign keys -/

theorem Audited.references (h : db.Audited) :
    ∀ log ∈ db.action_audit_logs, (db.response_actions.get log.action_id).isSome := by
  intro log hlog
  rw [Option.isSome_iff_ne_none]
  intro hnone
  have hevent : log.event ∈ db.trail log.action_id :=
    List.mem_map.mpr ⟨(log.action_id, log.event), List.mem_filter.mpr
      ⟨List.mem_map.mpr ⟨log, hlog, rfl⟩, by simp⟩, rfl⟩
  rw [h.unknown log.action_id hnone] at hevent
  cases hevent

/-- The tables of groups, memberships, policies and whitelist entries, which no transaction writes. -/
def directory (db : Database) :
    Table AgentGroup × List AgentGroupMember × Table ResponsePolicy × Table WhitelistEntry :=
  (db.agent_groups, db.agent_group_members, db.response_policies, db.whitelist)

theorem Effect.directory {op : Op} {result : Except AppException String}
    (h : Effect is_datetime db op (result, db')) : db'.directory = db.directory := by
  cases h with
  | heartbeat =>
    simp only [Database.directory, handle_heartbeat, pull_pending_commands, update_heartbeat]
    split
    · rfl
    · split <;> rfl
  | _ => rfl

/-- Groups, memberships and policies fit together as long as the agents stay. -/
theorem Grouped.of_directory (h : db.Grouped) (hdirectory : db'.directory = db.directory)
    (hagents : ∀ id, (db.agents.get id).isSome → (db'.agents.get id).isSome) : db'.Grouped := by
  simp only [directory, Prod.mk.injEq] at hdirectory
  obtain ⟨hgroups, hmembers, hpolicies, -⟩ := hdirectory
  refine ⟨?_, ?_, ?_, ?_⟩
  · rw [hmembers, hgroups]
    exact fun member hmember => (h.members member hmember).imp_right (hagents _)
  · rw [hmembers]
    exact h.distinct
  · rw [hgroups]
    exact h.names
  · rw [hpolicies, hgroups]
    exact h.policies

theorem perform_references {op : Op} (haudited : (db.perform is_datetime op).2.Audited) (h : db.References) :
    (db.perform is_datetime op).2.References := by
  have heffect : Effect is_datetime db op (db.perform is_datetime op) := perform_effect op
  have hassessed : Assessed db (db.perform is_datetime op).2 := perform_assessed op
  have hwhitelist : (db.perform is_datetime op).2.whitelist = db.whitelist :=
    congrArg (fun tables => tables.2.2.2) (Effect.directory heffect)
  have hagents := fun id (hagent : (db.agents.get id).isSome) => heffect.agents_persist hagent
  refine ⟨heffect.commandsHaveAgents h.commands, heffect.actionsHaveAgents h.actions, ?_, ?_, ?_, ?_,
    haudited.references⟩
  · intro action haction incident_id hincident
    apply hassessed.kept
    obtain ⟨old, hold, heq⟩ | hnew := perform_incident_id haction
    · exact h.action_incidents old hold incident_id (heq ▸ hincident)
    · exact hnew incident_id hincident
  · intro incident hincident agent_id hagent
    apply hagents
    obtain ⟨old, hold, heq⟩ | ⟨other, hother, hsome⟩ := hassessed.incidents incident hincident
    · exact h.incidents old hold agent_id (heq ▸ hagent)
    · obtain rfl := Option.some.inj (hother.symm.trans hagent)
      exact hsome
  · intro record hrecord
    apply hagents
    obtain hold | hsome := hassessed.risk_score_records record hrecord
    · exact h.risk_score_records record hold
    · exact hsome
  · rw [hwhitelist]
    exact fun entry hentry agent_id hagent => hagents agent_id (h.whitelist entry hentry agent_id hagent)

/-! ## Runs -/

/-- Every action has had a command sent to its agent. -/
def Commanded (db : Database) : Prop :=
  ∀ action ∈ db.response_actions.rows, ∃ cmd ∈ db.commands.rows, cmd.agent_id = action.agent_id

structure Consistent (db : Database) : Prop where
  references : db.References
  grouped : db.Grouped
  audited : db.Audited
  commanded : db.Commanded

theorem Effect.commanded {op : Op} {result : Except AppException String} (h : Effect is_datetime db op (result, db'))
    (hcommanded : db.Commanded) : db'.Commanded := by
  intro action haction
  obtain ⟨old, hold, hsubject⟩ | ⟨_, _, _, req, -, -, hsubject, cmd, hcmd, hagent⟩ := Effect.subject h haction
  · obtain ⟨cmd, hcmd, hagent⟩ := hcommanded old hold
    obtain ⟨cmd', hcmd', hsame⟩ := h.keepsCommands cmd.id cmd (Table.get_of_mem hcmd)
    have hold_agent : action.agent_id = old.agent_id := congrArg Prod.fst hsubject
    exact ⟨cmd', Table.get_mem hcmd', by rw [hsame, hagent, hold_agent]⟩
  · have hnew_agent : action.agent_id = req.agent_id := congrArg Prod.fst hsubject
    exact ⟨cmd, hcmd, hagent.trans hnew_agent.symm⟩

theorem step_consistent (call : Call) (h : db.Consistent) : (db.step is_datetime call).Consistent := by
  have haudited : (db.step is_datetime call).Audited := (step_audit call).audited h.audited
  cases hfault : call.fault with
  | some e =>
    have hsame : db.step is_datetime call = db := by simp only [step, answer, hfault]
    rw [hsame]
    exact h
  | none =>
    have hstep : db.step is_datetime call = (db.perform is_datetime call.op).2 := by simp only [step, answer, hfault]
    have heffect : Effect is_datetime db call.op (db.perform is_datetime call.op) := perform_effect call.op
    rw [hstep] at haudited ⊢
    exact ⟨perform_references haudited h.references,
      h.grouped.of_directory (Effect.directory heffect) fun _ hagent => heffect.agents_persist hagent,
      haudited, Effect.commanded heffect h.commanded⟩

theorem group_consistent {py_str : PyFloat → String} {op : GroupOp} (h : db.Consistent)
    (hok : db.perform_group py_str op = .ok db') : db'.Consistent := by
  obtain ⟨⟨_, _, _, rfl⟩, hgrouped⟩ := perform_group_grouped hok h.grouped
  exact ⟨⟨h.references.commands, h.references.actions, h.references.action_incidents, h.references.incidents,
    h.references.risk_score_records, h.references.whitelist, h.references.action_audit_logs⟩, hgrouped,
    ⟨h.audited.explained, h.audited.unknown⟩, h.commanded⟩

theorem register_agent_ok {reads : Reads} {now : Time} {dto : AgentCreate}
    (h : db.register_agent reads now dto = .ok db') :
    ∃ agents, db.agents.insert (dto.agent now) = some agents ∧ db' = { db with agents } := by
  unfold register_agent at h
  split at h
  · cases h
  · split at h
    · rename_i agents hinsert
      exact ⟨agents, hinsert, (Except.ok.inj h).symm⟩
    · cases h

theorem register_agent_consistent {reads : Reads} {now : Time} {dto : AgentCreate} (h : db.Consistent)
    (hok : db.register_agent reads now dto = .ok db') : db'.Consistent := by
  obtain ⟨agents, hinsert, rfl⟩ := register_agent_ok hok
  have hkept (id : String) (hid : (db.agents.get id).isSome) : (agents.get id).isSome := by
    obtain ⟨agent, hagent⟩ := Option.isSome_iff_exists.mp hid
    rw [Table.get_of_insert_of_get hinsert hagent]
    rfl
  exact ⟨⟨fun cmd hcmd => hkept _ (h.references.commands cmd hcmd),
    fun action haction => hkept _ (h.references.actions action haction), h.references.action_incidents,
    fun incident hincident id hid => hkept id (h.references.incidents incident hincident id hid),
    fun record hrecord => hkept _ (h.references.risk_score_records record hrecord),
    fun entry hentry id hid => hkept id (h.references.whitelist entry hentry id hid),
    h.references.action_audit_logs⟩, h.grouped.of_directory rfl hkept,
    ⟨h.audited.explained, h.audited.unknown⟩, h.commanded⟩

/-- An agent that an action was applied to is held by the command of the action. -/
theorem Commanded.holds_agent (h : db.Commanded) {action : ResponseAction}
    (haction : action ∈ db.response_actions.rows) : db.holds_agent action.agent_id := by
  obtain ⟨cmd, hcmd, hagent⟩ := h action haction
  have hany : db.commands.rows.any fun cmd => cmd.agent_id = action.agent_id :=
    List.any_eq_true.mpr ⟨cmd, hcmd, by simpa using hagent⟩
  simp [Database.holds_agent, hany]

/-- Nothing but its memberships ever goes with an agent. -/
theorem without_agent_of_not_holds {agent_id : String} (h : db.Consistent) (hheld : ¬db.holds_agent agent_id) :
    db.without_agent agent_id = { db with
      agents := db.agents.delete agent_id
      agent_group_members := db.agent_group_members.filter fun member => member.agent_id ≠ agent_id } := by
  have hactions : ∀ action ∈ db.response_actions.rows, action.agent_id ≠ agent_id := by
    rintro action haction rfl
    exact hheld (h.commanded.holds_agent haction)
  have hrows : (db.response_actions.delete_where fun action => action.agent_id = agent_id) = db.response_actions :=
    Table.delete_where_of_forall fun action haction => by simpa using hactions action haction
  have hlogs : (db.action_audit_logs.filter fun log => (db.response_actions.get log.action_id).all fun action =>
      action.agent_id ≠ agent_id) = db.action_audit_logs := by
    rw [List.filter_eq_self]
    intro log _
    cases hget : db.response_actions.get log.action_id with
    | none => rfl
    | some action => simpa using hactions action (Table.get_mem hget)
  rw [without_agent, hrows, hlogs]

/-- An agent is deleted with its memberships, if nothing else names it. -/
theorem delete_agent_ok {reads : Reads} {agent_id : String} {elsewhere : Bool} (h : db.Consistent)
    (hok : db.delete_agent reads agent_id elsewhere = .ok db') :
    db' = db ∨ ¬db.holds_agent agent_id ∧ db' = { db with
      agents := db.agents.delete agent_id
      agent_group_members := db.agent_group_members.filter fun member => member.agent_id ≠ agent_id } := by
  unfold delete_agent at hok
  split at hok
  · exact .inl (Except.ok.inj hok).symm
  · split at hok
    · cases hok
    · rename_i hheld
      have hfree : ¬db.holds_agent agent_id := by
        intro hholds
        simp [hholds] at hheld
      exact .inr ⟨hfree, (Except.ok.inj hok).symm.trans (without_agent_of_not_holds h hfree)⟩

theorem delete_agent_consistent {reads : Reads} {agent_id : String} {elsewhere : Bool} (h : db.Consistent)
    (hok : db.delete_agent reads agent_id elsewhere = .ok db') : db'.Consistent := by
  obtain rfl | ⟨hfree, rfl⟩ := delete_agent_ok h hok
  · exact h
  · have hkept {id : String} (hid : (db.agents.get id).isSome) (hne : id ≠ agent_id) :
        ((db.agents.delete agent_id).get id).isSome := by
      rwa [Table.get_delete, if_neg (Ne.symm hne)]
    simp only [holds_agent, Bool.or_eq_true, List.any_eq_true, decide_eq_true_eq, not_or, not_exists,
      not_and] at hfree
    obtain ⟨⟨⟨hcommands, hincidents⟩, hrecords⟩, hentries⟩ := hfree
    refine ⟨⟨fun cmd hcmd => hkept (h.references.commands cmd hcmd) (hcommands cmd hcmd), fun action haction => ?_,
      h.references.action_incidents, fun incident hincident id hid => ?_,
      fun record hrecord => hkept (h.references.risk_score_records record hrecord) (hrecords record hrecord),
      fun entry hentry id hid => ?_, h.references.action_audit_logs⟩, ⟨fun member hmember => ?_,
      h.grouped.distinct.filter _, h.grouped.names, h.grouped.policies⟩,
      ⟨h.audited.explained, h.audited.unknown⟩, h.commanded⟩
    · obtain ⟨cmd, hcmd, hagent⟩ := h.commanded action haction
      exact hkept (h.references.actions action haction) (hagent ▸ hcommands cmd hcmd)
    · refine hkept (h.references.incidents incident hincident id hid) ?_
      rintro rfl
      exact hincidents incident hincident hid
    · refine hkept (h.references.whitelist entry hentry id hid) ?_
      rintro rfl
      exact hentries entry hentry hid
    · obtain ⟨hold, hne⟩ := List.mem_filter.mp hmember
      exact (h.grouped.members member hold).imp_right fun hagent => hkept hagent (of_decide_eq_true hne)

theorem agent_of_check {agent_id : Option String} {name : String} (h : db.check_agent_key agent_id name = .ok ()) :
    ∀ id ∈ agent_id, (db.agents.get id).isSome := by
  rintro id rfl
  unfold check_agent_key at h
  split at h
  · cases h
  · rename_i hfound
    simpa [Option.isSome_iff_ne_none] using hfound

theorem add_incident_ok {incident : Incident} (h : db.add_incident incident = .ok db') :
    ∃ incidents, (∀ id ∈ incident.agent_id, (db.agents.get id).isSome) ∧
      db.incidents.insert incident = some incidents ∧ db' = { db with incidents } := by
  unfold add_incident at h
  rw [bind_eq_ok_iff] at h
  obtain ⟨_, hcheck, h⟩ := h
  split at h
  · rename_i incidents hinsert
    exact ⟨incidents, agent_of_check hcheck, hinsert, (Except.ok.inj h).symm⟩
  · cases h

theorem add_incident_consistent {incident : Incident} (h : db.Consistent) (hok : db.add_incident incident = .ok db') :
    db'.Consistent := by
  obtain ⟨incidents, hagent, hinsert, rfl⟩ := add_incident_ok hok
  refine ⟨⟨h.references.commands, h.references.actions, fun action haction id hid => ?_,
    fun other hother id hid => ?_, h.references.risk_score_records, h.references.whitelist,
    h.references.action_audit_logs⟩, ⟨h.grouped.members, h.grouped.distinct, h.grouped.names, h.grouped.policies⟩,
    ⟨h.audited.explained, h.audited.unknown⟩, h.commanded⟩
  · obtain ⟨old, hold⟩ := Option.isSome_iff_exists.mp (h.references.action_incidents action haction id hid)
    rw [Table.get_of_insert_of_get hinsert hold]
    rfl
  · obtain hold | rfl := (Table.mem_of_insert hinsert).mp hother
    · exact h.references.incidents other hold id hid
    · exact hagent id hid

theorem add_entry_ok {entry : WhitelistEntry} (h : db.add_entry entry = .ok db') :
    ∃ whitelist, (∀ id ∈ entry.agent_id, (db.agents.get id).isSome) ∧
      db.whitelist.insert entry = some whitelist ∧ db' = { db with whitelist } := by
  unfold add_entry at h
  rw [bind_eq_ok_iff] at h
  obtain ⟨_, hcheck, h⟩ := h
  split at h
  · rename_i whitelist hinsert
    exact ⟨whitelist, agent_of_check hcheck, hinsert, (Except.ok.inj h).symm⟩
  · cases h

theorem add_entry_consistent {entry : WhitelistEntry} (h : db.Consistent) (hok : db.add_entry entry = .ok db') :
    db'.Consistent := by
  obtain ⟨whitelist, hagent, hinsert, rfl⟩ := add_entry_ok hok
  refine ⟨⟨h.references.commands, h.references.actions, h.references.action_incidents, h.references.incidents,
    h.references.risk_score_records, fun other hother id hid => ?_, h.references.action_audit_logs⟩,
    ⟨h.grouped.members, h.grouped.distinct, h.grouped.names, h.grouped.policies⟩,
    ⟨h.audited.explained, h.audited.unknown⟩, h.commanded⟩
  obtain hold | rfl := (Table.mem_of_insert hinsert).mp hother
  · exact h.references.whitelist other hold id hid
  · exact hagent id hid

theorem remove_entry_consistent (entry_id : String) (h : db.Consistent) : (db.remove_entry entry_id).Consistent :=
  ⟨⟨h.references.commands, h.references.actions, h.references.action_incidents, h.references.incidents,
    h.references.risk_score_records, fun entry hentry => h.references.whitelist entry (List.mem_of_mem_filter hentry),
    h.references.action_audit_logs⟩, ⟨h.grouped.members, h.grouped.distinct, h.grouped.names, h.grouped.policies⟩,
    ⟨h.audited.explained, h.audited.unknown⟩, h.commanded⟩

theorem settle_of_ok {P : Database → Prop} {result : Except AppException Database} (hrefused : P db)
    (hok : ∀ db', result = .ok db' → P db') : P (db.settle result) := by
  cases result with
  | error e => exact hrefused
  | ok db' => exact hok db' rfl

variable {py_str : PyFloat → String}

theorem write_consistent (w : Write) (h : db.Consistent) : (db.write is_datetime py_str w).Consistent := by
  cases w with
  | call call => exact step_consistent call h
  | group op => exact settle_of_ok h fun _ hok => group_consistent h hok
  | register_agent reads now dto => exact settle_of_ok h fun _ hok => register_agent_consistent h hok
  | delete_agent reads agent_id elsewhere => exact settle_of_ok h fun _ hok => delete_agent_consistent h hok
  | add_incident incident => exact settle_of_ok h fun _ hok => add_incident_consistent h hok
  | add_entry entry => exact settle_of_ok h fun _ hok => add_entry_consistent h hok
  | remove_entry entry_id => exact remove_entry_consistent entry_id h

/-- What a request leaves of the actions and of their log: all of it. -/
structure KeepsHistory (db db' : Database) : Prop where
  logs : db.action_audit_logs <+: db'.action_audit_logs
  actions : ∀ id action, db.response_actions.get id = some action →
    ∃ action', db'.response_actions.get id = some action' ∧ action'.SameRequest action

theorem KeepsHistory.of_eq (hlogs : db'.action_audit_logs = db.action_audit_logs)
    (hactions : db'.response_actions = db.response_actions) : db.KeepsHistory db' :=
  ⟨hlogs ▸ List.prefix_refl _, fun _ action hget => ⟨action, hactions ▸ hget, .refl action⟩⟩

theorem KeepsHistory.trans {db'' : Database} (h : db.KeepsHistory db') (h' : db'.KeepsHistory db'') :
    db.KeepsHistory db'' := by
  refine ⟨h.logs.trans h'.logs, fun id action hget => ?_⟩
  obtain ⟨action', hget', hsame⟩ := h.actions id action hget
  obtain ⟨action'', hget'', hsame'⟩ := h'.actions id action' hget'
  exact ⟨action'', hget'', hsame'.trans hsame⟩

theorem step_keepsHistory (call : Call) : db.KeepsHistory (db.step is_datetime call) := by
  refine ⟨(step_audit call).log_grows, fun id action hget => ?_⟩
  obtain ⟨action', hget', hchange⟩ := action_change_step is_datetime call hget
  exact ⟨action', hget', hchange.sameRequest⟩

theorem write_keepsHistory (w : Write) (h : db.Consistent) : db.KeepsHistory (db.write is_datetime py_str w) := by
  have hrefl : db.KeepsHistory db := .of_eq rfl rfl
  cases w with
  | call call => exact step_keepsHistory call
  | group op =>
    refine settle_of_ok hrefl fun db' hok => ?_
    obtain ⟨⟨_, _, _, rfl⟩, -⟩ := perform_group_grouped hok h.grouped
    exact .of_eq rfl rfl
  | register_agent reads now dto =>
    refine settle_of_ok hrefl fun db' hok => ?_
    obtain ⟨_, -, rfl⟩ := register_agent_ok hok
    exact .of_eq rfl rfl
  | delete_agent reads agent_id elsewhere =>
    refine settle_of_ok hrefl fun db' hok => ?_
    obtain rfl | ⟨-, rfl⟩ := delete_agent_ok h hok
    · exact hrefl
    · exact .of_eq rfl rfl
  | add_incident incident =>
    refine settle_of_ok hrefl fun db' hok => ?_
    obtain ⟨_, -, -, rfl⟩ := add_incident_ok hok
    exact .of_eq rfl rfl
  | add_entry entry =>
    refine settle_of_ok hrefl fun db' hok => ?_
    obtain ⟨_, -, -, rfl⟩ := add_entry_ok hok
    exact .of_eq rfl rfl
  | remove_entry entry_id => exact .of_eq rfl rfl

theorem run_consistent (writes : List Write) (h : db.Consistent) :
    (transition.run (write is_datetime py_str) db writes).Consistent :=
  transition.run_preserves (I := Consistent) (fun _ w h => write_consistent w h) h writes

/-- A manager that knows agents and groups only. -/
theorem consistent_of_rows (h : db.Grouped)
    (hrows : db.commands.rows = [] ∧ db.response_actions.rows = [] ∧ db.action_audit_logs = [] ∧
      db.incidents.rows = [] ∧ db.risk_score_records.rows = [] ∧ db.whitelist.rows = []) : db.Consistent := by
  obtain ⟨hcommands, hactions, hlogs, hincidents, hrecords, hentries⟩ := hrows
  refine ⟨⟨?_, ?_, ?_, ?_, ?_, ?_, ?_⟩, h, ⟨?_, fun id _ => ?_⟩, ?_⟩
  · simp [CommandsHaveAgents, hcommands]
  · simp [ActionsHaveAgents, hactions]
  · simp [hactions]
  · simp [hincidents]
  · simp [hrecords]
  · simp [hentries]
  · simp [hlogs]
  · simp [hactions]
  · simp [trail, events, hlogs]
  · simp [Commanded, hactions]

theorem one_agent_consistent : one_agent.Consistent := by
  refine consistent_of_rows ⟨?_, ?_, ?_, ?_⟩ ⟨rfl, rfl, rfl, rfl, rfl, rfl⟩
  · intro member hmember
    cases hmember
  · exact List.nodup_nil
  · exact List.nodup_nil
  · intro policy hpolicy
    cases hpolicy

def create_servers : GroupOp := .create_group (fun _ => one_agent) "0" " servers " none

/-- The agent is put into a new group and isolated; then somebody tries to delete it. -/
def isolate_and_delete : List Write :=
  [.group create_servers,
    .group (.add_agents_to_group (fun _ => one_agent.settle (one_agent.perform_group (fun _ => "") create_servers))
      "grp_0" ["web-1", "web-2", "web-1"]),
    .call { op := .create_and_apply_action 0 "act_1" "cmd_1" { agent_id := "web-1", action_type := "isolate" } },
    .delete_agent (fun _ => one_agent) "web-1" false]

/-- Over any run of requests, with deletions, overlapping sessions and refused requests among them, whatever a row
names is there, no group has the name of another one, and no agent is in a group twice. -/
theorem references_hold (is_datetime : Json → Bool) (py_str : PyFloat → String) (db : Database) (writes : List Write)
    (h : db.Consistent) :
    (transition.run (write is_datetime py_str) db writes).References ∧
      (transition.run (write is_datetime py_str) db writes).Grouped :=
  ⟨(run_consistent writes h).references, (run_consistent writes h).grouped⟩

theorem references_hold_isolate_and_delete :
    (transition.run (write (fun _ => true) (fun _ => "")) one_agent isolate_and_delete).References ∧
      (transition.run (write (fun _ => true) (fun _ => "")) one_agent isolate_and_delete).Grouped :=
  references_hold (fun _ => true) (fun _ => "") one_agent isolate_and_delete one_agent_consistent

/-- Over any run of requests the views of the groups agree with each other and with the agents that an action on a
group is sent to. -/
theorem group_views_agree (is_datetime : Json → Bool) (py_str : PyFloat → String) (db : Database) (writes : List Write)
    (h : db.Consistent) : (transition.run (write is_datetime py_str) db writes).GroupViews :=
  (run_consistent writes h).grouped.views

theorem group_views_agree_isolate_and_delete :
    (transition.run (write (fun _ => true) (fun _ => "")) one_agent isolate_and_delete).GroupViews :=
  group_views_agree (fun _ => true) (fun _ => "") one_agent isolate_and_delete one_agent_consistent

/-- No request deletes an action or an entry of the audit log, although deleting an agent would delete both: the
command of an action keeps its agent. -/
theorem history_survives (is_datetime : Json → Bool) (py_str : PyFloat → String) (db : Database) (first second : List Write)
    (h : db.Consistent) :
    let before := transition.run (write is_datetime py_str) db first
    let after := transition.run (write is_datetime py_str) before second
    before.action_audit_logs <+: after.action_audit_logs ∧
      ∀ id action, before.response_actions.get id = some action →
        (after.agents.get action.agent_id).isSome ∧
          ∃ action', after.response_actions.get id = some action' ∧ action'.SameRequest action ∧
            action'.Explained (after.trail id) := by
  intro before after
  have hbefore : before.Consistent := run_consistent first h
  have hrun : after.Consistent ∧ before.KeepsHistory after :=
    transition.run_preserves (I := fun db : Database => db.Consistent ∧ before.KeepsHistory db)
      (fun _ w h => ⟨write_consistent w h.1, h.2.trans (write_keepsHistory w h.1)⟩) ⟨hbefore, .of_eq rfl rfl⟩ second
  obtain ⟨hafter, hkept⟩ := hrun
  refine ⟨hkept.logs, fun id action hget => ?_⟩
  obtain ⟨action', hget', hsame⟩ := hkept.actions id action hget
  have hid : action'.id = id := Table.key_of_get hget'
  refine ⟨?_, action', hget', hsame, hid ▸ hafter.audited.explained action' (Table.get_mem hget')⟩
  rw [← hsame.agent_id]
  exact hafter.references.actions action' (Table.get_mem hget')

theorem history_survives_isolate_and_delete :
    let before := transition.run (write (fun _ => true) (fun _ => "")) one_agent (isolate_and_delete.take 3)
    let after := transition.run (write (fun _ => true) (fun _ => "")) before (isolate_and_delete.drop 3)
    before.action_audit_logs <+: after.action_audit_logs ∧
      ∀ id action, before.response_actions.get id = some action →
        (after.agents.get action.agent_id).isSome ∧
          ∃ action', after.response_actions.get id = some action' ∧ action'.SameRequest action ∧
            action'.Explained (after.trail id) :=
  history_survives (fun _ => true) (fun _ => "") one_agent _ _ one_agent_consistent

end Database

end larp
