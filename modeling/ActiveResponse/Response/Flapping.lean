import ActiveResponse.Response.History

namespace larp

/-- What a command or an action of this name has the agent do, if it cuts the agent off. -/
def containment_effect (name : String) : Option String :=
  if name ∈ ["isolate", "auto_isolate"] then some "isolate"
  else if name = "quarantine" then some "quarantine"
  else none

/-- The action has taken effect and its cooldown is not over. -/
def ResponseAction.cooling (self : ResponseAction) (now : Time) : Bool :=
  (self.status = .applied ∨ self.status = .reverted) ∧ ∃ u ∈ self.cooldown_until, now < u

/-- The manager with its clock. -/
structure Clocked where
  db : Database
  clock : Time := 0

inductive ClockedStep where
  | advance (microseconds : ℕ)
  | call (call : Call)

/-- The transaction with the time that it reads from the clock. -/
def Op.at_time (now : Time) : Op → Op
  | .create_and_apply_action _ action_id cmd_id req => .create_and_apply_action now action_id cmd_id req
  | .command_ack _ agent_id payload => .command_ack now agent_id payload
  | .rollback_action _ cmd_id action_id reason actor => .rollback_action now cmd_id action_id reason actor
  | .create_from_risk _ inc_id agent_id risk_score => .create_from_risk now inc_id agent_id risk_score
  | op => op

/-- The agent and the name of the command that a transaction is asked to queue. -/
def Op.queues : Op → Option (String × String)
  | .create_and_apply_action _ _ _ req => some (req.agent_id, req.action_type)
  | .queue_command raw action => some (raw.agent_id, action)
  | op => op.agent_write.map fun (raw, action, _) => (raw.agent_id, action)

/-- The transaction is asked to queue a command with this effect for the agent. -/
def Op.contains (self : Op) (agent_id effect : String) : Bool :=
  self.queues.any fun (target, name) => target = agent_id ∧ containment_effect name = some effect

namespace Clocked

def timed (self : Clocked) (call : Call) : Call :=
  { call with op := call.op.at_time self.clock }

def step (is_datetime : Json → Bool) (self : Clocked) : ClockedStep → Clocked
  | .advance microseconds => { self with clock := self.clock + microseconds }
  | .call call => { self with db := self.db.step is_datetime (self.timed call) }

/-- The step does not get a command with this effect queued for the agent: a request for one ends in
`FlappingCooldownError`, and every such command that is there afterwards was there before. -/
structure KeptOff (is_datetime : Json → Bool) (s : Clocked) (next : ClockedStep) (agent_id effect : String) :
    Prop where
  refused : ∀ call, next = .call call → call.fault = none → call.op.contains agent_id effect →
    ∃ message, (s.db.answer is_datetime (s.timed call)).1 = .error (.FlappingCooldownError message)
  commands : ∀ cmd ∈ (s.step is_datetime next).db.commands.rows, cmd.agent_id = agent_id →
    containment_effect cmd.action = some effect → (s.db.commands.get cmd.id).isSome

/-- Once a containment action is applied or reverted with a cooldown, nothing with the same effect is queued for
its agent until that cooldown is over. -/
def AntiFlapping (is_datetime : Json → Bool) (self : Clocked) (steps : List ClockedStep) : Prop :=
  ∀ early late next rest, steps = early ++ late ++ next :: rest →
    ∀ action ∈ (transition.run (step is_datetime) self early).db.response_actions.rows,
      action.status = .applied ∨ action.status = .reverted →
        ∀ effect ∈ containment_effect action.action_type, ∀ cooldown_until ∈ action.cooldown_until,
          (transition.run (step is_datetime) self (early ++ late)).clock < cooldown_until →
            (transition.run (step is_datetime) self (early ++ late)).KeptOff is_datetime next action.agent_id effect

/-- The actions with this effect that are cooling down on the agent. -/
def cooling (self : Clocked) (agent_id effect : String) : List ResponseAction :=
  self.db.response_actions.rows.filter fun action =>
    action.agent_id = agent_id ∧ containment_effect action.action_type = some effect ∧ action.cooling self.clock

/-- Whether the cooldown check of a request finds what is cooling down on the agent: it is made for some types
only, and looks for the very type that is requested. -/
def checked (self : Clocked) (req : ActionRequest) (effect : String) : Bool :=
  req.action_type ∈ COOLDOWN_ACTIONS ∧
    ∃ action ∈ self.cooling req.agent_id effect, action.action_type = req.action_type

/-- The cooldown of the action is not cut short by the one that a rollback would set now. -/
def outlasted (self : Clocked) (action : ResponseAction) : Bool :=
  match self.db.get_auto_rollback_settings with
  | .ok settings => ∀ u ∈ action.cooldown_until, u ≤ self.clock + seconds settings.cooldown_seconds
  | .error _ => true

/-- The condition under which a transaction respects the cooldowns. -/
def allows (is_datetime : Json → Bool) (self : Clocked) : Op → Bool
  | .command_ack _ agent_id payload =>
    match self.db.resolve_ack is_datetime agent_id payload with
    | some (dto, _, some action) =>
      dto.status = .SUCCESS ∨ ¬ (is_containment action.action_type ∧ action.cooling self.clock)
    | _ => true
  | .rollback_action _ _ action_id _ _ =>
    (self.db.response_actions.get action_id).all fun action =>
      (is_containment action.action_type ∧ action.status = .applied ∧ action.cooling self.clock) →
        self.outlasted action
  | .create_and_apply_action _ _ _ req =>
    (containment_effect req.action_type).all fun effect =>
      (self.cooling req.agent_id effect).isEmpty ∨ self.checked req effect
  | op =>
    op.queues.all fun (agent_id, name) =>
      (containment_effect name).all fun effect => (self.cooling agent_id effect).isEmpty

def respects_cooldowns (is_datetime : Json → Bool) (self : Clocked) : ClockedStep → Bool
  | .advance _ => true
  | .call call => call.fault.isSome ∨ self.allows is_datetime call.op

end Clocked

/-! ## The commands that a transaction adds -/

theorem containment_effect_isSome {name : String} :
    (containment_effect name).isSome ↔ is_containment name := by
  rw [is_containment_iff, containment_effect]
  split
  · rename_i hmem
    simp only [List.mem_cons, List.not_mem_nil, or_false] at hmem
    exact iff_of_true rfl (hmem.imp_right Or.inl)
  · rename_i hmem
    simp only [List.mem_cons, List.not_mem_nil, or_false, not_or] at hmem
    split <;> simp_all

/-- Undoing an action cuts no agent off. -/
theorem ResponseAction.containment_effect_compensation {self : ResponseAction} {cmd_id : String} {cmd : Command}
    (h : self.compensation_command cmd_id = some cmd) : containment_effect cmd.action = none := by
  obtain ⟨action, haction, rfl⟩ := Option.map_eq_some_iff.mp h
  unfold compensation get_compensation_action at haction
  split at haction
  · cases haction
    rfl
  · split at haction
    · cases haction
      rfl
    · split at haction
      · cases haction
        rfl
      · cases haction

/-- The command of a request has the effect that its type asks for. -/
theorem ActionRequest.containment_effect_command (self : ActionRequest) (action_id cmd_id : String) :
    containment_effect (self.command action_id cmd_id).action = containment_effect self.action_type := by
  unfold command
  dsimp only
  split
  · rename_i htype
    rw [htype]
    rfl
  · rfl

@[simp] theorem Op.contains_at_time (self : Op) (now : Time) (agent_id effect : String) :
    (self.at_time now).contains agent_id effect = self.contains agent_id effect := by
  cases self <;> rfl

theorem Op.contains_of_agent_write {op : Op} {raw : RawCommand} {action effect : String} {write : Agent → Agent}
    (h : op.agent_write = some (raw, action, write)) (heffect : containment_effect action = some effect) :
    op.contains raw.agent_id effect := by
  cases op <;> cases h <;> simp [contains, queues, agent_write, heffect]

/-- A command that cuts its agent off was there before, or a transaction was asked for it and succeeded. -/
theorem Effect.new_containment {is_datetime : Json → Bool} {db : Database} {op : Op}
    {answer : Except AppException String × Database} (h : Effect is_datetime db op answer) {cmd : Command}
    (hcmd : cmd ∈ answer.2.commands.rows) {effect : String}
    (heffect : containment_effect cmd.action = some effect) :
    (db.commands.get cmd.id).isSome ∨ ((∃ id, answer.1 = .ok id) ∧ op.contains cmd.agent_id effect) := by
  have hold (hmem : cmd ∈ db.commands.rows) : (db.commands.get cmd.id).isSome := by
    rw [show db.commands.get cmd.id = some cmd from Table.get_of_mem hmem]
    rfl
  cases h with
  | refused e | unknown_ack | swept | recorded => exact Or.inl (hold hcmd)
  | @created now action_id cmd_id req agent settings actions commands logs hagent haction hcommand =>
    rcases (Table.mem_of_insert hcommand).mp hcmd with hcmd | rfl
    · exact Or.inl (hold hcmd)
    · rw [req.containment_effect_command] at heffect
      exact Or.inr ⟨⟨_, rfl⟩, by simp [Op.contains, Op.queues, ActionRequest.command, heffect]⟩
  | @acked now agent_id payload dto target action logs hack =>
    left
    rcases Table.mem_put.mp hcmd with ⟨rfl, hsome⟩ | ⟨hcmd, _⟩
    · exact hsome
    · exact hold hcmd
  | undo_failed hget happlied hcooldown hcommands | undone hget happlied hcooldown hcommands =>
    rw [hcommands.rows, List.mem_append, Option.mem_toList] at hcmd
    rcases hcmd with hcmd | hcmd
    · exact Or.inl (hold hcmd)
    · rw [ResponseAction.containment_effect_compensation hcmd] at heffect
      cases heffect
  | @queued raw action commands hagent hcommand =>
    rcases (Table.mem_of_insert hcommand).mp hcmd with hcmd | rfl
    · exact Or.inl (hold hcmd)
    · change containment_effect action = some effect at heffect
      exact Or.inr ⟨⟨_, rfl⟩, by simp [Op.contains, Op.queues, RawCommand.command, heffect]⟩
  | written hop hagent hcommand =>
    rcases (Table.mem_of_insert hcommand).mp hcmd with hcmd | rfl
    · exact Or.inl (hold hcmd)
    · exact Or.inr ⟨⟨_, rfl⟩, Op.contains_of_agent_write hop heffect⟩
  | heartbeat =>
    left
    simp only [Database.handle_heartbeat, Database.pull_pending_commands, Table.rows_update,
      Database.update_heartbeat_commands, List.mem_map] at hcmd
    obtain ⟨target, htarget, rfl⟩ := hcmd
    have hfound : db.commands.get target.id = some target := Table.get_of_mem htarget
    split <;> simp [Command.send_to_agent, hfound]

namespace Database

/-- A request of a checked type is refused while an action of that very type is cooling down. -/
theorem check_cooldown_of_cooling {db : Database} {now : Time} {action : ResponseAction}
    (hmem : action ∈ db.response_actions.rows) (hcooling : action.cooling now)
    (htype : action.action_type ∈ COOLDOWN_ACTIONS) :
    ∃ message, db.check_cooldown now action.agent_id action.action_type =
      .error (.FlappingCooldownError message) := by
  have hselected : ((action.agent_id = action.agent_id ∧ action.action_type = action.action_type ∧
      (action.status = .applied ∨ action.status = .reverted) ∧ ∃ u ∈ action.cooldown_until, now < u)) := by
    simpa [ResponseAction.cooling] using hcooling
  unfold check_cooldown
  rw [if_pos htype]
  cases hactive : db.get_active_cooldown action.agent_id action.action_type now with
  | none =>
    exact absurd (by simpa using hselected) (Table.latest_eq_none_iff.mp hactive action hmem)
  | some latest =>
    obtain ⟨-, hlatest⟩ := Table.mem_of_latest hactive
    simp only [decide_eq_true_eq] at hlatest
    obtain ⟨-, -, -, u, hu, hlt⟩ := hlatest
    simp only [Option.bind_some, Option.mem_def.mp hu, if_pos hlt]
    exact ⟨_, rfl⟩

/-- The refusal comes before anything is written. -/
theorem create_of_check_cooldown {db : Database} {now : Time} {action_id cmd_id : String} {req : ActionRequest}
    {e : AppException} (hagent : (db.agents.get req.agent_id).isSome)
    (hcheck : db.check_cooldown now req.agent_id req.action_type = .error e) :
    db.create_and_apply_action now action_id cmd_id req = .error e := by
  obtain ⟨agent, hget⟩ := Option.isSome_iff_exists.mp hagent
  have hrequired : db.require_agent req.agent_id = .ok agent := require_agent_eq_ok_iff.mpr hget
  unfold create_and_apply_action
  rw [hrequired, hcheck]
  rfl

end Database

namespace Clocked

variable {is_datetime : Json → Bool} {s : Clocked}

theorem mem_cooling {agent_id effect : String} {action : ResponseAction} :
    action ∈ s.cooling agent_id effect ↔ action ∈ s.db.response_actions.rows ∧ action.agent_id = agent_id ∧
      containment_effect action.action_type = some effect ∧ action.cooling s.clock := by
  simp [cooling]

/-- A request of a type that is checked is refused, as long as its agent exists. -/
theorem refused_of_checked {call : Call} {now : Time} {action_id cmd_id effect : String} {req : ActionRequest}
    (hkeys : s.db.ActionsHaveAgents) (hfault : call.fault = none)
    (hop : call.op = .create_and_apply_action now action_id cmd_id req) (hchecked : s.checked req effect) :
    ∃ message, (s.db.answer is_datetime (s.timed call)).1 = .error (.FlappingCooldownError message) := by
  simp only [checked, decide_eq_true_eq] at hchecked
  obtain ⟨hguarded, action, hmem, htype⟩ := hchecked
  obtain ⟨hrow, hagent, -, hcooling⟩ := mem_cooling.mp hmem
  obtain ⟨message, hcheck⟩ := Database.check_cooldown_of_cooling hrow hcooling (by rw [htype]; exact hguarded)
  rw [hagent, htype] at hcheck
  have hregistered : (s.db.agents.get req.agent_id).isSome := by
    rw [← hagent]
    exact hkeys action hrow
  refine ⟨message, ?_⟩
  simp only [timed, Database.answer, hfault, hop, Op.at_time, Database.perform,
    Database.create_of_check_cooldown hregistered hcheck]
  rfl

/-- An allowed transaction that asks for something that is cooling down is a request that is refused. -/
theorem refused_of_allows {call : Call} {agent_id effect : String} (hkeys : s.db.ActionsHaveAgents)
    (hfault : call.fault = none) (hallows : s.allows is_datetime call.op)
    (hcontains : call.op.contains agent_id effect) (hcooling : s.cooling agent_id effect ≠ []) :
    ∃ message, (s.db.answer is_datetime (s.timed call)).1 = .error (.FlappingCooldownError message) := by
  have hnonempty : (s.cooling agent_id effect).isEmpty = false := by
    simpa using hcooling
  cases hop : call.op with
  | create_and_apply_action now action_id cmd_id req =>
    simp only [hop, Op.contains, Op.queues, Option.any_some, decide_eq_true_eq] at hcontains
    obtain ⟨rfl, heffect⟩ := hcontains
    simp only [hop, allows, heffect, Option.all_some, hnonempty, Bool.false_eq_true, false_or,
      decide_eq_true_eq] at hallows
    exact refused_of_checked hkeys hfault hop hallows
  | queue_command | isolate_fallback | activate_fallback | quarantine_agent | release_quarantine_agent =>
    simp only [hop, Op.contains, Op.queues, Op.agent_write, Option.map_some, Option.any_some,
      decide_eq_true_eq] at hcontains
    obtain ⟨rfl, heffect⟩ := hcontains
    simp [hop, allows, Op.queues, Op.agent_write, heffect, hnonempty] at hallows
  | command_ack | rollback_action | heartbeat | sweep_dead_agents | create_from_risk | add_risk_record | set_key =>
    simp [hop, Op.contains, Op.queues, Op.agent_write] at hcontains

theorem keptOff_of_respects {next : ClockedStep} {agent_id effect : String} (hkeys : s.db.ActionsHaveAgents)
    (hrespects : s.respects_cooldowns is_datetime next) (hcooling : s.cooling agent_id effect ≠ []) :
    s.KeptOff is_datetime next agent_id effect := by
  have hrefused : ∀ call, next = .call call → call.fault = none → call.op.contains agent_id effect →
      ∃ message, (s.db.answer is_datetime (s.timed call)).1 = .error (.FlappingCooldownError message) := by
    rintro call rfl hfault hcontains
    simp only [respects_cooldowns, hfault, Option.isSome_none, Bool.false_eq_true, false_or,
      decide_eq_true_eq] at hrespects
    exact refused_of_allows hkeys hfault hrespects hcontains hcooling
  refine ⟨hrefused, fun cmd hcmd hagent heffect => ?_⟩
  cases next with
  | advance microseconds =>
    rw [show s.db.commands.get cmd.id = some cmd from Table.get_of_mem hcmd]
    rfl
  | call call =>
    have hanswer := Database.answer_effect is_datetime s.db (s.timed call)
    rcases hanswer.new_containment hcmd heffect with hold | ⟨⟨id, hok⟩, hcontains⟩
    · exact hold
    · cases hfault : call.fault with
      | some e => simp [Database.answer, timed, hfault] at hok
      | none =>
        rw [hagent] at hcontains
        obtain ⟨message, herror⟩ := hrefused call rfl hfault (by simpa [timed] using hcontains)
        rw [herror] at hok
        cases hok

end Clocked

/-! ## What becomes of a cooldown -/

/-- The action has taken effect on the agent and its cooldown lasts until `t` at least. -/
structure ResponseAction.Holds (agent_id action_type : String) (t : Time) (action : ResponseAction) : Prop where
  agent_id : action.agent_id = agent_id
  action_type : action.action_type = action_type
  status : action.status = .applied ∨ action.status = .reverted
  cooldown_until : ∃ u ∈ action.cooldown_until, t ≤ u

theorem ResponseAction.Holds.cooling {agent_id action_type : String} {t now : Time} {action : ResponseAction}
    (h : action.Holds agent_id action_type t) (hbefore : now < t) : action.cooling now := by
  obtain ⟨u, hu, hle⟩ := h.cooldown_until
  have hlast : ∃ u ∈ action.cooldown_until, now < u := ⟨u, hu, lt_of_lt_of_le hbefore hle⟩
  simpa [ResponseAction.cooling] using And.intro h.status hlast

/-- The rollback of a containment action sets the configured cooldown. -/
theorem Database.rollback_cooldown_of_containment {db : Database} {now : Time} {action_type : String}
    {cooldown_until : Option Time} (hcontainment : is_containment action_type)
    (h : db.rollback_cooldown now action_type = .ok cooldown_until) :
    ∃ settings, db.get_auto_rollback_settings = .ok settings ∧
      cooldown_until = some (now + seconds settings.cooldown_seconds) := by
  have hundoable : action_type ∉ UNROLLBACKABLE_ACTIONS := by
    rcases is_containment_iff.mp hcontainment with rfl | rfl | rfl <;> decide
  rw [rollback_cooldown, if_neg hundoable] at h
  obtain ⟨settings, hsettings, h⟩ := bind_eq_ok_iff.mp h
  obtain ⟨t, ht, h⟩ := bind_eq_ok_iff.mp h
  obtain ⟨rfl, -⟩ := add_seconds_ok ht
  exact ⟨settings, hsettings, (Except.ok.inj h).symm⟩

namespace Clocked

variable {is_datetime : Json → Bool} {s : Clocked}

private theorem allows_at_time (op : Op) (now : Time) :
    s.allows is_datetime (op.at_time now) = s.allows is_datetime op := by
  cases op <;> rfl

private theorem now_of_rollback {op : Op} {clock now : Time} {cmd_id action_id reason actor : String}
    (h : op.at_time clock = .rollback_action now cmd_id action_id reason actor) : now = clock := by
  cases op <;> cases h
  rfl

/-- An acknowledgement that is allowed does not end a cooldown. -/
private theorem holds_acked {now t : Time} {agent_id type payload_agent : String} {payload : Json}
    {dto : CommandAckDTO} {cmd : Command} {target : ResponseAction} (hcontainment : is_containment type)
    (hbefore : s.clock < t)
    (hack : s.db.resolve_ack is_datetime payload_agent payload = some (dto, cmd, some target))
    (hallows : s.allows is_datetime (.command_ack now payload_agent payload))
    (hholds : target.Holds agent_id type t) : (target.acked now dto.status).Holds agent_id type t := by
  have hcooling := hholds.cooling hbefore
  have htype : is_containment target.action_type := by
    rw [hholds.action_type]
    exact hcontainment
  simp only [allows, hack, htype, hcooling, and_self, not_true_eq_false, or_false, decide_eq_true_eq] at hallows
  rw [hallows, ResponseAction.acked_success]
  exact ⟨hholds.agent_id, hholds.action_type, Or.inl rfl, hholds.cooldown_until⟩

/-- A rollback that is allowed sets a cooldown that lasts as long as the one before. -/
private theorem holds_revert {now t : Time} {agent_id type cmd_id reason actor : String} {target : ResponseAction}
    {cooldown_until : Option Time} (hcontainment : is_containment type) (hbefore : s.clock < t)
    (hget : s.db.response_actions.get target.id = some target) (happlied : target.status = .applied)
    (hallows : s.allows is_datetime (.rollback_action s.clock cmd_id target.id reason actor))
    (hcooldown : s.db.rollback_cooldown s.clock target.action_type = .ok cooldown_until)
    (hholds : target.Holds agent_id type t) :
    (target.revert now actor reason cooldown_until).Holds agent_id type t := by
  have hcooling := hholds.cooling hbefore
  have htype : is_containment target.action_type := by
    rw [hholds.action_type]
    exact hcontainment
  obtain ⟨settings, hsettings, rfl⟩ := Database.rollback_cooldown_of_containment htype hcooldown
  have houtlasted : s.outlasted target := by
    simpa [allows, hget, htype, happlied, hcooling] using hallows
  obtain ⟨u, hu, hle⟩ := hholds.cooldown_until
  simp only [outlasted, hsettings, decide_eq_true_eq] at houtlasted
  exact ⟨hholds.agent_id, hholds.action_type, Or.inr rfl, _, rfl, hle.trans (houtlasted u hu)⟩

/-- A step that respects the cooldowns keeps the action of every cooldown that is not over. -/
theorem holds_step {next : ClockedStep} {id agent_id type : String} {t : Time} {action : ResponseAction}
    (hcontainment : is_containment type) (hrespects : s.respects_cooldowns is_datetime next)
    (hbefore : s.clock < t) (hget : s.db.response_actions.get id = some action)
    (hholds : action.Holds agent_id type t) :
    ∃ action', (s.step is_datetime next).db.response_actions.get id = some action' ∧
      action'.Holds agent_id type t := by
  cases next with
  | advance microseconds => exact ⟨action, hget, hholds⟩
  | call call =>
    cases hfault : call.fault with
    | some e =>
      refine ⟨action, ?_, hholds⟩
      simpa [step, timed, Database.step, Database.answer, hfault] using hget
    | none =>
      have hallows : s.allows is_datetime (s.timed call).op := by
        simpa [respects_cooldowns, hfault, timed, allows_at_time] using hrespects
      have heffect := Database.answer_effect is_datetime s.db (s.timed call)
      change ∃ action', (s.db.answer is_datetime (s.timed call)).2.response_actions.get id = some action' ∧
        action'.Holds agent_id type t
      generalize s.db.answer is_datetime (s.timed call) = answer at heffect ⊢
      generalize hop : (s.timed call).op = op at heffect hallows
      -- every write of an action is one of three, and each keeps what holds of the row it is about
      have hkept {target : ResponseAction} {f : ResponseAction → ResponseAction}
          (hkey : ∀ row, Keyed.key (f row) = Keyed.key row)
          (htarget : s.db.response_actions.get target.id = some target)
          (hwrite : target.Holds agent_id type t → (f target).Holds agent_id type t) :
          ∃ action', (s.db.response_actions.modify target.id f).get id = some action' ∧
            action'.Holds agent_id type t := by
        obtain ⟨action', hget', himp⟩ := Table.exists_get_modify hkey
          (P := fun row row' => row.Holds agent_id type t → row'.Holds agent_id type t) (fun _ h => h) htarget
          hwrite hget
        exact ⟨action', hget', himp hholds⟩
      cases heffect with
      | refused e | unknown_ack | queued | written | swept | recorded => exact ⟨action, hget, hholds⟩
      | created hagent hinsert hcommand =>
        exact ⟨action, Table.get_of_insert_of_get hinsert hget, hholds⟩
      | @acked now agent payload dto cmd target logs hack =>
        cases target with
        | none => exact ⟨action, hget, hholds⟩
        | some target =>
          exact hkept (ResponseAction.key_acked now dto.status) (Database.get_of_resolve_ack hack)
            (holds_acked hcontainment hbefore hack hallows)
      | undo_failed htarget happlied =>
        exact hkept (ResponseAction.key_set_status _) htarget fun h =>
          ⟨h.agent_id, h.action_type, Or.inl rfl, h.cooldown_until⟩
      | undone htarget happlied hcooldown =>
        obtain rfl := now_of_rollback hop
        exact hkept (ResponseAction.key_revert _ _ _ _) htarget
          (holds_revert hcontainment hbefore htarget happlied hallows hcooldown)
      | heartbeat =>
        rw [Database.handle_heartbeat_response_actions]
        exact ⟨action, hget, hholds⟩

theorem clock_le_step (is_datetime : Json → Bool) (s : Clocked) (next : ClockedStep) :
    s.clock ≤ (s.step is_datetime next).clock := by
  cases next with
  | advance microseconds => simp [step]
  | call call => exact le_refl _

theorem actionsHaveAgents_step (is_datetime : Json → Bool) (s : Clocked) (next : ClockedStep)
    (h : s.db.ActionsHaveAgents) : (s.step is_datetime next).db.ActionsHaveAgents := by
  cases next with
  | advance microseconds => exact h
  | call call => exact (Database.answer_effect is_datetime s.db (s.timed call)).actionsHaveAgents h

/-- The cooldowns keep containment off over every run whose steps respect them. -/
theorem antiFlapping_of_respects (is_datetime : Json → Bool) (self : Clocked) (steps : List ClockedStep)
    (hkeys : self.db.ActionsHaveAgents)
    (hrespects : transition.Along (step is_datetime) (fun s next => s.respects_cooldowns is_datetime next)
      self steps) :
    self.AntiFlapping is_datetime steps := by
  rintro early late next rest rfl action hmem hstatus effect heffect t ht hbefore
  have hcontainment : is_containment action.action_type :=
    containment_effect_isSome.mp (by rw [Option.mem_def.mp heffect]; rfl)
  obtain ⟨hbegin, hrest⟩ := transition.along_append.mp hrespects
  obtain ⟨-, hlate⟩ := transition.along_append.mp hbegin
  have hkept := transition.run_preserves (I := fun s : Clocked => s.db.ActionsHaveAgents)
    (fun s next h => s.actionsHaveAgents_step is_datetime next h) hkeys (early ++ late)
  rw [transition.run_append] at hbefore hkept hrest ⊢
  obtain ⟨held, hget, hholds⟩ := transition.run_until
    (I := fun s : Clocked => ∃ held, s.db.response_actions.get action.id = some held ∧
      held.Holds action.agent_id action.action_type t)
    (clock_le_step is_datetime)
    (fun s next ⟨_, hget, hholds⟩ hguard hbefore => holds_step hcontainment hguard hbefore hget hholds)
    hlate ⟨action, Table.get_of_mem hmem, rfl, rfl, hstatus, t, ht, le_refl t⟩ hbefore
  refine keptOff_of_respects hkept hrest.1 (List.ne_nil_of_mem (a := held) (mem_cooling.mpr ?_))
  exact ⟨Table.get_mem hget, hholds.agent_id, by rw [hholds.action_type]; exact heffect, hholds.cooling hbefore⟩

/-- An isolation is confirmed and undone, and a minute later it is requested again. -/
def isolate_again : List ClockedStep :=
  isolate_and_undo.map .call ++ [.advance 60000000,
    .call { op := .create_and_apply_action 0 "act_2" "cmd_3" { agent_id := "web-1", action_type := "isolate" } }]

theorem antiFlapping_isolate_again : ({ db := .one_agent } : Clocked).AntiFlapping (fun _ => true) isolate_again :=
  antiFlapping_of_respects (fun _ => true) { db := .one_agent } isolate_again (by intro action hmem; cases hmem)
    ⟨by decide, by decide, by decide, by decide, by decide, trivial⟩

/-- The risk assessment catches the refusal and queues a raw isolation. -/
theorem not_antiFlapping_legacy_isolation :
    ¬ ({ db := .one_agent } : Clocked).AntiFlapping (fun _ => true)
      (isolate_again ++ [.call { op := .isolate_fallback { id := "cmd_4", agent_id := "web-1" } }]) := by
  intro hlaw
  have hundone : ((transition.run (step fun _ => true) { db := .one_agent }
      (isolate_and_undo.map .call)).db.response_actions.get "act_1").map
        (fun action => (action.agent_id, action.action_type, action.status, action.cooldown_until)) =
          some ("web-1", "isolate", .reverted, some 600000000) := by decide
  obtain ⟨action, hget, hcolumns⟩ := Option.map_eq_some_iff.mp hundone
  simp only [Prod.mk.injEq] at hcolumns
  obtain ⟨hagent, htype, hstatus, hcooldown⟩ := hcolumns
  have hkept := hlaw (isolate_and_undo.map .call) [_, _] _ [] rfl action (Table.get_mem hget) (Or.inr hstatus)
    "isolate" (by rw [htype]; rfl) _ hcooldown (by decide)
  rw [hagent] at hkept
  have hqueued : ((transition.run (step fun _ => true) { db := .one_agent }
      (isolate_again ++ [.call { op := .isolate_fallback { id := "cmd_4", agent_id := "web-1" } }])).db.commands.get
      "cmd_4").map (fun cmd => (cmd.id, cmd.agent_id, cmd.action)) = some ("cmd_4", "web-1", "isolate") := by decide
  obtain ⟨cmd, hcmd, hcolumns⟩ := Option.map_eq_some_iff.mp hqueued
  simp only [Prod.mk.injEq] at hcolumns
  obtain ⟨hid, htarget, haction⟩ := hcolumns
  have hold := hkept.commands cmd (Table.get_mem hcmd) htarget (by rw [haction]; rfl)
  rw [hid] at hold
  exact absurd hold (by decide)

end Clocked

end larp
