import ActiveResponse.Lib.Program
import ActiveResponse.System

namespace larp

/-- What a service draws from its surroundings: the clock, fresh ids, the text of values that are not
strings, and the failures in which the database makes its transactions end, by their number. -/
structure Env where
  is_datetime : Json → Bool
  now : Time
  uuid : ℕ → String
  py_str : Json → String
  fault : ℕ → Option AppException := fun _ => none

/-- Surroundings in which nothing fails. -/
def quiet_env : Env where
  is_datetime _ := false
  now := 0
  uuid := toString
  py_str _ := ""

/-- The database with the transactions that a service has asked for so far. -/
structure World where
  db : Database
  trace : List Call := []

/-- A service reads the database, asks it for transactions and may raise. -/
abbrev Service := Program AppException World

/-- The ways in which a service attempts to act on an agent. -/
def Op.attempt : Op → Bool
  | .create_and_apply_action .. | .isolate_fallback .. => true
  | _ => false

/-- The number of actions attempted so far. -/
def World.attempts (self : World) : ℕ :=
  self.trace.countP fun call => call.op.attempt

namespace Service

def read_db : Service Database := return (← get).db

/-- One transaction. -/
def call (env : Env) (op : Op) : Service String := .of_step fun w =>
  let call := { op, fault := env.fault w.trace.length }
  ((w.db.answer env.is_datetime call).1,
    { db := (w.db.answer env.is_datetime call).2, trace := w.trace ++ [call] })

/-- A fresh id; `n` tells apart the ids drawn for one transaction. -/
def fresh (env : Env) (start : String) (n : ℕ) : Service String :=
  return start ++ env.uuid (2 * (← get).trace.length + n)

@[simp] theorem exec_read_db (w : World) : read_db.exec w = (.ok w.db, w) := rfl

theorem exec_call (env : Env) (op : Op) (w : World) :
    (call env op).exec w =
      ((w.db.answer env.is_datetime { op, fault := env.fault w.trace.length }).1,
        { db := (w.db.answer env.is_datetime { op, fault := env.fault w.trace.length }).2
          trace := w.trace ++ [{ op, fault := env.fault w.trace.length }] }) := rfl

@[simp] theorem exec_fresh (env : Env) (start : String) (n : ℕ) (w : World) :
    (fresh env start n).exec w = (.ok (start ++ env.uuid (2 * w.trace.length + n)), w) := rfl

end Service

/-- `ResponseActionService.create_and_apply_action`, called by another service. -/
def create_and_apply (env : Env) (req : ActionRequest) : Service String := do
  let action_id ← Service.fresh env "act_" 0
  let cmd_id ← Service.fresh env "cmd_" 1
  Service.call env (.create_and_apply_action env.now action_id cmd_id req)

structure GroupBatchActionResult where
  action_id : Option String
  agent_id : String
  status : String
  error : Option String := none

structure GroupBatchActionResponse where
  group_id : String
  group_name : String
  action_type : String
  total_agents : ℕ
  succeeded : ℕ
  failed : ℕ
  actions : List GroupBatchActionResult

/-- The result that a batch notes for one agent. -/
def GroupBatchActionResult.of_attempt (agent_id : String) :
    Except AppException String → GroupBatchActionResult
  | .ok action_id => { action_id := some action_id, agent_id, status := "applied" }
  | .error e => { action_id := none, agent_id, status := "failed", error := some e.message }

/-- The error of a batch that speaks of a cooldown. -/
def cooldown_error (results : List GroupBatchActionResult) : Option String :=
  results.findSome? fun r =>
    r.error.filter fun error => error ≠ "" ∧ contains_text (py_lower error) "cooldown"

/-- The parameters that a group action hands to each of its agents. -/
def enriched_params (group : AgentGroup) (action_type : String) (action_params : Dict) : Dict :=
  ((action_params.set "group_id" (.str group.id)).set "group_name" (.str group.name)).set "batch_reason"
    ((action_params.get "reason").getD
      (.str ("Batch " ++ action_type ++ " executed on group '" ++ group.name ++ "'")))

/-- The request that a group action makes for one agent. -/
def ActionRequest.for_member (self : ActionRequest) (group : AgentGroup) (agent_id : String) : ActionRequest :=
  { self with agent_id, action_params := enriched_params group self.action_type self.action_params }

def Database.require_group (db : Database) (group_id : String) : Except AppException AgentGroup :=
  match db.agent_groups.get group_id with
  | some group => .ok group
  | none => .error (.NotFoundError ("Agent group with ID '" ++ group_id ++ "' was not found."))

/-! ## The loop of a batch -/

/-- What comes after a failed operation reads the columns of a row in hand. A failed flush has expired them, and the
session refuses to load them again. -/
def reload_row {A : Type} : Except AppException A → Except AppException Unit
  | .ok _ => .ok ()
  | .error e => if e.breaks_session then .error .PendingRollbackError else .ok ()

namespace Batch

section Loop

variable {A T : Type} (op : A → Service String) (note : T → A → Except AppException String → T)

/-- `for item in items: try: ... except Exception: ...`, with what is noted kept in `tally`. -/
def loop : T → List A → Service T
  | tally, [] => return tally
  | tally, item :: items => do
    let outcome ← (op item).outcome
    liftM (reload_row outcome)
    loop (note tally item outcome) items

/-- The outcomes of the operations, each run where the one before has left off. -/
def outcomes : List A → World → List (Except AppException String)
  | [], _ => []
  | item :: items, w => ((op item).exec w).1 :: outcomes items ((op item).exec w).2

/-- The state in which the operations leave off. -/
def ending : List A → World → World
  | [], w => w
  | item :: items, w => ending items ((op item).exec w).2

/-- What is noted when every operation is. -/
def noted (tally : T) (items : List A) (results : List (Except AppException String)) : T :=
  (items.zip results).foldl (fun tally entry => note tally entry.1 entry.2) tally

/-- No failure leaves a session behind that cannot be used any more. -/
def Usable (results : List (Except AppException String)) : Prop :=
  ∀ result ∈ results, ∀ e, result = .error e → e.breaks_session = false

/-- The items up to the first one, included, whose failure breaks the session. -/
def attempted : List A → World → List A
  | [], _ => []
  | item :: items, w =>
    match reload_row ((op item).exec w).1 with
    | .ok _ => item :: attempted items ((op item).exec w).2
    | .error _ => [item]

end Loop

/-- What `execute_group_action` keeps while it goes through the members. -/
structure GroupTally where
  results : List GroupBatchActionResult := []
  succeeded_count : ℕ := 0
  failed_count : ℕ := 0

def GroupTally.note (self : GroupTally) (agent : Agent) (outcome : Except AppException String) : GroupTally where
  results := self.results ++ [.of_attempt agent.id outcome]
  succeeded_count := if outcome.isOk then self.succeeded_count + 1 else self.succeeded_count
  failed_count := if outcome.isOk then self.failed_count else self.failed_count + 1

/-- The end of `execute_group_action`. A batch in which nothing succeeded is refused as a whole when a cooldown was the
reason. -/
def GroupTally.response (self : GroupTally) (group : AgentGroup) (action_type : String) (agents : List Agent) :
    Except AppException GroupBatchActionResponse :=
  let response : GroupBatchActionResponse :=
    { group_id := group.id, group_name := group.name, action_type, total_agents := agents.length
      succeeded := self.succeeded_count, failed := self.failed_count, actions := self.results }
  if self.succeeded_count = 0 ∧ 0 < self.failed_count then
    match cooldown_error self.results with
    | some error => .error (.FlappingCooldownError error)
    | none => .ok response
  else .ok response

/-- The operation of a group action on one member. -/
def member_action (env : Env) (request : String → ActionRequest) (agent : Agent) : Service String :=
  create_and_apply env (request agent.id)

/-- `AgentGroupService.execute_group_action`; the agent of the request is filled in for each member. -/
def execute_group_action (env : Env) (group_id : String) (request : ActionRequest) :
    Service GroupBatchActionResponse := do
  let db ← Service.read_db
  let group ← db.require_group group_id
  let agents := db.get_agents_in_group group_id
  let tally ← loop (member_action env (request.for_member group)) GroupTally.note {} agents
  tally.response group request.action_type agents

section LoopLemmas

variable {A T : Type} {op : A → Service String} (note : T → A → Except AppException String → T) {items : List A}
  {w : World}

@[simp] theorem length_outcomes (items : List A) (w : World) : (outcomes op items w).length = items.length := by
  induction items generalizing w with
  | nil => rfl
  | cons item items ih => rw [outcomes, List.length_cons, ih, List.length_cons]

theorem reload_row_eq_ok_iff {B : Type} {result : Except AppException B} :
    reload_row result = .ok () ↔ ∀ e, result = .error e → e.breaks_session = false := by
  cases result with
  | ok id => simp [reload_row]
  | error e => cases h : e.breaks_session <;> simp [reload_row, h]

theorem reload_row_error {B : Type} {result : Except AppException B} {e : AppException}
    (h : reload_row result = .error e) : e = .PendingRollbackError := by
  unfold reload_row at h
  split at h
  · cases h
  · split at h
    · exact (Except.error.inj h).symm
    · cases h

/-- When every session stays usable the loop notes the outcome of every operation. -/
theorem exec_loop_of_usable (tally : T) (h : Usable (outcomes op items w)) :
    (loop op note tally items).exec w =
      (.ok (noted note tally items (outcomes op items w)), ending op items w) := by
  induction items generalizing w tally with
  | nil => rfl
  | cons item items ih =>
    obtain ⟨hfirst, hrest⟩ := List.forall_mem_cons.mp h
    rw [loop, Program.exec_bind_ok (Program.exec_outcome (op item) w),
      Program.exec_bind_ok (Program.exec_lift_ok (reload_row_eq_ok_iff.mpr hfirst) _)]
    exact ih _ hrest

/-- A failure that breaks the session ends the loop. -/
theorem exec_loop_of_not_usable (tally : T) (h : ¬ Usable (outcomes op items w)) :
    (loop op note tally items).exec w = (.error .PendingRollbackError, ending op (attempted op items w) w) := by
  induction items generalizing w tally with
  | nil => exact absurd (List.forall_mem_nil _) h
  | cons item items ih =>
    rw [loop, Program.exec_bind_ok (Program.exec_outcome (op item) w), attempted]
    cases hreload : reload_row ((op item).exec w).1 with
    | ok _ =>
      rw [Program.exec_bind_ok (Program.exec_lift _ _)]
      exact ih _ fun hrest => h (List.forall_mem_cons.mpr ⟨reload_row_eq_ok_iff.mp hreload, hrest⟩)
    | error e =>
      rw [Program.exec_bind, Program.exec_lift, reload_row_error hreload]
      rfl

theorem attempted_of_usable (h : Usable (outcomes op items w)) : attempted op items w = items := by
  induction items generalizing w with
  | nil => rfl
  | cons item items ih =>
    obtain ⟨hfirst, hrest⟩ := List.forall_mem_cons.mp h
    rw [attempted, reload_row_eq_ok_iff.mpr hfirst]
    exact congrArg (item :: ·) (ih hrest)

/-! Operations one after the other -/

theorem ending_append (first rest : List A) (w : World) :
    ending op (first ++ rest) w = ending op rest (ending op first w) := by
  induction first generalizing w with
  | nil => rfl
  | cons item first ih => rw [List.cons_append, ending, ih, ending]

theorem attempted_append_of_usable {first : List A} (rest : List A) (h : Usable (outcomes op first w)) :
    attempted op (first ++ rest) w = first ++ attempted op rest (ending op first w) := by
  induction first generalizing w with
  | nil => rfl
  | cons item first ih =>
    obtain ⟨hfirst, hrest⟩ := List.forall_mem_cons.mp h
    rw [List.cons_append, attempted, reload_row_eq_ok_iff.mpr hfirst]
    exact congrArg (item :: ·) (ih hrest)

theorem attempted_append_of_not_usable {first : List A} (rest : List A) (h : ¬ Usable (outcomes op first w)) :
    attempted op (first ++ rest) w = attempted op first w := by
  induction first generalizing w with
  | nil => exact absurd (List.forall_mem_nil _) h
  | cons item first ih =>
    rw [List.cons_append, attempted, attempted]
    cases hreload : reload_row ((op item).exec w).1 with
    | ok _ => exact congrArg (item :: ·) (ih fun hrest =>
        h (List.forall_mem_cons.mpr ⟨reload_row_eq_ok_iff.mp hreload, hrest⟩))
    | error e => rfl

/-- The item with which the session breaks is the last one. -/
theorem attempted_of_break {before after : List A} {item : A} (husable : Usable (outcomes op before w))
    (hbroken : ¬ Usable (outcomes op (before ++ [item]) w)) :
    attempted op (before ++ item :: after) w = before ++ [item] := by
  rw [List.append_cons, attempted_append_of_not_usable after hbroken, attempted_append_of_usable [item] husable]
  congr 1
  rw [attempted]
  split <;> rfl

theorem exists_break (h : ¬ Usable (outcomes op items w)) :
    ∃ before item after, items = before ++ item :: after ∧ Usable (outcomes op before w) ∧
      ¬ Usable (outcomes op (before ++ [item]) w) := by
  induction items generalizing w with
  | nil => exact absurd (List.forall_mem_nil _) h
  | cons item items ih =>
    by_cases hfirst : Usable [((op item).exec w).1]
    · obtain ⟨before, broken, after, rfl, husable, hbroken⟩ := ih fun hrest =>
        h (List.forall_mem_cons.mpr ⟨List.forall_mem_singleton.mp hfirst, hrest⟩)
      refine ⟨item :: before, broken, after, rfl, ?_, fun hrest => hbroken (List.forall_mem_cons.mp hrest).2⟩
      exact List.forall_mem_cons.mpr ⟨List.forall_mem_singleton.mp hfirst, husable⟩
    · exact ⟨[], item, items, rfl, List.forall_mem_nil _, hfirst⟩

section Map

variable {B : Type} (op) (f : B → A) (others : List B) (w : World)

theorem outcomes_map : outcomes op (others.map f) w = outcomes (fun b => op (f b)) others w := by
  induction others generalizing w with
  | nil => rfl
  | cons b others ih => rw [List.map_cons, outcomes, ih, outcomes]

theorem ending_map : ending op (others.map f) w = ending (fun b => op (f b)) others w := by
  induction others generalizing w with
  | nil => rfl
  | cons b others ih => rw [List.map_cons, ending, ih, ending]

theorem attempted_map : attempted op (others.map f) w = (attempted (fun b => op (f b)) others w).map f := by
  induction others generalizing w with
  | nil => rfl
  | cons b others ih =>
    rw [List.map_cons, attempted, attempted, ih]
    split <;> rfl

end Map

theorem attempted_ne_nil (h : items ≠ []) : attempted op items w ≠ [] := by
  cases items with
  | nil => exact absurd rfl h
  | cons item items =>
    rw [attempted]
    split <;> simp

end LoopLemmas

end Batch

/-! ## What acting leaves alone -/

/-- The tables that say who is to be acted on. -/
def Database.roster (db : Database) :
    Table Agent × Table ResponsePolicy × Table AgentGroup × List AgentGroupMember :=
  (db.agents, db.response_policies, db.agent_groups, db.agent_group_members)

/-- Services that act add attempts and leave the roster alone. -/
structure World.Extends (w w' : World) : Prop where
  roster : w'.db.roster = w.db.roster
  attempts : w.attempts ≤ w'.attempts

instance : IsPreorder World World.Extends where
  refl _ := ⟨rfl, le_rfl⟩
  trans _ _ _ h h' := ⟨h'.roster.trans h.roster, h.attempts.trans h'.attempts⟩

/-- The transactions that a service uses before it falls back to a raw isolation. -/
def Op.keeps_roster : Op → Bool
  | .create_and_apply_action .. | .queue_command .. | .create_from_risk .. | .add_risk_record .. => true
  | _ => false

theorem Effect.roster {is_datetime : Json → Bool} {db db' : Database} {op : Op}
    {result : Except AppException String} (h : Effect is_datetime db op (result, db'))
    (hop : op.keeps_roster) : db'.roster = db.roster := by
  cases h with
  | refused e | created | unknown_ack | queued | recorded => rfl
  | written hwrite => cases op <;> simp [Op.agent_write, Op.keeps_roster] at hwrite hop
  | acked | undo_failed | undone | heartbeat | swept => cases hop

theorem World.attempts_append (db : Database) (trace : List Call) (call : Call) :
    ({ db, trace := trace ++ [call] } : World).attempts =
      trace.countP (fun call => call.op.attempt) + if call.op.attempt then 1 else 0 := by
  simp [attempts, List.countP_append, List.countP_singleton]

namespace Service

theorem attempts_call (env : Env) (op : Op) (w : World) :
    ((call env op).exec w).2.attempts = w.attempts + if op.attempt then 1 else 0 := by
  rw [exec_call, World.attempts_append]
  rfl

theorem within_call (env : Env) {op : Op} (hop : op.keeps_roster) : (call env op).Within World.Extends := by
  intro w
  exact ⟨(Database.answer_effect env.is_datetime w.db { op, fault := env.fault w.trace.length }).roster hop,
    by rw [attempts_call]; omega⟩

theorem within_read_db : read_db.Within World.Extends := fun w => refl w

theorem within_fresh (env : Env) (start : String) (n : ℕ) : (fresh env start n).Within World.Extends :=
  fun w => refl w

end Service

theorem within_create_and_apply (env : Env) (req : ActionRequest) :
    (create_and_apply env req).Within World.Extends :=
  (Service.within_fresh env "act_" 0).bind fun _ =>
    (Service.within_fresh env "cmd_" 1).bind fun _ => Service.within_call env rfl

@[simp] theorem attempts_create_and_apply (env : Env) (req : ActionRequest) (w : World) :
    ((create_and_apply env req).exec w).2.attempts = w.attempts + 1 := by
  rw [create_and_apply, Program.exec_bind_ok (Service.exec_fresh env "act_" 0 w),
    Program.exec_bind_ok (Service.exec_fresh env "cmd_" 1 w), Service.attempts_call]
  rfl

/-! ## Group actions -/

section Group

variable (env : Env)

theorem within_member_action (request : String → ActionRequest) (agent : Agent) :
    (Batch.member_action env request agent).Within World.Extends :=
  within_create_and_apply env (request agent.id)

theorem within_loop {A T : Type} {op : A → Service String} (hop : ∀ item, (op item).Within World.Extends)
    (note : T → A → Except AppException String → T) (tally : T) (items : List A) :
    (Batch.loop op note tally items).Within World.Extends := by
  induction items generalizing tally with
  | nil => exact Program.within_pure tally
  | cons item items ih =>
    exact (hop item).outcome.bind fun outcome => (Program.within_lift (reload_row outcome)).bind fun _ => ih _

theorem within_execute_group_action (group_id : String) (request : ActionRequest) :
    (Batch.execute_group_action env group_id request).Within World.Extends :=
  Service.within_read_db.bind fun _ => (Program.within_lift _).bind fun group =>
    (within_loop (within_member_action env (request.for_member group)) _ _ _).bind fun _ => Program.within_lift _

theorem attempts_ending (request : String → ActionRequest) (agents : List Agent) (w : World) :
    (Batch.ending (Batch.member_action env request) agents w).attempts = w.attempts + agents.length := by
  induction agents generalizing w with
  | nil => rfl
  | cons agent agents ih =>
    rw [Batch.ending, ih, Batch.member_action, attempts_create_and_apply, List.length_cons]
    omega

/-- The members of a group are acted on one after the other. With a session that stays usable the action returns, or
is refused with a cooldown; otherwise it raises what breaks the session of its caller too. -/
theorem exec_execute_group_action {group_id : String} {group : AgentGroup} (request : ActionRequest) {w : World}
    (hgroup : w.db.agent_groups.get group_id = some group) :
    ∃ result, (Batch.execute_group_action env group_id request).exec w =
        (result, Batch.ending (Batch.member_action env (request.for_member group))
          (Batch.attempted (Batch.member_action env (request.for_member group))
            (w.db.get_agents_in_group group_id) w) w) ∧
      (reload_row result = .ok () ↔ Batch.Usable (Batch.outcomes (Batch.member_action env (request.for_member group))
        (w.db.get_agents_in_group group_id) w)) := by
  have hrequire : w.db.require_group group_id = .ok group := by simp only [Database.require_group, hgroup]
  rw [Batch.execute_group_action, Program.exec_bind_ok (Service.exec_read_db w),
    Program.exec_bind_ok (Program.exec_lift_ok hrequire w)]
  by_cases husable : Batch.Usable (Batch.outcomes (Batch.member_action env (request.for_member group))
      (w.db.get_agents_in_group group_id) w)
  · rw [Program.exec_bind_ok (Batch.exec_loop_of_usable _ _ husable), Program.exec_lift,
      Batch.attempted_of_usable husable]
    refine ⟨_, rfl, iff_of_true ?_ husable⟩
    rw [Batch.reload_row_eq_ok_iff]
    intro e he
    unfold Batch.GroupTally.response at he
    dsimp only at he
    split at he
    · split at he
      · cases he
        rfl
      · cases he
    · cases he
  · rw [Program.exec_bind, Batch.exec_loop_of_not_usable _ _ husable]
    exact ⟨_, rfl, iff_of_false (by simp [reload_row, AppException.breaks_session]) husable⟩

/-- A group action attempts its first member. -/
theorem lt_attempts_execute_group_action {group_id : String} {group : AgentGroup} (request : ActionRequest)
    {w : World} (hgroup : w.db.agent_groups.get group_id = some group)
    (hmembers : w.db.get_agents_in_group group_id ≠ []) :
    w.attempts < ((Batch.execute_group_action env group_id request).exec w).2.attempts := by
  obtain ⟨result, hexec, -⟩ := exec_execute_group_action env request hgroup
  have hpos : 0 < (Batch.attempted (Batch.member_action env (request.for_member group))
      (w.db.get_agents_in_group group_id) w).length :=
    List.length_pos_iff.mpr (Batch.attempted_ne_nil hmembers)
  rw [hexec, attempts_ending]
  omega

end Group

end larp
