import ActiveResponse.Lib.CheckedCommands
import ActiveResponse.Lib.PacketFilter
import Mathlib.Tactic.Cases

namespace larp

open PacketFilter Checked

/-! ## iptables -/

inductive Hook where
  | INPUT
  | OUTPUT
  | FORWARD
deriving DecidableEq

/-- What the rules look at in a packet. -/
structure Packet where
  source : String
  destination : String
  /-- Its connection is `ESTABLISHED` or `RELATED`. -/
  established : Bool

/-- The built-in chains of the table `filter`. -/
abbrev Filter := Hook → Chain Packet

namespace Filter

/-- `iptables -F`, for one chain or for all. -/
def flush (chain : Option Hook) (self : Filter) : Filter := fun hook =>
  if chain = none ∨ chain = some hook then (self hook).flush else self hook

/-- `iptables -P`. -/
def policy (chain : Hook) (target : Verdict) (self : Filter) : Filter :=
  Function.update self chain ((self chain).set_policy target)

/-- `iptables -A`. -/
def append (chain : Hook) (matching : Packet → Bool) (target : Verdict) (self : Filter) : Filter :=
  Function.update self chain ((self chain).append fun packet => if matching packet then some target else none)

@[simp] theorem flush_none (self : Filter) (hook : Hook) : self.flush none hook = (self hook).flush :=
  if_pos (.inl rfl)

@[simp] theorem flush_self (self : Filter) (hook : Hook) : self.flush (some hook) hook = (self hook).flush :=
  if_pos (.inr rfl)

end Filter

/-! ## The commands of the agent -/

/-- The agent's machine. -/
structure Machine where
  filter : Filter
  /-- `/tmp/isolated` exists. -/
  isolated_file : Bool := false

namespace Machine

/-- `subprocess.run(["iptables", ..], check=False)`. -/
def iptables (effect : Filter → Filter) : Cmd Machine where
  check := false
  effect self := { self with filter := effect self.filter }

/-- `-X` removes chains that no rule jumps into any more. -/
def iptables_X : Cmd Machine := iptables id

inductive Job where
  /-- With what the name `manager` is resolved to. -/
  | isolate (resolved : Option String)
  | unisolate
deriving DecidableEq

def manager_ip (resolved : Option String) : String := resolved.getD "172.19.0.2"

/-- `IsolateCommand.execute` and `UnisolateCommand.execute`. The file that cannot be written is an exception, the one
that cannot be removed is passed over. -/
def commands : Job → List (Cmd Machine)
  | .isolate resolved =>
    [iptables (Filter.flush none), iptables_X, iptables (Filter.policy .INPUT .DROP),
      iptables (Filter.policy .OUTPUT .DROP), iptables (Filter.policy .FORWARD .DROP),
      iptables (Filter.append .INPUT (·.source = manager_ip resolved) .ACCEPT),
      iptables (Filter.append .OUTPUT (·.destination = manager_ip resolved) .ACCEPT),
      { check := true, effect := fun self => { self with isolated_file := true } }]
  | .unisolate =>
    [iptables (Filter.policy .INPUT .ACCEPT), iptables (Filter.policy .OUTPUT .ACCEPT),
      iptables (Filter.policy .FORWARD .ACCEPT), iptables (Filter.flush none), iptables_X,
      { check := false, effect := fun self => { self with isolated_file := false } }]

/-- The packets that pass are those between the machine and the manager. -/
def CutOff (manager_ip : String) (self : Machine) : Prop :=
  ∀ hook packet, (self.filter hook).verdict packet = .ACCEPT ↔
    (hook = .INPUT ∧ packet.source = manager_ip) ∨ (hook = .OUTPUT ∧ packet.destination = manager_ip)

def Open (self : Machine) : Prop := ∀ hook packet, (self.filter hook).verdict packet = .ACCEPT

theorem accepted_iff {P : Prop} [Decidable P] :
    (if P then some Verdict.ACCEPT else none).getD .DROP = .ACCEPT ↔ P := by
  by_cases h : P
  · simp [h]
  · simp [h]

theorem perform_isolate (resolved : Option String) (self : Machine) :
    (Runner.perform (commands (.isolate resolved)) self).CutOff (manager_ip resolved) := by
  intro hook packet
  cases hook <;>
    simp [Runner.perform, commands, iptables, iptables_X, Filter.policy, Filter.append, Chain.verdict, accepted_iff]

theorem perform_unisolate (self : Machine) : (Runner.perform (commands .unisolate) self).Open := by
  intro hook packet
  cases hook <;> simp [Runner.perform, commands, iptables, iptables_X, Filter.policy, Chain.verdict]

/-- What a job is for. -/
def Done : Job → Machine → Prop
  | .isolate resolved, self => self.CutOff (manager_ip resolved) ∧ self.isolated_file = true
  | .unisolate, self => self.Open ∧ self.isolated_file = false

/-- An isolation or its end whose commands all take effect does the whole of its work, whatever rules there were and
however the commands before it failed. -/
theorem done_of_effective (world : Machine) (steps : List (Step Job)) {job : Job} :
    let self := transition.run (Runner.step commands) { world } steps
    self.job = some job → self.rest = [] → self.effective = true → Done job self.world := by
  intro self hjob hrest heffective
  obtain ⟨before, hworld⟩ := Runner.performed_run world steps hjob hrest heffective
  rw [hworld]
  cases job with
  | isolate resolved => exact ⟨perform_isolate resolved before, rfl⟩
  | unisolate => exact ⟨perform_unisolate before, rfl⟩

/-- An isolation in which a command failed, and another one after it, on a machine that lets everything pass. -/
theorem done_of_effective_second :
    Done (.isolate (some "10.0.0.5")) (transition.run (Runner.step commands)
      { world := { filter := fun _ => ⟨.ACCEPT, []⟩ } }
      ([.start (.isolate none), .command .done, .command (.raised false), .start (.isolate (some "10.0.0.5"))] ++
        List.replicate 8 (.command .done))).world :=
  done_of_effective { filter := fun _ => ⟨.ACCEPT, []⟩ } ([.start (.isolate none), .command .done,
    .command (.raised false), .start (.isolate (some "10.0.0.5"))] ++ List.replicate 8 (.command .done)) rfl rfl rfl

end Machine

/-! ## The commands of the minimal agent -/

namespace WinAgentMinimal

inductive Job where
  | handle_isolate
  | handle_unisolate
deriving DecidableEq

/-- `subprocess.run(["iptables", ..], check=check)`. -/
def iptables (check : Bool) (effect : Filter → Filter) : Cmd Filter where
  check
  effect

/-- The branches for Linux. The name of the manager is looked up at each call; here it has one address. -/
def handler_commands (manager_ip : String) : Job → List (Cmd Filter)
  | .handle_isolate =>
    [iptables false (Filter.flush (some .OUTPUT)),
      iptables true (Filter.append .OUTPUT (·.destination = manager_ip) .ACCEPT),
      iptables true (Filter.append .OUTPUT (·.established) .ACCEPT),
      iptables true (Filter.append .OUTPUT (fun _ => true) .DROP)]
  | .handle_unisolate =>
    [iptables false (Filter.flush (some .OUTPUT)), iptables false (Filter.policy .OUTPUT .ACCEPT)]

variable (manager_ip : String)

/-- What may always leave the machine. -/
def Exempt (packet : Packet) : Prop := packet.destination = manager_ip ∨ packet.established = true

/-- Outgoing packets are dropped only by a rule, and exempt ones by none. No rule accepts other packets. -/
structure Reachable (filter : Filter) : Prop where
  policy : (filter .OUTPUT).policy = .ACCEPT
  dropped : ∀ packet, (filter .OUTPUT).decision packet = some .DROP → ¬Exempt manager_ip packet
  accepted : ∀ packet, (filter .OUTPUT).decision packet = some .ACCEPT → Exempt manager_ip packet

/-- What a handler has achieved that reports success. -/
def Achieved : Job → Filter → Prop
  | .handle_isolate, filter => ∀ packet, (filter .OUTPUT).verdict packet = .ACCEPT → Exempt manager_ip packet
  | .handle_unisolate, _ => True

variable {manager_ip} {filter : Filter}

theorem Reachable.verdict (h : Reachable manager_ip filter) {packet : Packet} (hexempt : Exempt manager_ip packet) :
    (filter .OUTPUT).verdict packet = .ACCEPT := by
  rw [Chain.verdict]
  cases hdecision : (filter .OUTPUT).decision packet with
  | none => exact h.policy
  | some v =>
    cases v with
    | ACCEPT => rfl
    | DROP => exact absurd hexempt (h.dropped packet hdecision)

theorem Reachable.of_undecided (hpolicy : (filter .OUTPUT).policy = .ACCEPT)
    (h : ∀ packet, (filter .OUTPUT).decision packet = none) : Reachable manager_ip filter := by
  refine ⟨hpolicy, fun packet hdrop => ?_, fun packet haccept => ?_⟩
  · rw [h packet] at hdrop
    cases hdrop
  · rw [h packet] at haccept
    cases haccept

theorem Reachable.flush (h : Reachable manager_ip filter) : Reachable manager_ip (filter.flush (some .OUTPUT)) := by
  refine .of_undecided ?_ fun packet => ?_
  · rw [Filter.flush_self, Chain.policy_flush, h.policy]
  · rw [Filter.flush_self, Chain.decision_flush]

theorem append_output (matching : Packet → Bool) (target : Verdict) (packet : Packet) :
    (filter.append .OUTPUT matching target .OUTPUT).decision packet =
      ((filter .OUTPUT).decision packet).or (if matching packet then some target else none) := by
  rw [Filter.append, Function.update_self, Chain.decision_append]

/-- A rule that accepts exempt packets only. -/
theorem Reachable.append_accept (h : Reachable manager_ip filter) {matching : Packet → Bool}
    (hmatching : ∀ packet, matching packet → Exempt manager_ip packet) :
    Reachable manager_ip (filter.append .OUTPUT matching .ACCEPT) := by
  refine ⟨?_, fun packet hdrop => ?_, fun packet haccept => ?_⟩
  · rw [Filter.append, Function.update_self, Chain.policy_append, h.policy]
  · rw [append_output] at hdrop
    cases hdecision : (filter .OUTPUT).decision packet with
    | none =>
      rw [hdecision, Option.none_or] at hdrop
      split at hdrop <;> cases hdrop
    | some v =>
      rw [hdecision, Option.some_or] at hdrop
      exact h.dropped packet (hdecision.trans hdrop)
  · rw [append_output] at haccept
    cases hdecision : (filter .OUTPUT).decision packet with
    | none =>
      rw [hdecision, Option.none_or] at haccept
      split at haccept
      · rename_i hmatch
        exact hmatching packet hmatch
      · cases haccept
    | some v =>
      rw [hdecision, Option.some_or] at haccept
      exact h.accepted packet (hdecision.trans haccept)

theorem isSome_append {matching : Packet → Bool} (target : Verdict) {packet : Packet}
    (h : matching packet ∨ ((filter .OUTPUT).decision packet).isSome) :
    ((filter.append .OUTPUT matching target .OUTPUT).decision packet).isSome := by
  rw [append_output]
  obtain hmatch | hsome := h
  · rw [if_pos hmatch]
    cases (filter .OUTPUT).decision packet <;> rfl
  · rw [Option.or_of_isSome hsome]
    exact hsome

/-- The rule that drops everything comes when the exempt packets have been decided. -/
theorem Reachable.append_drop (h : Reachable manager_ip filter)
    (hdecided : ∀ packet, Exempt manager_ip packet → ((filter .OUTPUT).decision packet).isSome) :
    Reachable manager_ip (filter.append .OUTPUT (fun _ => true) .DROP) := by
  refine ⟨?_, fun packet hdrop hexempt => ?_, fun packet haccept => ?_⟩
  · rw [Filter.append, Function.update_self, Chain.policy_append, h.policy]
  · rw [append_output, Option.or_of_isSome (hdecided packet hexempt)] at hdrop
    exact h.dropped packet hdrop hexempt
  · rw [append_output] at haccept
    cases hdecision : (filter .OUTPUT).decision packet with
    | none =>
      rw [hdecision] at haccept
      cases haccept
    | some v =>
      rw [hdecision, Option.some_or] at haccept
      exact h.accepted packet (hdecision.trans haccept)

theorem Reachable.achieved (h : Reachable manager_ip (filter.append .OUTPUT (fun _ => true) .DROP)) :
    Achieved manager_ip .handle_isolate (filter.append .OUTPUT (fun _ => true) .DROP) := by
  intro packet hpasses
  have hdecided : ((filter.append .OUTPUT (fun _ => true) .DROP .OUTPUT).decision packet).isSome :=
    isSome_append .DROP (.inl rfl)
  obtain ⟨v, hdecision⟩ := Option.isSome_iff_exists.mp hdecided
  rw [Chain.verdict, hdecision, Option.getD_some] at hpasses
  exact h.accepted packet (hdecision.trans (congrArg some hpasses))

theorem secures_rules (h : Reachable manager_ip filter) :
    Runner.Secures (Reachable manager_ip) (Achieved manager_ip .handle_isolate)
      [iptables true (Filter.append .OUTPUT (·.destination = manager_ip) .ACCEPT),
        iptables true (Filter.append .OUTPUT (·.established) .ACCEPT),
        iptables true (Filter.append .OUTPUT (fun _ => true) .DROP)] filter := by
  have hmanager : Reachable manager_ip (filter.append .OUTPUT (·.destination = manager_ip) .ACCEPT) :=
    h.append_accept fun packet hmatch => Or.inl (of_decide_eq_true hmatch)
  have hestablished : Reachable manager_ip ((filter.append .OUTPUT (·.destination = manager_ip) .ACCEPT).append
      .OUTPUT (·.established) .ACCEPT) := hmanager.append_accept fun packet hmatch => Or.inr hmatch
  have hdrop := hestablished.append_drop fun packet hexempt => by
    obtain hdestination | hopen := hexempt
    · exact isSome_append .ACCEPT (.inr (isSome_append .ACCEPT (.inl (decide_eq_true hdestination))))
    · exact isSome_append .ACCEPT (.inl hopen)
  exact ⟨h, ⟨hmanager, ⟨hestablished, ⟨hdrop, hdrop.achieved⟩, nofun⟩, nofun⟩, nofun⟩

theorem secures_commands (job : Job) (h : Reachable manager_ip filter) :
    Runner.Secures (Reachable manager_ip) (Achieved manager_ip job) (handler_commands manager_ip job) filter := by
  cases job with
  | handle_isolate => exact ⟨h, secures_rules h.flush, fun _ => secures_rules h⟩
  | handle_unisolate =>
    have hpolicy {filter : Filter} (h : Reachable manager_ip filter) :
        Reachable manager_ip (filter.policy .OUTPUT .ACCEPT) := by
      refine ⟨?_, fun packet => ?_, fun packet => ?_⟩
      · rw [Filter.policy, Function.update_self, Chain.policy_set_policy]
      · rw [Filter.policy, Function.update_self, Chain.decision_set_policy]
        exact h.dropped packet
      · rw [Filter.policy, Function.update_self, Chain.decision_set_policy]
        exact h.accepted packet
    exact ⟨h, ⟨h.flush, ⟨hpolicy h.flush, trivial⟩, fun _ => ⟨h.flush, trivial⟩⟩,
      fun _ => ⟨h, ⟨hpolicy h, trivial⟩, fun _ => ⟨h, trivial⟩⟩⟩

theorem perform_handle_unisolate (filter : Filter) (packet : Packet) :
    (Runner.perform (handler_commands manager_ip .handle_unisolate) filter .OUTPUT).verdict packet = .ACCEPT := by
  simp [Runner.perform, handler_commands, iptables, Filter.policy, Chain.verdict]

/-- Over any run of isolations and their ends on a machine without rules of its own, failing commands included, the
packets to the manager, which keeps its address, and those of connections that exist leave the machine at every
moment, even in the middle of a handler. No others do once `handle_isolate` has reported success. They all do after a
`handle_unisolate` whose commands have taken effect. -/
theorem manager_always_reachable (manager_ip : String) (filter : Filter) (steps : List (Step Job))
    (hpolicy : (filter .OUTPUT).policy = .ACCEPT) (hrules : (filter .OUTPUT).rules = []) :
    let self := transition.run (Runner.step (handler_commands manager_ip)) { world := filter } steps
    (∀ packet, Exempt manager_ip packet → (self.world .OUTPUT).verdict packet = .ACCEPT) ∧
      (self.job = some .handle_isolate → self.rest = [] → self.aborted = false →
        ∀ packet, (self.world .OUTPUT).verdict packet = .ACCEPT ↔ Exempt manager_ip packet) ∧
      (self.job = some .handle_unisolate → self.rest = [] → self.effective = true →
        ∀ packet, (self.world .OUTPUT).verdict packet = .ACCEPT) := by
  intro self
  have hinit : Reachable manager_ip filter := .of_undecided hpolicy fun packet => by
    rw [Chain.decision, hrules]
    rfl
  obtain ⟨hreachable, hachieved⟩ := Runner.securing_run (I := Reachable manager_ip) (Q := Achieved manager_ip)
    (fun job _ h => secures_commands job h) hinit steps
  refine ⟨fun packet hexempt => hreachable.verdict hexempt, fun hjob hrest haborted packet => ?_,
    fun hjob hrest heffective packet => ?_⟩
  · exact ⟨hachieved .handle_isolate hjob hrest haborted packet, fun hexempt => hreachable.verdict hexempt⟩
  · obtain ⟨before, hworld⟩ := Runner.performed_run filter steps hjob hrest heffective
    rw [hworld]
    exact perform_handle_unisolate before packet

/-- A handler that fails halfway on a machine that lets everything pass. -/
theorem manager_always_reachable_failed :
    ((transition.run (Runner.step (handler_commands "10.0.0.5")) { world := fun _ => ⟨.ACCEPT, []⟩ }
      [.start .handle_isolate, .command .nonzero, .command .done, .command .nonzero]).world .OUTPUT).verdict
        { source := "10.0.0.7", destination := "10.0.0.5", established := false } = .ACCEPT :=
  (manager_always_reachable "10.0.0.5" (fun _ => ⟨.ACCEPT, []⟩) [.start .handle_isolate, .command .nonzero,
    .command .done, .command .nonzero] rfl rfl).1 _ (.inl rfl)

end WinAgentMinimal

end larp
