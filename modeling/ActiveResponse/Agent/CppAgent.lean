import ActiveResponse.Core.JsonText
import Mathlib.Data.List.Perm.Basic

namespace larp

/-- The actions that the agent is told to execute. -/
inductive CppAction where
  | kill_process
  | kill_process_tree
  | isolate
  | unisolate
deriving DecidableEq

namespace CppAction

def text : CppAction → String
  | kill_process => "kill_process"
  | kill_process_tree => "kill_process_tree"
  | isolate => "isolate"
  | unisolate => "unisolate"

def is_kill : CppAction → Bool
  | kill_process | kill_process_tree => true
  | isolate | unisolate => false

end CppAction

/-- A command of the list `pending_commands`. -/
structure PendingCommand where
  command_id : String
  action : CppAction
  payload : PyJson

/-- What the agent does: `HandleKillProcess`, `HandleIsolate` and `HandleUnisolate`. -/
inductive Execution where
  | kill (pid : ℕ) (tree : Bool)
  | isolate
  | unisolate
deriving DecidableEq

/-- The exceptions of `std::stoul`. -/
inductive StoulError where
  | invalid_argument
  | out_of_range
deriving DecidableEq

/-- The message that `_handle_heartbeat` answers with. -/
def heartbeat_response (pending_cmds : List PendingCommand) : PyJson :=
  .obj [
    ("status", .str "ack"),
    ("message", .str "Heartbeat processed"),
    ("pending_commands", .arr (pending_cmds.map fun c =>
      .obj [("command_id", .str c.command_id), ("action", .str c.action.text), ("payload", c.payload)]))]

namespace PendingCommand

def digits_value (digits : List Char) : ℕ := digits.foldl (fun value c => 10 * value + (c.toNat - '0'.toNat)) 0

/-- The process id in the payload: an integer, or a float that is one, in the range of a `DWORD`. -/
def pid (self : PendingCommand) : Option ℕ :=
  match self.payload.get "pid" with
  | some (.int value) => if 0 ≤ value ∧ value < 2 ^ 32 then some value.toNat else none
  | some (.float text) =>
    let digits := text.chars.takeWhile Char.isDigit
    if digits ≠ [] ∧ text.chars = digits ++ ['.', '0'] ∧ digits_value digits < 2 ^ 32 then some (digits_value digits)
    else none
  | _ => none

/-- What the command tells the agent to do. A kill without a process id can be executed in no way. -/
def execution (self : PendingCommand) : Option Execution :=
  match self.action with
  | .kill_process => self.pid.map fun pid => .kill pid false
  | .kill_process_tree => self.pid.map fun pid => .kill pid true
  | .isolate => some .isolate
  | .unisolate => some .unisolate

end PendingCommand

namespace CppAgent

/-- `Receive`, with a buffer of 65536 bytes. -/
def Receive (message : List UInt8) : List UInt8 := message.take 65536

def bytes (text : String) : List UInt8 := text.toList.flatMap String.utf8EncodeChar

/-- What follows the first occurrence of the pattern, from `msg.find(pattern)`. -/
def after (pattern : List UInt8) : List UInt8 → Option (List UInt8)
  | [] => if pattern.isPrefixOf [] then some [] else none
  | c :: cs => if pattern.isPrefixOf (c :: cs) then some ((c :: cs).drop pattern.length) else after pattern cs

/-- `msg.find(pattern) != std::string::npos`. -/
def contains (msg : List UInt8) (pattern : String) : Bool := (after (bytes pattern) msg).isSome

def is_space_byte (b : UInt8) : Bool := b = 32 ∨ (9 ≤ b ∧ b ≤ 13)

def is_digit_byte (b : UInt8) : Bool := 48 ≤ b ∧ b ≤ 57

/-- The sign of a number and what follows it. -/
def split_sign : List UInt8 → Bool × List UInt8
  | [] => (false, [])
  | b :: bs => if b = 45 then (true, bs) else if b = 43 then (false, bs) else (false, b :: bs)

/-- `std::stoul`, with an `unsigned long` of 32 bits. -/
def stoul (text : List UInt8) : Except StoulError ℕ :=
  let (negative, rest) := split_sign (text.dropWhile is_space_byte)
  let digits := rest.takeWhile is_digit_byte
  let value := digits.foldl (fun value b => 10 * value + (b.toNat - 48)) 0
  if digits.isEmpty then .error .invalid_argument
  else if 2 ^ 32 ≤ value then .error .out_of_range
  else .ok (if negative then (2 ^ 32 - value) % 2 ^ 32 else value)

/-- The kill of a pass of `ReceiverLoop`. -/
def kill_pass (msg : List UInt8) : Except StoulError (List Execution) :=
  if contains msg "\"kill_process" then
    match after (bytes "\"pid\":") msg with
    | some text => do
      let pid ← stoul text
      let tree := contains msg "kill_process_tree"
      return [.kill pid tree]
    | none => return []
  else return []

/-- The isolation of a pass of `ReceiverLoop`. -/
def isolate_pass (msg : List UInt8) : List Execution := if contains msg "\"isolate\"" then [.isolate] else []

/-- A pass of `ReceiverLoop` with a message that has been received. -/
def ReceiverLoop (msg : List UInt8) : Except StoulError (List Execution) := do
  let kills ← kill_pass msg
  return kills ++ isolate_pass msg

/-- Nothing is thrown, and what is executed is what each command of the list says, once for each of them. -/
def ExecutesExactly (pending_cmds : List PendingCommand) (outcome : Except StoulError (List Execution)) : Prop :=
  ∃ executed, outcome = .ok executed ∧ (executed.map some).Perm (pending_cmds.map PendingCommand.execution)

/-- The condition: the text tells what the list tells. -/
structure Legible (pending_cmds : List PendingCommand) (msg : List UInt8) : Prop where
  no_unisolate : ∀ c ∈ pending_cmds, c.action ≠ .unisolate
  isolate : pending_cmds.countP (·.action = .isolate) = if contains msg "\"isolate\"" then 1 else 0
  no_kill : (∀ c ∈ pending_cmds, c.action.is_kill = false) →
    ¬ (contains msg "\"kill_process" ∧ contains msg "\"pid\":")
  kill : ∀ c ∈ pending_cmds, c.action.is_kill → pending_cmds.countP (·.action.is_kill) = 1 ∧
    contains msg "\"kill_process" ∧
    (∃ text pid, after (bytes "\"pid\":") msg = some text ∧ stoul text = .ok pid ∧ c.pid = some pid) ∧
    (contains msg "kill_process_tree" ↔ c.action = .kill_process_tree)

variable {msg : List UInt8} {pending_cmds : List PendingCommand}

theorem contains_iff {pattern : String} : contains msg pattern ↔ ∃ text, after (bytes pattern) msg = some text :=
  Option.isSome_iff_exists

/-- A pass kills nothing or reads one process id. -/
theorem kill_pass_eq_ok {kills : List Execution} :
    kill_pass msg = .ok kills ↔
      (¬ (contains msg "\"kill_process" ∧ contains msg "\"pid\":") ∧ kills = []) ∨
      (contains msg "\"kill_process" ∧ ∃ text pid, after (bytes "\"pid\":") msg = some text ∧ stoul text = .ok pid ∧
        kills = [.kill pid (contains msg "kill_process_tree")]) := by
  unfold kill_pass
  by_cases hkill : contains msg "\"kill_process"
  · rw [if_pos hkill]
    cases hpid : after (bytes "\"pid\":") msg with
    | none =>
      constructor
      · intro h
        refine Or.inl ⟨fun hboth => ?_, (Except.ok.inj h).symm⟩
        obtain ⟨text, htext⟩ := contains_iff.mp hboth.2
        rw [hpid] at htext
        cases htext
      · rintro (⟨_, rfl⟩ | ⟨_, text, _, htext, _⟩)
        · rfl
        · cases htext
    | some text =>
      dsimp only
      constructor
      · intro h
        cases hstoul : stoul text with
        | error e =>
          rw [hstoul] at h
          cases h
        | ok pid =>
          rw [hstoul] at h
          exact Or.inr ⟨hkill, text, pid, rfl, hstoul, (Except.ok.inj h).symm⟩
      · rintro (⟨hnothing, _⟩ | ⟨_, text', pid, htext, hstoul, rfl⟩)
        · exact absurd ⟨hkill, contains_iff.mpr ⟨text, hpid⟩⟩ hnothing
        · cases htext
          rw [hstoul]
          rfl
  · rw [if_neg hkill]
    constructor
    · intro h
      exact Or.inl ⟨fun hboth => hkill hboth.1, (Except.ok.inj h).symm⟩
    · rintro (⟨_, rfl⟩ | ⟨hboth, _⟩)
      · rfl
      · exact absurd hboth hkill

theorem append_perm_iff {α : Type} {p : α → Bool} {xs ys zs : List α} (hxs : ∀ x ∈ xs, p x)
    (hys : ∀ y ∈ ys, p y = false) :
    (xs ++ ys).Perm zs ↔ xs.Perm (zs.filter p) ∧ ys.Perm (zs.filter (!p ·)) := by
  have hnone : ∀ y ∈ ys, ¬ p y := fun y hy => by simp [hys y hy]
  constructor
  · intro hperm
    constructor
    · have hfilter := hperm.filter p
      rwa [List.filter_append, List.filter_eq_self.mpr hxs, List.filter_eq_nil_iff.mpr hnone,
        List.append_nil] at hfilter
    · have hfilter := hperm.filter (!p ·)
      rwa [List.filter_append, List.filter_eq_nil_iff.mpr (by simpa using hxs),
        List.filter_eq_self.mpr (by simpa using hys), List.nil_append] at hfilter
  · rintro ⟨hperm, hperm'⟩
    exact (hperm.append hperm').trans (List.filter_append_perm p zs)

/-- The commands that a pass can execute as a kill. -/
def expects_kill : Option Execution → Bool
  | some .isolate | some .unisolate => false
  | some (.kill _ _) | none => true

theorem expects_kill_execution (c : PendingCommand) : expects_kill c.execution = c.action.is_kill := by
  unfold PendingCommand.execution
  cases c.action with
  | kill_process | kill_process_tree => cases c.pid <;> rfl
  | isolate | unisolate => rfl

theorem execution_eq_kill {c : PendingCommand} {pid : ℕ} {tree : Bool} :
    c.execution = some (.kill pid tree) ↔
      c.action.is_kill ∧ c.pid = some pid ∧ (tree ↔ c.action = .kill_process_tree) := by
  unfold PendingCommand.execution
  cases c.action with
  | kill_process | kill_process_tree => cases tree <;> simp [CppAction.is_kill]
  | isolate | unisolate => simp [CppAction.is_kill]

/-- The kills of a pass are those of the list. -/
theorem kill_pass_perm_iff :
    (∃ kills, kill_pass msg = .ok kills ∧
      (kills.map some).Perm ((pending_cmds.filter (·.action.is_kill)).map PendingCommand.execution)) ↔
    ((∀ c ∈ pending_cmds, c.action.is_kill = false) →
      ¬ (contains msg "\"kill_process" ∧ contains msg "\"pid\":")) ∧
    ∀ c ∈ pending_cmds, c.action.is_kill → pending_cmds.countP (·.action.is_kill) = 1 ∧
      contains msg "\"kill_process" ∧
      (∃ text pid, after (bytes "\"pid\":") msg = some text ∧ stoul text = .ok pid ∧ c.pid = some pid) ∧
      (contains msg "kill_process_tree" ↔ c.action = .kill_process_tree) := by
  constructor
  · rintro ⟨kills, hpass, hperm⟩
    rcases kill_pass_eq_ok.mp hpass with ⟨hnothing, rfl⟩ | ⟨hkill, text, pid, htext, hpid, rfl⟩
    · rw [List.map_nil, List.nil_perm, List.map_eq_nil_iff, List.filter_eq_nil_iff] at hperm
      exact ⟨fun _ => hnothing, fun c hc hckill => absurd hckill (hperm c hc)⟩
    · rw [List.map_singleton, List.singleton_perm, eq_comm, List.map_eq_singleton_iff] at hperm
      obtain ⟨c, hfilter, hexecution⟩ := hperm
      obtain ⟨hckill, hcpid, htree⟩ := execution_eq_kill.mp hexecution
      have hc : c ∈ pending_cmds := List.mem_of_mem_filter (hfilter ▸ List.mem_singleton_self c)
      refine ⟨fun hnone => absurd hckill (by simp [hnone c hc]), fun c' hc' hkill' => ?_⟩
      have heq : c' = c := List.mem_singleton.mp (hfilter ▸ List.mem_filter.mpr ⟨hc', hkill'⟩)
      subst heq
      refine ⟨?_, hkill, ⟨text, pid, htext, hpid, hcpid⟩, htree⟩
      rw [List.countP_eq_length_filter, hfilter, List.length_singleton]
  · rintro ⟨hnone, hkill⟩
    by_cases hlisted : ∃ c ∈ pending_cmds, c.action.is_kill
    · obtain ⟨c, hc, hckill⟩ := hlisted
      obtain ⟨hcount, htext, ⟨text, pid, hafter, hpid, hcpid⟩, htree⟩ := hkill c hc hckill
      refine ⟨_, kill_pass_eq_ok.mpr (Or.inr ⟨htext, text, pid, hafter, hpid, rfl⟩), ?_⟩
      rw [List.countP_eq_length_filter, List.length_eq_one_iff] at hcount
      obtain ⟨c', hfilter⟩ := hcount
      have heq : c = c' := List.mem_singleton.mp (hfilter ▸ List.mem_filter.mpr ⟨hc, hckill⟩)
      subst heq
      rw [hfilter, List.map_singleton, List.map_singleton, execution_eq_kill.mpr ⟨hckill, hcpid, htree⟩]
    · have hall : ∀ c ∈ pending_cmds, c.action.is_kill = false :=
        fun c hc => Bool.eq_false_iff.mpr fun hckill => hlisted ⟨c, hc, hckill⟩
      refine ⟨[], kill_pass_eq_ok.mpr (Or.inl ⟨hnone hall, rfl⟩), ?_⟩
      rw [List.filter_eq_nil_iff.mpr (by simpa using hall)]
      exact List.Perm.nil

/-- The isolations of a pass are those of the list, which has no command to undo one. -/
theorem isolate_pass_perm_iff :
    ((isolate_pass msg).map some).Perm ((pending_cmds.filter (!·.action.is_kill)).map PendingCommand.execution) ↔
      (∀ c ∈ pending_cmds, c.action ≠ .unisolate) ∧
      pending_cmds.countP (·.action = .isolate) = if contains msg "\"isolate\"" then 1 else 0 := by
  have hpass : (isolate_pass msg).map some =
      List.replicate (if contains msg "\"isolate\"" then 1 else 0) (some Execution.isolate) := by
    unfold isolate_pass
    split <;> rfl
  rw [hpass, List.perm_comm, List.perm_replicate, List.eq_replicate_iff, List.length_map,
    ← List.countP_eq_length_filter, and_comm]
  have hall : (∀ e ∈ (pending_cmds.filter (!·.action.is_kill)).map PendingCommand.execution, e = some .isolate) ↔
      ∀ c ∈ pending_cmds, c.action ≠ .unisolate := by
    simp only [List.forall_mem_map, List.mem_filter, and_imp]
    refine forall₂_congr fun c _ => ?_
    cases haction : c.action <;> simp [CppAction.is_kill, PendingCommand.execution, haction]
  rw [hall]
  refine and_congr_right fun hno => ?_
  rw [List.countP_congr]
  intro c hc
  have hcno := hno c hc
  cases haction : c.action <;> simp_all [CppAction.is_kill]

/-- The kills and the isolations of a pass are compared with the list one after the other. -/
theorem pass_perm_iff {kills : List Execution} (hpass : kill_pass msg = .ok kills) :
    ((kills ++ isolate_pass msg).map some).Perm (pending_cmds.map PendingCommand.execution) ↔
      (kills.map some).Perm ((pending_cmds.filter (·.action.is_kill)).map PendingCommand.execution) ∧
      ((isolate_pass msg).map some).Perm
        ((pending_cmds.filter (!·.action.is_kill)).map PendingCommand.execution) := by
  have hkills : ∀ e ∈ kills.map some, expects_kill e := by
    rcases kill_pass_eq_ok.mp hpass with ⟨_, rfl⟩ | ⟨_, _, _, _, _, rfl⟩ <;> simp [expects_kill]
  have hisolations : ∀ e ∈ (isolate_pass msg).map some, expects_kill e = false := by
    unfold isolate_pass
    split <;> simp [expects_kill]
  rw [List.map_append, append_perm_iff hkills hisolations, List.filter_map, List.filter_map]
  simp only [Function.comp_def, expects_kill_execution]

/-- What a pass executes is what the list says if and only if the text tells what the list tells. -/
theorem executes_iff_legible (pending_cmds : List PendingCommand) (msg : List UInt8) :
    ExecutesExactly pending_cmds (ReceiverLoop msg) ↔ Legible pending_cmds msg := by
  have hparts : ExecutesExactly pending_cmds (ReceiverLoop msg) ↔
      (∃ kills, kill_pass msg = .ok kills ∧
        (kills.map some).Perm ((pending_cmds.filter (·.action.is_kill)).map PendingCommand.execution)) ∧
      ((isolate_pass msg).map some).Perm
        ((pending_cmds.filter (!·.action.is_kill)).map PendingCommand.execution) := by
    constructor
    · rintro ⟨executed, hrun, hperm⟩
      unfold ReceiverLoop at hrun
      cases hpass : kill_pass msg with
      | error e =>
        rw [hpass] at hrun
        cases hrun
      | ok kills =>
        rw [hpass] at hrun
        cases hrun
        have hboth := (pass_perm_iff hpass).mp hperm
        exact ⟨⟨kills, rfl, hboth.1⟩, hboth.2⟩
    · rintro ⟨⟨kills, hpass, hkills⟩, hisolations⟩
      refine ⟨kills ++ isolate_pass msg, ?_, (pass_perm_iff hpass).mpr ⟨hkills, hisolations⟩⟩
      rw [ReceiverLoop, hpass]
      rfl
  rw [hparts, kill_pass_perm_iff, isolate_pass_perm_iff]
  constructor
  · rintro ⟨⟨hnone, hkill⟩, hno, hcount⟩
    exact ⟨hno, hcount, hnone, hkill⟩
  · rintro ⟨hno, hcount, hnone, hkill⟩
    exact ⟨⟨hnone, hkill⟩, hno, hcount⟩

/-- The condition for a response of the manager, of which a pass receives the first 65536 bytes. -/
theorem heartbeat_executes_iff (pending_cmds : List PendingCommand) :
    ExecutesExactly pending_cmds
        (ReceiverLoop (Receive (PyJson.send_json (heartbeat_response pending_cmds)))) ↔
      Legible pending_cmds (Receive (PyJson.send_json (heartbeat_response pending_cmds))) :=
  executes_iff_legible pending_cmds _

def kill_command (command_id : String) (pid : ℤ) : PendingCommand where
  command_id
  action := .kill_process
  payload := .obj [("pid", .int pid)]

/-- Of two processes that are to be killed only the first one is. -/
theorem not_executes_two_kills :
    ¬ ExecutesExactly [kill_command "cmd_1" 100, kill_command "cmd_2" 200]
      (ReceiverLoop (Receive (PyJson.send_json
        (heartbeat_response [kill_command "cmd_1" 100, kill_command "cmd_2" 200])))) := by
  rintro ⟨executed, hrun, hperm⟩
  have hfirst : ReceiverLoop (Receive (PyJson.send_json
      (heartbeat_response [kill_command "cmd_1" 100, kill_command "cmd_2" 200]))) = .ok [.kill 100 false] := by
    decide +kernel
  rw [hfirst] at hrun
  cases hrun
  exact absurd hperm.length_eq (by decide)

example : ReceiverLoop (Receive (PyJson.send_json (heartbeat_response [kill_command "cmd_1" 4242]))) =
    .ok [.kill 4242 false] := by decide +kernel

end CppAgent

end larp
