import ActiveResponse.Core.Values
import ActiveResponse.Lib.Table

namespace larp

structure ProcessGroup where
  id : String
  name : String
  patterns : List String
  description : Option String
deriving DecidableEq

structure ProcessChainRule where
  id : String
  name : String
  parent_group_id : String
  child_group_id : String
  action : String
  is_active : Bool
deriving DecidableEq

instance : Keyed ProcessGroup String := ⟨ProcessGroup.id⟩

instance : Keyed ProcessChainRule String := ⟨ProcessChainRule.id⟩

/-- The tables of the chain rules: the names of the groups are unique, and the groups of a rule exist. -/
structure RuleTables where
  process_groups : Table ProcessGroup
  process_chain_rules : Table ProcessChainRule
  unique_names : (process_groups.rows.map ProcessGroup.name).Nodup
  foreign_keys : ∀ rule ∈ process_chain_rules.rows,
    (process_groups.get rule.parent_group_id).isSome ∧ (process_groups.get rule.child_group_id).isSome

inductive RuleWrite where
  | insert_group (group : ProcessGroup)
  | insert_rule (rule : ProcessChainRule)
  | update_group (loaded group : ProcessGroup)
  | update_rule (loaded rule : ProcessChainRule)
  | delete_group (id : String)
  | delete_rule (id : String)

/-- An `UPDATE` has the columns that differ from what was loaded. -/
def ProcessGroup.flush (loaded group row : ProcessGroup) : ProcessGroup where
  id := row.id
  name := assign (· = ·) loaded.name group.name row.name
  patterns := assign (· = ·) loaded.patterns group.patterns row.patterns
  description := assign (· = ·) loaded.description group.description row.description

def ProcessChainRule.flush (loaded rule row : ProcessChainRule) : ProcessChainRule where
  id := row.id
  name := assign (· = ·) loaded.name rule.name row.name
  parent_group_id := assign (· = ·) loaded.parent_group_id rule.parent_group_id row.parent_group_id
  child_group_id := assign (· = ·) loaded.child_group_id rule.child_group_id row.child_group_id
  action := assign (· = ·) loaded.action rule.action row.action
  is_active := assign (· = ·) loaded.is_active rule.is_active row.is_active

inductive RuleError where
  | AppException (message : String) (status_code : ℕ)

/-- A rule with the patterns of its groups. -/
structure PreparedRule where
  id : String
  name : String
  action : String
  parent_patterns : List String
  child_patterns : List String
deriving DecidableEq

namespace RuleTables

/-- The constraints are checked after each statement. -/
def checked (process_groups : Table ProcessGroup) (process_chain_rules : Table ProcessChainRule) :
    Option RuleTables :=
  if h : (process_groups.rows.map ProcessGroup.name).Nodup ∧ ∀ rule ∈ process_chain_rules.rows,
      (process_groups.get rule.parent_group_id).isSome ∧ (process_groups.get rule.child_group_id).isSome then
    some { process_groups, process_chain_rules, unique_names := h.1, foreign_keys := h.2 }
  else none

/-- A statement of a transaction. An `UPDATE` that finds no row is an error. -/
def write (self : RuleTables) : RuleWrite → Option RuleTables
  | .insert_group group => do checked (← self.process_groups.insert group) self.process_chain_rules
  | .insert_rule rule => do checked self.process_groups (← self.process_chain_rules.insert rule)
  | .update_group loaded group =>
    if (self.process_groups.get loaded.id).isSome then
      checked (self.process_groups.modify loaded.id (ProcessGroup.flush loaded group)) self.process_chain_rules
    else none
  | .update_rule loaded rule =>
    if (self.process_chain_rules.get loaded.id).isSome then
      checked self.process_groups (self.process_chain_rules.modify loaded.id (ProcessChainRule.flush loaded rule))
    else none
  | .delete_group id => checked (self.process_groups.delete id) self.process_chain_rules
  | .delete_rule id => checked self.process_groups (self.process_chain_rules.delete id)

/-- `ProcessChainRuleRepository.list_active`, with the groups that are joined. -/
def list_active (self : RuleTables) : List (ProcessChainRule × Option ProcessGroup × Option ProcessGroup) :=
  (self.process_chain_rules.rows.filter ProcessChainRule.is_active).map fun rule =>
    (rule, self.process_groups.get rule.parent_group_id, self.process_groups.get rule.child_group_id)

/-- `p.strip(' \t\r\n"\'')`: blank, tab, carriage return, newline and the quotation marks. -/
def strip_pattern (p : String) : String :=
  let quoted := fun c : Char => decide (c.toNat ∈ [32, 9, 13, 10, 34, 39])
  String.ofList ((p.toList.rdropWhile quoted).dropWhile quoted)

/-- The patterns of a group as they are compared. -/
def chain_patterns (group : Option ProcessGroup) : List String :=
  ((group.map ProcessGroup.patterns).getD []).filterMap fun p =>
    if strip_pattern p = "" then none else some (py_lower (strip_pattern p))

/-- The list `prepared` of `_get_active_chain_rules`. -/
def prepared (self : RuleTables) : List PreparedRule :=
  self.list_active.map fun (rule, parent_group, child_group) =>
    { id := rule.id
      name := rule.name
      action := rule.action
      parent_patterns := chain_patterns parent_group
      child_patterns := chain_patterns child_group }

end RuleTables

structure ProcessGroupCreate where
  name : String
  patterns : List String := []
  description : Option String := some ""

structure ProcessGroupUpdate where
  name : Option String := none
  patterns : Option (List String) := none
  description : Option String := none

structure ProcessChainRuleCreate where
  name : String
  parent_group_id : String
  child_group_id : String
  action : String := "alert"
  is_active : Bool := true

structure ProcessChainRuleUpdate where
  name : Option String := none
  parent_group_id : Option String := none
  child_group_id : Option String := none
  action : Option String := none
  is_active : Option Bool := none

namespace RuleTables

variable (self : RuleTables)

def CHAIN_ACTIONS : List String := ["alert", "block", "isolate"]

/-- The group that a rule names must exist; `role` is `Parent` or `Child`. -/
def check_group (role group_id : String) : Except RuleError Unit :=
  if (self.process_groups.get group_id).isSome then .ok ()
  else .error (.AppException (role ++ " process group '" ++ group_id ++ "' does not exist.") 400)

def get_rule (id : String) : Except RuleError ProcessChainRule :=
  match self.process_chain_rules.get id with
  | some rule => .ok rule
  | none => .error (.AppException ("Process chain rule '" ++ id ++ "' not found.") 404)

def get_group (id : String) : Except RuleError ProcessGroup :=
  match self.process_groups.get id with
  | some group => .ok group
  | none => .error (.AppException ("Process group '" ++ id ++ "' not found.") 404)

/-- `ProcessGroupRepository.get_by_name`. -/
def get_by_name (name : String) : Option ProcessGroup :=
  self.process_groups.rows.find? fun group => decide (group.name = name)

/-- `[p.strip().lower() for p in patterns if p.strip()]`. -/
def clean_patterns (patterns : List String) : List String :=
  patterns.filterMap fun p => if py_strip p = "" then none else some (py_lower (py_strip p))

def create_rule (id : String) (dto : ProcessChainRuleCreate) : Except RuleError (List RuleWrite) := do
  self.check_group "Parent" dto.parent_group_id
  self.check_group "Child" dto.child_group_id
  return [.insert_rule
    { id
      name := py_strip dto.name
      parent_group_id := dto.parent_group_id
      child_group_id := dto.child_group_id
      action := if py_lower dto.action ∈ CHAIN_ACTIONS then py_lower dto.action else "alert"
      is_active := dto.is_active }]

/-- A row that is left as it was loaded is not written. -/
def update_rule (id : String) (dto : ProcessChainRuleUpdate) : Except RuleError (List RuleWrite) := do
  let loaded ← self.get_rule id
  if let some parent_group_id := dto.parent_group_id then self.check_group "Parent" parent_group_id
  if let some child_group_id := dto.child_group_id then self.check_group "Child" child_group_id
  let rule : ProcessChainRule :=
    { id := loaded.id
      name := (dto.name.map py_strip).getD loaded.name
      parent_group_id := dto.parent_group_id.getD loaded.parent_group_id
      child_group_id := dto.child_group_id.getD loaded.child_group_id
      action := ((dto.action.map py_lower).filter (· ∈ CHAIN_ACTIONS)).getD loaded.action
      is_active := dto.is_active.getD loaded.is_active }
  return if rule = loaded then [] else [.update_rule loaded rule]

def delete_rule (id : String) : Except RuleError (List RuleWrite) := do
  let _ ← self.get_rule id
  return [.delete_rule id]

/-- The name must be free, for another group than the one that has it. -/
def check_name (name asked : String) (id : Option String) : Except RuleError Unit :=
  match self.get_by_name name with
  | none => .ok ()
  | some existing =>
    if some existing.id = id then .ok ()
    else .error (.AppException ("Process group with name '" ++ asked ++ "' already exists.") 400)

def create_group (id : String) (dto : ProcessGroupCreate) : Except RuleError (List RuleWrite) := do
  self.check_name dto.name dto.name none
  return [.insert_group
    { id
      name := py_strip dto.name
      patterns := clean_patterns dto.patterns
      description := some (text_or dto.description "") }]

def update_group (id : String) (dto : ProcessGroupUpdate) : Except RuleError (List RuleWrite) := do
  let loaded ← self.get_group id
  let name := (dto.name.filter (· ≠ "")).elim loaded.name py_strip
  if name ≠ loaded.name then self.check_name name (dto.name.getD "") (some id)
  let group : ProcessGroup :=
    { id := loaded.id
      name
      patterns := (dto.patterns.map clean_patterns).getD loaded.patterns
      description := dto.description <|> loaded.description }
  return if group = loaded then [] else [.update_group loaded group]

/-- `ProcessChainRuleRepository.count_by_group_id`. -/
def count_by_group_id (group_id : String) : ℕ :=
  self.process_chain_rules.rows.countP fun rule =>
    decide (rule.parent_group_id = group_id ∨ rule.child_group_id = group_id)

def delete_group (id : String) : Except RuleError (List RuleWrite) := do
  let group ← self.get_group id
  if 0 < self.count_by_group_id id then
    throw (.AppException ("Cannot delete process group '" ++ group.name ++ "' because it is referenced by " ++
      toString (self.count_by_group_id id) ++ " process chain rule(s).") 409)
  return [.delete_group id]

end RuleTables

/-- The calls of `ProcessChainRuleService` and `ProcessGroupService` that write. -/
inductive RuleCall where
  | create_rule (id : String) (dto : ProcessChainRuleCreate)
  | update_rule (id : String) (dto : ProcessChainRuleUpdate)
  | delete_rule (id : String)
  | create_group (id : String) (dto : ProcessGroupCreate)
  | update_group (id : String) (dto : ProcessGroupUpdate)
  | delete_group (id : String)

/-- The statements of a call, given what its session has read. -/
def RuleCall.writes (view : RuleTables) : RuleCall → Except RuleError (List RuleWrite)
  | .create_rule id dto => view.create_rule id dto
  | .update_rule id dto => view.update_rule id dto
  | .delete_rule id => view.delete_rule id
  | .create_group id dto => view.create_group id dto
  | .update_group id dto => view.update_group id dto
  | .delete_group id => view.delete_group id

/-- A call with what its session has read, which may be older than what the tables hold when it commits. -/
structure RuleUpdate where
  call : RuleCall
  view : RuleTables

/-- The commit of a call. One that was refused, or whose statements fail, does not commit. -/
def RuleTables.perform (self : RuleTables) (update : RuleUpdate) : Option RuleTables :=
  match update.call.writes update.view with
  | .ok writes => writes.foldlM write self
  | .error _ => none

end larp
