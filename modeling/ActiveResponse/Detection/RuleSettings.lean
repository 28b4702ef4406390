import ActiveResponse.Detection.ScoreRange

namespace larp

/-- A row of `detection_rules`. -/
structure StoredRule extends DetectionRule where
  id : String

instance : Keyed StoredRule String := ⟨StoredRule.id⟩

/-- The row as `sync_from_db_records` reads it: without a `rule_id` it goes by its `id`. -/
def StoredRule.record (self : StoredRule) : DetectionRule :=
  { self.toDetectionRule with rule_id := if self.rule_id = "" then self.id else self.rule_id }

/-- The row that the defaults of a rule are stored in. -/
def RegisteredRule.stored (self : RegisteredRule) (id : String) : StoredRule where
  id := id
  rule_id := self.rule_id
  enabled := self.enabled
  weight := self.weight
  base_score := self.base_score
  config := self.config

/-- An update keeps the names of the row. -/
def StoredRule.updated (dto : DetectionRuleUpdate) (self : StoredRule) : StoredRule :=
  { self with toDetectionRule := self.toDetectionRule.update dto }

inductive RuleOp where
  | list_rules (skip limit : ℕ) (ids : ℕ → String)
  | create_rule (id : String) (dto : DetectionRule)
  | update_rule (rule_id : String) (dto : DetectionRuleUpdate)
  | delete_rule (rule_id : String)

/-! ## DetectionRuleService -/

/-- `DetectionRuleRepository.get_by_rule_id`. -/
def get_by_rule_id (rules : Table StoredRule) (rule_id : String) : Option StoredRule :=
  rules.rows.find? fun rule => rule.rule_id = rule_id

/-- `INSERT INTO detection_rules`: the unique `rule_id` and the primary key are checked. -/
def add_rule (rules : Table StoredRule) (rule : StoredRule) : Except AppException (Table StoredRule) :=
  if (get_by_rule_id rules rule.rule_id).isSome then .error (.IntegrityError "ix_detection_rules_rule_id")
  else
    match rules.insert rule with
    | some rules => .ok rules
    | none => .error (.IntegrityError "detection_rules_pkey")

/-- The defaults, one row after the other, with the ids that are made up for them. -/
def seed_rules (rules : Table StoredRule) : List (RegisteredRule × String) → Except AppException (Table StoredRule)
  | [] => .ok rules
  | (rule, id) :: rest => do
    let rules ← add_rule rules (rule.stored id)
    seed_rules rules rest

/-- `list_rules` stores the defaults if it finds nothing on the first page. -/
def list_rules (registry : Table RegisteredRule) (rules : Table StoredRule) (skip limit : ℕ) (ids : ℕ → String) :
    Except AppException (Table StoredRule) :=
  if ((rules.rows.drop skip).take limit).isEmpty ∧ skip = 0 then
    seed_rules rules (registry.rows.zipIdx.map fun (rule, n) => (rule, ids n))
  else .ok rules

/-- `get_rule` takes the `rule_id`, or else the primary key. -/
def get_rule (rules : Table StoredRule) (rule_id : String) : Except AppException StoredRule :=
  match (get_by_rule_id rules rule_id).or (rules.get rule_id) with
  | some rule => .ok rule
  | none => .error (.NotFoundError ("Detection rule '" ++ rule_id ++ "' not found."))

def create_rule (rules : Table StoredRule) (id : String) (dto : DetectionRule) :
    Except AppException (Table StoredRule) :=
  if (get_by_rule_id rules dto.rule_id).isSome then
    .error (.BadRequestError ("Detection rule with rule_id '" ++ dto.rule_id ++ "' already exists."))
  else add_rule rules { dto with id }

def update_rule (rules : Table StoredRule) (rule_id : String) (dto : DetectionRuleUpdate) :
    Except AppException (Table StoredRule) := do
  let rule ← get_rule rules rule_id
  return rules.modify rule.id (.updated dto)

def delete_rule (rules : Table StoredRule) (rule_id : String) : Except AppException (Table StoredRule) := do
  let rule ← get_rule rules rule_id
  return rules.delete rule.id

def perform_rule_op (registry : Table RegisteredRule) (rules : Table StoredRule) :
    RuleOp → Except AppException (Table StoredRule)
  | .list_rules skip limit ids => list_rules registry rules skip limit ids
  | .create_rule id dto => create_rule rules id dto
  | .update_rule rule_id dto => update_rule rules rule_id dto
  | .delete_rule rule_id => delete_rule rules rule_id

/-- A request that raises is rolled back. -/
def rule_step (registry : Table RegisteredRule) (rules : Table StoredRule) (op : RuleOp) : Table StoredRule :=
  match perform_rule_op registry rules op with
  | .ok rules => rules
  | .error _ => rules

/-- The settings of an assessment: `sync_registry` reads the first 100 rows, in the `order` in which the database
returns them. -/
def in_force (registry : Table RegisteredRule) (order : List StoredRule) : Table RegisteredRule :=
  sync_from_db_records registry ((order.take 100).map StoredRule.record)

/-- The settings that a rule has with a row, or without one. -/
def RegisteredRule.configured (self : RegisteredRule) (row : Option StoredRule) : RegisteredRule :=
  match row with
  | some row => self.configure row.toDetectionRule
  | none => self

/-- No two rows have one `rule_id`, and no made-up id is the name of a rule. -/
structure RulesValid (registry : Table RegisteredRule) (rules : Table StoredRule) : Prop where
  rule_ids : (rules.rows.map fun rule => rule.rule_id).Nodup
  ids : ∀ rule ∈ rules.rows, registry.get rule.id = none

/-- The ids that an operation makes up are no names of rules. -/
def RuleOp.NewIds (registry : Table RegisteredRule) : RuleOp → Prop
  | .list_rules _ _ ids => ∀ n, registry.get (ids n) = none
  | .create_rule id _ => registry.get id = none
  | _ => True

/-- An operation is about the row of this rule. -/
def RuleOp.Addresses (rules : Table StoredRule) (rule_id : String) : RuleOp → Prop
  | .list_rules .. => False
  | .create_rule _ dto => dto.rule_id = rule_id
  | .update_rule key _ | .delete_rule key => ∃ rule, get_rule rules key = .ok rule ∧ rule.rule_id = rule_id

/-! ## What is in force -/

variable {registry : Table RegisteredRule} {rules rules' : Table StoredRule}

theorem get_sync_from_db_records (records : List DetectionRule) (registry : Table RegisteredRule) (rule_id : String) :
    (sync_from_db_records registry records).get rule_id =
      (registry.get rule_id).map fun rule =>
        (records.filter fun record => record.rule_id = rule_id).foldl
          (fun rule record => rule.configure record) rule := by
  induction records generalizing registry with
  | nil => simp [sync_from_db_records]
  | cons record records ih =>
    change (sync_from_db_records (registry.modify record.rule_id (.configure record)) records).get rule_id = _
    rw [ih, Table.get_modify (f := RegisteredRule.configure record) (fun _ => rfl), List.filter_cons]
    by_cases hid : record.rule_id = rule_id
    · simp [hid, Function.comp_def]
    · simp [hid]

/-- A rule goes by its own row. The order in which the database returns the rows does not matter, as long as there are
at most 100. -/
theorem get_in_force (hvalid : RulesValid registry rules) {order : List StoredRule} (horder : order.Perm rules.rows)
    (hlimit : order.length ≤ 100) {rule_id : String} (hname : rule_id ≠ "") (hrule : (registry.get rule_id).isSome) :
    (in_force registry order).get rule_id =
      (registry.get rule_id).map fun rule => rule.configured (get_by_rule_id rules rule_id) := by
  have hrecord : ∀ row ∈ order, (row.record.rule_id = rule_id ↔ row.rule_id = rule_id) := by
    intro row hrow
    unfold StoredRule.record
    split
    · rename_i hempty
      refine iff_of_false ?_ (fun hid => hname (hid ▸ hempty))
      rintro rfl
      rw [hvalid.ids row (horder.mem_iff.mp hrow)] at hrule
      cases hrule
    · rfl
  have hfilter : (order.filter fun row => decide (row.record.rule_id = rule_id)) =
      (get_by_rule_id rules rule_id).toList := by
    rw [List.filter_congr fun row hrow => decide_eq_decide.mpr (hrecord row hrow)]
    have hperm := horder.filter fun row => decide (row.rule_id = rule_id)
    rw [Table.filter_of_nodup_map (f := fun row : StoredRule => row.rule_id) hvalid.rule_ids] at hperm
    rw [get_by_rule_id]
    revert hperm
    cases rules.rows.find? fun row => decide (row.rule_id = rule_id) with
    | none => exact List.perm_nil.mp
    | some row => exact List.perm_singleton.mp
  rw [in_force, List.take_of_length_le hlimit, get_sync_from_db_records, List.filter_map]
  change (registry.get rule_id).map (fun rule =>
    ((order.filter fun row => decide (row.record.rule_id = rule_id)).map StoredRule.record).foldl _ rule) = _
  rw [hfilter]
  cases get_by_rule_id rules rule_id <;> rfl

/-! ## What the operations do -/

theorem get_by_rule_id_eq_none_iff {rule_id : String} :
    get_by_rule_id rules rule_id = none ↔ ∀ row ∈ rules.rows, row.rule_id ≠ rule_id := by
  simp [get_by_rule_id, List.find?_eq_none]

theorem RulesValid.get_by_rule_id_eq_some_iff (hvalid : RulesValid registry rules) {rule_id : String}
    {row : StoredRule} : get_by_rule_id rules rule_id = some row ↔ row ∈ rules.rows ∧ row.rule_id = rule_id := by
  rw [← Option.mem_toList, get_by_rule_id,
    ← Table.filter_of_nodup_map (f := fun row : StoredRule => row.rule_id) hvalid.rule_ids]
  simp

/-- A rule has the row that it had if no row of the rule has come, gone or changed. -/
theorem RulesValid.get_by_rule_id_congr (hvalid : RulesValid registry rules) (hvalid' : RulesValid registry rules')
    {rule_id : String} (hsame : ∀ row, row.rule_id = rule_id → (row ∈ rules'.rows ↔ row ∈ rules.rows)) :
    get_by_rule_id rules' rule_id = get_by_rule_id rules rule_id := by
  ext row
  rw [hvalid'.get_by_rule_id_eq_some_iff, hvalid.get_by_rule_id_eq_some_iff]
  exact and_congr_left fun hid => hsame row hid

theorem add_rule_ok {rule : StoredRule} (h : add_rule rules rule = .ok rules') :
    get_by_rule_id rules rule.rule_id = none ∧ rules'.rows = rules.rows ++ [rule] := by
  unfold add_rule at h
  split at h
  · cases h
  · rename_i hfree
    split at h
    · rename_i inserted hinsert
      obtain rfl := Except.ok.inj h
      exact ⟨by simpa using hfree, (Table.insert_eq_some_iff.mp hinsert).2⟩
    · cases h

theorem RulesValid.add (hvalid : RulesValid registry rules) {rule : StoredRule} (hid : registry.get rule.id = none)
    (h : add_rule rules rule = .ok rules') : RulesValid registry rules' := by
  obtain ⟨hfree, hrows⟩ := add_rule_ok h
  rw [get_by_rule_id_eq_none_iff] at hfree
  constructor
  · rw [hrows, List.map_append, List.nodup_append]
    refine ⟨hvalid.rule_ids, List.nodup_singleton _, ?_⟩
    rintro old hold new hnew rfl
    obtain ⟨row, hrow, rfl⟩ := List.mem_map.mp hold
    exact hfree row hrow (List.mem_singleton.mp hnew)
  · intro row hrow
    rw [hrows, List.mem_append, List.mem_singleton] at hrow
    obtain hrow | rfl := hrow
    · exact hvalid.ids row hrow
    · exact hid

theorem RulesValid.seed (hvalid : RulesValid registry rules) {seeds : List (RegisteredRule × String)}
    (hids : ∀ seed ∈ seeds, registry.get seed.2 = none) (h : seed_rules rules seeds = .ok rules') :
    RulesValid registry rules' := by
  induction seeds generalizing rules with
  | nil =>
    obtain rfl := Except.ok.inj h
    exact hvalid
  | cons seed seeds ih =>
    obtain ⟨rule, id⟩ := seed
    unfold seed_rules at h
    rw [bind_eq_ok_iff] at h
    obtain ⟨added, hadd, h⟩ := h
    have hadded : RulesValid registry added := hvalid.add (hids (rule, id) List.mem_cons_self) hadd
    exact ih hadded (fun seed hseed => hids seed (List.mem_cons_of_mem _ hseed)) h

theorem seed_rules_ok {seeds : List (RegisteredRule × String)} (h : seed_rules rules seeds = .ok rules') :
    rules'.rows = rules.rows ++ seeds.map (fun seed => seed.1.stored seed.2) ∧
      ∀ seed ∈ seeds, get_by_rule_id rules seed.1.rule_id = none := by
  induction seeds generalizing rules with
  | nil =>
    obtain rfl := Except.ok.inj h
    exact ⟨(List.append_nil _).symm, nofun⟩
  | cons seed seeds ih =>
    obtain ⟨rule, id⟩ := seed
    unfold seed_rules at h
    rw [bind_eq_ok_iff] at h
    obtain ⟨added, hadd, h⟩ := h
    obtain ⟨hfree, hrows⟩ := add_rule_ok hadd
    obtain ⟨hseeded, hrest⟩ := ih h
    refine ⟨by rw [hseeded, hrows, List.append_assoc]; rfl, ?_⟩
    rintro other (_ | ⟨_, hother⟩)
    · exact hfree
    · have hnone := hrest other hother
      rw [get_by_rule_id_eq_none_iff, hrows] at hnone
      exact get_by_rule_id_eq_none_iff.mpr fun row hrow => hnone row (List.mem_append_left _ hrow)

theorem get_rule_ok {rule_id : String} {rule : StoredRule} (h : get_rule rules rule_id = .ok rule) :
    rule ∈ rules.rows := by
  unfold get_rule at h
  split at h
  · rename_i found hfound
    obtain rfl := Except.ok.inj h
    obtain hname | ⟨-, hid⟩ := Option.or_eq_some_iff.mp hfound
    · exact List.mem_of_find?_eq_some hname
    · exact Table.get_mem hid
  · cases h

theorem update_rule_ok {key : String} {dto : DetectionRuleUpdate} (h : update_rule rules key dto = .ok rules') :
    ∃ rule, get_rule rules key = .ok rule ∧ rules' = rules.modify rule.id (.updated dto) := by
  unfold update_rule at h
  rw [bind_eq_ok_iff] at h
  obtain ⟨rule, hrule, h⟩ := h
  exact ⟨rule, hrule, (Except.ok.inj h).symm⟩

theorem delete_rule_ok {key : String} (h : delete_rule rules key = .ok rules') :
    ∃ rule, get_rule rules key = .ok rule ∧ rules' = rules.delete rule.id := by
  unfold delete_rule at h
  rw [bind_eq_ok_iff] at h
  obtain ⟨rule, hrule, h⟩ := h
  exact ⟨rule, hrule, (Except.ok.inj h).symm⟩

theorem RulesValid.modify (hvalid : RulesValid registry rules) (id : String) (dto : DetectionRuleUpdate) :
    RulesValid registry (rules.modify id (.updated dto)) := by
  constructor
  · rw [Table.rows_modify rules id (f := StoredRule.updated dto) fun _ => rfl, List.map_map]
    refine (List.map_congr_left fun row _ => ?_) ▸ hvalid.rule_ids
    rw [Function.comp_apply]
    split <;> rfl
  · intro row hrow
    obtain ⟨old, hold, rfl⟩ := (Table.mem_modify (f := StoredRule.updated dto) fun _ => rfl).mp hrow
    have hid := hvalid.ids old hold
    split <;> exact hid

theorem RulesValid.delete (hvalid : RulesValid registry rules) (id : String) :
    RulesValid registry (rules.delete id) where
  rule_ids := hvalid.rule_ids.sublist (List.filter_sublist.map _)
  ids row hrow := hvalid.ids row (List.mem_of_mem_filter hrow)

theorem perform_rule_op_valid (hvalid : RulesValid registry rules) {op : RuleOp} (hids : op.NewIds registry)
    (h : perform_rule_op registry rules op = .ok rules') : RulesValid registry rules' := by
  cases op with
  | list_rules skip limit ids =>
    simp only [perform_rule_op, list_rules] at h
    split at h
    · refine hvalid.seed (fun seed hseed => ?_) h
      obtain ⟨⟨rule, n⟩, -, rfl⟩ := List.mem_map.mp hseed
      exact hids n
    · obtain rfl := Except.ok.inj h
      exact hvalid
  | create_rule id dto =>
    simp only [perform_rule_op, create_rule] at h
    split at h
    · cases h
    · have hid : registry.get id = none := hids
      exact hvalid.add hid h
  | update_rule key dto =>
    obtain ⟨rule, -, rfl⟩ := update_rule_ok h
    exact hvalid.modify rule.id dto
  | delete_rule key =>
    obtain ⟨rule, -, rfl⟩ := delete_rule_ok h
    exact hvalid.delete rule.id

/-! ## The settings of a rule -/

/-- The defaults as a row are the defaults without a row. -/
theorem RegisteredRule.configured_stored (rule : RegisteredRule) (id : String) :
    rule.configured (some (rule.stored id)) = rule := by
  unfold configured configure stored
  simp

theorem list_rules_configured (hvalid' : RulesValid registry rules')
    {skip limit : ℕ} {ids : ℕ → String} (h : list_rules registry rules skip limit ids = .ok rules')
    {rule : RegisteredRule} (hrule : rule ∈ registry.rows) :
    rule.configured (get_by_rule_id rules' rule.rule_id) = rule.configured (get_by_rule_id rules rule.rule_id) := by
  unfold list_rules at h
  split at h
  · obtain ⟨hrows, hfree⟩ := seed_rules_ok h
    obtain ⟨n, hn⟩ := List.mem_iff_getElem?.mp hrule
    have hseed : (rule, ids n) ∈ registry.rows.zipIdx.map fun (rule, n) => (rule, ids n) :=
      List.mem_map.mpr ⟨(rule, n), List.mem_zipIdx_iff_getElem?.mpr hn, rfl⟩
    have hnew : get_by_rule_id rules' rule.rule_id = some (rule.stored (ids n)) := by
      refine hvalid'.get_by_rule_id_eq_some_iff.mpr ⟨?_, rfl⟩
      rw [hrows]
      exact List.mem_append_right _ (List.mem_map.mpr ⟨(rule, ids n), hseed, rfl⟩)
    rw [hnew, hfree _ hseed, RegisteredRule.configured_stored]
    rfl
  · obtain rfl := Except.ok.inj h
    rfl

theorem create_rule_frame {id : String} {dto : DetectionRule} (h : create_rule rules id dto = .ok rules')
    {row : StoredRule} (hother : row.rule_id ≠ dto.rule_id) : row ∈ rules'.rows ↔ row ∈ rules.rows := by
  unfold create_rule at h
  split at h
  · cases h
  · rw [(add_rule_ok h).2, List.mem_append, List.mem_singleton, or_iff_left]
    rintro rfl
    exact hother rfl

/-- A rule with another `rule_id` is in another row. -/
theorem id_ne_of_rule_id_ne {rule row : StoredRule} (hrule : rule ∈ rules.rows) (hrow : row ∈ rules.rows)
    (hother : row.rule_id ≠ rule.rule_id) : row.id ≠ rule.id := by
  intro hid
  have hsame : row = rule := List.inj_on_of_nodup_map rules.nodup hrow hrule hid
  exact hother (congrArg (fun row : StoredRule => row.rule_id) hsame)

theorem update_rule_frame {key : String} {dto : DetectionRuleUpdate} (h : update_rule rules key dto = .ok rules')
    {row : StoredRule} (hother : ∀ rule, get_rule rules key = .ok rule → row.rule_id ≠ rule.rule_id) :
    row ∈ rules'.rows ↔ row ∈ rules.rows := by
  obtain ⟨rule, hrule, rfl⟩ := update_rule_ok h
  have hmem : rule ∈ rules.rows := get_rule_ok hrule
  rw [Table.mem_modify (f := StoredRule.updated dto) fun _ => rfl]
  constructor
  · rintro ⟨old, hold, rfl⟩
    split
    · rename_i hkey
      obtain rfl : rule = old := List.inj_on_of_nodup_map rules.nodup hmem hold hkey
      rw [if_pos hkey] at hother
      exact absurd rfl (hother rule hrule)
    · exact hold
  · intro hrow
    refine ⟨row, hrow, (if_neg fun hid => ?_).symm⟩
    exact id_ne_of_rule_id_ne hmem hrow (hother rule hrule) hid.symm

theorem delete_rule_frame {key : String} (h : delete_rule rules key = .ok rules') {row : StoredRule}
    (hother : ∀ rule, get_rule rules key = .ok rule → row.rule_id ≠ rule.rule_id) :
    row ∈ rules'.rows ↔ row ∈ rules.rows := by
  obtain ⟨rule, hrule, rfl⟩ := delete_rule_ok h
  refine ⟨List.mem_of_mem_filter, fun hrow => List.mem_filter.mpr ⟨hrow, ?_⟩⟩
  exact decide_eq_true (id_ne_of_rule_id_ne (get_rule_ok hrule) hrow (hother rule hrule))

/-- An operation that is not about a rule leaves it the settings that its row gives it. -/
theorem perform_rule_op_configured (hvalid : RulesValid registry rules) {op : RuleOp} (hids : op.NewIds registry)
    (h : perform_rule_op registry rules op = .ok rules') {rule : RegisteredRule} (hrule : rule ∈ registry.rows)
    (hother : ¬op.Addresses rules rule.rule_id) :
    rule.configured (get_by_rule_id rules' rule.rule_id) = rule.configured (get_by_rule_id rules rule.rule_id) := by
  have hvalid' : RulesValid registry rules' := perform_rule_op_valid hvalid hids h
  cases op with
  | list_rules skip limit ids => exact list_rules_configured hvalid' h hrule
  | create_rule id dto =>
    rw [hvalid.get_by_rule_id_congr hvalid' fun row hid => create_rule_frame h ?_]
    rw [hid]
    exact fun hsame => hother hsame.symm
  | update_rule key dto =>
    rw [hvalid.get_by_rule_id_congr hvalid' fun row hid => update_rule_frame h fun found hfound hsame => ?_]
    exact hother ⟨found, hfound, hsame.symm.trans hid⟩
  | delete_rule key =>
    rw [hvalid.get_by_rule_id_congr hvalid' fun row hid => delete_rule_frame h fun found hfound hsame => ?_]
    exact hother ⟨found, hfound, hsame.symm.trans hid⟩

/-- What the row of a rule says, or the defaults of a rule without a row, is in force for the rule as long as no
operation is about it: after any run of seedings, creations, updates, deletions and refused requests for other rules,
in whatever order the database returns the rows. -/
theorem settings_stay (hvalid : RulesValid registry rules) {rule_id : String} (hname : rule_id ≠ "")
    (ops : List RuleOp)
    (hops : transition.Along (rule_step registry)
      (fun rules op => op.NewIds registry ∧ ¬op.Addresses rules rule_id) rules ops)
    {order : List StoredRule} (horder : order.Perm (transition.run (rule_step registry) rules ops).rows)
    (hlimit : order.length ≤ 100) :
    (in_force registry order).get rule_id =
      (registry.get rule_id).map fun rule => rule.configured (get_by_rule_id rules rule_id) := by
  have hrun : RulesValid registry (transition.run (rule_step registry) rules ops) ∧
      ∀ rule ∈ registry.get rule_id,
        rule.configured (get_by_rule_id (transition.run (rule_step registry) rules ops) rule_id) =
          rule.configured (get_by_rule_id rules rule_id) := by
    refine transition.run_invariant (I := fun current : Table StoredRule => RulesValid registry current ∧
      ∀ rule ∈ registry.get rule_id, rule.configured (get_by_rule_id current rule_id) =
        rule.configured (get_by_rule_id rules rule_id)) (fun current op h hop => ?_) hops ⟨hvalid, fun _ _ => rfl⟩
    obtain ⟨hcurrent, hsettings⟩ := h
    unfold rule_step
    split
    · rename_i performed hperformed
      refine ⟨perform_rule_op_valid hcurrent hop.1 hperformed, fun rule hrule => ?_⟩
      obtain ⟨hmem, rfl⟩ := Table.get_eq_some_iff.mp hrule
      exact (perform_rule_op_configured hcurrent hop.1 hperformed hmem hop.2).trans (hsettings rule hrule)
    · exact ⟨hcurrent, hsettings⟩
  obtain ⟨hafter, hsettings⟩ := hrun
  cases hrule : registry.get rule_id with
  | none =>
    rw [in_force, get_sync_from_db_records, hrule]
    rfl
  | some rule =>
    rw [get_in_force hafter horder hlimit hname (by simp [hrule]), hrule]
    exact congrArg some (hsettings rule hrule)

def login_registry : Table RegisteredRule :=
  ⟨[{ rule_id := "cpu_spike", evaluate := fun _ _ _ _ _ => .ok 10 },
    { rule_id := "brute_force", evaluate := fun _ _ _ _ _ => .ok 40 }], by decide⟩

def login_rules : Table StoredRule := ⟨[{ id := "row-1", rule_id := "cpu_spike", weight := 2 }], by decide⟩

/-- The only row is deleted, and the next visit of the page stores the defaults. -/
def reseeding : List RuleOp :=
  [.delete_rule "cpu_spike", .list_rules 0 100 fun n => if n = 0 then "row-2" else "row-3"]

theorem settings_stay_reseeding :
    (in_force login_registry
      (transition.run (rule_step login_registry) login_rules reseeding).rows).get "brute_force" =
      (login_registry.get "brute_force").map fun rule => rule.configured none := by
  have hvalid : RulesValid login_registry login_rules := by
    refine ⟨by decide, fun rule hrule => ?_⟩
    obtain rfl := List.mem_singleton.mp hrule
    rfl
  have hops : transition.Along (rule_step login_registry)
      (fun rules op => op.NewIds login_registry ∧ ¬op.Addresses rules "brute_force") login_rules reseeding := by
    refine ⟨⟨trivial, ?_⟩, ⟨fun n => ?_, id⟩, trivial⟩
    · rintro ⟨rule, hrule, hid⟩
      obtain rfl := Except.ok.inj hrule
      exact absurd hid (by decide)
    · by_cases hn : n = 0
      · simp only [hn]
        rfl
      · simp only [hn]
        rfl
  exact settings_stay hvalid (by decide) reseeding hops (.refl _) (by decide)

end larp
