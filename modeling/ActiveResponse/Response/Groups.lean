import ActiveResponse.Response.DryRun
import ActiveResponse.Response.PolicyRange

namespace larp

/-- What a session finds in the database at each of its statements: other sessions may commit in between. -/
abbrev Reads := ℕ → Database

namespace Database

/-! ## Rows and their keys -/

/-- `AgentGroupRepository.get_by_name`. -/
def get_by_name (db : Database) (name : String) : Option AgentGroup :=
  db.agent_groups.rows.find? fun group => group.name = name

/-- `INSERT INTO agent_groups`: the unique name and the primary key are checked. -/
def add_group (db : Database) (group : AgentGroup) : Except AppException Database :=
  if (db.get_by_name group.name).isSome then .error (.IntegrityError "ix_agent_groups_name")
  else
    match db.agent_groups.insert group with
    | some agent_groups => .ok { db with agent_groups }
    | none => .error (.IntegrityError "agent_groups_pkey")

/-- `UPDATE agent_groups SET name`: no other group may have the name. -/
def rename_group (db : Database) (group_id name : String) : Except AppException Database :=
  if (db.agent_groups.get group_id).isNone then
    .error (.Fault "UPDATE statement on table 'agent_groups' expected to update 1 row(s); 0 were matched.")
  else if db.agent_groups.rows.any fun group => group.name = name ∧ group.id ≠ group_id then
    .error (.IntegrityError "ix_agent_groups_name")
  else .ok { db with agent_groups := db.agent_groups.modify group_id fun group => { group with name } }

/-- `INSERT INTO agent_group_members`: both foreign keys and the primary key are checked. -/
def add_member (db : Database) (member : AgentGroupMember) : Except AppException Database :=
  if (db.agent_groups.get member.group_id).isNone then
    .error (.IntegrityError "agent_group_members_group_id_fkey")
  else if (db.agents.get member.agent_id).isNone then
    .error (.IntegrityError "agent_group_members_agent_id_fkey")
  else if member ∈ db.agent_group_members then .error (.IntegrityError "agent_group_members_pkey")
  else .ok { db with agent_group_members := db.agent_group_members ++ [member] }

/-- A policy after its group has been deleted: `ON DELETE SET NULL`. -/
def detach (group_id : String) (policy : ResponsePolicy) : ResponsePolicy :=
  if policy.target_group_id = some group_id then { policy with target_group_id := none } else policy

/-- `DELETE FROM agent_groups`, with what the foreign keys say about memberships and policies. -/
def without_group (db : Database) (group_id : String) : Database :=
  { db with
    agent_groups := db.agent_groups.delete group_id
    agent_group_members := db.agent_group_members.filter fun member => member.group_id ≠ group_id
    response_policies := db.response_policies.update (detach group_id) (by
      intro policy
      unfold detach
      split <;> rfl) }

/-! ## AgentGroupService -/

/-- The id of a new group: the one that is asked for, or one that is made up. -/
def new_group_id (seen : Database) (uuid : String) (group_id : Option String) : Except AppException String :=
  match group_id with
  | some group_id =>
    if group_id = "" then .ok ("grp_" ++ uuid)
    else if (seen.agent_groups.get (py_strip group_id)).isSome then
      .error (.ConflictError ("Agent group with ID '" ++ py_strip group_id ++ "' already exists."))
    else .ok (py_strip group_id)
  | none => .ok ("grp_" ++ uuid)

/-- No group has the name yet, as far as the session can see. -/
def check_group_name (seen : Database) (name : String) : Except AppException Unit :=
  if (seen.get_by_name name).isSome then
    .error (.ConflictError ("Agent group with name '" ++ name ++ "' already exists."))
  else .ok ()

def create_group (db : Database) (reads : Reads) (uuid name : String) (group_id : Option String) :
    Except AppException Database := do
  (reads 0).check_group_name (py_strip name)
  let id ← (reads 1).new_group_id uuid group_id
  db.add_group { id, name := py_strip name }

def update_group (db : Database) (reads : Reads) (group_id : String) (name : Option String) :
    Except AppException Database := do
  let group ← (reads 0).require_group group_id
  match name with
  | none => return db
  | some name =>
    if py_strip name = group.name then return db
    else
      (reads 1).check_group_name (py_strip name)
      db.rename_group group_id (py_strip name)

def delete_group (db : Database) (reads : Reads) (group_id : String) : Except AppException Database := do
  let group ← (reads 0).require_group group_id
  return db.without_group group.id

/-- `AgentGroupRepository.add_agent_to_group`: the session sees what others have committed, and what it has `added`
itself. -/
def is_member (seen : Database) (added : List AgentGroupMember) (member : AgentGroupMember) : Bool :=
  member ∈ seen.agent_group_members ∨ member ∈ added

/-- The loop of `add_agents_to_group` from the nth agent on. An agent that is not found is skipped. -/
def add_each_agent (reads : Reads) (group_id : String) :
    Database → List AgentGroupMember → ℕ → List String → Except AppException Database
  | db, _, _, [] => .ok db
  | db, added, n, agent_id :: agent_ids =>
    if ((reads (2 * n + 1)).agents.get agent_id).isNone then add_each_agent reads group_id db added (n + 1) agent_ids
    else if (reads (2 * n + 2)).is_member added ⟨group_id, agent_id⟩ then
      add_each_agent reads group_id db added (n + 1) agent_ids
    else do
      let db ← db.add_member ⟨group_id, agent_id⟩
      add_each_agent reads group_id db (added ++ [⟨group_id, agent_id⟩]) (n + 1) agent_ids

def add_agents_to_group (db : Database) (reads : Reads) (group_id : String) (agent_ids : List String) :
    Except AppException Database := do
  let _group ← (reads 0).require_group group_id
  add_each_agent reads group_id db [] 0 agent_ids

def remove_agent_from_group (db : Database) (reads : Reads) (group_id agent_id : String) :
    Except AppException Database := do
  let _group ← (reads 0).require_group group_id
  return { db with agent_group_members := db.agent_group_members.filter (· ≠ ⟨group_id, agent_id⟩) }

/-- `AgentGroupRepository.list_all_with_count`. -/
def list_all_with_count (db : Database) : List (AgentGroup × ℕ) :=
  (db.agent_groups.select_asc (fun _ => true) AgentGroup.name).map fun group =>
    (group, db.agent_group_members.countP fun member => member.group_id = group.id)

/-- The members of `get_agent_group_detail`, each with its agent. -/
def group_detail (db : Database) (group_id : String) : List (AgentGroupMember × Option Agent) :=
  (db.agent_group_members.filter fun member => member.group_id = group_id).map fun member =>
    (member, db.agents.get member.agent_id)

/-! ## ResponsePolicyService -/

/-- `update_policy` for a policy that the session has loaded. -/
def update_policy (py_str : PyFloat → String) (db : Database) (loaded : ResponsePolicy) (dto : ResponsePolicyUpdate) :
    Except AppException Database := do
  loaded.check_update py_str dto
  db.check_target_group dto.target_group_id
  return { db with response_policies := db.response_policies.modify loaded.id (loaded.flush dto) }

def delete_policy (db : Database) (reads : Reads) (policy_id : String) : Except AppException Database :=
  match (reads 0).response_policies.get policy_id with
  | some policy => .ok { db with response_policies := db.response_policies.delete policy.id }
  | none => .error (.NotFoundError ("ResponsePolicy with ID '" ++ policy_id ++ "' was not found."))

end Database

/-- The requests that write groups, memberships and policies. -/
inductive GroupOp where
  | create_group (reads : Reads) (uuid name : String) (group_id : Option String)
  | update_group (reads : Reads) (group_id : String) (name : Option String)
  | delete_group (reads : Reads) (group_id : String)
  | add_agents_to_group (reads : Reads) (group_id : String) (agent_ids : List String)
  | remove_agent_from_group (reads : Reads) (group_id agent_id : String)
  | create_policy (policy_id : String) (req : ResponsePolicyCreate)
  | update_policy (loaded : ResponsePolicy) (dto : ResponsePolicyUpdate)
  | delete_policy (reads : Reads) (policy_id : String)

namespace Database

def perform_group (py_str : PyFloat → String) (db : Database) : GroupOp → Except AppException Database
  | .create_group reads uuid name group_id => db.create_group reads uuid name group_id
  | .update_group reads group_id name => db.update_group reads group_id name
  | .delete_group reads group_id => db.delete_group reads group_id
  | .add_agents_to_group reads group_id agent_ids => db.add_agents_to_group reads group_id agent_ids
  | .remove_agent_from_group reads group_id agent_id => db.remove_agent_from_group reads group_id agent_id
  | .create_policy policy_id req => db.create_policy py_str policy_id req
  | .update_policy loaded dto => db.update_policy py_str loaded dto
  | .delete_policy reads policy_id => db.delete_policy reads policy_id

/-! ## What fits together -/

/-- The tables of groups, memberships and policies fit together. -/
structure Grouped (db : Database) : Prop where
  members : ∀ member ∈ db.agent_group_members,
    (db.agent_groups.get member.group_id).isSome ∧ (db.agents.get member.agent_id).isSome
  distinct : db.agent_group_members.Nodup
  names : (db.agent_groups.rows.map AgentGroup.name).Nodup
  policies : ∀ policy ∈ db.response_policies.rows, ∀ group_id ∈ policy.target_group_id,
    (db.agent_groups.get group_id).isSome

/-- Groups, memberships and policies apart, nothing is written. -/
def WritesGroups (db db' : Database) : Prop :=
  ∃ agent_groups agent_group_members response_policies,
    db' = { db with agent_groups, agent_group_members, response_policies }

theorem WritesGroups.refl (db : Database) : db.WritesGroups db := ⟨_, _, _, rfl⟩

theorem WritesGroups.trans {db db' db'' : Database} (h : db.WritesGroups db') (h' : db'.WritesGroups db'') :
    db.WritesGroups db'' := by
  obtain ⟨_, _, _, rfl⟩ := h
  obtain ⟨_, _, _, rfl⟩ := h'
  exact ⟨_, _, _, rfl⟩

variable {db db' : Database}

theorem get_by_name_eq_none_iff {name : String} :
    db.get_by_name name = none ↔ name ∉ db.agent_groups.rows.map AgentGroup.name := by
  simp [get_by_name, List.find?_eq_none]

theorem add_group_grouped {group : AgentGroup} (h : db.add_group group = .ok db') (hgrouped : db.Grouped) :
    db.WritesGroups db' ∧ db'.Grouped := by
  unfold add_group at h
  split at h
  · cases h
  · rename_i hname
    split at h
    · rename_i agent_groups hinsert
      obtain rfl := Except.ok.inj h
      have hkept (id : String) (hid : (db.agent_groups.get id).isSome) : (agent_groups.get id).isSome := by
        obtain ⟨old, hold⟩ := Option.isSome_iff_exists.mp hid
        rw [Table.get_of_insert_of_get hinsert hold]
        rfl
      refine ⟨⟨_, _, _, rfl⟩, fun member hmember => ?_, hgrouped.distinct, ?_, fun policy hpolicy id hid => ?_⟩
      · obtain ⟨hgroup, hagent⟩ := hgrouped.members member hmember
        exact ⟨hkept _ hgroup, hagent⟩
      · have hfresh : group.name ∉ db.agent_groups.rows.map AgentGroup.name := by
          rw [← get_by_name_eq_none_iff]
          simpa using hname
        rw [(Table.insert_eq_some_iff.mp hinsert).2, List.map_append]
        exact hgrouped.names.append (List.nodup_singleton _) (by simpa using hfresh)
      · exact hkept id (hgrouped.policies policy hpolicy id hid)
    · cases h

theorem rename_group_grouped {group_id name : String} (h : db.rename_group group_id name = .ok db')
    (hgrouped : db.Grouped) : db.WritesGroups db' ∧ db'.Grouped := by
  unfold rename_group at h
  split at h
  · cases h
  · split at h
    · cases h
    · rename_i hfree
      obtain rfl := Except.ok.inj h
      have hkey (group : AgentGroup) : Keyed.key ({ group with name } : AgentGroup) = Keyed.key group := rfl
      have hkept (id : String) (hid : (db.agent_groups.get id).isSome) :
          ((db.agent_groups.modify group_id fun group => { group with name }).get id).isSome :=
        Table.isSome_get_modify hkey hid
      refine ⟨⟨_, _, _, rfl⟩, fun member hmember => ?_, hgrouped.distinct, ?_, fun policy hpolicy id hid => ?_⟩
      · obtain ⟨hgroup, hagent⟩ := hgrouped.members member hmember
        exact ⟨hkept _ hgroup, hagent⟩
      · have hother : ∀ group ∈ db.agent_groups.rows, group.name = name → group.id = group_id := by
          simpa using hfree
        change ((db.agent_groups.modify group_id fun group => { group with name }).rows.map AgentGroup.name).Nodup
        rw [Table.rows_modify _ _ hkey, List.map_map]
        refine List.Nodup.map_on (fun first hfirst second hsecond hsame => ?_) db.agent_groups.nodup.of_map
        have hrow {group other : AgentGroup} (hgroup : group ∈ db.agent_groups.rows)
            (hother : other ∈ db.agent_groups.rows) (hid : group.id = other.id) : group = other :=
          List.inj_on_of_nodup_map db.agent_groups.nodup hgroup hother hid
        -- The renamed group is the only one of its name, the others keep theirs.
        by_cases hone : first.id = group_id <;> by_cases htwo : second.id = group_id
        · exact hrow hfirst hsecond (hone.trans htwo.symm)
        · simp only [Function.comp_apply, Keyed.key, hone, htwo, if_true, if_false] at hsame
          exact absurd (hother second hsecond hsame.symm) htwo
        · simp only [Function.comp_apply, Keyed.key, hone, htwo, if_true, if_false] at hsame
          exact absurd (hother first hfirst hsame) hone
        · simp only [Function.comp_apply, Keyed.key, hone, htwo, if_false] at hsame
          exact List.inj_on_of_nodup_map hgrouped.names hfirst hsecond hsame
      · exact hkept id (hgrouped.policies policy hpolicy id hid)

theorem add_member_grouped {member : AgentGroupMember} (h : db.add_member member = .ok db') (hgrouped : db.Grouped) :
    db.WritesGroups db' ∧ db'.Grouped := by
  unfold add_member at h
  split at h
  · cases h
  · rename_i hgroup
    split at h
    · cases h
    · rename_i hagent
      split at h
      · cases h
      · rename_i hnew
        obtain rfl := Except.ok.inj h
        refine ⟨⟨_, _, _, rfl⟩, fun other hother => ?_, ?_, hgrouped.names, hgrouped.policies⟩
        · obtain hold | hother := List.mem_append.mp hother
          · exact hgrouped.members other hold
          · obtain rfl := List.mem_singleton.mp hother
            simpa [Option.isSome_iff_ne_none] using And.intro hgroup hagent
        · exact hgrouped.distinct.append (List.nodup_singleton _) (by simpa using hnew)

theorem without_group_grouped (group_id : String) (hgrouped : db.Grouped) :
    db.WritesGroups (db.without_group group_id) ∧ (db.without_group group_id).Grouped := by
  have hkept {id : String} (hid : (db.agent_groups.get id).isSome) (hne : group_id ≠ id) :
      ((db.agent_groups.delete group_id).get id).isSome := by
    rwa [Table.get_delete, if_neg hne]
  refine ⟨⟨_, _, _, rfl⟩, fun member hmember => ?_, hgrouped.distinct.filter _, ?_, fun policy hpolicy id hid => ?_⟩
  · obtain ⟨hold, hne⟩ := List.mem_filter.mp hmember
    obtain ⟨hgroup, hagent⟩ := hgrouped.members member hold
    exact ⟨hkept hgroup (Ne.symm (of_decide_eq_true hne)), hagent⟩
  · exact hgrouped.names.sublist (List.filter_sublist.map AgentGroup.name)
  · obtain ⟨old, hold, rfl⟩ := List.mem_map.mp hpolicy
    unfold detach at hid
    split at hid
    · cases hid
    · rename_i hne
      refine hkept (hgrouped.policies old hold id hid) ?_
      rintro rfl
      exact hne hid

theorem add_each_agent_grouped {reads : Reads} {group_id : String} {added : List AgentGroupMember} {n : ℕ}
    {agent_ids : List String} (h : add_each_agent reads group_id db added n agent_ids = .ok db')
    (hgrouped : db.Grouped) : db.WritesGroups db' ∧ db'.Grouped := by
  induction agent_ids generalizing db added n with
  | nil =>
    obtain rfl := Except.ok.inj h
    exact ⟨.refl _, hgrouped⟩
  | cons agent_id agent_ids ih =>
    unfold add_each_agent at h
    split at h
    · exact ih h hgrouped
    · split at h
      · exact ih h hgrouped
      · rw [bind_eq_ok_iff] at h
        obtain ⟨db₁, hadd, h⟩ := h
        obtain ⟨hwrites, hgrouped₁⟩ := add_member_grouped hadd hgrouped
        obtain ⟨hwrites', hgrouped'⟩ := ih h hgrouped₁
        exact ⟨hwrites.trans hwrites', hgrouped'⟩

theorem create_policy_grouped {py_str : PyFloat → String} {policy_id : String} {req : ResponsePolicyCreate}
    (h : db.create_policy py_str policy_id req = .ok db') (hgrouped : db.Grouped) :
    db.WritesGroups db' ∧ db'.Grouped := by
  unfold create_policy at h
  rw [bind_eq_ok_iff] at h
  obtain ⟨_, -, h⟩ := h
  rw [bind_eq_ok_iff] at h
  obtain ⟨_, -, h⟩ := h
  rw [bind_eq_ok_iff] at h
  obtain ⟨_, -, h⟩ := h
  split at h
  · cases h
  · rename_i htarget
    split at h
    · rename_i response_policies hinsert
      obtain rfl := Except.ok.inj h
      refine ⟨⟨_, _, _, rfl⟩, hgrouped.members, hgrouped.distinct, hgrouped.names, fun policy hpolicy id hid => ?_⟩
      obtain hold | rfl := (Table.mem_of_insert hinsert).mp hpolicy
      · exact hgrouped.policies policy hold id hid
      · change req.target_group_id = some id at hid
        simpa [hid, Option.isSome_iff_ne_none] using htarget
    · cases h

/-- A policy is given no group but one that is there. -/
theorem target_of_flush {loaded row : ResponsePolicy} {dto : ResponsePolicyUpdate} {id : String}
    (hcheck : db.check_target_group dto.target_group_id = .ok ())
    (hid : (loaded.flush dto row).target_group_id = some id) :
    row.target_group_id = some id ∨ (db.agent_groups.get id).isSome := by
  simp only [ResponsePolicy.flush, assign] at hid
  split at hid
  · exact .inl hid
  · right
    rename_i hchanged
    cases htarget : dto.target_group_id with
    | none => simp [ResponsePolicy.updated, htarget] at hchanged
    | some group_id =>
      simp only [ResponsePolicy.updated, htarget] at hid
      split at hid
      · cases hid
      · rename_i hne
        obtain rfl := Option.some.inj hid
        rw [htarget, check_target_group] at hcheck
        split at hcheck
        · cases hcheck
        · rename_i hfound
          simpa [present, hne, Option.isSome_iff_ne_none] using hfound

theorem update_policy_grouped {py_str : PyFloat → String} {loaded : ResponsePolicy} {dto : ResponsePolicyUpdate}
    (h : db.update_policy py_str loaded dto = .ok db') (hgrouped : db.Grouped) :
    db.WritesGroups db' ∧ db'.Grouped := by
  unfold update_policy at h
  rw [bind_eq_ok_iff] at h
  obtain ⟨_, -, h⟩ := h
  rw [bind_eq_ok_iff] at h
  obtain ⟨_, hcheck, h⟩ := h
  obtain rfl := Except.ok.inj h
  refine ⟨⟨_, _, _, rfl⟩, hgrouped.members, hgrouped.distinct, hgrouped.names, fun policy hpolicy id hid => ?_⟩
  obtain ⟨old, hold, rfl⟩ := (Table.mem_modify (loaded.key_flush dto)).mp hpolicy
  split at hid
  · obtain hkept | hfound := target_of_flush hcheck hid
    · exact hgrouped.policies old hold id hkept
    · exact hfound
  · exact hgrouped.policies old hold id hid

theorem delete_group_ok {reads : Reads} {group_id : String} (h : db.delete_group reads group_id = .ok db') :
    db' = db.without_group group_id := by
  unfold delete_group at h
  rw [bind_eq_ok_iff] at h
  obtain ⟨group, hgroup, h⟩ := h
  obtain rfl : group.id = group_id := by
    unfold require_group at hgroup
    split at hgroup
    · rename_i found hget
      obtain rfl := Except.ok.inj hgroup
      exact Table.key_of_get hget
    · cases hgroup
  exact (Except.ok.inj h).symm

/-- Every request keeps them fitting together, whatever its session has read. -/
theorem perform_group_grouped {py_str : PyFloat → String} {op : GroupOp} (h : db.perform_group py_str op = .ok db')
    (hgrouped : db.Grouped) : db.WritesGroups db' ∧ db'.Grouped := by
  cases op with
  | create_group reads uuid name group_id =>
    unfold perform_group create_group at h
    rw [bind_eq_ok_iff] at h
    obtain ⟨_, -, h⟩ := h
    rw [bind_eq_ok_iff] at h
    obtain ⟨id, -, h⟩ := h
    exact add_group_grouped h hgrouped
  | update_group reads group_id name =>
    unfold perform_group update_group at h
    rw [bind_eq_ok_iff] at h
    obtain ⟨group, -, h⟩ := h
    cases name with
    | none =>
      obtain rfl := Except.ok.inj h
      exact ⟨.refl _, hgrouped⟩
    | some name =>
      simp only at h
      split at h
      · obtain rfl := Except.ok.inj h
        exact ⟨.refl _, hgrouped⟩
      · rw [bind_eq_ok_iff] at h
        obtain ⟨_, -, h⟩ := h
        exact rename_group_grouped h hgrouped
  | delete_group reads group_id =>
    obtain rfl := delete_group_ok h
    exact without_group_grouped group_id hgrouped
  | add_agents_to_group reads group_id agent_ids =>
    unfold perform_group add_agents_to_group at h
    rw [bind_eq_ok_iff] at h
    obtain ⟨_, -, h⟩ := h
    exact add_each_agent_grouped h hgrouped
  | remove_agent_from_group reads group_id agent_id =>
    unfold perform_group remove_agent_from_group at h
    rw [bind_eq_ok_iff] at h
    obtain ⟨_, -, h⟩ := h
    obtain rfl := Except.ok.inj h
    exact ⟨⟨_, _, _, rfl⟩, fun member hmember => hgrouped.members member (List.mem_of_mem_filter hmember),
      hgrouped.distinct.filter _, hgrouped.names, hgrouped.policies⟩
  | create_policy policy_id req => exact create_policy_grouped h hgrouped
  | update_policy loaded dto => exact update_policy_grouped h hgrouped
  | delete_policy reads policy_id =>
    simp only [perform_group, delete_policy] at h
    split at h
    · obtain rfl := Except.ok.inj h
      exact ⟨⟨_, _, _, rfl⟩, hgrouped.members, hgrouped.distinct, hgrouped.names,
        fun policy hpolicy => hgrouped.policies policy (List.mem_of_mem_filter hpolicy)⟩
    · cases h

/-! ## What the endpoints show -/

/-- The views of the groups agree with each other. -/
structure GroupViews (db : Database) : Prop where
  /-- The count in the list is the number of agents that an action on the group is sent to. -/
  counted : ∀ entry ∈ db.list_all_with_count, entry.2 = (db.get_agents_in_group entry.1.id).length
  /-- No two groups are listed under one name. -/
  listed : (db.list_all_with_count.map fun entry => entry.1.name).Pairwise (· < ·)
  /-- The detail shows these agents, without a gap. -/
  detailed : ∀ group_id, ((db.group_detail group_id).map Prod.snd).Perm
    ((db.get_agents_in_group group_id).map some)

/-- A group and its memberships name the same agents. -/
theorem Grouped.members_perm (h : db.Grouped) (group_id : String) :
    ((db.agent_group_members.filter fun member => member.group_id = group_id).map AgentGroupMember.agent_id).Perm
      ((db.get_agents_in_group group_id).map Agent.id) := by
  have hmembers : ((db.agent_group_members.filter fun member => member.group_id = group_id).map
      AgentGroupMember.agent_id).Nodup := by
    refine List.Nodup.map_on (fun first hfirst second hsecond hsame => ?_) (h.distinct.filter _)
    have hone : first.group_id = group_id := of_decide_eq_true (List.mem_filter.mp hfirst).2
    have htwo : second.group_id = group_id := of_decide_eq_true (List.mem_filter.mp hsecond).2
    cases first
    cases second
    simp only at hone htwo hsame
    rw [hone, htwo, hsame]
  have hagents : ((db.get_agents_in_group group_id).map Agent.id).Nodup := db.agents_in_group_nodup ⟨group_id, ""⟩
  rw [List.perm_ext_iff_of_nodup hmembers hagents]
  intro agent_id
  rw [List.mem_map, List.mem_map]
  constructor
  · rintro ⟨member, hmember, rfl⟩
    obtain ⟨hmember, hgroup⟩ := List.mem_filter.mp hmember
    obtain ⟨agent, hagent⟩ := Option.isSome_iff_exists.mp (h.members member hmember).2
    have hid : agent.id = member.agent_id := Table.key_of_get hagent
    refine ⟨agent, mem_get_agents_in_group.mpr ⟨Table.get_mem hagent, ?_⟩, hid⟩
    rw [hid, ← of_decide_eq_true hgroup]
    exact hmember
  · rintro ⟨agent, hagent, rfl⟩
    exact ⟨⟨group_id, agent.id⟩, List.mem_filter.mpr ⟨(mem_get_agents_in_group.mp hagent).2, by simp⟩, rfl⟩

theorem Grouped.views (h : db.Grouped) : db.GroupViews := by
  refine ⟨fun entry hentry => ?_, ?_, fun group_id => ?_⟩
  · obtain ⟨group, -, rfl⟩ := List.mem_map.mp hentry
    have hlength := (h.members_perm group.id).length_eq
    rw [List.length_map, List.length_map] at hlength
    rw [← hlength, List.countP_eq_length_filter]
  · have hsorted : (db.list_all_with_count.map fun entry => entry.1.name).Pairwise (· ≤ ·) := by
      rw [list_all_with_count, List.map_map, List.pairwise_map]
      exact Table.pairwise_select_asc
    have hnames : (db.list_all_with_count.map fun entry => entry.1.name).Nodup := by
      rw [list_all_with_count, List.map_map]
      refine ((List.perm_insertionSort _ _).map AgentGroup.name).nodup_iff.mpr ?_
      exact h.names.sublist (List.filter_sublist.map AgentGroup.name)
    exact (hsorted.and hnames).imp fun hle => lt_of_le_of_ne hle.1 hle.2
  · have hperm := (h.members_perm group_id).map fun agent_id => db.agents.get agent_id
    rw [List.map_map, List.map_map] at hperm
    rw [group_detail, List.map_map]
    refine hperm.trans (.of_eq (List.map_congr_left fun agent hagent => ?_))
    exact Table.get_of_mem (mem_get_agents_in_group.mp hagent).1

/-! ## The reach of the policies -/

theorem mem_find_matching_policies {score : ℚ} {group_ids : List String} {policy : ResponsePolicy} :
    policy ∈ db.find_matching_policies score group_ids ↔
      policy ∈ db.response_policies.rows ∧ policy.is_active ∧ policy.min_score ≤ score ∧ score ≤ policy.max_score ∧
        ∀ group_id ∈ policy.target_group_id, group_id ∈ group_ids := by
  simp [find_matching_policies]

/-- An agent stays in its other groups. -/
theorem mem_groups_without_group {group_id agent_id id : String} :
    id ∈ ((db.without_group group_id).get_groups_for_agent agent_id).map AgentGroup.id ↔
      id ∈ (db.get_groups_for_agent agent_id).map AgentGroup.id ∧ id ≠ group_id := by
  have hgroup (group : AgentGroup) : group ∈ (db.without_group group_id).get_groups_for_agent agent_id ↔
      group ∈ db.get_groups_for_agent agent_id ∧ group.id ≠ group_id := by
    rw [mem_get_groups_for_agent, mem_get_groups_for_agent]
    change group ∈ db.agent_groups.rows.filter _ ∧ _ ∈ db.agent_group_members.filter _ ↔ _
    rw [List.mem_filter, List.mem_filter, decide_eq_true_eq, decide_eq_true_eq]
    constructor
    · rintro ⟨⟨hrow, hne⟩, hmember, -⟩
      exact ⟨⟨hrow, hmember⟩, hne⟩
    · rintro ⟨⟨hrow, hmember⟩, hne⟩
      exact ⟨⟨hrow, hne⟩, hmember, hne⟩
  rw [List.mem_map, List.mem_map]
  constructor
  · rintro ⟨group, hmem, rfl⟩
    obtain ⟨hold, hne⟩ := (hgroup group).mp hmem
    exact ⟨⟨group, hold, rfl⟩, hne⟩
  · rintro ⟨⟨group, hold, rfl⟩, hne⟩
    exact ⟨group, (hgroup group).mpr ⟨hold, hne⟩, rfl⟩

/-- A policy that was restricted to the group matches on its range alone, the others match as before. -/
theorem mem_find_matching_without_group {group_id agent_id : String} {score : ℚ} {old : ResponsePolicy}
    (hold : old ∈ db.response_policies.rows) :
    detach group_id old ∈ (db.without_group group_id).find_matching_policies score
        (((db.without_group group_id).get_groups_for_agent agent_id).map AgentGroup.id) ↔
      old ∈ db.find_matching_policies score ((db.get_groups_for_agent agent_id).map AgentGroup.id) ∨
        old.target_group_id = some group_id ∧ old.is_active ∧ old.min_score ≤ score ∧ score ≤ old.max_score := by
  have hdetach : detach group_id old ∈ (db.without_group group_id).response_policies.rows :=
    List.mem_map.mpr ⟨old, hold, rfl⟩
  rw [mem_find_matching_policies, mem_find_matching_policies, and_iff_right hdetach, and_iff_right hold]
  by_cases hdetached : old.target_group_id = some group_id
  · simp only [detach, hdetached, if_true, Option.mem_def, reduceCtorEq, false_implies, implies_true, and_true,
      true_and]
    exact ⟨.inr, fun h => h.elim (fun hmatch => ⟨hmatch.1, hmatch.2.1, hmatch.2.2.1⟩) id⟩
  · simp only [detach, hdetached, if_false, false_and, or_false]
    refine and_congr_right fun _ => and_congr_right fun _ => and_congr_right fun _ => ?_
    refine forall₂_congr fun id hid => mem_groups_without_group.trans (and_iff_left ?_)
    rintro rfl
    exact hdetached hid

/-- Once a group has been deleted, an agent is in reach of the policies that it was in reach of before, and of all
those that were restricted to the group, which from then on affect all groups of any agent. -/
theorem reach_without_group {reads : Reads} {group_id : String} (h : db.delete_group reads group_id = .ok db')
    (agent_id : String) (score : ℚ) (policy : ResponsePolicy) :
    (policy ∈ db'.find_matching_policies score ((db'.get_groups_for_agent agent_id).map AgentGroup.id) ↔
      ∃ old ∈ db.response_policies.rows, policy = detach group_id old ∧
        (old ∈ db.find_matching_policies score ((db.get_groups_for_agent agent_id).map AgentGroup.id) ∨
          old.target_group_id = some group_id ∧ old.is_active ∧ old.min_score ≤ score ∧ score ≤ old.max_score)) ∧
      ∀ old ∈ db.response_policies.rows, old.target_group_id = some group_id → old.scope = "group" →
        ∀ agent_groups, (detach group_id old).affected_groups db' agent_groups = agent_groups := by
  obtain rfl := delete_group_ok h
  refine ⟨?_, fun old hold htarget hscope agent_groups => ?_⟩
  · constructor
    · intro hmatch
      obtain ⟨old, hold, rfl⟩ := List.mem_map.mp (mem_find_matching_policies.mp hmatch).1
      exact ⟨old, hold, rfl, (mem_find_matching_without_group hold).mp hmatch⟩
    · rintro ⟨old, hold, rfl, hreach⟩
      exact (mem_find_matching_without_group hold).mpr hreach
  · simp [detach, htarget, ResponsePolicy.affected_groups, hscope, ResponsePolicy.relevant_groups]

/-- A policy that is restricted to the only group. -/
def restricted_policy : Database :=
  { one_group with
    response_policies := ⟨[{ pol_isolate_group with target_group_id := some "grp_1" }], List.nodup_singleton _⟩ }

theorem reach_without_group_restricted_policy :
    let db' := restricted_policy.without_group "grp_1"
    (pol_isolate_group ∈ db'.find_matching_policies 90 ((db'.get_groups_for_agent "web-2").map AgentGroup.id) ↔
      ∃ old ∈ restricted_policy.response_policies.rows, pol_isolate_group = detach "grp_1" old ∧
        (old ∈ restricted_policy.find_matching_policies 90
            ((restricted_policy.get_groups_for_agent "web-2").map AgentGroup.id) ∨
          old.target_group_id = some "grp_1" ∧ old.is_active ∧ old.min_score ≤ 90 ∧ 90 ≤ old.max_score)) ∧
      ∀ old ∈ restricted_policy.response_policies.rows, old.target_group_id = some "grp_1" → old.scope = "group" →
        ∀ agent_groups, (detach "grp_1" old).affected_groups db' agent_groups = agent_groups :=
  reach_without_group (show restricted_policy.delete_group (fun _ => restricted_policy) "grp_1" = .ok _ from rfl)
    "web-2" 90 pol_isolate_group

end Database

end larp
