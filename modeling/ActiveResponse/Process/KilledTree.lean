import ActiveResponse.Process.Tree

namespace larp

namespace ProcessTree

/-! ## The tree on the dashboard after a kill -/

mutual

/-- `filterTreeNodes`. -/
def filter_tree_nodes (target_pid : ℤ) : List (RoseTree ProcessNode) → List (RoseTree ProcessNode)
  | [] => []
  | node :: nodes =>
    if node.label.pid ≠ target_pid then filter_children target_pid node :: filter_tree_nodes target_pid nodes
    else filter_tree_nodes target_pid nodes

def filter_children (target_pid : ℤ) : RoseTree ProcessNode → RoseTree ProcessNode
  | .node process children => .node process (filter_tree_nodes target_pid children)

end

/-- What `handleKillProcessTree` shows until the tree is fetched again; the counts stay. -/
def without (self : ProcessTree) (pid : ℤ) : ProcessTree := { self with tree := filter_tree_nodes pid self.tree }

section Kill

variable {processes : List StoredProcess} {pid : ℤ}

/-- The processes that `kill_process_tree` ends: the process, and the children of what it ends. -/
inductive Below (processes : List StoredProcess) (pid : ℤ) : StoredProcess → Prop
  | self {p : StoredProcess} (h : p.pid = pid) : Below processes pid p
  | child {p q : StoredProcess} (hq : Below processes pid q) (hp : p ∈ children_map processes q.pid) :
      Below processes pid p

/-- The processes with a natural root above them: those of no cycle, and below none. -/
inductive Rooted (processes : List StoredProcess) : StoredProcess → Prop
  | root {p : StoredProcess} (hp : p ∈ processes) (h : is_natural_root processes p) : Rooted processes p
  | child {p q : StoredProcess} (hq : Rooted processes q) (hp : p ∈ children_map processes q.pid) :
      Rooted processes p

/-- A snapshot with one row for each pid, without cycles, and with nothing above process 0, if there is one. -/
structure Grown (processes : List StoredProcess) : Prop where
  nodup : (processes.map StoredProcess.pid).Nodup
  rooted : ∀ p ∈ processes, Rooted processes p
  zero : ∀ p ∈ processes, p.pid = 0 → is_natural_root processes p

/-- The processes that are left by the end of a tree. -/
structure Survivors (processes : List StoredProcess) (pid : ℤ) (alive : StoredProcess → Bool) : Prop where
  ended : ∀ p ∈ processes, alive p = false ↔ Below processes pid p

theorem natural_root_iff {p : StoredProcess} :
    is_natural_root processes p ↔
      ∀ ppid, p.parent_pid = some ppid → ppid = 0 ∨ ppid = p.pid ∨ in_pid_map processes ppid = false := by
  unfold is_natural_root
  cases p.parent_pid with
  | none => simp
  | some ppid => simp [or_assoc]

/-- A natural root that is ended is the process itself. -/
theorem Grown.pid_of_natural_root (h : Grown processes) (hpid : pid ≠ 0) {p : StoredProcess}
    (hroot : is_natural_root processes p) (hbelow : Below processes pid p) : p.pid = pid := by
  cases hbelow with
  | self h => exact h
  | child hq hp =>
    rename_i q
    obtain ⟨-, hparent, hself, hmap⟩ := mem_children_map.mp hp
    obtain hzero | hown | hmissing := natural_root_iff.mp hroot q.pid hparent
    · -- Process 0 is a natural root itself, so that it is not ended.
      exfalso
      cases hq with
      | self hq => exact hpid (hq.symm.trans hzero)
      | child hr hq =>
        rename_i r
        obtain ⟨hmem, hparent', hself', hmap'⟩ := mem_children_map.mp hq
        obtain hzero' | hown' | hmissing' := natural_root_iff.mp (h.zero q hmem hzero) r.pid hparent'
        · exact hself' (hzero'.trans hzero.symm)
        · exact hself' hown'
        · rw [hmap'] at hmissing'
          cases hmissing'
    · exact absurd hown hself
    · rw [hmap] at hmissing
      cases hmissing

theorem Grown.below_of_pid (h : Grown processes) {p q : StoredProcess} (hp : Below processes pid p)
    (hq : q ∈ processes) (hpq : p.pid = q.pid) : Below processes pid q := by
  cases hp with
  | self hp => exact .self (hpq.symm.trans hp)
  | child hr hp =>
    obtain rfl := eq_of_pid h.nodup (mem_children_map.mp hp).1 hq hpq
    exact .child hr hp

variable {alive : StoredProcess → Bool}

theorem Survivors.alive_iff (h : Survivors processes pid alive) {p : StoredProcess} (hp : p ∈ processes) :
    alive p ↔ ¬ Below processes pid p := by
  rw [← h.ended p hp, Bool.not_eq_false]

/-- Of the children of a process that is left, only the target of the kill goes. -/
theorem Survivors.alive_child (h : Survivors processes pid alive) (hgrown : Grown processes) {p q : StoredProcess}
    (hq : q ∈ processes) (halive : alive q) (hp : p ∈ children_map processes q.pid) : alive p ↔ p.pid ≠ pid := by
  obtain ⟨hmem, hparent, -, -⟩ := mem_children_map.mp hp
  rw [h.alive_iff hmem, not_iff_not]
  refine ⟨fun hbelow => ?_, Below.self⟩
  cases hbelow with
  | self hp => exact hp
  | child hr hp' =>
    rename_i r
    have hsame : r.pid = q.pid := Option.some.inj ((mem_children_map.mp hp').2.1.symm.trans hparent)
    exact absurd (hgrown.below_of_pid hr hq hsame) ((h.alive_iff hq).mp halive)

theorem in_pid_map_iff {ppid : ℤ} : in_pid_map processes ppid ↔ ∃ p ∈ processes, p.pid = ppid := by
  rw [in_pid_map, decide_eq_true_eq, List.mem_map]

/-- A parent that is left is found, and one that is ended takes its child with it. -/
theorem Survivors.in_pid_map (h : Survivors processes pid alive) {p : StoredProcess} (hp : p ∈ processes)
    (halive : alive p) {ppid : ℤ} (hparent : p.parent_pid = some ppid) (hself : ppid ≠ p.pid) :
    ProcessTree.in_pid_map (processes.filter alive) ppid ↔ ProcessTree.in_pid_map processes ppid := by
  rw [in_pid_map_iff, in_pid_map_iff]
  constructor
  · rintro ⟨q, hq, hpid⟩
    exact ⟨q, (List.mem_filter.mp hq).1, hpid⟩
  · rintro ⟨q, hq, hpid⟩
    refine ⟨q, List.mem_filter.mpr ⟨hq, ?_⟩, hpid⟩
    rw [h.alive_iff hq]
    intro hbelow
    have hchild : p ∈ ProcessTree.children_map processes q.pid := by
      rw [mem_children_map, hpid]
      exact ⟨hp, hparent, hself, in_pid_map_iff.mpr ⟨q, hq, hpid⟩⟩
    exact (h.alive_iff hp).mp halive (.child hbelow hchild)

/-- The natural roots that are left are those of the processes that are left. -/
theorem Survivors.natural_root (h : Survivors processes pid alive) {p : StoredProcess} (hp : p ∈ processes)
    (halive : alive p) : is_natural_root (processes.filter alive) p = is_natural_root processes p := by
  rw [Bool.eq_iff_iff, natural_root_iff, natural_root_iff]
  refine forall_congr' fun ppid => forall_congr' fun hparent => or_congr_right (or_congr_right' fun hself => ?_)
  rw [← Bool.not_eq_true, ← Bool.not_eq_true, h.in_pid_map hp halive hparent hself]

theorem Survivors.children_map (h : Survivors processes pid alive) {q : StoredProcess} :
    ProcessTree.children_map (processes.filter alive) q.pid =
      (ProcessTree.children_map processes q.pid).filter alive := by
  unfold ProcessTree.children_map
  rw [List.filter_filter, List.filter_filter]
  refine List.filter_congr fun p hp => ?_
  rw [Bool.and_comm]
  by_cases halive : alive p
  · cases hparent : p.parent_pid with
    | none => rfl
    | some ppid =>
      by_cases hself : ppid = p.pid
      · simp [hself]
      · have hmap := Bool.eq_iff_iff.mpr (h.in_pid_map hp halive hparent hself)
        simp only [hmap]
  · simp [halive]

/-! ## What is left of the tree -/

/-- A list of processes grows into the nodes that are left, if each process that is left does. -/
theorem filter_mapM {target_pid : ℤ} {grow grow' : StoredProcess → Option (RoseTree ProcessNode)}
    {starts : List StoredProcess} {nodes : List (RoseTree ProcessNode)} (h : starts.mapM grow = some nodes)
    (hstarts : ∀ p ∈ starts, alive p ↔ p.pid ≠ target_pid)
    (hgrow : ∀ p ∈ starts, ∀ node, grow p = some node → ∃ children, node = .node (proc_to_dict p) children ∧
      (alive p → grow' p = some (.node (proc_to_dict p) (filter_tree_nodes target_pid children)))) :
    (starts.filter alive).mapM grow' = some (filter_tree_nodes target_pid nodes) := by
  rw [RoseTree.mapM_eq_some_iff] at h ⊢
  induction h with
  | nil => exact .nil
  | cons hfirst hrest ih =>
    rename_i p node starts nodes
    obtain ⟨children, rfl, hp⟩ := hgrow p List.mem_cons_self node hfirst
    have hlater := ih (fun q hq => hstarts q (List.mem_cons_of_mem p hq)) fun q hq =>
      hgrow q (List.mem_cons_of_mem p hq)
    have hpid : alive p ↔ (proc_to_dict p).pid ≠ target_pid := hstarts p List.mem_cons_self
    rw [filter_tree_nodes, RoseTree.label, filter_children]
    by_cases halive : alive p
    · rw [List.filter_cons_of_pos halive, if_pos (hpid.mp halive)]
      exact .cons (hp halive) hlater
    · rw [List.filter_cons_of_neg halive, if_neg (mt hpid.mpr halive)]
      exact hlater

/-- A process that is left grows in the processes that are left into its node without what is ended. -/
theorem Survivors.build_node (h : Survivors processes pid alive) (hgrown : Grown processes) {stack depth : ℕ}
    {path : List ℤ} {q : StoredProcess} {node : RoseTree ProcessNode} (hq : q ∈ processes)
    (hnode : ProcessTree.build_node processes stack depth path q = some node) :
    ∃ children, node = .node (proc_to_dict q) children ∧ (alive q →
      ProcessTree.build_node (processes.filter alive) stack depth path q =
        some (.node (proc_to_dict q) (filter_tree_nodes pid children))) := by
  induction stack generalizing depth path q node with
  | zero => cases hnode
  | succ stack ih =>
    rw [ProcessTree.build_node] at hnode
    split at hnode
    · rename_i hleaf
      obtain rfl := Option.some.inj hnode
      refine ⟨[], rfl, fun _ => ?_⟩
      rw [ProcessTree.build_node, if_pos hleaf]
      rfl
    · rename_i hinner
      obtain ⟨children, hchildren, hnode⟩ := Option.bind_eq_some_iff.mp hnode
      obtain rfl := Option.some.inj hnode
      refine ⟨children, rfl, fun halive => ?_⟩
      have hleft : (((ProcessTree.children_map processes q.pid).filter fun c => c.pid ∉ q.pid :: path).filter
          alive).mapM (ProcessTree.build_node (processes.filter alive) stack (depth + 1) (q.pid :: path)) =
            some (filter_tree_nodes pid children) :=
        filter_mapM hchildren
          (fun p hp => h.alive_child hgrown hq halive (List.mem_filter.mp hp).1)
          fun p hp node hgrow => ih (mem_children_map.mp (List.mem_filter.mp hp).1).1 hgrow
      rw [ProcessTree.build_node, if_neg hinner, h.children_map, List.filter_filter]
      simp only [List.filter_filter, Bool.and_comm] at hleft ⊢
      rw [hleft]
      rfl

theorem Rooted.mem {p : StoredProcess} (h : Rooted processes p) : p ∈ processes := by
  cases h with
  | root hp _ => exact hp
  | child _ hp => exact (mem_children_map.mp hp).1

/-- A process that is left has a natural root above it that is left. -/
theorem Survivors.exists_natural_root (h : Survivors processes pid alive) {p : StoredProcess}
    (hrooted : Rooted processes p) (halive : alive p) : ∃ r ∈ processes, alive r ∧ is_natural_root processes r := by
  induction hrooted with
  | root hmem hroot => exact ⟨_, hmem, halive, hroot⟩
  | child hq hchild ih =>
    have hmem := (mem_children_map.mp hchild).1
    exact ih ((h.alive_iff hq.mem).mpr fun hbelow => (h.alive_iff hmem).mp halive (.child hbelow hchild))

/-- Without cycles only natural roots are roots. -/
theorem Grown.roots_eq (h : Grown processes) :
    ProcessTree.roots processes = processes.filter (is_natural_root processes) := by
  unfold ProcessTree.roots
  split
  · rename_i hnone
    have hempty : processes = [] := by
      rw [List.eq_nil_iff_forall_not_mem]
      intro p hp
      have hroot : ∃ r ∈ processes, is_natural_root processes r := by
        induction h.rooted p hp with
        | root hmem hroot => exact ⟨_, hmem, hroot⟩
        | child hq hchild ih => exact ih hq.mem
      obtain ⟨r, hr, hnatural⟩ := hroot
      exact List.filter_eq_nil_iff.mp hnone r hr hnatural
    subst hempty
    rfl
  · rfl

theorem Survivors.roots (h : Survivors processes pid alive) (hgrown : Grown processes) :
    ProcessTree.roots (processes.filter alive) = (ProcessTree.roots processes).filter alive := by
  have hnatural : (processes.filter alive).filter (is_natural_root (processes.filter alive)) =
      (processes.filter (is_natural_root processes)).filter alive := by
    rw [List.filter_filter, List.filter_filter]
    refine List.filter_congr fun p hp => ?_
    by_cases halive : alive p
    · rw [h.natural_root hp halive, Bool.and_comm]
    · simp [halive]
  rw [hgrown.roots_eq, ProcessTree.roots, hnatural]
  split
  · rename_i hnone
    -- Where no natural root is left, nothing is left.
    have hempty : processes.filter alive = [] := by
      rw [List.filter_eq_nil_iff]
      intro p hp halive
      obtain ⟨r, hr, hleft, hroot⟩ := h.exists_natural_root (hgrown.rooted p hp) halive
      have hmem := List.mem_filter.mpr ⟨List.mem_filter.mpr ⟨hr, hroot⟩, hleft⟩
      rw [hnone] at hmem
      cases hmem
    rw [hempty, hnone]
    rfl
  · rfl

/-- After the end of a process and all that is below it, the dashboard shows at once the tree that the manager builds
from the processes that are left. -/
theorem without_eq_build_tree (hgrown : Grown processes) (hpid : pid ≠ 0) (halive : Survivors processes pid alive)
    {stack : ℕ} {agent_id : String} {result : ProcessTree}
    (h : build_tree_of processes stack agent_id = some result) :
    ∃ fetched, build_tree_of (processes.filter alive) stack agent_id = some fetched ∧
      fetched.tree = (result.without pid).tree := by
  rw [build_tree_of_eq] at h
  obtain ⟨tree, htree, rfl⟩ := Option.map_eq_some_iff.mp h
  have hroots : ∀ p ∈ ProcessTree.roots processes, alive p ↔ p.pid ≠ pid := by
    intro p hp
    rw [hgrown.roots_eq] at hp
    obtain ⟨hmem, hnatural⟩ := List.mem_filter.mp hp
    rw [halive.alive_iff hmem, not_iff_not]
    exact ⟨hgrown.pid_of_natural_root hpid hnatural, Below.self⟩
  have hleft := filter_mapM htree hroots fun p hp node hnode =>
    halive.build_node hgrown (roots_subset hp) hnode
  refine ⟨{
    agent_id
    total_processes := (processes.filter alive).length
    root_count := (filter_tree_nodes pid tree).length
    tree := filter_tree_nodes pid tree }, ?_, rfl⟩
  rw [build_tree_of_eq, halive.roots hgrown, hleft]
  rfl

private def spawned (pid : ℤ) (parent_pid : Option ℤ) : StoredProcess :=
  { id := "proc_" ++ toString pid, agent_id := "web-1", pid, parent_pid, name := "sh", created_at := 0 }

/-- A shell under the first process, and what it has started. -/
private def shells : List StoredProcess := [spawned 1 none, spawned 7 (some 1), spawned 9 (some 7)]

private theorem grown_shells : Grown shells := by
  have hroot : Rooted shells (spawned 1 none) := .root (by simp [shells]) rfl
  have hshell : Rooted shells (spawned 7 (some 1)) :=
    .child hroot (mem_children_map.mpr ⟨by simp [shells], rfl, by decide, by decide⟩)
  have hchild : Rooted shells (spawned 9 (some 7)) :=
    .child hshell (mem_children_map.mpr ⟨by simp [shells], rfl, by decide, by decide⟩)
  refine ⟨by decide, ?_, ?_⟩
  · simp only [shells, List.forall_mem_cons]
    exact ⟨hroot, hshell, hchild, List.forall_mem_nil _⟩
  · simp [shells, spawned]

private theorem survivors_shells : Survivors shells 7 fun p => p.pid = 1 := by
  have hfirst : ¬ Below shells 7 (spawned 1 none) := by
    intro hbelow
    cases hbelow with
    | self h => exact absurd h (by decide)
    | child _ hp => cases (mem_children_map.mp hp).2.1
  have hshell : Below shells 7 (spawned 7 (some 1)) := .self rfl
  have hchild : Below shells 7 (spawned 9 (some 7)) :=
    .child hshell (mem_children_map.mpr ⟨by simp [shells], rfl, by decide, by decide⟩)
  constructor
  simp only [shells, List.forall_mem_cons]
  exact ⟨iff_of_false (by decide) hfirst, iff_of_true rfl hshell, iff_of_true rfl hchild, List.forall_mem_nil _⟩

theorem without_eq_build_tree_shell : ∃ result fetched, build_tree_of shells 52 "web-1" = some result ∧
    build_tree_of (shells.filter fun p => p.pid = 1) 52 "web-1" = some fetched ∧
      fetched.tree = (result.without 7).tree := by
  obtain ⟨result, hresult⟩ := exists_build_tree_of shells "web-1"
  obtain ⟨fetched, hfetched⟩ :=
    without_eq_build_tree grown_shells (by decide) survivors_shells (hresult 52 le_rfl)
  exact ⟨result, fetched, hresult 52 le_rfl, hfetched⟩

end Kill

end ProcessTree

end larp
