import ActiveResponse.Lib.ParentChain
import ActiveResponse.Lib.RoseTree
import ActiveResponse.Models.StoredProcess
import Mathlib.Data.List.MinMax

namespace larp

/-- What `_proc_to_dict` says of a process, apart from its children. -/
structure ProcessNode where
  pid : ℤ
  parent_pid : Option ℤ
  name : String
  exe : String
  cmdline : String
  cpu_percent : PyFloat
  memory_percent : PyFloat
  hash : Option String
  is_suspicious : Bool
  created_at : String

/-- The dictionary that `build_tree` returns. -/
structure ProcessTree where
  agent_id : String
  total_processes : ℕ
  root_count : ℕ
  tree : List (RoseTree ProcessNode)

namespace ProcessTree

def proc_to_dict (proc : StoredProcess) : ProcessNode where
  pid := proc.pid
  parent_pid := proc.parent_pid
  name := proc.name
  exe := if proc.exe ≠ "" then proc.exe else proc.exe_path.getD ""
  cmdline := proc.cmdline
  cpu_percent := proc.cpu_percent
  memory_percent := proc.memory_percent
  hash := proc.hash
  is_suspicious := proc.is_suspicious_process
  created_at := isoformat proc.created_at

section Build

variable (processes : List StoredProcess)

/-- `pid in pid_map`. -/
def in_pid_map (pid : ℤ) : Bool := pid ∈ processes.map StoredProcess.pid

/-- A natural root: its parent is missing, 0, itself or not in the snapshot. -/
def is_natural_root (p : StoredProcess) : Bool :=
  match p.parent_pid with
  | none => true
  | some ppid => ppid = 0 || ppid = p.pid || !in_pid_map processes ppid

/-- `min(processes, key=lambda p: p.pid)`, in the order of the integers that is computed. -/
def smallest_pid : Option StoredProcess :=
  @List.argmin StoredProcess ℤ Int.instLinearOrder.toPreorder Int.decLt StoredProcess.pid processes

/-- The natural roots or, when there is none, the process with the smallest pid. -/
def roots : List StoredProcess :=
  match processes.filter (is_natural_root processes) with
  | [] => (smallest_pid processes).toList
  | natural => natural

/-- `children_map.get(pid, [])`. -/
def children_map (pid : ℤ) : List StoredProcess :=
  processes.filter fun p => match p.parent_pid with
    | none => false
    | some ppid => ppid = pid && ppid ≠ p.pid && in_pid_map processes ppid

/-- `build_node` with the nested calls that the interpreter still allows: without one left it raises. -/
def build_node : ℕ → ℕ → List ℤ → StoredProcess → Option (RoseTree ProcessNode)
  | 0, _, _, _ => none
  | stack + 1, depth, path, proc =>
    if 50 < depth ∨ proc.pid ∈ path then some (.node (proc_to_dict proc) [])
    else do
      let children ← ((children_map processes proc.pid).filter fun c => c.pid ∉ proc.pid :: path).mapM
        (build_node stack (depth + 1) (proc.pid :: path))
      return .node (proc_to_dict proc) children

/-- `build_tree` on the rows that the query has returned. -/
def build_tree_of (stack : ℕ) (agent_id : String) : Option ProcessTree :=
  if processes.isEmpty then some { agent_id, total_processes := 0, root_count := 0, tree := [] }
  else do
    let tree ← (roots processes).mapM (build_node processes stack 0 [])
    return { agent_id, total_processes := processes.length, root_count := tree.length, tree }

end Build

/-- `ProcessTreeService.build_tree`. -/
def build_tree (stack : ℕ) (process_info : Table StoredProcess) (agent_id : String) : Option ProcessTree :=
  build_tree_of (get_by_agent process_info agent_id 500) stack agent_id

/-! ## The nodes of the tree -/

section Branches

variable {processes : List StoredProcess}

/-- A list of processes that goes up from child to parent, as the children map has them, with no pid twice. -/
structure Descent (processes l : List StoredProcess) : Prop where
  chain : l.IsChain fun p q => p ∈ children_map processes q.pid
  nodup : (l.map StoredProcess.pid).Nodup

theorem Descent.concat_iff {l : List StoredProcess} {p q : StoredProcess} :
    Descent processes (l ++ [p] ++ [q]) ↔
      Descent processes (l ++ [p]) ∧ p ∈ children_map processes q.pid ∧ ∀ x ∈ l ++ [p], x.pid ≠ q.pid := by
  have hchain : (l ++ [p] ++ [q]).IsChain (fun p q => p ∈ children_map processes q.pid) ↔
      (l ++ [p]).IsChain (fun p q => p ∈ children_map processes q.pid) ∧ p ∈ children_map processes q.pid := by
    rw [List.append_assoc, List.singleton_append, List.isChain_append_cons_cons]
    simp
  have hnodup : ((l ++ [p] ++ [q]).map StoredProcess.pid).Nodup ↔
      ((l ++ [p]).map StoredProcess.pid).Nodup ∧ ∀ x ∈ l ++ [p], x.pid ≠ q.pid := by
    rw [List.map_append, List.nodup_append, List.map_singleton, and_iff_right (List.nodup_singleton _),
      List.forall_mem_map]
    simp only [List.forall_mem_singleton]
  constructor
  · rintro ⟨hl, hpids⟩
    exact ⟨⟨(hchain.mp hl).1, (hnodup.mp hpids).1⟩, (hchain.mp hl).2, (hnodup.mp hpids).2⟩
  · rintro ⟨⟨hl, hpids⟩, hmap, hfresh⟩
    exact ⟨hchain.mpr ⟨hl, hmap⟩, hnodup.mpr ⟨hpids, hfresh⟩⟩

theorem mem_children_map {p : StoredProcess} {pid : ℤ} :
    p ∈ children_map processes pid ↔
      p ∈ processes ∧ p.parent_pid = some pid ∧ pid ≠ p.pid ∧ in_pid_map processes pid := by
  rw [children_map, List.mem_filter]
  refine and_congr_right fun _ => ?_
  cases p.parent_pid with
  | none => simp
  | some ppid =>
    simp only [Bool.and_eq_true, decide_eq_true_eq, Option.some_inj]
    constructor
    · rintro ⟨⟨rfl, hself⟩, hmap⟩
      exact ⟨rfl, hself, hmap⟩
    · rintro ⟨rfl, hself, hmap⟩
      exact ⟨⟨rfl, hself⟩, hmap⟩

/-- The node of a process is there on the way down, and below it what its children have. -/
theorem mem_branches {stack depth : ℕ} {path : List ℤ} {q : StoredProcess} {tree : RoseTree ProcessNode}
    (h : build_node processes stack depth path q = some tree) (hpath : q.pid ∉ path) (hdepth : depth ≤ 51)
    {above b : List ProcessNode} :
    b ∈ tree.branches above ↔ ∃ l, b = (l ++ [q]).map proc_to_dict ++ above ∧ Descent processes (l ++ [q]) ∧
      (∀ p ∈ l, p.pid ∉ path) ∧ l.length + depth ≤ 51 := by
  induction stack generalizing depth path q tree above b with
  | zero => cases h
  | succ stack ih =>
    have hself : Descent processes ([] ++ [q]) := ⟨List.isChain_singleton q, List.nodup_singleton _⟩
    rw [build_node] at h
    split at h
    · rename_i hleaf
      obtain rfl := Option.some.inj h
      have hdeep : depth = 51 := by
        rcases hleaf with hdeep | hmem
        · omega
        · exact absurd hmem hpath
      simp only [RoseTree.branches, RoseTree.forest_branches, List.mem_singleton]
      constructor
      · rintro rfl
        exact ⟨[], rfl, hself, List.forall_mem_nil _, by simpa using hdeep.le⟩
      · rintro ⟨l, rfl, -, -, hlength⟩
        obtain rfl := List.length_eq_zero_iff.mp (show l.length = 0 by omega)
        rfl
    · rename_i hinner
      obtain ⟨children, hchildren, h⟩ := Option.bind_eq_some_iff.mp h
      obtain rfl := Option.some.inj h
      have hlow : depth ≤ 50 := not_lt.mp fun hdeep => hinner (.inl hdeep)
      rw [RoseTree.branches, RoseTree.forest_branches_eq, List.mem_cons, List.mem_flatMap]
      constructor
      · rintro (rfl | ⟨child, hchild, hb⟩)
        · exact ⟨[], rfl, hself, List.forall_mem_nil _, by simpa using hdepth⟩
        · obtain ⟨c, hc, hgrown⟩ := (RoseTree.mem_of_mapM_eq_some hchildren).mp hchild
          obtain ⟨hmap, hfresh⟩ := List.mem_filter.mp hc
          have hfresh : c.pid ∉ q.pid :: path := of_decide_eq_true hfresh
          obtain ⟨l, rfl, hdescent, hpids, hlength⟩ := (ih hgrown hfresh (by omega)).mp hb
          have hpids : ∀ p ∈ l ++ [c], p.pid ∉ q.pid :: path := fun p hp => by
            rcases List.mem_append.mp hp with hp | hp
            · exact hpids p hp
            · rwa [List.mem_singleton.mp hp]
          refine ⟨l ++ [c], by simp, Descent.concat_iff.mpr ⟨hdescent, hmap, ?_⟩, ?_, ?_⟩
          · exact fun p hp heq => hpids p hp (heq ▸ List.mem_cons_self)
          · exact fun p hp hmem => hpids p hp (List.mem_cons_of_mem _ hmem)
          · rw [List.length_append, List.length_singleton]
            omega
      · rintro ⟨l, rfl, hdescent, hpids, hlength⟩
        rcases List.eq_nil_or_concat' l with rfl | ⟨l, c, rfl⟩
        · exact .inl rfl
        · right
          obtain ⟨hrest, hmap, hother⟩ := Descent.concat_iff.mp hdescent
          have hfresh : ∀ p ∈ l ++ [c], p.pid ∉ q.pid :: path := fun p hp hmem => by
            rcases List.mem_cons.mp hmem with heq | hmem
            · exact hother p hp heq
            · exact hpids p hp hmem
          have hc := hfresh c (List.mem_append_right _ List.mem_cons_self)
          rw [List.length_append, List.length_singleton] at hlength
          obtain ⟨child, hchild, hgrown⟩ := RoseTree.exists_of_mapM_eq_some hchildren
            (List.mem_filter.mpr ⟨hmap, decide_eq_true hc⟩)
          refine ⟨child, hchild, (ih hgrown hc (by omega)).mpr ?_⟩
          exact ⟨l, by simp, hrest, fun p hp => hfresh p (List.mem_append_left _ hp), by omega⟩

/-- Two trees that start from different processes have no branch in common. -/
theorem disjoint_branches {stack depth : ℕ} {path : List ℤ} {p q : StoredProcess} {tree tree' : RoseTree ProcessNode}
    (hp : build_node processes stack depth path p = some tree) (hppath : p.pid ∉ path)
    (hq : build_node processes stack depth path q = some tree') (hqpath : q.pid ∉ path) (hdepth : depth ≤ 51)
    (hpq : p.pid ≠ q.pid) (above : List ProcessNode) : (tree.branches above).Disjoint (tree'.branches above) := by
  intro b hb hb'
  obtain ⟨l, hl, -⟩ := (mem_branches hp hppath hdepth).mp hb
  obtain ⟨l', hl', -⟩ := (mem_branches hq hqpath hdepth).mp hb'
  have heq := List.append_cancel_right (hl.symm.trans hl')
  rw [List.map_append, List.map_append] at heq
  have hlast := (List.append_inj' heq rfl).2
  exact hpq (congrArg ProcessNode.pid (List.singleton_injective hlast))

/-- A list of processes with distinct pids grows into trees in which no branch is there twice. -/
theorem nodup_forest_branches {stack depth : ℕ} {path : List ℤ} {starts : List StoredProcess}
    {trees : List (RoseTree ProcessNode)} (h : starts.mapM (build_node processes stack depth path) = some trees)
    (hstarts : (starts.map StoredProcess.pid).Nodup) (hpath : ∀ p ∈ starts, p.pid ∉ path) (hdepth : depth ≤ 51)
    {above : List ProcessNode}
    (htrees : ∀ p ∈ starts, ∀ tree, build_node processes stack depth path p = some tree → (tree.branches above).Nodup) :
    (trees.flatMap (RoseTree.branches above)).Nodup := by
  rw [List.nodup_flatMap]
  constructor
  · intro tree htree
    obtain ⟨p, hp, hgrown⟩ := (RoseTree.mem_of_mapM_eq_some h).mp htree
    exact htrees p hp tree hgrown
  · refine RoseTree.pairwise_of_mapM_eq_some h ?_
    refine List.Pairwise.imp_of_mem (fun hp hq hpq tree tree' htree htree' => ?_) (List.pairwise_map.mp hstarts)
    exact disjoint_branches htree (hpath _ hp) htree' (hpath _ hq) hdepth hpq above

theorem nodup_children {pid : ℤ} (hprocesses : (processes.map StoredProcess.pid).Nodup) (path : List ℤ) :
    (((children_map processes pid).filter fun c => c.pid ∉ path).map StoredProcess.pid).Nodup :=
  hprocesses.sublist ((List.filter_sublist.trans List.filter_sublist).map _)

theorem nodup_branches (hprocesses : (processes.map StoredProcess.pid).Nodup) {stack depth : ℕ} {path : List ℤ}
    {q : StoredProcess} {tree : RoseTree ProcessNode} (h : build_node processes stack depth path q = some tree)
    (hpath : q.pid ∉ path) (hdepth : depth ≤ 51) (above : List ProcessNode) : (tree.branches above).Nodup := by
  induction stack generalizing depth path q tree above with
  | zero => cases h
  | succ stack ih =>
    rw [build_node] at h
    split at h
    · obtain rfl := Option.some.inj h
      exact List.nodup_singleton _
    · rename_i hinner
      obtain ⟨children, hchildren, h⟩ := Option.bind_eq_some_iff.mp h
      obtain rfl := Option.some.inj h
      have hlow : depth ≤ 50 := not_lt.mp fun hdeep => hinner (.inl hdeep)
      have hfresh : ∀ c ∈ (children_map processes q.pid).filter fun c => c.pid ∉ q.pid :: path,
          c.pid ∉ q.pid :: path := fun c hc => of_decide_eq_true (List.mem_filter.mp hc).2
      rw [RoseTree.branches, RoseTree.forest_branches_eq, List.nodup_cons]
      constructor
      · intro hmem
        obtain ⟨child, hchild, hb⟩ := List.mem_flatMap.mp hmem
        obtain ⟨c, hc, hgrown⟩ := (RoseTree.mem_of_mapM_eq_some hchildren).mp hchild
        obtain ⟨l, hl, -⟩ := (mem_branches hgrown (hfresh c hc) (by omega)).mp hb
        have hlength := congrArg List.length hl
        simp only [List.length_append, List.length_map, List.length_cons, List.length_nil] at hlength
        omega
      · exact nodup_forest_branches hchildren (nodup_children hprocesses _) hfresh (by omega)
          fun c hc child hgrown => ih hgrown (hfresh c hc) (by omega) _

/-- Fifty-two nested calls are enough, and more of them change nothing. -/
theorem exists_build_node {n depth : ℕ} (hn : n + depth = 51) (path : List ℤ) (q : StoredProcess) :
    ∃ tree, ∀ stack, n < stack → build_node processes stack depth path q = some tree := by
  induction n generalizing depth path q with
  | zero =>
    refine ⟨.node (proc_to_dict q) [], fun stack hstack => ?_⟩
    obtain ⟨stack, rfl⟩ := Nat.exists_eq_add_one_of_ne_zero hstack.ne'
    rw [build_node, if_pos (.inl (by omega))]
  | succ n ih =>
    by_cases hleaf : 50 < depth ∨ q.pid ∈ path
    · refine ⟨.node (proc_to_dict q) [], fun stack hstack => ?_⟩
      obtain ⟨stack, rfl⟩ := Nat.exists_eq_add_one_of_ne_zero (Nat.ne_zero_of_lt hstack)
      rw [build_node, if_pos hleaf]
    · obtain ⟨children, hchildren⟩ : ∃ children, ∀ stack, n < stack →
          ((children_map processes q.pid).filter fun c => c.pid ∉ q.pid :: path).mapM
            (build_node processes stack (depth + 1) (q.pid :: path)) = some children :=
        RoseTree.exists_mapM_eq_some fun c _ => ih (by omega) (q.pid :: path) c
      refine ⟨.node (proc_to_dict q) children, fun stack hstack => ?_⟩
      obtain ⟨stack, rfl⟩ := Nat.exists_eq_add_one_of_ne_zero (Nat.ne_zero_of_lt hstack)
      rw [build_node, if_neg hleaf, hchildren stack (Nat.lt_of_succ_lt_succ hstack)]
      rfl

theorem roots_subset {q : StoredProcess} (hq : q ∈ roots processes) : q ∈ processes := by
  unfold roots at hq
  split at hq
  · exact List.argmin_mem (Option.mem_toList.mp hq)
  · exact (List.mem_filter.mp hq).1

theorem nodup_roots (hprocesses : (processes.map StoredProcess.pid).Nodup) :
    ((roots processes).map StoredProcess.pid).Nodup := by
  unfold roots
  split
  · cases smallest_pid processes with
    | none => exact List.nodup_nil
    | some q => exact List.nodup_singleton _
  · exact hprocesses.sublist (List.filter_sublist.map _)

theorem build_tree_of_eq (stack : ℕ) (agent_id : String) :
    build_tree_of processes stack agent_id = ((roots processes).mapM (build_node processes stack 0 [])).map
      fun tree => { agent_id, total_processes := processes.length, root_count := tree.length, tree } := by
  cases processes with
  | nil => rfl
  | cons p processes =>
    rw [build_tree_of, if_neg (by simp)]
    cases (roots (p :: processes)).mapM (build_node (p :: processes) stack 0 []) <;> rfl

/-- The recursion ends on every snapshot. -/
theorem exists_build_tree_of (processes : List StoredProcess) (agent_id : String) :
    ∃ result, ∀ stack, 52 ≤ stack → build_tree_of processes stack agent_id = some result := by
  obtain ⟨tree, htree⟩ : ∃ tree, ∀ stack, 51 < stack →
      (roots processes).mapM (build_node processes stack 0 []) = some tree :=
    RoseTree.exists_mapM_eq_some fun q _ => exists_build_node rfl [] q
  exact ⟨_, fun stack hstack => by rw [build_tree_of_eq, htree stack hstack]; rfl⟩

end Branches

/-- For every node of the tree the way from it up to its root. -/
def branches (self : ProcessTree) : List (List ProcessNode) :=
  self.tree.flatMap (RoseTree.branches [])

def nodes (self : ProcessTree) : List ProcessNode :=
  self.tree.flatMap RoseTree.labels

theorem map_head_branches (self : ProcessTree) : self.branches.map List.head? = self.nodes.map some := by
  rw [branches, nodes, ← RoseTree.forest_branches_eq, ← RoseTree.forest_labels_eq, RoseTree.map_head_forest_branches]

section Result

variable {processes : List StoredProcess} {stack : ℕ} {agent_id : String} {result : ProcessTree}

theorem mem_result_branches (h : build_tree_of processes stack agent_id = some result) {b : List ProcessNode} :
    b ∈ result.branches ↔ ∃ l, ∃ q ∈ roots processes, b = (l ++ [q]).map proc_to_dict ∧
      Descent processes (l ++ [q]) ∧ l.length ≤ 51 := by
  rw [build_tree_of_eq] at h
  obtain ⟨tree, htree, rfl⟩ := Option.map_eq_some_iff.mp h
  rw [branches, List.mem_flatMap]
  constructor
  · rintro ⟨root, hroot, hb⟩
    obtain ⟨q, hq, hgrown⟩ := (RoseTree.mem_of_mapM_eq_some htree).mp hroot
    obtain ⟨l, rfl, hdescent, -, hlength⟩ := (mem_branches hgrown List.not_mem_nil (Nat.zero_le _)).mp hb
    exact ⟨l, q, hq, List.append_nil _, hdescent, hlength⟩
  · rintro ⟨l, q, hq, rfl, hdescent, hlength⟩
    obtain ⟨root, hroot, hgrown⟩ := RoseTree.exists_of_mapM_eq_some htree hq
    exact ⟨root, hroot, (mem_branches hgrown List.not_mem_nil (Nat.zero_le _)).mpr
      ⟨l, (List.append_nil _).symm, hdescent, fun _ _ => List.not_mem_nil, hlength⟩⟩

theorem nodup_result_branches (h : build_tree_of processes stack agent_id = some result)
    (hprocesses : (processes.map StoredProcess.pid).Nodup) : result.branches.Nodup := by
  rw [build_tree_of_eq] at h
  obtain ⟨tree, htree, rfl⟩ := Option.map_eq_some_iff.mp h
  exact nodup_forest_branches htree (nodup_roots hprocesses) (fun _ _ => List.not_mem_nil) (Nat.zero_le _)
    fun q _ root hgrown => nodup_branches hprocesses hgrown List.not_mem_nil (Nat.zero_le _) []

/-! ## Soundness -/

/-- Every node shows a process of the snapshot, every edge joins a process to the one whose pid it names as its
parent, and on the way to a root no pid is met twice and no more than 51 edges are passed. -/
structure Sound (processes : List StoredProcess) (result : ProcessTree) : Prop where
  nodes : ∀ node ∈ result.nodes, ∃ p ∈ processes, node = proc_to_dict p
  edges : ∀ b ∈ result.branches, b.IsChain fun child parent => child.parent_pid = some parent.pid
  nodup : ∀ b ∈ result.branches, (b.map ProcessNode.pid).Nodup
  depth : ∀ b ∈ result.branches, b.length ≤ 52

theorem Descent.subset {l : List StoredProcess} {q : StoredProcess} (h : Descent processes (l ++ [q]))
    (hq : q ∈ processes) : ∀ p ∈ l ++ [q], p ∈ processes := by
  induction l with
  | nil => simpa using hq
  | cons p l ih =>
    have hrest : Descent processes (l ++ [q]) := ⟨h.chain.tail, (List.nodup_cons.mp h.nodup).2⟩
    obtain ⟨r, rest, hr⟩ := List.exists_cons_of_ne_nil (List.append_ne_nil_of_right_ne_nil l (List.cons_ne_nil q []))
    have hchain := h.chain
    rw [List.cons_append, hr] at hchain
    intro x hx
    rcases List.mem_cons.mp hx with rfl | hx
    · exact (mem_children_map.mp (List.isChain_cons_cons.mp hchain).1).1
    · exact ih hrest x hx

theorem sound_of_build_tree_of (h : build_tree_of processes stack agent_id = some result) : Sound processes result := by
  constructor
  · intro node hnode
    have hhead : some node ∈ result.branches.map List.head? := by
      rw [map_head_branches]
      exact List.mem_map_of_mem hnode
    obtain ⟨b, hb, hnode⟩ := List.mem_map.mp hhead
    obtain ⟨l, q, hq, rfl, hdescent, -⟩ := (mem_result_branches h).mp hb
    obtain ⟨p, hp, rfl⟩ := List.mem_map.mp (List.mem_of_mem_head? hnode)
    exact ⟨p, hdescent.subset (roots_subset hq) p hp, rfl⟩
  · intro b hb
    obtain ⟨l, q, hq, rfl, hdescent, -⟩ := (mem_result_branches h).mp hb
    exact (List.isChain_map _).mpr (hdescent.chain.imp fun p q hp => (mem_children_map.mp hp).2.1)
  · intro b hb
    obtain ⟨l, q, hq, rfl, hdescent, -⟩ := (mem_result_branches h).mp hb
    rw [List.map_map]
    exact hdescent.nodup
  · intro b hb
    obtain ⟨l, q, hq, rfl, -, hlength⟩ := (mem_result_branches h).mp hb
    rw [List.length_map, List.length_append, List.length_singleton]
    omega

/-- The recursion ends after at most fifty-two nested calls, whatever the parent pointers are, and what it
returns is sound. -/
theorem build_tree_sound (processes : List StoredProcess) (agent_id : String) :
    ∃ result, (∀ stack, 52 ≤ stack → build_tree_of processes stack agent_id = some result) ∧
      Sound processes result := by
  obtain ⟨result, hresult⟩ := exists_build_tree_of processes agent_id
  exact ⟨result, hresult, sound_of_build_tree_of (hresult 52 le_rfl)⟩

/-! ## Completeness -/

/-- Every process of the snapshot is shown once, and the total is the number of nodes. -/
def Complete (processes : List StoredProcess) (result : ProcessTree) : Prop :=
  (∀ p ∈ processes, result.nodes.countP (fun node => node.pid = p.pid) = 1) ∧
    result.total_processes = result.nodes.length

/-- The parent that a process has in the snapshot. A process is not its own parent. -/
def snapshot_parent (processes : List StoredProcess) (p : StoredProcess) : Option StoredProcess :=
  match p.parent_pid with
  | none => none
  | some ppid => if ppid = p.pid then none else processes.find? fun q => q.pid = ppid

/-- A process and the ancestors that the snapshot shows, no more than 52 of them and up to the first repetition. -/
def ancestry (processes : List StoredProcess) (p : StoredProcess) : List StoredProcess :=
  ParentChain.lineage StoredProcess.pid (snapshot_parent processes) 52 [] p

def is_root (processes : List StoredProcess) (q : StoredProcess) : Bool :=
  q.pid ∈ (roots processes).map StoredProcess.pid

theorem eq_of_pid (hprocesses : (processes.map StoredProcess.pid).Nodup) {p q : StoredProcess} (hp : p ∈ processes)
    (hq : q ∈ processes) (h : p.pid = q.pid) : p = q :=
  List.inj_on_of_nodup_map hprocesses hp hq h

theorem find_pid_eq_some_iff (hprocesses : (processes.map StoredProcess.pid).Nodup) {pid : ℤ} {q : StoredProcess} :
    processes.find? (fun q => q.pid = pid) = some q ↔ q ∈ processes ∧ q.pid = pid := by
  constructor
  · intro h
    exact ⟨List.mem_of_find?_eq_some h, by simpa using List.find?_some h⟩
  · rintro ⟨hq, rfl⟩
    have hsome : (processes.find? fun r => r.pid = q.pid).isSome :=
      List.find?_isSome.mpr ⟨q, hq, decide_eq_true rfl⟩
    obtain ⟨r, hr⟩ := Option.isSome_iff_exists.mp hsome
    rw [hr, eq_of_pid hprocesses (List.mem_of_find?_eq_some hr) hq (by simpa using List.find?_some hr)]

theorem snapshot_parent_eq_some_iff (hprocesses : (processes.map StoredProcess.pid).Nodup) {p q : StoredProcess}
    (hp : p ∈ processes) (hq : q ∈ processes) :
    snapshot_parent processes p = some q ↔ p ∈ children_map processes q.pid := by
  rw [mem_children_map, and_iff_right hp, snapshot_parent]
  have hmap : in_pid_map processes q.pid := decide_eq_true (List.mem_map_of_mem hq)
  cases p.parent_pid with
  | none => simp
  | some ppid =>
    dsimp only
    rw [Option.some_inj, and_iff_left hmap]
    split
    · rename_i hself
      refine iff_of_false (by simp) ?_
      rintro ⟨rfl, hother⟩
      exact hother hself
    · rename_i hother
      rw [find_pid_eq_some_iff hprocesses, and_iff_right hq, eq_comm]
      exact ⟨fun h => ⟨h, h ▸ hother⟩, And.left⟩

theorem snapshot_parent_mem {p q : StoredProcess} (h : snapshot_parent processes p = some q) : q ∈ processes := by
  unfold snapshot_parent at h
  split at h
  · cases h
  · split at h
    · cases h
    · exact List.mem_of_find?_eq_some h

/-- Going down from a process of the snapshot along the children map is going up to it along the parents. -/
theorem descent_iff_climb (hprocesses : (processes.map StoredProcess.pid).Nodup) {l : List StoredProcess}
    (hl : ∀ p ∈ l, p ∈ processes) :
    Descent processes l ↔ ParentChain.Climb StoredProcess.pid (snapshot_parent processes) [] l := by
  constructor
  · rintro ⟨hchain, hnodup⟩
    exact ⟨hchain.imp_of_mem_imp fun p q hp hq => (snapshot_parent_eq_some_iff hprocesses (hl p hp) (hl q hq)).mpr,
      hnodup, fun _ _ => List.not_mem_nil⟩
  · rintro ⟨hchain, hnodup, -⟩
    exact ⟨hchain.imp_of_mem_imp fun p q hp hq => (snapshot_parent_eq_some_iff hprocesses (hl p hp) (hl q hq)).mp,
      hnodup⟩

theorem Climb.subset {p : StoredProcess} {rest : List StoredProcess} (hp : p ∈ processes)
    (h : (p :: rest).IsChain fun p q => snapshot_parent processes p = some q) : ∀ q ∈ p :: rest, q ∈ processes := by
  induction rest generalizing p with
  | nil => simpa using hp
  | cons q rest ih =>
    obtain ⟨hparent, hchain⟩ := List.isChain_cons_cons.mp h
    intro r hr
    rcases List.mem_cons.mp hr with rfl | hr
    · exact hp
    · exact ih (snapshot_parent_mem hparent) hchain r hr

/-- The branches that end in a process are the beginnings of its ancestry that end in a root. -/
theorem mem_branches_of_pid (h : build_tree_of processes stack agent_id = some result)
    (hprocesses : (processes.map StoredProcess.pid).Nodup) {p : StoredProcess} (hp : p ∈ processes)
    {b : List ProcessNode} :
    b ∈ result.branches ∧ b.head?.any (fun node => node.pid = p.pid) ↔
      ∃ l, l <+: ancestry processes p ∧ l.getLast?.any (is_root processes) ∧ b = l.map proc_to_dict := by
  rw [mem_result_branches h]
  constructor
  · rintro ⟨⟨l, q, hq, rfl, hdescent, hlength⟩, hhead⟩
    have hsubset := hdescent.subset (roots_subset hq)
    have hlast : (l ++ [q]).getLast?.any (is_root processes) := by
      rw [List.getLast?_concat]
      exact decide_eq_true (List.mem_map_of_mem hq)
    have hclimb := (descent_iff_climb hprocesses hsubset).mp hdescent
    have hlength : (l ++ [q]).length ≤ 52 := by
      rw [List.length_append, List.length_singleton]
      omega
    obtain ⟨r, rest, hr⟩ := List.exists_cons_of_ne_nil (List.append_ne_nil_of_right_ne_nil l (List.cons_ne_nil q []))
    rw [hr] at hhead hsubset hlast hclimb hlength ⊢
    obtain rfl := eq_of_pid hprocesses (hsubset r List.mem_cons_self) hp (of_decide_eq_true hhead)
    exact ⟨r :: rest, (ParentChain.isPrefix_lineage_iff List.not_mem_nil).mpr ⟨hlength, hclimb⟩, hlast, rfl⟩
  · rintro ⟨l, hbegins, hlast, rfl⟩
    cases l with
    | nil => cases hlast
    | cons r rest =>
      obtain rfl := ParentChain.head_of_isPrefix_lineage hbegins
      obtain ⟨hlength, hclimb⟩ := (ParentChain.isPrefix_lineage_iff List.not_mem_nil).mp hbegins
      have hsubset := Climb.subset hp hclimb.chain
      have hdescent := (descent_iff_climb hprocesses hsubset).mpr hclimb
      refine ⟨?_, decide_eq_true rfl⟩
      obtain ⟨l, q, hl⟩ := (List.eq_nil_or_concat' (r :: rest)).resolve_left (List.cons_ne_nil r rest)
      have hroot : is_root processes q := by rwa [hl, List.getLast?_concat] at hlast
      obtain ⟨q', hq', hpid⟩ := List.mem_map.mp (of_decide_eq_true hroot)
      obtain rfl := eq_of_pid hprocesses (roots_subset hq')
        (hsubset q (hl ▸ List.mem_append_right _ List.mem_cons_self)) hpid
      refine ⟨l, q', hq', by rw [hl], hl ▸ hdescent, ?_⟩
      have hcount := congrArg List.length hl
      rw [List.length_cons, List.length_append, List.length_singleton] at hcount
      omega

/-- A process is shown once for each root in its ancestry. -/
theorem countP_nodes (h : build_tree_of processes stack agent_id = some result)
    (hprocesses : (processes.map StoredProcess.pid).Nodup) {p : StoredProcess} (hp : p ∈ processes) :
    result.nodes.countP (fun node => node.pid = p.pid) = (ancestry processes p).countP (is_root processes) := by
  have hnodes : result.nodes.countP (fun node => node.pid = p.pid) =
      (result.branches.filter fun b => b.head?.any fun node => node.pid = p.pid).length := by
    have hcount := congrArg (List.countP fun head : Option ProcessNode => head.any fun node => node.pid = p.pid)
      result.map_head_branches
    rw [List.countP_map, List.countP_map] at hcount
    rw [← List.countP_eq_length_filter]
    exact hcount.symm
  rw [hnodes, ← ParentChain.length_filter_inits, ← List.length_map (List.map proc_to_dict)]
  refine List.Perm.length_eq ((List.perm_ext_iff_of_nodup ?_ ?_).mpr fun b => ?_)
  · exact (nodup_result_branches h hprocesses).filter _
  · refine List.Nodup.map_on (fun l hl l' hl' heq => ?_) ((ParentChain.nodup_inits _).filter _)
    exact ParentChain.map_injOn_inits proc_to_dict ((List.mem_inits _ _).mp (List.mem_filter.mp hl).1)
      ((List.mem_inits _ _).mp (List.mem_filter.mp hl').1) heq
  · rw [List.mem_filter, mem_branches_of_pid h hprocesses hp, List.mem_map]
    constructor
    · rintro ⟨l, hbegins, hroot, rfl⟩
      exact ⟨l, List.mem_filter.mpr ⟨(List.mem_inits _ _).mpr hbegins, hroot⟩, rfl⟩
    · rintro ⟨l, hl, rfl⟩
      obtain ⟨hbegins, hroot⟩ := List.mem_filter.mp hl
      exact ⟨l, (List.mem_inits _ _).mp hbegins, hroot, rfl⟩

/-- When each process is shown once, there are as many nodes as processes. -/
theorem length_nodes (h : build_tree_of processes stack agent_id = some result)
    (hprocesses : (processes.map StoredProcess.pid).Nodup)
    (honce : ∀ p ∈ processes, result.nodes.countP (fun node => node.pid = p.pid) = 1) :
    processes.length = result.nodes.length := by
  have hcount : ∀ pid, (result.nodes.map ProcessNode.pid).count pid = result.nodes.countP fun node => node.pid = pid :=
    fun pid => by
      rw [List.count, List.countP_map]
      exact List.countP_congr fun node _ => by simp
  have hpids : ∀ pid, pid ∈ result.nodes.map ProcessNode.pid ↔ pid ∈ processes.map StoredProcess.pid := by
    intro pid
    constructor
    · intro hpid
      obtain ⟨node, hnode, rfl⟩ := List.mem_map.mp hpid
      obtain ⟨p, hp, rfl⟩ := (sound_of_build_tree_of h).nodes node hnode
      exact List.mem_map_of_mem hp
    · intro hpid
      obtain ⟨p, hp, rfl⟩ := List.mem_map.mp hpid
      rw [← List.count_pos_iff, hcount, honce p hp]
      exact Nat.one_pos
  have hnodup : (result.nodes.map ProcessNode.pid).Nodup := by
    refine List.nodup_iff_count_le_one.mpr fun pid => ?_
    by_cases hpid : pid ∈ result.nodes.map ProcessNode.pid
    · obtain ⟨p, hp, rfl⟩ := List.mem_map.mp ((hpids pid).mp hpid)
      rw [hcount, honce p hp]
    · rw [List.count_eq_zero_of_not_mem hpid]
      exact Nat.zero_le 1
  have hperm := (List.perm_ext_iff_of_nodup hprocesses hnodup).mpr fun pid => (hpids pid).symm
  simpa using hperm.length_eq

theorem complete_of_build_tree_of_iff (h : build_tree_of processes stack agent_id = some result)
    (hprocesses : (processes.map StoredProcess.pid).Nodup) :
    Complete processes result ↔ ∀ p ∈ processes, (ancestry processes p).countP (is_root processes) = 1 := by
  have htotal : result.total_processes = processes.length := by
    rw [build_tree_of_eq] at h
    obtain ⟨tree, -, rfl⟩ := Option.map_eq_some_iff.mp h
    rfl
  constructor
  · rintro ⟨honce, -⟩ p hp
    rw [← countP_nodes h hprocesses hp, honce p hp]
  · intro hroots
    have honce : ∀ p ∈ processes, result.nodes.countP (fun node => node.pid = p.pid) = 1 := fun p hp => by
      rw [countP_nodes h hprocesses hp, hroots p hp]
    exact ⟨honce, htotal.trans (length_nodes h hprocesses honce)⟩

end Result

theorem mem_get_by_agent {process_info : Table StoredProcess} {agent_id : String} {limit : ℕ}
    (hsize : (find_by_agent process_info agent_id).length ≤ limit) {p : StoredProcess} :
    p ∈ get_by_agent process_info agent_id limit ↔ p ∈ find_by_agent process_info agent_id := by
  rw [get_by_agent, List.take_of_length_le (by rwa [Table.select_desc, List.length_insertionSort]),
    Table.mem_select_desc, find_by_agent, List.mem_filter]

theorem nodup_get_by_agent {process_info : Table StoredProcess} {agent_id : String}
    (hpids : ((find_by_agent process_info agent_id).map StoredProcess.pid).Nodup) (limit : ℕ) :
    ((get_by_agent process_info agent_id limit).map StoredProcess.pid).Nodup := by
  have hperm : (process_info.select_desc (fun p => p.agent_id = agent_id) StoredProcess.created_at).Perm
      (find_by_agent process_info agent_id) := List.perm_insertionSort _ _
  exact ((hperm.map StoredProcess.pid).nodup_iff.mpr hpids).sublist ((List.take_sublist _ _).map _)

/-- The law: the tree of an agent shows each of its processes once, and counts its nodes. -/
def CompletenessLaw : Prop :=
  ∀ (process_info : Table StoredProcess) (agent_id : String) (result : ProcessTree),
    (find_by_agent process_info agent_id).length ≤ 500 →
    ((find_by_agent process_info agent_id).map StoredProcess.pid).Nodup →
    (∀ stack, 52 ≤ stack → build_tree stack process_info agent_id = some result) →
    Complete (find_by_agent process_info agent_id) result

/-- The tree shows each process once exactly when every process has one root in its ancestry. -/
theorem build_tree_complete_iff (process_info : Table StoredProcess) (agent_id : String)
    (hsize : (find_by_agent process_info agent_id).length ≤ 500)
    (hpids : ((find_by_agent process_info agent_id).map StoredProcess.pid).Nodup) :
    ∃ result, (∀ stack, 52 ≤ stack → build_tree stack process_info agent_id = some result) ∧
      (Complete (find_by_agent process_info agent_id) result ↔ ∀ p ∈ get_by_agent process_info agent_id 500,
        (ancestry (get_by_agent process_info agent_id 500) p).countP
          (is_root (get_by_agent process_info agent_id 500)) = 1) := by
  obtain ⟨result, hresult⟩ := exists_build_tree_of (get_by_agent process_info agent_id 500) agent_id
  refine ⟨result, hresult, ?_⟩
  rw [← complete_of_build_tree_of_iff (hresult 52 le_rfl) (nodup_get_by_agent hpids 500)]
  exact and_congr_left fun _ => forall_congr' fun p => imp_congr_left (mem_get_by_agent hsize).symm

private def running (pid : ℤ) (parent_pid : Option ℤ) : StoredProcess :=
  { id := "proc_" ++ toString pid, agent_id := "web-1", pid, parent_pid, name := "sh", created_at := 0 }

/-- A shell with a child, and an orphan. -/
private def three_processes : Table StoredProcess :=
  ⟨[running 1 none, running 7 (some 1), running 9 (some 4)], by decide⟩

theorem build_tree_complete_three :
    ∃ result, build_tree 52 three_processes "web-1" = some result ∧
      Complete (find_by_agent three_processes "web-1") result := by
  obtain ⟨result, hresult, hiff⟩ := build_tree_complete_iff three_processes "web-1" (by decide) (by decide)
  exact ⟨result, hresult 52 le_rfl, hiff.mpr (by decide)⟩

/-- Two processes that name each other as parents, beside a root. -/
private def cycle_beside_root : Table StoredProcess :=
  ⟨[running 1 none, running 2 (some 3), running 3 (some 2)], by decide⟩

theorem not_completenessLaw_cycle : ¬ CompletenessLaw := by
  intro h
  obtain ⟨result, hresult⟩ := exists_build_tree_of (get_by_agent cycle_beside_root "web-1" 500) "web-1"
  have hmem : running 2 (some 3) ∈ find_by_agent cycle_beside_root "web-1" := by
    simp [find_by_agent, cycle_beside_root, running]
  have hsize : (find_by_agent cycle_beside_root "web-1").length ≤ 500 := by decide
  have honce := (h cycle_beside_root "web-1" result hsize (by decide) hresult).1 _ hmem
  rw [countP_nodes (hresult 52 le_rfl) (by decide) ((mem_get_by_agent hsize).mpr hmem)] at honce
  exact absurd honce (by decide)

end ProcessTree

end larp
