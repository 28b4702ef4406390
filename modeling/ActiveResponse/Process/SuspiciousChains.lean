import ActiveResponse.Lib.Assoc
import ActiveResponse.Process.Tree

namespace larp

/-- An entry of a parent chain. -/
structure ChainEntry where
  pid : ℤ
  name : String
  exe : String

/-- What `find_suspicious_process` reports of a process. -/
structure TracedProcess where
  pid : ℤ
  parent_pid : Option ℤ
  name : String
  exe : String
  path : String
  cmdline : String
  cpu_percent : PyFloat
  memory_percent : PyFloat
  hash : Option String
  reason : String
  parent_chain : List ChainEntry

namespace TracedProcess

/-- `p.exe or p.exe_path or ""`. -/
def exe_or_path (p : StoredProcess) : String := if p.exe ≠ "" then p.exe else p.exe_path.getD ""

def chain_entry (parent_proc : StoredProcess) : ChainEntry where
  pid := parent_proc.pid
  name := parent_proc.name
  exe := exe_or_path parent_proc

/-- `{p.pid: p for p in processes}`. -/
def proc_map (processes : List StoredProcess) : List (ℤ × StoredProcess) :=
  processes.foldl (fun proc_map p => Assoc.set proc_map p.pid p) []

/-- The parent that the loop goes to. The pid 0 counts as a missing one. -/
def parent_proc (proc_map : List (ℤ × StoredProcess)) (curr_ppid : Option ℤ) : Option StoredProcess :=
  curr_ppid.bind fun ppid => if ppid = 0 then none else Assoc.view proc_map ppid

/-- The loop that traces the parent chain, with the number of rounds that are left. -/
def trace (proc_map : List (ℤ × StoredProcess)) : ℕ → Option ℤ → List ChainEntry
  | 0, _ => []
  | rounds + 1, curr_ppid =>
    match parent_proc proc_map curr_ppid with
    | none => []
    | some parent => chain_entry parent :: trace proc_map rounds parent.parent_pid

def reason_of (p : StoredProcess) : String :=
  if p.exe ≠ "" ∧ StoredProcess.in_temporary_directory p.exe then
    "Process executing from temporary directory (/tmp or /dev/shm)"
  else "Suspicious binary pattern / cmdline flagged"

def report (processes : List StoredProcess) (p : StoredProcess) : TracedProcess where
  pid := p.pid
  parent_pid := p.parent_pid
  name := p.name
  exe := exe_or_path p
  path := exe_or_path p
  cmdline := p.cmdline
  cpu_percent := p.cpu_percent
  memory_percent := p.memory_percent
  hash := p.hash
  reason := reason_of p
  parent_chain := trace (proc_map processes) 10 p.parent_pid

def find_suspicious_process (process_info : Table StoredProcess) (agent_id : String) : List TracedProcess :=
  let processes := get_by_agent process_info agent_id 500
  (processes.filter StoredProcess.is_suspicious_process).map (report processes)

/-! ## The ancestors in the snapshot -/

/-- The process of the snapshot that the parent pointer names. -/
def parent_row (rows : List StoredProcess) (p : StoredProcess) : Option StoredProcess :=
  p.parent_pid.bind fun ppid => rows.find? fun q => q.pid = ppid

/-- The law of a report: its chain shows the proper ancestors of the process in the snapshot. -/
def ChainLaw (rows : List StoredProcess) (report : TracedProcess) : Prop :=
  ∃ p ∈ rows, p.pid = report.pid ∧ ∃ chain, ParentChain.Ancestry StoredProcess.pid (parent_row rows) 10 p chain ∧
    report.parent_chain = chain.map chain_entry

/-- In the first ten steps up from a process, the parent can be looked up exactly if it has not been met before. -/
def FindsNewParents (newest rows : List StoredProcess) (p : StoredProcess) : Prop :=
  ∀ climb q r, climb.head? = some p → climb.getLast? = some q → climb.length ≤ 10 →
    ParentChain.Climb StoredProcess.pid (parent_row rows) [] climb → parent_row rows q = some r →
      ((r.pid ≠ 0 ∧ r ∈ newest) ↔ r ∉ climb)

section Snapshot

variable {newest rows : List StoredProcess} {p q r : StoredProcess}

theorem trace_eq_map (proc_map : List (ℤ × StoredProcess)) (rounds : ℕ) (p : StoredProcess) :
    trace proc_map rounds p.parent_pid =
      (ParentChain.walk (fun q => parent_proc proc_map q.parent_pid) rounds p).map chain_entry := by
  induction rounds generalizing p with
  | zero => rfl
  | succ rounds ih =>
    rw [trace, ParentChain.walk]
    cases parent_proc proc_map p.parent_pid with
    | none => rfl
    | some parent =>
      dsimp only
      rw [ih, List.map_cons]

theorem view_proc_map (hnewest : (newest.map StoredProcess.pid).Nodup) {pid : ℤ} :
    Assoc.view (proc_map newest) pid = some q ↔ q ∈ newest ∧ q.pid = pid := by
  have hpids : ((newest.map fun p => (p.pid, p)).map Prod.fst) = newest.map StoredProcess.pid := by
    rw [List.map_map]
    rfl
  have hmap : proc_map newest = newest.map fun p => (p.pid, p) := by
    rw [proc_map, ← List.nil_append (newest.map fun p => (p.pid, p)), ← Assoc.foldl_set [] (by simpa [hpids] using hnewest),
      List.foldl_map]
  rw [hmap]
  constructor
  · intro h
    obtain ⟨before, after, heq, -⟩ := List.lookup_eq_some_iff.mp h
    obtain ⟨p, hp, hpair⟩ := List.mem_map.mp (heq ▸ List.mem_append_right before List.mem_cons_self)
    obtain ⟨rfl, rfl⟩ := Prod.mk.inj hpair
    exact ⟨hp, rfl⟩
  · rintro ⟨hq, rfl⟩
    exact Assoc.view_of_mem (hpids ▸ hnewest) (List.mem_map_of_mem hq)

theorem parent_proc_eq_some_iff (hnewest : (newest.map StoredProcess.pid).Nodup) :
    parent_proc (proc_map newest) p.parent_pid = some q ↔ p.parent_pid = some q.pid ∧ q.pid ≠ 0 ∧ q ∈ newest := by
  rw [parent_proc, Option.bind_eq_some_iff]
  constructor
  · rintro ⟨ppid, hppid, h⟩
    split at h
    · cases h
    · rename_i hzero
      obtain ⟨hq, rfl⟩ := (view_proc_map hnewest).mp h
      exact ⟨hppid, hzero, hq⟩
  · rintro ⟨hppid, hzero, hq⟩
    refine ⟨q.pid, hppid, ?_⟩
    rw [if_neg hzero]
    exact (view_proc_map hnewest).mpr ⟨hq, rfl⟩

theorem parent_row_eq_some_iff (hrows : (rows.map StoredProcess.pid).Nodup) :
    parent_row rows p = some q ↔ p.parent_pid = some q.pid ∧ q ∈ rows := by
  rw [parent_row, Option.bind_eq_some_iff]
  constructor
  · rintro ⟨ppid, hppid, h⟩
    obtain ⟨hq, rfl⟩ := (ProcessTree.find_pid_eq_some_iff hrows).mp h
    exact ⟨hppid, hq⟩
  · rintro ⟨hppid, hq⟩
    exact ⟨q.pid, hppid, (ProcessTree.find_pid_eq_some_iff hrows).mpr ⟨hq, rfl⟩⟩

/-- The processes of a climb are in the snapshot. -/
theorem mem_of_climb (hrows : (rows.map StoredProcess.pid).Nodup) {climb : List StoredProcess} (hp : p ∈ rows)
    (hhead : climb.head? = some p) (hchain : climb.IsChain fun p q => parent_row rows p = some q) :
    ∀ q ∈ climb, q ∈ rows := by
  cases climb with
  | nil => cases hhead
  | cons first rest =>
    obtain rfl := Option.some.inj hhead
    intro q hq
    obtain rfl | hq := List.mem_cons.mp hq
    · exact hp
    · obtain ⟨x, -, hx⟩ := Relation.TransGen.tail'_iff.mp (ParentChain.transGen_of_isChain hchain q hq)
      exact ((parent_row_eq_some_iff hrows).mp hx).2

variable (hrows : (rows.map StoredProcess.pid).Nodup) (hnewest : (newest.map StoredProcess.pid).Nodup)
  (hsub : ∀ q ∈ newest, q ∈ rows)
include hrows hnewest hsub

theorem parent_proc_iff_parent_row : parent_proc (proc_map newest) p.parent_pid = some q ↔
    parent_row rows p = some q ∧ q.pid ≠ 0 ∧ q ∈ newest := by
  rw [parent_proc_eq_some_iff hnewest, parent_row_eq_some_iff hrows]
  constructor
  · rintro ⟨hppid, hzero, hq⟩
    exact ⟨⟨hppid, hsub q hq⟩, hzero, hq⟩
  · rintro ⟨⟨hppid, -⟩, hzero, hq⟩
    exact ⟨hppid, hzero, hq⟩

/-- One step of the loop is the step up in the snapshot exactly if the parent can be looked up while it is new. -/
theorem parent_proc_eq_filter_iff {climb : List StoredProcess} (hclimb : ∀ q ∈ climb, q ∈ rows) :
    parent_proc (proc_map newest) q.parent_pid =
        (parent_row rows q).filter (fun r => r.pid ∉ climb.map StoredProcess.pid ++ []) ↔
      ∀ r, parent_row rows q = some r → ((r.pid ≠ 0 ∧ r ∈ newest) ↔ r ∉ climb) := by
  have hmet {r : StoredProcess} (hr : parent_row rows q = some r) :
      r.pid ∉ climb.map StoredProcess.pid ++ [] ↔ r ∉ climb := by
    rw [List.append_nil, not_iff_not]
    refine ⟨fun h => ?_, List.mem_map_of_mem⟩
    obtain ⟨x, hx, hpid⟩ := List.mem_map.mp h
    have hmem := ((parent_row_eq_some_iff hrows).mp hr).2
    rwa [ProcessTree.eq_of_pid hrows hmem (hclimb x hx) hpid.symm]
  have hfilter {r : StoredProcess} :
      (parent_row rows q).filter (fun r => r.pid ∉ climb.map StoredProcess.pid ++ []) = some r ↔
        parent_row rows q = some r ∧ r ∉ climb := by
    rw [Option.filter_eq_some_iff, decide_eq_true_iff]
    exact and_congr_right fun hr => hmet hr
  rw [Option.ext_iff]
  simp only [parent_proc_iff_parent_row hrows hnewest hsub, hfilter, and_congr_right_iff]

omit hnewest hsub in
/-- Entries of the same processes only are the same. -/
theorem eq_of_map_chain_entry {chain chain' : List StoredProcess} (hchain : ∀ q ∈ chain, q ∈ rows)
    (hchain' : ∀ q ∈ chain', q ∈ rows) (h : chain.map chain_entry = chain'.map chain_entry) : chain = chain' := by
  induction chain generalizing chain' with
  | nil => exact (List.map_eq_nil_iff.mp h.symm).symm
  | cons q rest ih =>
    cases chain' with
    | nil => cases h
    | cons q' rest' =>
      obtain ⟨hfirst, hrest⟩ := List.cons.inj h
      rw [List.forall_mem_cons] at hchain hchain'
      rw [ProcessTree.eq_of_pid hrows hchain.1 hchain'.1 (congrArg ChainEntry.pid hfirst),
        ih hchain.2 hchain'.2 hrest]

/-- What is walked through is the ancestry of the process exactly if every step up finds its parent while that is new. -/
theorem ancestry_walk_iff (hp : p ∈ rows) :
    ParentChain.Ancestry StoredProcess.pid (parent_row rows) 10 p
        (ParentChain.walk (fun q => parent_proc (proc_map newest) q.parent_pid) 10 p) ↔
      FindsNewParents newest rows p := by
  have hparents : ∀ q r, parent_row rows q = some r → r ∈ { q | q ∈ rows } := fun q r h =>
    ((parent_row_eq_some_iff hrows).mp h).2
  have hkey : Set.InjOn StoredProcess.pid { q | q ∈ rows } := fun q hq r hr => ProcessTree.eq_of_pid hrows hq hr
  rw [ParentChain.ancestry_iff hkey hparents hp, ParentChain.cons_walk_eq_lineage_iff List.not_mem_nil]
  constructor
  · intro h climb q r hhead hlast hlength hclimb
    have hrow := mem_of_climb hrows hp hhead hclimb.chain
    exact (parent_proc_eq_filter_iff hrows hnewest hsub hrow).mp (h climb q hhead hlast hlength hclimb) r
  · intro h climb q hhead hlast hlength hclimb
    have hrow := mem_of_climb hrows hp hhead hclimb.chain
    exact (parent_proc_eq_filter_iff hrows hnewest hsub hrow).mpr fun r => h climb q r hhead hlast hlength hclimb

theorem chainLaw_report_iff (hp : p ∈ rows) :
    ChainLaw rows (report newest p) ↔ FindsNewParents newest rows p := by
  rw [← ancestry_walk_iff hrows hnewest hsub hp]
  have hchain : (report newest p).parent_chain =
      (ParentChain.walk (fun q => parent_proc (proc_map newest) q.parent_pid) 10 p).map chain_entry :=
    trace_eq_map _ 10 p
  constructor
  · rintro ⟨q, hq, hpid, chain, hancestry, heq⟩
    obtain rfl := ProcessTree.eq_of_pid hrows hq hp hpid
    have hrow := mem_of_climb hrows hq rfl hancestry.climb.chain
    have hwalk : ∀ r ∈ ParentChain.walk (fun q => parent_proc (proc_map newest) q.parent_pid) 10 q,
        r ∈ { q | q ∈ rows } :=
      ParentChain.mem_of_mem_walk fun x y h => hsub y ((parent_proc_eq_some_iff hnewest).mp h).2.2
    rw [hchain] at heq
    have hsame := eq_of_map_chain_entry hrows hwalk (fun r hr => hrow r (List.mem_cons_of_mem _ hr)) heq
    rwa [hsame]
  · intro h
    exact ⟨p, hp, rfl, _, h, hchain⟩

end Snapshot

/-- A report shows the chain of the ancestors exactly if every step up finds a parent that is new, and none that has been
met before. -/
theorem parent_chain_iff (process_info : Table StoredProcess) (agent_id : String)
    (hpids : ((find_by_agent process_info agent_id).map StoredProcess.pid).Nodup) {report : TracedProcess}
    (hreport : report ∈ find_suspicious_process process_info agent_id) :
    ChainLaw (find_by_agent process_info agent_id) report ↔
      ∃ p ∈ find_by_agent process_info agent_id, p.pid = report.pid ∧
        FindsNewParents (get_by_agent process_info agent_id 500) (find_by_agent process_info agent_id) p := by
  have hnewest := ProcessTree.nodup_get_by_agent hpids 500
  have hsub : ∀ q ∈ get_by_agent process_info agent_id 500, q ∈ find_by_agent process_info agent_id := fun q hq =>
    List.mem_filter.mpr (Table.mem_select_desc.mp (List.mem_of_mem_take hq))
  obtain ⟨p, hp, rfl⟩ := List.mem_map.mp hreport
  have hrow := hsub p (List.mem_of_mem_filter hp)
  rw [chainLaw_report_iff hpids hnewest hsub hrow]
  constructor
  · exact fun h => ⟨p, hrow, rfl, h⟩
  · rintro ⟨q, hq, hpid, h⟩
    rwa [← ProcessTree.eq_of_pid hpids hq hrow hpid]

private def netcat (pid : ℤ) (parent_pid : Option ℤ) : StoredProcess :=
  { id := "proc_" ++ toString pid, agent_id := "web-1", pid, parent_pid, name := "nc", created_at := 0 }

/-- A shell, and netcat below it. -/
private def shell_and_netcat : Table StoredProcess :=
  ⟨[{ id := "proc_1", agent_id := "web-1", pid := 1, name := "sh", created_at := 0 }, netcat 9 (some 1)], by decide⟩

theorem parent_chain_netcat :
    ∃ report ∈ find_suspicious_process shell_and_netcat "web-1",
      report.parent_chain.map ChainEntry.pid = [1] ∧
        (ChainLaw (find_by_agent shell_and_netcat "web-1") report ↔
          ∃ p ∈ find_by_agent shell_and_netcat "web-1", p.pid = report.pid ∧
            FindsNewParents (get_by_agent shell_and_netcat "web-1" 500) (find_by_agent shell_and_netcat "web-1") p) := by
  have hreport : report (get_by_agent shell_and_netcat "web-1" 500) (netcat 9 (some 1)) ∈
      find_suspicious_process shell_and_netcat "web-1" := by
    refine List.mem_map_of_mem (List.mem_filter.mpr ⟨?_, by decide +kernel⟩)
    rw [ProcessTree.mem_get_by_agent (by decide)]
    simp [find_by_agent, shell_and_netcat, netcat]
  exact ⟨_, hreport, by decide +kernel, parent_chain_iff shell_and_netcat "web-1" (by decide) hreport⟩

/-- A process that names itself as its parent. -/
private def own_parent : Table StoredProcess := ⟨[netcat 4 (some 4)], by decide⟩

/-- Its chain shows it ten times. -/
theorem not_chainLaw_own_parent :
    ((find_by_agent own_parent "web-1").map StoredProcess.pid).Nodup ∧
      ∃ report ∈ find_suspicious_process own_parent "web-1",
        report.parent_chain.map ChainEntry.pid = List.replicate 10 4 ∧
          ¬ChainLaw (find_by_agent own_parent "web-1") report := by
  have hreport : report (get_by_agent own_parent "web-1" 500) (netcat 4 (some 4)) ∈
      find_suspicious_process own_parent "web-1" := by
    refine List.mem_map_of_mem (List.mem_filter.mpr ⟨?_, by decide +kernel⟩)
    rw [ProcessTree.mem_get_by_agent (by decide)]
    simp [find_by_agent, own_parent, netcat]
  have hpids : (report (get_by_agent own_parent "web-1" 500) (netcat 4 (some 4))).parent_chain.map ChainEntry.pid =
      List.replicate 10 4 := by decide +kernel
  refine ⟨by decide, _, hreport, hpids, ?_⟩
  rintro ⟨p, -, -, chain, hancestry, heq⟩
  have hnodup := hancestry.climb.nodup
  rw [heq, List.map_map] at hpids
  have hchain : chain.map StoredProcess.pid = List.replicate 10 4 := hpids
  rw [List.map_cons, hchain] at hnodup
  exact absurd hnodup.of_cons (by decide)

end TracedProcess

end larp
