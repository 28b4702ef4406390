import ActiveResponse.Ai.ApplySuggestion
import ActiveResponse.Lib.Worklist
import ActiveResponse.Models.StoredProcess
import Mathlib.Data.Set.Card

namespace larp

/-- The dictionary `blast_radius` of a suggestion. -/
structure BlastRadius where
  processes_affected : ℕ := 0
  sessions_affected : ℕ := 0
  reversible : Bool := false
deriving DecidableEq

namespace BlastRadius

/-- `by_pid.get(pid)`: of two rows with one pid the dictionary keeps the later one. -/
def by_pid (all_procs : List StoredProcess) (pid : ℤ) : Option StoredProcess :=
  all_procs.reverse.find? fun p => p.pid = pid

/-- The pids of the processes that name the pid as their parent. -/
def children (all_procs : List StoredProcess) (parent : ℤ) : List ℤ :=
  (all_procs.filter fun p => p.parent_pid = some parent).map StoredProcess.pid

/-- The list `descendants`. There is none while the loop over the frontier is still running after so many rounds. -/
def descendants (all_procs : List StoredProcess) (action_type : String) (pid_int : ℤ) (rounds : ℕ) :
    Option (List ℤ) :=
  if action_type = "kill_process" then some [pid_int]
  else Worklist.drain (children all_procs) rounds [pid_int] [pid_int]

/-- The session of a process, unless it is empty. -/
def session_of (all_procs : List StoredProcess) (pid : ℤ) : Option String :=
  ((by_pid all_procs pid).bind StoredProcess.session_id).filter (· ≠ "")

/-- The radius of an action on these processes, which may be listed repeatedly. -/
def of_processes (all_procs : List StoredProcess) (action_type : String) (descendants : List ℤ) : BlastRadius where
  processes_affected := descendants.dedup.length
  sessions_affected := (descendants.dedup.filterMap (session_of all_procs)).dedup.length
  reversible := action_type = "suspend_process"

/-- The branch of the three process actions. -/
def of_process_action (all_procs : List StoredProcess) (action_type : String) (pid : Json) (rounds : ℕ) :
    Option BlastRadius :=
  if ¬ pid.truthy then some {}
  else
    match pid.to_int with
    | .error _ => some {}
    | .ok pid_int =>
      if pid_int ∈ all_procs.map StoredProcess.pid then
        (descendants all_procs action_type pid_int rounds).map (of_processes all_procs action_type)
      else some {}

/-- The branch of `isolate`: the flows of the last five minutes that have not ended. -/
def of_isolate (flows : List Flow) (now : Time) (agent_id : String) : BlastRadius where
  sessions_affected := flows.countP fun flow =>
    flow.agent_id = some agent_id ∧ now - seconds 300 ≤ flow.start_time ∧ flow.end_time = none
  reversible := true

/-- The branch of `block_ip`: the flows of the last five minutes to the address. -/
def of_block_ip (flows : List Flow) (now : Time) (agent_id : String) (ip : Json) : Except AppException BlastRadius :=
  match ip with
  | .null => .ok { reversible := true }
  | .str ip => .ok {
      sessions_affected := flows.countP fun flow =>
        flow.agent_id = some agent_id ∧ flow.dst_ip = ip ∧ now - seconds 300 ≤ flow.start_time
      reversible := true }
  | _ => .error (.DataError "invalid input for query argument (expected str)")

/-- `AIResponseService._calculate_real_blast_radius`, for so many rounds of its loop. -/
def calculate_real_blast_radius (process_info : Table StoredProcess) (flows : List Flow) (now : Time)
    (agent_id action_type : String) (params : Dict) (rounds : ℕ) : Option (Except AppException BlastRadius) :=
  if action_type ∈ ["kill_process", "kill_process_tree", "suspend_process"] then
    (of_process_action (find_by_agent process_info agent_id) action_type ((params.get "pid").getD .null) rounds).map
      Except.ok
  else if action_type = "isolate" then some (.ok (of_isolate flows now agent_id))
  else if action_type = "block_ip" then some (of_block_ip flows now agent_id ((params.get "ip").getD .null))
  else some (.ok {})

/-- The first pid is the parent of a process with the second one. -/
def Started (all_procs : List StoredProcess) (parent child : ℤ) : Prop :=
  ∃ p ∈ all_procs, p.parent_pid = some parent ∧ p.pid = child

/-- The pids of the processes that are reachable from the target, the target included. -/
def Affected (all_procs : List StoredProcess) (target : ℤ) : Set ℤ :=
  {pid | target ∈ all_procs.map StoredProcess.pid ∧ Relation.ReflTransGen (Started all_procs) target pid}

/-- The call returns, and reports that so many processes are affected. -/
def Reports (process_info : Table StoredProcess) (flows : List Flow) (now : Time) (agent_id action_type : String)
    (params : Dict) (processes_affected : ℕ) : Prop :=
  ∃ rounds radius, radius.processes_affected = processes_affected ∧ ∀ more, rounds ≤ more →
    calculate_real_blast_radius process_info flows now agent_id action_type params more = some (.ok radius)

theorem edge_children_eq (all_procs : List StoredProcess) :
    Worklist.Edge (children all_procs) = Started all_procs := by
  funext parent child
  simp [Worklist.Edge, children, Started, and_assoc]

theorem finite_started (all_procs : List StoredProcess) :
    {child | ∃ parent, Started all_procs parent child}.Finite := by
  refine (List.finite_toSet (all_procs.map StoredProcess.pid)).subset ?_
  rintro child ⟨parent, p, hp, -, rfl⟩
  exact List.mem_map_of_mem hp

/-- A process has one parent. -/
theorem eq_parent_of_started {all_procs : List StoredProcess} (hpids : (all_procs.map StoredProcess.pid).Nodup)
    {a b c : ℤ} (ha : Started all_procs a c) (hb : Started all_procs b c) : a = b := by
  obtain ⟨p, hp, hpa, hpc⟩ := ha
  obtain ⟨q, hq, hqb, hqc⟩ := hb
  obtain rfl := List.inj_on_of_nodup_map hpids hp hq (hpc.trans hqc.symm)
  exact Option.some.inj (hpa.symm.trans hqb)

theorem ends_iff {all_procs : List StoredProcess} (hpids : (all_procs.map StoredProcess.pid).Nodup) {pid : ℤ} :
    Worklist.Ends (children all_procs) pid ↔ ¬ Relation.TransGen (Started all_procs) pid pid := by
  rw [Worklist.Ends, edge_children_eq]
  exact Worklist.acc_iff_not_cycle (r := Started all_procs) (eq_parent_of_started hpids) (finite_started all_procs)

/-- The affected processes are processes of the table. -/
theorem affected_subset (all_procs : List StoredProcess) (target : ℤ) :
    Affected all_procs target ⊆ {pid | pid ∈ all_procs.map StoredProcess.pid} := by
  rintro pid ⟨htarget, hreach⟩
  rcases Relation.ReflTransGen.cases_tail hreach with rfl | ⟨parent, -, p, hp, -, rfl⟩
  · exact htarget
  · exact List.mem_map_of_mem hp

theorem ncard_affected_eq_zero_iff {all_procs : List StoredProcess} {target : ℤ} :
    (Affected all_procs target).ncard = 0 ↔ target ∉ all_procs.map StoredProcess.pid := by
  rw [Set.ncard_eq_zero ((List.finite_toSet _).subset (affected_subset all_procs target)),
    Set.eq_empty_iff_forall_notMem]
  exact ⟨fun h htarget => h target ⟨htarget, .refl⟩, fun h pid haffected => h haffected.1⟩

/-- The loop collects the affected processes. -/
theorem length_dedup_of_drain {all_procs : List StoredProcess} {pid : ℤ} {rounds : ℕ} {met : List ℤ}
    (hpid : pid ∈ all_procs.map StoredProcess.pid)
    (h : Worklist.drain (children all_procs) rounds [pid] [pid] = some met) :
    met.dedup.length = (Affected all_procs pid).ncard := by
  have hmet : Affected all_procs pid = (met.toFinset : Set ℤ) := by
    ext affected
    rw [List.coe_toFinset, Set.mem_ofPred_eq, Worklist.mem_of_drain h, edge_children_eq]
    simp [Affected, Relation.reflTransGen_iff_eq_or_transGen, hpid]
  rw [hmet, Set.ncard_coe_finset, List.card_toFinset]

section Target

variable {process_info : Table StoredProcess} {flows : List Flow} {now : Time} {agent_id action_type : String}
  {params : Dict} {pid : ℤ}

/-- What is left of the call for the two actions that go down from a pid. -/
theorem calculate_eq (haction : action_type ∈ ["kill_process_tree", "suspend_process"])
    (hpid : params.get "pid" = some (.num pid)) (rounds : ℕ) :
    calculate_real_blast_radius process_info flows now agent_id action_type params rounds =
      if pid = 0 ∨ pid ∉ (find_by_agent process_info agent_id).map StoredProcess.pid then some (.ok {})
      else (Worklist.drain (children (find_by_agent process_info agent_id)) rounds [pid] [pid]).map fun met =>
        .ok (of_processes (find_by_agent process_info agent_id) action_type met) := by
  have hprocess : action_type ∈ ["kill_process", "kill_process_tree", "suspend_process"] :=
    List.mem_cons_of_mem _ haction
  have htree : action_type ≠ "kill_process" := by
    rintro rfl
    exact absurd haction (by decide)
  rw [calculate_real_blast_radius, if_pos hprocess, hpid, Option.getD_some, of_process_action, Json.to_int_intCast]
  by_cases hzero : pid = 0
  · simp [hzero, Json.truthy]
  · have htruthy : (Json.num pid).truthy := by simpa [Json.truthy] using hzero
    rw [if_neg (not_not_intro htruthy)]
    dsimp only
    by_cases hmem : pid ∈ (find_by_agent process_info agent_id).map StoredProcess.pid
    · rw [if_pos hmem, if_neg (by tauto), descendants, if_neg htree, Option.map_map]
      rfl
    · rw [if_neg hmem, if_pos (Or.inr hmem)]
      rfl

/-- For a pid that is zero or not in the table nothing is counted. -/
theorem reports_zero_iff (haction : action_type ∈ ["kill_process_tree", "suspend_process"])
    (hpid : params.get "pid" = some (.num pid))
    (hnone : pid = 0 ∨ pid ∉ (find_by_agent process_info agent_id).map StoredProcess.pid) {n : ℕ} :
    Reports process_info flows now agent_id action_type params n ↔ n = 0 := by
  have hcall : ∀ rounds, calculate_real_blast_radius process_info flows now agent_id action_type params rounds =
      some (.ok {}) := fun rounds => by rw [calculate_eq haction hpid, if_pos hnone]
  constructor
  · rintro ⟨rounds, radius, rfl, hradius⟩
    have heq := (hcall rounds).symm.trans (hradius rounds le_rfl)
    obtain rfl := Except.ok.inj (Option.some.inj heq)
    rfl
  · rintro rfl
    exact ⟨0, {}, rfl, fun more _ => hcall more⟩

/-- For another pid the loop has to end, and then it has counted the affected processes. -/
theorem reports_affected_iff (haction : action_type ∈ ["kill_process_tree", "suspend_process"])
    (hpid : params.get "pid" = some (.num pid)) (hzero : pid ≠ 0)
    (hmem : pid ∈ (find_by_agent process_info agent_id).map StoredProcess.pid) {n : ℕ} :
    Reports process_info flows now agent_id action_type params n ↔
      Worklist.Ends (children (find_by_agent process_info agent_id)) pid ∧
        n = (Affected (find_by_agent process_info agent_id) pid).ncard := by
  have hcall : ∀ rounds, calculate_real_blast_radius process_info flows now agent_id action_type params rounds =
      (Worklist.drain (children (find_by_agent process_info agent_id)) rounds [pid] [pid]).map fun met =>
        .ok (of_processes (find_by_agent process_info agent_id) action_type met) := fun rounds => by
    rw [calculate_eq haction hpid, if_neg (by tauto)]
  constructor
  · rintro ⟨rounds, radius, rfl, hradius⟩
    obtain ⟨met, hmet, heq⟩ := Option.map_eq_some_iff.mp ((hcall rounds).symm.trans (hradius rounds le_rfl))
    obtain rfl := Except.ok.inj heq
    exact ⟨Worklist.ends_of_drain hmet pid List.mem_cons_self, length_dedup_of_drain hmem hmet⟩
  · rintro ⟨hends, rfl⟩
    obtain ⟨rounds, met, hmet⟩ : ∃ rounds met, Worklist.drain _ rounds [pid] [pid] = some met :=
      Worklist.exists_drain_iff.mpr (by simpa using hends)
    refine ⟨rounds, of_processes (find_by_agent process_info agent_id) action_type met,
      length_dedup_of_drain hmem hmet, fun more hmore => ?_⟩
    rw [hcall, Worklist.drain_mono hmet hmore, Option.map_some]

end Target

/-- The law: the call returns and reports how many processes are reachable from the target. -/
def Law (process_info : Table StoredProcess) (flows : List Flow) (now : Time) (agent_id action_type : String)
    (params : Dict) (pid : ℤ) : Prop :=
  Reports process_info flows now agent_id action_type params
    (Affected (find_by_agent process_info agent_id) pid).ncard

/-- The law holds exactly when the target is unknown, or is neither zero nor one of its own descendants. -/
theorem blastRadiusLaw_iff (process_info : Table StoredProcess) (flows : List Flow) (now : Time) (agent_id action_type : String)
    (params : Dict) (pid : ℤ) (hpids : ((find_by_agent process_info agent_id).map StoredProcess.pid).Nodup)
    (haction : action_type ∈ ["kill_process_tree", "suspend_process"])
    (hpid : params.get "pid" = some (.num pid)) :
    Law process_info flows now agent_id action_type params pid ↔
      pid ∉ (find_by_agent process_info agent_id).map StoredProcess.pid ∨
        pid ≠ 0 ∧ ¬ Relation.TransGen (Started (find_by_agent process_info agent_id)) pid pid := by
  rw [← ends_iff hpids, ← ncard_affected_eq_zero_iff, Law]
  by_cases hnone : pid = 0 ∨ pid ∉ (find_by_agent process_info agent_id).map StoredProcess.pid
  · rw [reports_zero_iff haction hpid hnone]
    rw [← ncard_affected_eq_zero_iff] at hnone
    tauto
  · obtain ⟨hzero, hmem⟩ := not_or.mp hnone
    rw [reports_affected_iff haction hpid hzero (not_not.mp hmem)]
    rw [← ncard_affected_eq_zero_iff] at hmem
    tauto

private def running (pid : ℤ) (parent_pid : Option ℤ) : StoredProcess :=
  { id := "proc_" ++ toString pid, agent_id := "web-1", pid, parent_pid, name := "sh", created_at := 0 }

/-- A shell with a child and a grandchild, beside a process of its own. -/
private def family : Table StoredProcess :=
  ⟨[running 4 (some 1), running 7 (some 4), running 8 (some 7), running 9 none], by decide⟩

example : calculate_real_blast_radius family [] 0 "web-1" "kill_process_tree" [("pid", .num 4)] 4 =
    some (.ok { processes_affected := 3 }) := by decide +kernel

theorem law_grandchild : Law family [] 0 "web-1" "suspend_process" [("pid", .num (7 : ℤ))] 7 := by
  have hdrain : Worklist.drain (children (find_by_agent family "web-1")) 2 [7] [7] = some [7, 8] := by decide +kernel
  have hends := (ends_iff (by decide)).mp (Worklist.ends_of_drain hdrain 7 List.mem_cons_self)
  exact (blastRadiusLaw_iff family [] 0 "web-1" "suspend_process" [("pid", .num (7 : ℤ))] 7 (by decide) (by decide) rfl).mpr
    (Or.inr ⟨by decide, hends⟩)

/-- A process that was reported as its own parent. -/
private def own_parent : Table StoredProcess :=
  ⟨[running 4 (some 4)], by decide⟩

/-- The law for every table, target and action that goes down from a process. -/
def BlastRadiusLaw : Prop :=
  ∀ (process_info : Table StoredProcess) (flows : List Flow) (now : Time) (agent_id action_type : String)
    (params : Dict) (pid : ℤ), ((find_by_agent process_info agent_id).map StoredProcess.pid).Nodup →
    action_type ∈ ["kill_process_tree", "suspend_process"] → params.get "pid" = some (.num pid) →
    Law process_info flows now agent_id action_type params pid

theorem not_blastRadiusLaw_own_parent : ¬ BlastRadiusLaw := by
  intro h
  have hlaw := h own_parent [] 0 "web-1" "kill_process_tree" [("pid", .num (4 : ℤ))] 4 (by decide) (by decide) rfl
  obtain ⟨hends, -⟩ := (reports_affected_iff (by decide) rfl (by decide) (by decide)).mp hlaw
  refine (ends_iff (by decide)).mp hends (.single ⟨running 4 (some 4), ?_, rfl, rfl⟩)
  simp [find_by_agent, own_parent, running]

end BlastRadius

end larp
