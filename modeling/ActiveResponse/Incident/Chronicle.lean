import ActiveResponse.Incident.Timeline

namespace larp

namespace TimelineTables

variable (self : TimelineTables) (python : TimelinePython) (incident : TimelineIncident)

/-! ## What the stages yield -/

/-- An entry with the time of an instant, about no action. -/
def Plain (entry : TimelineEntry) : Prop := (∃ t, IsDatetime t ∧ entry.time = isoformat t) ∧ entry.action_id = none

section Stages

variable {self python incident} {entries : List TimelineEntry} {entry : TimelineEntry}

theorem time_before_eq_ok {t s : Time} {n : ℤ} (h : time_before t n = .ok s) : IsDatetime s := by
  unfold time_before at h
  split at h
  · rename_i hrange
    cases h
    exact hrange
  · cases h

/-- If five minutes before an instant are in range, so is every time between. -/
theorem exists_time_before {t n : ℤ} (ht : IsDatetime t) (hfirst : IsDatetime (t - seconds 300))
    (hn : 0 ≤ n ∧ n ≤ 300) : ∃ s, time_before t n = .ok s := by
  have hlow : (-62135596800000000 : ℤ) ≤ t - 1000000 * 300 := hfirst.1
  have hhigh : t < (253402300800000000 : ℤ) := ht.2
  have hrange : IsDatetime (t - seconds n) := by
    constructor
    · change (-62135596800000000 : ℤ) ≤ t - 1000000 * n
      omega
    · change t - 1000000 * n < (253402300800000000 : ℤ)
      omega
  exact ⟨_, if_pos hrange⟩

theorem spawn_entry_plain {desc_lower : String} {procs : List StoredProcess} {culprit : StoredProcess}
    (hculprit : IsDatetime culprit.created_at) (h : spawn_entry incident desc_lower procs culprit = .ok entry) :
    Plain entry := by
  obtain ⟨p_time, htime, hentry⟩ := bind_eq_ok_iff.mp h
  obtain rfl := Except.ok.inj hentry
  refine ⟨⟨p_time, ?_, rfl⟩, rfl⟩
  unfold spawn_time at htime
  split at htime
  · exact time_before_eq_ok htime
  · cases htime
    exact hculprit

theorem fallback_spawn_plain (h : fallback_spawn python incident = .ok entry) : Plain entry := by
  obtain ⟨t_spawn, htime, hentry⟩ := bind_eq_ok_iff.mp h
  obtain rfl := Except.ok.inj hentry
  exact ⟨⟨t_spawn, time_before_eq_ok htime, rfl⟩, rfl⟩

theorem network_entries_plain {desc_lower : Option String} {culprit : Option StoredProcess}
    {flows : List TimelineFlow} (hflows : ∀ flow ∈ flows, IsDatetime flow.start_time)
    (h : network_entries incident desc_lower culprit flows = .ok entries) : ∀ entry ∈ entries, Plain entry := by
  unfold network_entries at h
  intro entry hentry
  split at h
  · split at h
    · cases h
    · split at h
      · obtain ⟨t_net, htime, hentries⟩ := bind_eq_ok_iff.mp h
        obtain rfl := Except.ok.inj hentries
        rw [List.mem_singleton.mp hentry]
        exact ⟨⟨t_net, time_before_eq_ok htime, rfl⟩, rfl⟩
      · cases h
        cases hentry
  · cases h
    obtain ⟨flow, hflow, rfl⟩ := List.mem_map.mp hentry
    exact ⟨⟨flow.start_time, hflows flow hflow, rfl⟩, rfl⟩

theorem rule_entry_plain {time : Time} {severity r_name reason : String} {score : PyFloat} (htime : IsDatetime time)
    (h : rule_entry time severity score r_name reason = .ok entry) : Plain entry := by
  obtain ⟨points, -, hentry⟩ := bind_eq_ok_iff.mp h
  obtain rfl := Except.ok.inj hentry
  exact ⟨⟨time, htime, rfl⟩, rfl⟩

theorem rule_entries_plain {records : List TimelineRisk} (hrecords : ∀ record ∈ records, IsDatetime record.timestamp)
    (h : rule_entries python incident records = .ok entries) : ∀ entry ∈ entries, Plain entry := by
  unfold rule_entries at h
  intro entry hentry
  split at h
  · rename_i record hfind
    obtain ⟨factor, -, hfactor⟩ := mem_of_mapM_eq_ok h hentry
    exact rule_entry_plain (hrecords record (List.mem_of_find?_eq_some hfind)) hfactor
  · dsimp only at h
    split at h
    · obtain ⟨t_rule, htime, hentries⟩ := bind_eq_ok_iff.mp h
      obtain rfl := Except.ok.inj hentries
      rw [List.mem_singleton.mp hentry]
      exact ⟨⟨t_rule, time_before_eq_ok htime, rfl⟩, rfl⟩
    · obtain ⟨factor, -, hfactor⟩ := mem_of_mapM_eq_ok h hentry
      obtain ⟨t_rule, htime, hrule⟩ := bind_eq_ok_iff.mp hfactor
      exact rule_entry_plain (time_before_eq_ok htime) hrule

theorem process_entry_plain {desc_lower : Option String} {procs : List StoredProcess} {culprit : Option StoredProcess}
    (hculprit : ∀ proc ∈ culprit, IsDatetime proc.created_at)
    (h : process_entry python incident desc_lower procs culprit = .ok entry) : Plain entry := by
  unfold process_entry at h
  split at h
  · exact spawn_entry_plain (hculprit _ rfl) h
  · exact fallback_spawn_plain h

/-- The culprit is one of the processes. -/
theorem mem_of_culprit {desc_lower : String} {procs : List StoredProcess} {culprit : StoredProcess}
    (h : culprit_proc python desc_lower procs = some culprit) : culprit ∈ procs := by
  obtain hfind | ⟨-, hhead⟩ := Option.or_eq_some_iff.mp h
  · exact List.mem_of_find?_eq_some hfind
  · exact List.mem_of_mem_head? hhead

theorem mem_procs {agent_id : String} {proc : StoredProcess} (h : proc ∈ self.procs agent_id) :
    IsDatetime proc.created_at :=
  self.process_times proc (Table.mem_select_desc.mp (List.mem_of_mem_take h)).1

theorem mem_newest_flows {agent_id : String} {flow : TimelineFlow} (h : flow ∈ self.newest_flows agent_id) :
    IsDatetime flow.start_time :=
  self.flow_times flow (Table.mem_select_desc.mp (List.mem_of_mem_take h)).1

theorem mem_risk_records {agent_id : String} {record : TimelineRisk} (h : record ∈ self.risk_records agent_id) :
    IsDatetime record.timestamp :=
  self.risk_times record (Table.mem_select_desc.mp (List.mem_of_mem_take h)).1

/-- What holds of the rows of every agent holds of those of an incident, with or without an agent. -/
theorem forall_mem_of_agent {A : Type} {rows : String → List A} {P : A → Prop}
    (h : ∀ agent_id, ∀ a ∈ rows agent_id, P a) (agent_id : Option String) :
    ∀ a ∈ (agent_id.map rows).getD [], P a := by
  cases agent_id with
  | none => exact fun a ha => (by cases ha)
  | some agent_id => exact h agent_id

/-- The entries of the actions come after entries with instants that are about no action. -/
theorem collect_eq_ok (h : self.collect python incident = .ok entries) :
    ∃ plain, entries = plain ++ (self.response_actions.select_asc (Linked incident) ResponseAction.created_at).map
      (action_entry python) ∧ ∀ entry ∈ plain, Plain entry := by
  obtain ⟨spawn, hspawn, h⟩ := bind_eq_ok_iff.mp h
  obtain ⟨network, hnetwork, h⟩ := bind_eq_ok_iff.mp h
  obtain ⟨rules, hrules, h⟩ := bind_eq_ok_iff.mp h
  obtain ⟨actions, hactions, h⟩ := bind_eq_ok_iff.mp h
  obtain ⟨_, -, hactions⟩ := bind_eq_ok_iff.mp hactions
  obtain rfl := Except.ok.inj hactions
  obtain rfl := Except.ok.inj h
  refine ⟨spawn :: (network ++ rules), rfl, ?_⟩
  have hprocs := forall_mem_of_agent (fun agent_id proc (hproc : proc ∈ self.procs agent_id) => mem_procs hproc)
    (incident.agent_id.filter (· ≠ ""))
  have hculprit : Plain spawn := by
    refine process_entry_plain (fun proc hproc => ?_) hspawn
    obtain ⟨desc_lower, -, hproc⟩ := Option.bind_eq_some_iff.mp hproc
    exact hprocs proc (mem_of_culprit hproc)
  rw [List.forall_mem_cons, List.forall_mem_append]
  exact ⟨hculprit, network_entries_plain (forall_mem_of_agent (fun _ _ => mem_newest_flows) _) hnetwork,
    rule_entries_plain (forall_mem_of_agent (fun _ _ => mem_risk_records) _) hrules⟩

/-! ## When the stages yield entries -/

theorem exists_process_entry (htime : IsDatetime incident.created_at)
    (hfirst : IsDatetime (incident.created_at - seconds 300)) (desc_lower : Option String)
    (procs : List StoredProcess) (culprit : Option StoredProcess) :
    ∃ entry, process_entry python incident desc_lower procs culprit = .ok entry := by
  unfold process_entry
  split
  · refine exists_bind_eq_ok ?_ fun p_time _ => ⟨_, rfl⟩
    unfold spawn_time
    split
    · exact exists_time_before htime hfirst (by decide)
    · exact ⟨_, rfl⟩
  · exact exists_bind_eq_ok (exists_time_before htime hfirst (by decide)) fun t_spawn _ => ⟨_, rfl⟩

theorem exists_network_entries (htime : IsDatetime incident.created_at)
    (hfirst : IsDatetime (incident.created_at - seconds 300)) (desc_lower : String) (culprit : Option StoredProcess)
    (flows : List TimelineFlow) :
    ∃ entries, network_entries incident (some desc_lower) culprit flows = .ok entries := by
  unfold network_entries
  split
  · dsimp only
    split
    · exact exists_bind_eq_ok (exists_time_before htime hfirst (by decide)) fun t_net _ => ⟨_, rfl⟩
    · exact ⟨_, rfl⟩
  · exact ⟨_, rfl⟩

/-- The score that the entries of the rules show, if there are any. -/
def shown_score (python : TimelinePython) (incident : TimelineIncident) (records : List TimelineRisk) :
    Option PyFloat :=
  match records.find? fun record => !record.factors.isEmpty with
  | some record => if (rule_factors record.factors).isEmpty then none else some record.score
  | none =>
    if (rule_factors (parse_factors python.loaders incident.description)).isEmpty then none
    else some incident.risk_score

theorem exists_to_int {score : PyFloat} : (∃ points, score.to_int = .ok points) ↔ ∃ q, score = .finite q := by
  cases score <;> simp [PyFloat.to_int]

theorem exists_rule_entry {time : Time} {severity r_name reason : String} {score : PyFloat} :
    (∃ entry, rule_entry time severity score r_name reason = .ok entry) ↔ ∃ q, score = .finite q := by
  rw [← exists_to_int]
  constructor
  · rintro ⟨entry, hentry⟩
    obtain ⟨points, hpoints, -⟩ := bind_eq_ok_iff.mp hentry
    exact ⟨points, hpoints⟩
  · exact fun hpoints => exists_bind_eq_ok hpoints fun points _ => ⟨_, rfl⟩

/-- There is an entry for each factor, and all of them show the same score. -/
theorem forall_factor_iff {V : Type} {factors : List V} {score : PyFloat} :
    (∀ factor ∈ factors, ∃ q, score = .finite q) ↔
      ∀ shown ∈ if factors.isEmpty then none else some score, ∃ q, shown = .finite q := by
  cases factors with
  | nil => simp
  | cons factor factors =>
    rw [List.isEmpty_cons, if_neg Bool.false_ne_true]
    constructor
    · intro h shown hshown
      rw [← Option.mem_some_iff.mp hshown]
      exact h factor List.mem_cons_self
    · exact fun h _ _ => h score rfl

/-- The entries of the rules are built exactly if the score that they show is finite. -/
theorem exists_rule_entries (htime : IsDatetime incident.created_at)
    (hfirst : IsDatetime (incident.created_at - seconds 300)) (records : List TimelineRisk) :
    (∃ entries, rule_entries python incident records = .ok entries) ↔
      ∀ score ∈ shown_score python incident records, ∃ q, score = .finite q := by
  obtain ⟨t_rule, hrule⟩ := exists_time_before htime hfirst (n := 2) (by decide)
  unfold rule_entries shown_score
  cases records.find? fun record => !record.factors.isEmpty with
  | some record =>
    dsimp only
    rw [← forall_factor_iff, exists_mapM_eq_ok]
    simp only [exists_rule_entry]
  | none =>
    dsimp only
    rw [← forall_factor_iff]
    split
    · rename_i hempty
      have hparsed := List.isEmpty_iff.mp hempty
      refine iff_of_true (exists_bind_eq_ok ⟨t_rule, hrule⟩ fun _ _ => ⟨_, rfl⟩) fun factor hfactor => ?_
      rw [hparsed] at hfactor
      cases hfactor
    · rw [exists_mapM_eq_ok]
      simp only [hrule, bind, Except.bind, exists_rule_entry]

/-- What an incident must be for its timeline to be built: it has an agent, it happened five minutes after the first
instant or later, and the score that the rules show is finite. -/
structure Buildable (tables : TimelineTables) (python : TimelinePython) (incident : TimelineIncident) : Prop where
  agent : ∃ agent_id, incident.agent_id = some agent_id ∧ agent_id ≠ ""
  time : IsDatetime (incident.created_at - seconds 300)
  score : ∀ agent_id, incident.agent_id = some agent_id →
    ∀ score ∈ shown_score python incident (tables.risk_records agent_id), ∃ q, score = .finite q

theorem filter_agent {agent_id : String} (h : incident.agent_id = some agent_id) (hne : agent_id ≠ "") :
    incident.agent_id.filter (· ≠ "") = some agent_id := by
  rw [h, Option.filter_some, if_pos (by simpa using hne)]

theorem exists_collect_iff (htime : IsDatetime incident.created_at) :
    (∃ entries, self.collect python incident = .ok entries) ↔ self.Buildable python incident := by
  constructor
  · rintro ⟨entries, h⟩
    obtain ⟨spawn, -, h⟩ := bind_eq_ok_iff.mp h
    obtain ⟨network, hnetwork, h⟩ := bind_eq_ok_iff.mp h
    obtain ⟨rules, hrules, h⟩ := bind_eq_ok_iff.mp h
    obtain ⟨actions, hactions, -⟩ := bind_eq_ok_iff.mp h
    obtain ⟨first, hfirst, -⟩ := bind_eq_ok_iff.mp hactions
    have hrange : IsDatetime (incident.created_at - seconds 300) := by
      unfold time_before at hfirst
      split at hfirst
      · assumption
      · cases hfirst
    cases hagent : incident.agent_id.filter (· ≠ "") with
    | none =>
      -- the name `desc_lower` is read and was never bound
      rw [hagent] at hnetwork
      cases hnetwork
    | some agent_id =>
      rw [hagent] at hrules
      obtain ⟨hsome, hne⟩ := Option.filter_eq_some_iff.mp hagent
      refine ⟨⟨agent_id, hsome, by simpa using hne⟩, hrange, fun other hother => ?_⟩
      obtain rfl := Option.some.inj (hsome.symm.trans hother)
      exact (exists_rule_entries htime hrange _).mp ⟨rules, hrules⟩
  · rintro ⟨⟨agent_id, hagent, hne⟩, hfirst, hscore⟩
    unfold collect
    simp only [filter_agent hagent hne, Option.map_some, Option.getD_some]
    refine exists_bind_eq_ok (exists_process_entry htime hfirst _ _ _) fun spawn _ => ?_
    refine exists_bind_eq_ok (exists_network_entries htime hfirst _ _ _) fun network _ => ?_
    refine exists_bind_eq_ok ((exists_rule_entries htime hfirst _).mpr (hscore agent_id hagent)) fun rules _ => ?_
    refine exists_bind_eq_ok ?_ fun actions _ => ⟨_, rfl⟩
    exact exists_bind_eq_ok (exists_time_before htime hfirst (by decide)) fun _ _ => ⟨_, rfl⟩

end Stages

/-! ## The law -/

/-- A timeline in the order of the instants of its entries, with one entry for every action of the incident. -/
structure Chronicle (tables : TimelineTables) (incident : TimelineIncident) (timeline : List TimelineEntry) :
    Prop where
  chronological : ∃ instants : List Time, (∀ t ∈ instants, IsDatetime t) ∧
    timeline.map TimelineEntry.time = instants.map isoformat ∧ instants.Pairwise (· ≤ ·)
  actions : ∀ act ∈ tables.response_actions.rows, Linked incident act →
    timeline.countP (fun entry => entry.action_id = some act.id) = 1

/-- The timeline of the incident is built, and it is a chronicle. -/
def BuildsTimeline : Prop :=
  ∃ timeline, self.build_timeline python incident.id = .ok (incident.id, timeline) ∧ self.Chronicle incident timeline

section Law

variable {self python incident} {entries : List TimelineEntry}

theorem exists_instants (h : ∀ entry ∈ entries, ∃ t, IsDatetime t ∧ entry.time = isoformat t) :
    ∃ instants : List Time, (∀ t ∈ instants, IsDatetime t) ∧
      entries.map TimelineEntry.time = instants.map isoformat := by
  induction entries with
  | nil => exact ⟨[], fun t ht => (by cases ht), rfl⟩
  | cons entry entries ih =>
    obtain ⟨⟨t, ht, htime⟩, hrest⟩ := List.forall_mem_cons.mp h
    obtain ⟨instants, hinstants, hmap⟩ := ih hrest
    exact ⟨t :: instants, List.forall_mem_cons.mpr ⟨ht, hinstants⟩, by rw [List.map_cons, List.map_cons, htime, hmap]⟩

/-- Sorting by the texts of the times sorts by the instants. -/
theorem chronological_insertionSort (h : ∀ entry ∈ entries, ∃ t, IsDatetime t ∧ entry.time = isoformat t) :
    ∃ instants : List Time, (∀ t ∈ instants, IsDatetime t) ∧
      (entries.insertionSort fun a b => a.time ≤ b.time).map TimelineEntry.time = instants.map isoformat ∧
        instants.Pairwise (· ≤ ·) := by
  have hsorted : (entries.insertionSort fun a b => a.time ≤ b.time).Pairwise fun a b => a.time ≤ b.time :=
    haveI : Std.Total fun a b : TimelineEntry => a.time ≤ b.time := ⟨fun a b => le_total a.time b.time⟩
    haveI : IsTrans TimelineEntry fun a b => a.time ≤ b.time := ⟨fun _ _ _ hab hbc => le_trans hab hbc⟩
    List.pairwise_insertionSort _ _
  have htimed : ∀ entry ∈ entries.insertionSort fun a b => a.time ≤ b.time,
      ∃ t, IsDatetime t ∧ entry.time = isoformat t :=
    fun entry hentry => h entry ((List.mem_insertionSort _).mp hentry)
  obtain ⟨instants, hinstants, hmap⟩ := exists_instants htimed
  refine ⟨instants, hinstants, hmap, ?_⟩
  have htexts : (instants.map isoformat).Pairwise (· ≤ ·) := by
    rw [← hmap, List.pairwise_map]
    exact hsorted
  rw [List.pairwise_map] at htexts
  exact htexts.imp_of_mem fun ht hs hle => (isoformat_le_iff (hinstants _ ht) (hinstants _ hs)).mp hle

/-- A selection has each of its rows once. -/
theorem countP_linked {act : ResponseAction} (hact : act ∈ self.response_actions.rows)
    (hlinked : Linked incident act) :
    (self.response_actions.select_asc (Linked incident) ResponseAction.created_at).countP
      (fun row => row.id = act.id) = 1 := by
  have hrow : self.response_actions.rows.filter (fun row => row.id = act.id) = [act] := by
    have hget := self.response_actions.filter_key act.id
    rwa [show self.response_actions.get act.id = some act from Table.get_of_mem hact] at hget
  rw [Table.select_asc, (List.perm_insertionSort _ _).countP_eq, List.countP_eq_length_filter, List.filter_comm, hrow,
    List.filter_cons_of_pos (by simpa using hlinked)]
  rfl

/-- What is collected and sorted is a chronicle. -/
theorem chronicle_of_collect (h : self.collect python incident = .ok entries) :
    self.Chronicle incident (entries.insertionSort fun a b => a.time ≤ b.time) := by
  obtain ⟨plain, rfl, hplain⟩ := collect_eq_ok h
  constructor
  · refine chronological_insertionSort fun entry hentry => ?_
    obtain hmem | hmem := List.mem_append.mp hentry
    · exact (hplain entry hmem).1
    · obtain ⟨act, hact, rfl⟩ := List.mem_map.mp hmem
      exact ⟨_, self.action_times act (Table.mem_select_asc.mp hact).1, rfl⟩
  · intro act hact hlinked
    have hnone : plain.countP (fun entry => entry.action_id = some act.id) = 0 := by
      rw [List.countP_eq_zero]
      intro entry hentry
      simp [(hplain entry hentry).2]
    rw [(List.perm_insertionSort _ _).countP_eq, List.countP_append, hnone, Nat.zero_add, List.countP_map,
      ← countP_linked hact hlinked]
    exact List.countP_congr fun row _ => by simp [action_entry, TimelineEntry.action_id]

/-- The timeline of a stored incident is built, in order and with its actions, exactly if the incident has an agent,
is not from the first minutes of the calendar, and shows a finite score. -/
theorem buildsTimeline_iff (self : TimelineTables) (python : TimelinePython) {incident : TimelineIncident}
    (hstored : incident ∈ self.incidents.rows) :
    self.BuildsTimeline python incident ↔ self.Buildable python incident := by
  have hget : self.incidents.get incident.id = some incident := Table.get_of_mem hstored
  rw [← exists_collect_iff (self.incident_times incident hstored)]
  constructor
  · rintro ⟨timeline, hbuild, -⟩
    simp only [build_timeline, hget] at hbuild
    obtain ⟨entries, hentries, -⟩ := bind_eq_ok_iff.mp hbuild
    exact ⟨entries, hentries⟩
  · rintro ⟨entries, hentries⟩
    refine ⟨_, ?_, chronicle_of_collect hentries⟩
    simp only [build_timeline, hget, hentries]
    rfl

def manual_incident (id : String) (agent_id : Option String) : TimelineIncident where
  id := id
  title := "Manual"
  description := "miner on agent_1"
  agent_id := agent_id
  created_at := seconds 1700000000

def shell_process : StoredProcess where
  id := "proc_1"
  agent_id := "agent_1"
  pid := 100
  name := "bash"
  created_at := seconds 1699999990

def miner_process : StoredProcess where
  id := "proc_2"
  agent_id := "agent_1"
  pid := 4242
  parent_pid := some 100
  name := "xmrig"
  exe := "/tmp/xmrig"
  is_suspicious := true
  created_at := seconds 1700000003

def pool_flow : TimelineFlow where
  id := "flow_1"
  src_ip := "10.0.0.5"
  dst_ip := "203.0.113.9"
  dst_port := 4444
  bytes_sent := 5120
  agent_id := some "agent_1"
  start_time := seconds 1699999995
  created_at := seconds 1699999996
  packets_sent := 12

def miner_risk : TimelineRisk where
  id := "risk_1"
  agent_id := "agent_1"
  score := .finite 72
  factors := [("c2_communication", .str "203.0.113.9:4444"), ("total_score", .num 72)]
  timestamp := seconds 1699999998

/-- An action of the policies, shortly before the incident. -/
def early_action : ResponseAction where
  id := "act_1"
  agent_id := "agent_1"
  action_type := "kill_process"
  action_params := [("policy_id", .str "policy_1")]
  created_at := seconds 1699999999
  updated_at := seconds 1699999999

/-- An action of the incident. -/
def incident_action : ResponseAction where
  id := "act_2"
  incident_id := some "inc_2"
  agent_id := "agent_1"
  action_type := "isolate"
  status := .applied
  applied_at := some (seconds 1700000012)
  created_at := seconds 1700000010
  updated_at := seconds 1700000012

/-- Two incidents, one of which has no agent. -/
def two_incidents : TimelineTables where
  incidents := ⟨[manual_incident "inc_1" none, manual_incident "inc_2" (some "agent_1")], by decide⟩
  process_info := ⟨[shell_process, miner_process], by decide⟩
  flows := ⟨[pool_flow], by decide⟩
  risk_score_records := ⟨[miner_risk], by decide⟩
  response_actions := ⟨[early_action, incident_action], by decide⟩
  incident_times := by decide
  process_times := by decide
  flow_times := by decide
  risk_times := by decide
  action_times := by decide

def ascii_python : TimelinePython where
  lower := py_lower
  upper := String.toUpper
  str _ := ""
  loaders := ⟨fun _ => none, fun _ => none⟩

/-- The incident with an agent has a timeline. -/
theorem buildsTimeline_manual :
    two_incidents.BuildsTimeline ascii_python (manual_incident "inc_2" (some "agent_1")) := by
  refine (buildsTimeline_iff two_incidents ascii_python (List.mem_cons_of_mem _ List.mem_cons_self)).mpr
    ⟨⟨"agent_1", rfl, by decide⟩, by decide, ?_⟩
  intro agent_id hagent score hscore
  cases hagent
  have hshown : shown_score ascii_python (manual_incident "inc_2" (some "agent_1"))
      (two_incidents.risk_records "agent_1") = some (.finite 72) := by decide +kernel
  rw [hshown] at hscore
  exact ⟨72, (Option.some.inj hscore).symm⟩

/-- The other one has none: the query for flows is skipped, and the lowered description is not there. -/
theorem not_buildsTimeline_agentless :
    ¬ two_incidents.BuildsTimeline ascii_python (manual_incident "inc_1" none) := by
  rintro ⟨timeline, hbuild, -⟩
  have hget : two_incidents.incidents.get (manual_incident "inc_1" none).id = some (manual_incident "inc_1" none) :=
    Table.get_of_mem List.mem_cons_self
  simp only [build_timeline, hget] at hbuild
  obtain ⟨entries, hentries, -⟩ := bind_eq_ok_iff.mp hbuild
  have hbuildable := (exists_collect_iff (by decide)).mp ⟨entries, hentries⟩
  obtain ⟨agent_id, hagent, -⟩ := hbuildable.agent
  cases hagent

end Law

end TimelineTables

end larp
