import ActiveResponse.Agent.Fim
import ActiveResponse.Lib.Run

namespace larp

/-- How `send_ws_json_no_wait` ends: the message is sent, the connection is closed, or another exception is printed. -/
inductive SendOutcome where
  | sent
  | closed
  | failed

/-- The agent process as far as its file monitoring is concerned: the monitor of the connection that is open, the
alerts of its last scan that are still to be sent, and that scan. Beside the state of the program stand the hashes
that follow from what has been sent: the baseline of the first connection with the alerts since. A loop whose
connection is gone is not cancelled, but it can send nothing. -/
structure FimProcess where
  monitor : Option FileIntegrityMonitor := none
  pending : List FimAlert := []
  scanned : Option FileSnapshot := none
  known : Option KnownHashes := none

inductive FimStep where
  | connect (snapshot : FileSnapshot)
  | scan (now : Time) (snapshot : FileSnapshot)
  | send (outcome : SendOutcome)
  | disconnect

/-- The known hashes agree with the files that can be read. -/
structure KnownHashes.Agrees (known : KnownHashes) (targets : List String) (snapshot : FileSnapshot) : Prop where
  readable : ∀ path ∈ targets, ∀ hash, snapshot.state path = .readable hash → known path = some hash
  known : ∀ path hash, known path = some hash → snapshot.state path = .readable hash ∨ snapshot.state path = .unreadable

namespace FimProcess

variable (agent_id : String) (watched_files : List String) (yara : String → List String)
  (set_order : List String → List String)

/-- The monitor that `send_fim_alerts` creates for a connection. -/
def new_monitor (snapshot : FileSnapshot) : FileIntegrityMonitor :=
  ({ agent_id, watched_files } : FileIntegrityMonitor).initialize_baseline snapshot

/-- The connection ends, and with it what has not been sent. -/
def end_connection (self : FimProcess) : FimProcess := { known := self.known }

/-- The next alert of the loop. -/
def send (self : FimProcess) (alert : FimAlert) (rest : List FimAlert) : SendOutcome → FimProcess
  | .sent => { self with pending := rest, known := self.known.map fun known => alert.apply known }
  | .failed => { self with pending := rest }
  | .closed => self.end_connection

/-- The steps of `main_agent` and `send_fim_alerts`. A step that does not come next has no effect. -/
def step (self : FimProcess) : FimStep → FimProcess
  | .connect snapshot =>
    match self.monitor with
    | none =>
      let monitor := new_monitor agent_id watched_files snapshot
      { monitor := some monitor, known := some (self.known.getD (Assoc.view monitor.file_hashes)) }
    | some _ => self
  | .scan now snapshot =>
    match self.monitor, self.pending with
    | some monitor, [] =>
      let (alerts, monitor) := monitor.check_integrity yara now snapshot set_order
      { self with monitor := some monitor, pending := alerts, scanned := some snapshot }
    | _, _ => self
  | .send outcome =>
    match self.monitor, self.pending with
    | some _, alert :: rest => self.send alert rest outcome
    | _, _ => self
  | .disconnect => self.end_connection

/-- The condition on a step: no send fails while the loop goes on, and the baseline of a reconnection is what is
already known. -/
def Reliable (self : FimProcess) : FimStep → Prop
  | .connect snapshot => self.monitor = none → ∀ known, self.known = some known →
      Assoc.view (new_monitor agent_id watched_files snapshot).file_hashes = known
  | .send .failed => self.pending = []
  | _ => True

/-- No change has been absorbed: when all alerts of a scan have been sent, what is known agrees with the files. -/
def Faithful (self : FimProcess) : Prop :=
  ∀ monitor ∈ self.monitor, ∀ snapshot ∈ self.scanned, self.pending = [] →
    ∃ known, self.known = some known ∧ known.Agrees (monitor.get_all_target_files snapshot) snapshot

/-- The cache is ahead of what is known by the alerts that are still to be sent, and agrees with the last scan. -/
structure InStep (process : FimProcess) : Prop where
  idle : process.monitor = none → process.pending = [] ∧ process.scanned = none
  cache : ∀ monitor ∈ process.monitor, monitor.initialized ∧ (monitor.file_hashes.map Prod.fst).Nodup ∧
    (∃ known, process.known = some known ∧
      process.pending.foldl FimAlert.apply known = Assoc.view monitor.file_hashes) ∧
    ∀ snapshot ∈ process.scanned,
      KnownHashes.Agrees (Assoc.view monitor.file_hashes) (monitor.get_all_target_files snapshot) snapshot

variable {agent_id watched_files yara set_order} {self : FimProcess}

theorem InStep.faithful (h : self.InStep) : self.Faithful := by
  intro monitor hmonitor snapshot hsnapshot hpending
  obtain ⟨_, _, ⟨known, hknown, hcache⟩, hagrees⟩ := h.cache monitor hmonitor
  rw [hpending, List.foldl_nil] at hcache
  exact ⟨known, hknown, hcache ▸ hagrees snapshot hsnapshot⟩

theorem inStep_end_connection : self.end_connection.InStep :=
  ⟨fun _ => ⟨rfl, rfl⟩, fun _ hmonitor => by cases hmonitor⟩

/-- After a scan the cache agrees with the files. -/
theorem agrees_check_integrity (horder : ∀ targets, (set_order targets).Perm targets)
    {monitor : FileIntegrityMonitor} (hnodup : (monitor.file_hashes.map Prod.fst).Nodup) (now : Time)
    (snapshot : FileSnapshot) :
    KnownHashes.Agrees (Assoc.view (monitor.check_integrity yara now snapshot set_order).2.file_hashes)
      (monitor.get_all_target_files snapshot) snapshot := by
  have hview (path : String) :
      Assoc.view (monitor.check_integrity yara now snapshot set_order).2.file_hashes path = _ :=
    FileIntegrityMonitor.view_check_integrity horder hnodup path
  constructor
  · intro path hpath hash hstate
    rw [hview, hstate]
    exact if_pos (Or.inl hpath)
  · intro path hash hcached
    rw [hview] at hcached
    cases hstate : snapshot.state path with
    | absent => simp [hstate] at hcached
    | unreadable => exact Or.inr rfl
    | readable current =>
      rw [hstate] at hcached
      dsimp only at hcached
      split at hcached
      · cases hcached
        exact Or.inl rfl
      · cases hcached

theorem InStep.connect (h : self.InStep) {snapshot : FileSnapshot}
    (hreliable : self.Reliable agent_id watched_files (.connect snapshot)) :
    (self.step agent_id watched_files yara set_order (.connect snapshot)).InStep := by
  simp only [FimProcess.step]
  split
  · rename_i hmonitor
    refine ⟨fun hnone => (by cases hnone), fun monitor hmem => ?_⟩
    cases hmem
    refine ⟨rfl, FileIntegrityMonitor.nodup_initialize_baseline List.nodup_nil, ⟨_, rfl, ?_⟩,
      fun _ hscanned => by cases hscanned⟩
    cases hknown : self.known with
    | none => rfl
    | some known => exact (hreliable hmonitor known hknown).symm
  · exact h

theorem InStep.scan (h : self.InStep) (horder : ∀ targets, (set_order targets).Perm targets) (now : Time)
    (snapshot : FileSnapshot) :
    (self.step agent_id watched_files yara set_order (.scan now snapshot)).InStep := by
  simp only [FimProcess.step]
  split
  · rename_i monitor hmonitor hpending
    obtain ⟨hinitialized, hnodup, ⟨known, hknown, hcache⟩, _⟩ := h.cache monitor hmonitor
    rw [hpending, List.foldl_nil] at hcache
    refine ⟨fun hnone => (by cases hnone), fun next hnext => ?_⟩
    cases hnext
    refine ⟨hinitialized, FileIntegrityMonitor.nodup_check_integrity hnodup, ⟨known, hknown, ?_⟩, ?_⟩
    · rw [FileIntegrityMonitor.check_integrity_applied hinitialized, hcache]
    · intro scanned hscanned
      cases hscanned
      exact agrees_check_integrity horder hnodup now snapshot
  · exact h

theorem InStep.send (h : self.InStep) {outcome : SendOutcome}
    (hreliable : self.Reliable agent_id watched_files (.send outcome)) :
    (self.step agent_id watched_files yara set_order (.send outcome)).InStep := by
  simp only [FimProcess.step]
  split
  · rename_i monitor alert rest hmonitor hpending
    cases outcome with
    | closed => exact inStep_end_connection
    | failed =>
      rw [hreliable] at hpending
      cases hpending
    | sent =>
      refine ⟨fun hnone => (Option.some_ne_none _ (hmonitor.symm.trans hnone)).elim, fun next hnext => ?_⟩
      obtain ⟨hinitialized, hnodup, ⟨known, hknown, hcache⟩, hagrees⟩ := h.cache next hnext
      rw [hpending, List.foldl_cons] at hcache
      exact ⟨hinitialized, hnodup, ⟨alert.apply known, by simp [FimProcess.send, hknown], hcache⟩, hagrees⟩
  · exact h

theorem InStep.step (h : self.InStep) (horder : ∀ targets, (set_order targets).Perm targets) {op : FimStep}
    (hreliable : self.Reliable agent_id watched_files op) :
    (self.step agent_id watched_files yara set_order op).InStep := by
  cases op with
  | connect snapshot => exact h.connect hreliable
  | scan now snapshot => exact h.scan horder now snapshot
  | send outcome => exact h.send hreliable
  | disconnect => exact inStep_end_connection

/-- In every run in which no send fails while the loop goes on and every reconnection finds the files as they are
known, what is known agrees with the files after every scan whose alerts have all been sent. -/
theorem faithful_of_reliable (horder : ∀ targets, (set_order targets).Perm targets) (steps : List FimStep)
    (hsteps : transition.Along (step agent_id watched_files yara set_order) (Reliable agent_id watched_files) {} steps) :
    (transition.run (step agent_id watched_files yara set_order) {} steps).Faithful := by
  have hinvariant := transition.run_invariant (I := InStep) (fun _ _ h hreliable => h.step horder hreliable) hsteps
    ⟨fun _ => ⟨rfl, rfl⟩, fun _ hmonitor => by cases hmonitor⟩
  exact hinvariant.faithful

/-- A host with one watched file. -/
def hosts_file (hash : String) : FileSnapshot where
  state path := if path = "/etc/hosts" then .readable hash else .absent

/-- The step of an agent that watches this file. -/
def hosts_step : FimProcess → FimStep → FimProcess := step "web-1" ["/etc/hosts"] (fun _ => []) fun targets => targets

/-- The file changes while the connection is open, and the alert is sent. -/
def change_reported : List FimStep := [.connect (hosts_file "old"), .scan 10 (hosts_file "new"), .send .sent]

theorem faithful_change_reported : (transition.run hosts_step {} change_reported).Faithful :=
  faithful_of_reliable (fun _ => List.Perm.refl _) change_reported
    ⟨fun _ known hknown => (by cases hknown), trivial, trivial, trivial⟩

/-- The file changes while the agent is not connected. -/
def change_absorbed : List FimStep :=
  [.connect (hosts_file "old"), .disconnect, .connect (hosts_file "new"), .scan 10 (hosts_file "new")]

theorem not_faithful_change_absorbed : ¬ (transition.run hosts_step {} change_absorbed).Faithful := by
  intro h
  obtain ⟨known, hknown, hagrees⟩ := h _ rfl (hosts_file "new") rfl (by decide +kernel)
  have hnew := hagrees.readable "/etc/hosts" (by decide +kernel) "new" (by decide)
  cases hknown
  exact absurd hnew (by decide +kernel)

end FimProcess

end larp
