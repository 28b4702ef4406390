import ActiveResponse.Agent.AuthMonitor
import ActiveResponse.Lib.Run

open TextStream

namespace larp

/-- The monitor beside the logs that it reads, with the events of all its polls. -/
structure AuthPolling where
  files : LogFiles
  monitor : AuthMonitor
  reported : List AuthLogEvent := []

inductive AuthPollingStep where
  | append (path : String) (bytes : List UInt8)
  | poll (now : Time) (can_open : Bool)

namespace AuthPolling

def step (self : AuthPolling) : AuthPollingStep → AuthPolling
  | .append path bytes =>
    { self with files := Function.update self.files path (some ((self.files path).getD [] ++ bytes)) }
  | .poll now can_open =>
    let (events, monitor) := self.monitor.get_new_events now can_open self.files
    { self with monitor, reported := self.reported ++ events }

def start (agent_id : String) (files : LogFiles) : AuthPolling := { files, monitor := .init agent_id files }

/-- When the log has been read to its end, the polls have reported what a single poll reports that reads the log from
the position of the start. -/
def Independent (start : ℕ) (self : AuthPolling) : Prop :=
  ∀ path content, self.monitor.active_log_path = some path → self.files path = some content →
    self.monitor.file_pos = content.length → ∀ now,
      self.reported.map AuthLogEvent.untimed =
        (({ self.monitor with file_pos := start }).get_new_events now true self.files).1.map AuthLogEvent.untimed

/-- The condition on a step: what a poll reads does not begin inside of a line that is an event, as a whole or in one
of its parts. -/
def Clean (start : ℕ) (self : AuthPolling) : AuthPollingStep → Prop
  | .poll _ true => ∀ path content, self.monitor.log_to_read self.files = some path → self.files path = some content →
      AuthMonitor.CleanCut ((content.take self.monitor.file_pos).drop start) (content.drop self.monitor.file_pos)
  | _ => True

/-- What has been reported is what the log holds up to the position of the monitor. -/
structure Polled (start : ℕ) (process : AuthPolling) : Prop where
  undetected : process.monitor.active_log_path = none → start = 0 ∧ process.monitor.file_pos = 0 ∧ process.reported = []
  detected : ∀ path, process.monitor.active_log_path = some path → ∃ content, process.files path = some content ∧
    start ≤ process.monitor.file_pos ∧ process.monitor.file_pos ≤ content.length ∧
    process.reported.map AuthLogEvent.untimed =
      AuthMonitor.events_in process.monitor.agent_id ((content.take process.monitor.file_pos).drop start)

variable {agent_id : String} {files : LogFiles} {start_pos : ℕ} {self : AuthPolling}

theorem polled_start : (start agent_id files).Polled (start agent_id files).monitor.file_pos := by
  constructor
  · intro hnone
    replace hnone : AuthMonitor._detect_log_file files = none := hnone
    simp [start, AuthMonitor.init, hnone]
  · intro path hpath
    replace hpath : AuthMonitor._detect_log_file files = some path := hpath
    obtain ⟨content, hcontent⟩ := AuthMonitor.detect_log_file_exists hpath
    refine ⟨content, hcontent, le_refl _, ?_, ?_⟩
    · replace hcontent : files path = some content := hcontent
      simp [start, AuthMonitor.init, hpath, hcontent]
    · rw [List.drop_take_self]
      simp [start]

theorem Polled.reading (h : self.Polled start_pos) {path : String}
    (hpath : self.monitor.log_to_read self.files = some path) :
    ∃ content, self.files path = some content ∧ start_pos ≤ self.monitor.file_pos ∧
      self.monitor.file_pos ≤ content.length ∧
      self.reported.map AuthLogEvent.untimed =
        AuthMonitor.events_in self.monitor.agent_id ((content.take self.monitor.file_pos).drop start_pos) := by
  cases hactive : self.monitor.active_log_path with
  | some active =>
    obtain ⟨content, hcontent, hread⟩ := h.detected active hactive
    rw [AuthMonitor.log_to_read_of_active hactive hcontent] at hpath
    cases hpath
    exact ⟨content, hcontent, hread⟩
  | none =>
    rw [AuthMonitor.log_to_read, hactive] at hpath
    obtain ⟨hstart, hpos, hreported⟩ := h.undetected hactive
    obtain ⟨content, hcontent⟩ := AuthMonitor.detect_log_file_exists hpath
    refine ⟨content, hcontent, by omega, by omega, ?_⟩
    simp [hpos, hreported]

theorem Polled.append (h : self.Polled start_pos) (path : String) (bytes : List UInt8) :
    (self.step (.append path bytes)).Polled start_pos := by
  refine ⟨h.undetected, fun active hactive => ?_⟩
  obtain ⟨content, hcontent, hstart, hpos, hreported⟩ := h.detected active hactive
  by_cases hpath : active = path
  · subst hpath
    refine ⟨content ++ bytes, ?_, hstart, ?_, ?_⟩
    · simp only [step, Function.update_self, hcontent, Option.getD_some]
    · exact hpos.trans (by simp)
    · simp only [step]
      rw [hreported, List.take_append_of_le_length hpos]
  · refine ⟨content, ?_, hstart, hpos, hreported⟩
    simp only [step, Function.update_of_ne hpath, hcontent]

/-- What has been read and what is still to be read. -/
theorem take_drop_append_drop {content : List UInt8} {from_pos to_pos : ℕ} (h : from_pos ≤ to_pos)
    (hlength : to_pos ≤ content.length) :
    (content.take to_pos).drop from_pos ++ content.drop to_pos = content.drop from_pos := by
  conv_rhs => rw [← List.take_append_drop to_pos content]
  rw [List.drop_append_of_le_length (by simp; omega)]

theorem Polled.poll (h : self.Polled start_pos) {now : Time} {can_open : Bool}
    (hclean : self.Clean start_pos (.poll now can_open)) : (self.step (.poll now can_open)).Polled start_pos := by
  cases hlog : self.monitor.log_to_read self.files with
  | none =>
    have hactive : self.monitor.active_log_path = none := by
      cases hactive : self.monitor.active_log_path with
      | none => rfl
      | some path =>
        obtain ⟨content, hcontent, _⟩ := h.detected path hactive
        rw [AuthMonitor.log_to_read_of_active hactive hcontent] at hlog
        cases hlog
    simp only [step, AuthMonitor.get_new_events, hlog, List.append_nil]
    exact ⟨fun _ => h.undetected hactive, fun path hpath => (by cases hpath)⟩
  | some path =>
    obtain ⟨content, hcontent, hstart, hpos, hreported⟩ := h.reading hlog
    refine ⟨fun hnone => ?_, fun active hactive => ?_⟩
    · cases can_open <;> simp [step, AuthMonitor.get_new_events, hlog] at hnone
    · cases can_open with
      | false =>
        simp only [step, AuthMonitor.get_new_events, hlog, hcontent, Option.getD_some, if_neg (not_lt.mpr hpos),
          Bool.false_eq_true, if_false, List.append_nil] at hactive ⊢
        cases hactive
        exact ⟨content, hcontent, hstart, hpos, hreported⟩
      | true =>
        obtain ⟨hevents, hmonitor⟩ := AuthMonitor.get_new_events_of_open hlog hcontent hpos now
        simp only [step, hmonitor] at hactive ⊢
        cases hactive
        refine ⟨content, hcontent, hstart.trans hpos, le_refl _, ?_⟩
        rw [List.map_append, hreported, hevents, ← AuthMonitor.events_in_append (hclean path content hlog hcontent),
          take_drop_append_drop hstart hpos, List.take_length]

theorem Polled.independent (h : self.Polled start_pos) : self.Independent start_pos := by
  intro path content hactive hcontent hend now
  obtain ⟨found, hfound, hstart, hpos, hreported⟩ := h.detected path hactive
  rw [hcontent] at hfound
  cases hfound
  have hlog : ({ self.monitor with file_pos := start_pos } : AuthMonitor).log_to_read self.files = some path :=
    AuthMonitor.log_to_read_of_active hactive hcontent
  rw [(AuthMonitor.get_new_events_of_open hlog hcontent (hstart.trans hpos) now).1, hreported, hend, List.take_length]

/-- In every run in which the logs only grow and no poll cuts a line that is an event, the polls have reported what a
single poll reports, whenever the log has been read to its end. -/
theorem independent_of_clean (agent_id : String) (files : LogFiles) (steps : List AuthPollingStep)
    (hsteps : transition.Along step (Clean (start agent_id files).monitor.file_pos) (start agent_id files) steps) :
    (transition.run step (start agent_id files) steps).Independent (start agent_id files).monitor.file_pos := by
  refine (transition.run_invariant (I := Polled (start agent_id files).monitor.file_pos) ?_ hsteps
    polled_start).independent
  intro process op h hclean
  cases op with
  | append path bytes => exact h.append path bytes
  | poll now can_open => exact h.poll hclean

/-- The bytes of ASCII text. -/
def ascii_bytes (text : String) : List UInt8 := text.toList.map fun c => c.toNat.toUInt8

/-- A host whose log is empty when the agent starts. -/
def empty_log (path : String) : Option (List UInt8) := if path = "/tmp/auth.log" then some [] else none

/-- A failed login that is written between two polls. -/
def whole_line : List AuthPollingStep :=
  [.poll 5 true, .append "/tmp/auth.log" (ascii_bytes "Failed password for root from 1.2.3.4 port 22 ssh2\n"),
    .poll 10 true]

theorem independent_whole_line :
    (transition.run step (start "web-1" empty_log) whole_line).Independent (start "web-1" empty_log).monitor.file_pos := by
  refine independent_of_clean "web-1" empty_log whole_line ⟨?_, trivial, ?_, trivial⟩
  all_goals
    intro path content hpath hcontent
    refine Or.inl ?_
    cases hpath
    cases hcontent
    decide +kernel

/-- The same line, with a poll while it is being written. -/
def cut_line : List AuthPollingStep :=
  [.append "/tmp/auth.log" (ascii_bytes "Failed password for root"), .poll 5 true,
    .append "/tmp/auth.log" (ascii_bytes " from 1.2.3.4 port 22 ssh2\n"), .poll 10 true]

theorem not_independent_cut_line :
    ¬ (transition.run step (start "web-1" empty_log) cut_line).Independent (start "web-1" empty_log).monitor.file_pos := by
  intro h
  have hlost := h "/tmp/auth.log" (ascii_bytes "Failed password for root from 1.2.3.4 port 22 ssh2\n")
    (by decide +kernel) (by decide +kernel) (by decide +kernel) 10
  exact absurd hlost (by decide +kernel)

end AuthPolling

end larp
