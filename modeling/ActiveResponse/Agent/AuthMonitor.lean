import ActiveResponse.Core.Regex
import ActiveResponse.Lib.TextStream

open TextStream

namespace larp

inductive AuthService where
  | ssh
  | pam
deriving DecidableEq

inductive AuthStatus where
  | failed
  | success
deriving DecidableEq

structure AuthLogEvent where
  agent_id : String
  service : AuthService
  source_ip : String
  username : String
  status : AuthStatus
  count : ℕ := 1
  timestamp : Time
deriving DecidableEq

/-- An event, its timestamp aside. -/
def AuthLogEvent.untimed (event : AuthLogEvent) : AuthLogEvent := { event with timestamp := 0 }

/-- The bytes of the files that exist. -/
abbrev LogFiles := String → Option (List UInt8)

structure AuthMonitor where
  agent_id : String := "agent"
  active_log_path : Option String
  file_pos : ℕ

namespace AuthMonitor

def LOG_PATHS : List String := ["/tmp/auth.log", "/var/log/auth.log", "/var/log/secure"]

def FAILED_SSH_RE : Regex :=
  .literal "Failed password for " ++ .optional (.literal "invalid user ") ++ .group "user" (.many1 Regex.non_space) ++
    .literal " from " ++ .group "ip" (.many1 Regex.non_space) ++ .literal " port " ++ .many1 py_isdecimal ++ .literal " ssh2"

def ACCEPTED_SSH_RE : Regex :=
  .literal "Accepted " ++ (Regex.literal "password").alt (.literal "publickey") ++ .literal " for " ++
    .group "user" (.many1 Regex.non_space) ++ .literal " from " ++ .group "ip" (.many1 Regex.non_space) ++ .literal " port " ++
    .many1 py_isdecimal ++ .literal " ssh2"

def FAILED_PAM_RE : Regex :=
  .literal "pam_unix(" ++ .many1 Regex.non_space ++ .literal ":auth): authentication failure;" ++ .many Regex.any_char ++
    .literal "rhost=" ++ .group "ip" (.many Regex.non_space) ++ .many1 py_isspace ++ .literal "user=" ++
    .group "user" (.many Regex.non_space)

def _detect_log_file (files : LogFiles) : Option String := LOG_PATHS.find? fun p => (files p).isSome

/-- `__init__`. -/
def init (agent_id : String) (files : LogFiles) : AuthMonitor :=
  let active_log_path := _detect_log_file files
  { agent_id, active_log_path, file_pos := ((active_log_path.bind files).getD []).length }

/-- `m.group(name) or default`. -/
def group_or (m : Regex.Groups) (name default : String) : String :=
  let text := Regex.group_text m name
  if text = "" then default else text

/-- The event of a line. -/
def line_events (agent_id : String) (now : Time) (line : List Char) : List AuthLogEvent :=
  let line_str := py_lstrip (py_rstrip line)
  if line_str.isEmpty then []
  else
    match FAILED_SSH_RE.search line_str with
    | some m_fail => [{
        agent_id, service := .ssh, source_ip := Regex.group_text m_fail "ip"
        username := Regex.group_text m_fail "user", status := .failed, timestamp := now }]
    | none =>
      match ACCEPTED_SSH_RE.search line_str with
      | some m_succ => [{
          agent_id, service := .ssh, source_ip := Regex.group_text m_succ "ip"
          username := Regex.group_text m_succ "user", status := .success, timestamp := now }]
      | none =>
        match FAILED_PAM_RE.search line_str with
        | some m_pam => [{
            agent_id, service := .pam, source_ip := group_or m_pam "ip" "127.0.0.1"
            username := group_or m_pam "user" "unknown", status := .failed, timestamp := now }]
        | none => []

/-- The log that the next poll reads. -/
def log_to_read (self : AuthMonitor) (files : LogFiles) : Option String :=
  match self.active_log_path with
  | some path => if (files path).isSome then some path else _detect_log_file files
  | none => _detect_log_file files

/-- `get_new_events`. The file is opened or, when `can_open` is false, an exception is logged. -/
def get_new_events (self : AuthMonitor) (now : Time) (can_open : Bool) (files : LogFiles) :
    List AuthLogEvent × AuthMonitor :=
  match self.log_to_read files with
  | none => ([], { self with active_log_path := none })
  | some path =>
    let content := (files path).getD []
    let file_pos := if content.length < self.file_pos then 0 else self.file_pos
    if can_open then
      let lines := readlines [] (translate_newlines (utf8_decode (content.drop file_pos)))
      (lines.flatMap (line_events self.agent_id now),
        { self with active_log_path := some path, file_pos := content.length })
    else ([], { self with active_log_path := some path, file_pos })

/-! ## The log that is read -/

theorem detect_log_file_exists {files : LogFiles} {path : String} (h : _detect_log_file files = some path) :
    ∃ content, files path = some content :=
  Option.isSome_iff_exists.mp (List.find?_some (p := fun p => (files p).isSome) h)

theorem log_to_read_of_active {self : AuthMonitor} {files : LogFiles} {path : String} {content : List UInt8}
    (hactive : self.active_log_path = some path) (hcontent : files path = some content) :
    self.log_to_read files = some path := by
  rw [log_to_read, hactive]
  simp [hcontent]

/-! ## The events of a piece of the log -/

variable {agent_id : String}

theorem line_events_of_blank (now : Time) {line : List Char} (h : py_lstrip (py_rstrip line) = []) :
    line_events agent_id now line = [] := by
  simp [line_events, h]

theorem line_events_newline (now : Time) (line : List Char) :
    line_events agent_id now (line ++ ['\n']) = line_events agent_id now line := by
  have hstrip : py_rstrip (line ++ ['\n']) = py_rstrip line := List.rdropWhile_concat_pos _ _ _ (by decide)
  rw [line_events, hstrip]
  rfl

theorem untimed_line_events (now : Time) (line : List Char) :
    (line_events agent_id now line).map AuthLogEvent.untimed = (line_events agent_id 0 line).map AuthLogEvent.untimed := by
  unfold line_events
  dsimp only
  split
  · rfl
  · split
    · rfl
    · split
      · rfl
      · split <;> rfl

/-- The events of bytes of the log, line by line. -/
def events_in (agent_id : String) (bytes : List UInt8) : List AuthLogEvent :=
  (bytes.splitOnP is_newline_byte).flatMap fun piece =>
    (line_events agent_id 0 (utf8_decode piece)).map AuthLogEvent.untimed

/-- The lines that one of the expressions matches. -/
def is_auth_line (line : List Char) : Bool :=
  [FAILED_SSH_RE, ACCEPTED_SSH_RE, FAILED_PAM_RE].any fun re => (re.search (py_lstrip (py_rstrip line))).isSome

theorem line_events_of_not_auth_line (now : Time) {line : List Char} (h : ¬ is_auth_line line) :
    line_events agent_id now line = [] := by
  simp only [is_auth_line, List.any_cons, List.any_nil, Bool.or_false, Bool.or_eq_true, not_or, Bool.not_eq_true,
    Option.isSome_eq_false_iff, Option.isNone_iff_eq_none] at h
  simp only [line_events, h.1, h.2.1, h.2.2, ite_self]

/-- What a poll reports of the bytes that it reads. -/
theorem untimed_lines (now : Time) (bytes : List UInt8) :
    ((readlines [] (translate_newlines (utf8_decode bytes))).flatMap (line_events agent_id now)).map AuthLogEvent.untimed =
      events_in agent_id bytes := by
  rw [flatMap_lines (line_events_of_blank now rfl) (line_events_newline now), List.map_flatMap, events_in]
  simp only [untimed_line_events now]

/-- A poll that opens a log of at least the size that it has been read to. -/
theorem get_new_events_of_open {self : AuthMonitor} {files : LogFiles} {path : String} {content : List UInt8}
    (hlog : self.log_to_read files = some path) (hcontent : files path = some content)
    (hpos : self.file_pos ≤ content.length) (now : Time) :
    (self.get_new_events now true files).1.map AuthLogEvent.untimed =
        events_in self.agent_id (content.drop self.file_pos) ∧
      (self.get_new_events now true files).2 =
        { self with active_log_path := some path, file_pos := content.length } := by
  simp only [get_new_events, hlog, hcontent, Option.getD_some, if_neg (not_lt.mpr hpos), if_pos]
  exact ⟨untimed_lines now _, trivial⟩

@[simp] theorem events_in_nil : events_in agent_id [] = [] := by
  rw [events_in, List.splitOnP_nil, List.flatMap_cons, List.flatMap_nil, line_events_of_blank 0 rfl]
  rfl

/-! ## Two pieces of the log, one after the other -/

/-- The log is not cut inside of a line that is an event, as a whole or in one of its parts. -/
def CleanCut (read unread : List UInt8) : Prop :=
  let begun := last_piece is_newline_byte read
  let rest := first_piece is_newline_byte unread
  begun = [] ∨ rest = [] ∨ ∀ part ∈ [begun, rest, begun ++ rest], ¬ is_auth_line (utf8_decode part)

theorem events_in_append {read unread : List UInt8} (h : CleanCut read unread) :
    events_in agent_id (read ++ unread) = events_in agent_id read ++ events_in agent_id unread := by
  refine (flatMap_splitOnP_append read unread).mpr ?_
  have hnil : line_events agent_id 0 (utf8_decode []) = [] := line_events_of_blank 0 rfl
  rcases h with hbegun | hrest | hparts
  · rw [hbegun, List.nil_append, hnil]
    rfl
  · rw [hrest, List.append_nil, hnil, List.map_nil, List.append_nil]
  · simp only [List.forall_mem_cons] at hparts
    rw [line_events_of_not_auth_line 0 hparts.1, line_events_of_not_auth_line 0 hparts.2.1,
      line_events_of_not_auth_line 0 hparts.2.2.1]
    rfl

/-- A log that is cut after a newline is not cut inside of a line. -/
theorem CleanCut.of_newline (read unread : List UInt8) {b : UInt8} (h : is_newline_byte b) :
    CleanCut (read ++ [b]) unread := by
  refine Or.inl ?_
  rw [last_piece, List.splitOnP_append_cons read [] h, List.splitOnP_nil, List.getLastD_eq_getLast?, List.getLast?_concat,
    Option.getD_some]

end AuthMonitor

end larp
