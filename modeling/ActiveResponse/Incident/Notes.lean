import Mathlib.Data.List.Permutation
import ActiveResponse.Incident.Service
import ActiveResponse.Lib.Run

namespace larp

/-! ## The aggregated text -/

/-- The text of an incident after notes have been added to it one after the other. -/
def note_text (initial : Option String) (notes : List IncidentNote) : Option String :=
  notes.foldl (fun text note => some (note.append_to (text.getD ""))) initial

/-- The initial text with a line for each note, without blanks at the ends of the lines and at the beginning. -/
def aggregated_text (initial : String) (notes : List IncidentNote) : String :=
  if notes = [] then initial
  else String.ofList (py_lstrip (initial.toList ++ notes.flatMap fun note => py_rstrip note.line))

theorem py_lstrip_append (xs ys : List Char) : py_lstrip (py_lstrip xs ++ ys) = py_lstrip (xs ++ ys) := by
  unfold py_lstrip
  rw [List.dropWhile_append, List.dropWhile_append, List.dropWhile_idempotent]

theorem py_rstrip_append {xs ys : List Char} (h : ∃ c ∈ ys, py_isspace c = false) :
    py_rstrip (xs ++ ys) = xs ++ py_rstrip ys := by
  obtain ⟨c, hc, hspace⟩ := h
  have hrest : (ys.reverse.dropWhile py_isspace).isEmpty = false := by
    rw [List.isEmpty_eq_false_iff, ne_eq, List.dropWhile_eq_nil_iff]
    intro hall
    rw [hall c (List.mem_reverse.mpr hc)] at hspace
    cases hspace
  unfold py_rstrip List.rdropWhile
  rw [List.reverse_append, List.dropWhile_append, hrest]
  simp

/-- The end of a line is never taken for a blank line. -/
theorem IncidentNote.line_not_blank (self : IncidentNote) : ∃ c ∈ self.line, py_isspace c = false :=
  ⟨'[', by simp [line], by decide⟩

theorem IncidentNote.append_to_eq (self : IncidentNote) (text : String) :
    self.append_to text = String.ofList (py_lstrip (text.toList ++ py_rstrip self.line)) := by
  rw [append_to, py_strip, String.toList_append, String.toList_ofList, py_rstrip_append self.line_not_blank]

theorem note_text_append (initial : Option String) (first second : List IncidentNote) :
    note_text initial (first ++ second) = note_text (note_text initial first) second := List.foldl_append ..

theorem aggregated_text_append (initial : String) (notes : List IncidentNote) (note : IncidentNote) :
    aggregated_text initial (notes ++ [note]) = note.append_to (aggregated_text initial notes) := by
  have hne : notes ++ [note] ≠ [] := by simp
  have hlines : (notes ++ [note]).flatMap (fun note => py_rstrip note.line) =
      (notes.flatMap fun note => py_rstrip note.line) ++ py_rstrip note.line := by simp
  rw [note.append_to_eq, aggregated_text, if_neg hne, hlines, ← List.append_assoc, aggregated_text]
  split
  · rename_i hnil
    rw [hnil, List.flatMap_nil, List.append_nil]
  · rw [String.toList_ofList, py_lstrip_append]

/-- Adding notes one after the other gives the aggregated text. -/
theorem note_text_getD (initial : Option String) (notes : List IncidentNote) :
    (note_text initial notes).getD "" = aggregated_text (initial.getD "") notes := by
  induction notes using List.reverseRecOn with
  | nil => rfl
  | append_singleton notes note ih =>
    rw [aggregated_text_append, ← ih, note_text_append]
    rfl

/-! ## Transactions -/

/-- The row of an incident in a session: as it was loaded, if the transaction has not created it, and as it is
now, with the notes that the transaction has added. -/
structure IncidentWork where
  loaded : Option IncidentRecord
  initial : Option String
  row : IncidentRecord
  added : List IncidentNote := []

/-- An `UPDATE` has the columns that differ from what was loaded. -/
def IncidentRecord.flush (loaded row current : IncidentRecord) : IncidentRecord :=
  { current with
    title := assign (· = ·) loaded.title row.title current.title
    description := assign (· = ·) loaded.description row.description current.description
    severity := assign (· = ·) loaded.severity row.severity current.severity
    status := assign (· = ·) loaded.status row.status current.status
    risk_score := assign (· = ·) loaded.risk_score row.risk_score current.risk_score
    assigned_to := assign (· = ·) loaded.assigned_to row.assigned_to current.assigned_to
    notes := assign (· = ·) loaded.notes row.notes current.notes
    resolved_at := assign (· = ·) loaded.resolved_at row.resolved_at current.resolved_at
    label := assign (· = ·) loaded.label row.label current.label
    label_reason := assign (· = ·) loaded.label_reason row.label_reason current.label_reason
    labeled_by := assign (· = ·) loaded.labeled_by row.labeled_by current.labeled_by
    labeled_at := assign (· = ·) loaded.labeled_at row.labeled_at current.labeled_at }

@[simp] theorem IncidentRecord.key_flush (loaded row current : IncidentRecord) :
    Keyed.key (loaded.flush row current) = Keyed.key current := rfl

/-- The tables, with the text that each incident had before its first note. -/
structure IncidentLedger extends IncidentTables where
  initial : String → Option String := fun _ => none

namespace IncidentWork

def load (inc : IncidentRecord) : IncidentWork where
  loaded := some inc
  initial := inc.notes
  row := inc

/-- A new incident with its first note. -/
def create (inc : IncidentRecord) (content : String) : IncidentWork where
  loaded := none
  initial := inc.notes
  row := inc.append_note (inc.note content "system")
  added := [inc.note content "system"]

/-- An operation on the session's row. -/
def edit (self : IncidentWork) (now : Time) (op : IncidentOp) : Except AppException IncidentWork :=
  (op.edit now self.row).map fun (inc, note) =>
    { self with row := note.elim inc inc.append_note, added := self.added ++ note.toList }

end IncidentWork

/-- The statements of a transaction for one incident. A key that is taken, and an `UPDATE` that finds no row, are
errors. -/
def IncidentLedger.flush (self : IncidentLedger) (work : IncidentWork) : Option IncidentLedger :=
  match work.loaded with
  | none =>
    (self.incidents.insert work.row).map fun incidents =>
      { incidents
        incident_notes := self.incident_notes ++ work.added
        initial := Function.update self.initial work.row.id work.initial }
  | some loaded =>
    if (self.incidents.get loaded.id).isSome then
      some { self with
        incidents := self.incidents.modify loaded.id (loaded.flush work.row)
        incident_notes := self.incident_notes ++ work.added }
    else none

/-- The committed tables and what the open transactions have in their sessions. -/
structure IncidentSessions where
  ledger : IncidentLedger
  works : ℕ → List IncidentWork := fun _ => []

inductive IncidentStep where
  | load (session : ℕ) (incident_id : String)
  | create_incident (session : ℕ) (now : Time) (dto : IncidentCreate)
  | create_from_risk (session : ℕ) (now : Time) (inc_id agent_id : String) (spike : RiskSpike)
  | perform (session : ℕ) (now : Time) (incident_id : String) (op : IncidentOp)
  | commit (session : ℕ)
  | rollback (session : ℕ)

namespace IncidentSessions

/-- What the session's queries see: the committed tables with the session's own statements. -/
def view (self : IncidentSessions) (session : ℕ) : Option IncidentLedger :=
  (self.works session).foldlM IncidentLedger.flush self.ledger

def work (self : IncidentSessions) (session : ℕ) (incident_id : String) : Option IncidentWork :=
  (self.works session).find? fun work => decide (work.row.id = incident_id)

def set_works (self : IncidentSessions) (session : ℕ) (works : List IncidentWork) : IncidentSessions :=
  { self with works := Function.update self.works session works }

@[simp] theorem ledger_set_works (self : IncidentSessions) (session : ℕ) (works : List IncidentWork) :
    (self.set_works session works).ledger = self.ledger := rfl

@[simp] theorem works_set_works (self : IncidentSessions) (session : ℕ) (works : List IncidentWork) :
    (self.set_works session works).works session = works := Function.update_self ..

@[simp] theorem set_works_set_works (self : IncidentSessions) (session : ℕ) (first second : List IncidentWork) :
    (self.set_works session first).set_works session second = self.set_works session second := by
  simp [set_works]

/-- `session.get`: a row that the session has is not read again. -/
def load (self : IncidentSessions) (session : ℕ) (incident_id : String) : IncidentSessions :=
  match self.work session incident_id, self.ledger.incidents.get incident_id with
  | none, some inc => self.set_works session (self.works session ++ [.load inc])
  | _, _ => self

/-- An id that the session has already is an error. -/
def create (self : IncidentSessions) (session : ℕ) (inc : IncidentRecord) (content : String) : IncidentSessions :=
  match self.work session inc.id with
  | none => self.set_works session (self.works session ++ [.create inc content])
  | some _ => self.set_works session []

/-- An operation on a row of the session. One that raises is rolled back. -/
def perform (self : IncidentSessions) (session : ℕ) (now : Time) (incident_id : String) (op : IncidentOp) :
    IncidentSessions :=
  match self.work session incident_id with
  | none => self
  | some work =>
    match work.edit now op with
    | .error _ => self.set_works session []
    | .ok edited =>
      self.set_works session ((self.works session).map fun w => if w.row.id = incident_id then edited else w)

def create_from_risk (self : IncidentSessions) (session : ℕ) (now : Time) (inc_id agent_id : String)
    (spike : RiskSpike) : IncidentSessions :=
  match self.view session with
  | none => self.set_works session []
  | some view =>
    match view.active_incident agent_id with
    | some existing => (self.load session existing.id).perform session now existing.id (.risk_spike spike)
    | none =>
      self.create session (spike.record now inc_id agent_id)
        ("Automated incident created due to risk score " ++ spike.score_text ++ ".")

/-- A transaction whose statements fail is rolled back. -/
def commit (self : IncidentSessions) (session : ℕ) : IncidentSessions :=
  match self.view session with
  | none => self.set_works session []
  | some ledger => { self.set_works session [] with ledger }

def step (self : IncidentSessions) : IncidentStep → IncidentSessions
  | .load session incident_id => self.load session incident_id
  | .create_incident session now dto =>
    self.create session (dto.record now) ("Incident created manually with severity " ++ dto.severity.str ++ ".")
  | .create_from_risk session now inc_id agent_id spike => self.create_from_risk session now inc_id agent_id spike
  | .perform session now incident_id op => self.perform session now incident_id op
  | .commit session => self.commit session
  | .rollback session => self.set_works session []

end IncidentSessions

/-! ## A transaction on its own -/

section Alone

variable {now : Time} {op : IncidentOp} {inc edited : IncidentRecord} {note : Option IncidentNote}

/-- The columns that no operation changes. -/
theorem IncidentOp.edit_fixed (h : op.edit now inc = .ok (edited, note)) :
    edited.id = inc.id ∧ edited.agent_id = inc.agent_id ∧ edited.created_at = inc.created_at := by
  cases op with
  | update_incident dto =>
    obtain ⟨rfl, -⟩ := Prod.mk.inj (Except.ok.inj h)
    unfold IncidentRecord.set_label
    split <;> exact ⟨rfl, rfl, rfl⟩
  | execute_action action_type params user answer =>
    obtain ⟨⟨row, result_msg⟩, haction, heq⟩ := map_eq_ok_iff.mp h
    obtain ⟨rfl, -⟩ := Prod.mk.inj heq
    rw [IncidentRecord.quick_action_ok haction]
    split <;> exact ⟨rfl, rfl, rfl⟩
  | add_note | assign_incident | contain_incident | resolve_incident | mark_false_positive | close_incident
  | risk_spike =>
    obtain ⟨rfl, -⟩ := Prod.mk.inj (Except.ok.inj h)
    exact ⟨rfl, rfl, rfl⟩

/-- On the row that was loaded the statement writes the session's row. -/
theorem IncidentRecord.flush_self (h : edited.id = inc.id ∧ edited.agent_id = inc.agent_id ∧
    edited.created_at = inc.created_at) : inc.flush edited inc = edited := by
  obtain ⟨⟨_, _, _, _, _, _⟩, _⟩ := edited
  obtain ⟨hid, hagent, hcreated⟩ := h
  simp only at hid hagent hcreated
  subst hid hagent hcreated
  simp [flush]

/-- A transaction that runs on its own does to the tables what its operation does. -/
theorem IncidentSessions.commit_alone {self : IncidentSessions} {session : ℕ} (hidle : self.works session = [])
    {incident_id : String} {tables : IncidentTables} (hedit : self.ledger.edit now incident_id op = .ok tables) :
    (((self.load session incident_id).perform session now incident_id op).commit session).ledger.toIncidentTables =
      tables := by
  unfold IncidentTables.edit at hedit
  cases hget : self.ledger.incidents.get incident_id with
  | none =>
    rw [hget] at hedit
    cases hedit
  | some inc =>
    rw [hget] at hedit
    obtain ⟨⟨edited, note⟩, hok, rfl⟩ := map_eq_ok_iff.mp hedit
    have hid : inc.id = incident_id := Table.key_of_get hget
    have hrow : inc.flush (note.elim edited edited.append_note) inc = note.elim edited edited.append_note := by
      obtain ⟨hsame, hagent, hcreated⟩ := IncidentOp.edit_fixed hok
      cases note <;> exact IncidentRecord.flush_self ⟨hsame, hagent, hcreated⟩
    have hmodify : self.ledger.incidents.modify incident_id (inc.flush (note.elim edited edited.append_note)) =
        self.ledger.incidents.put (note.elim edited edited.append_note) := by
      rw [Table.modify, hget]
      dsimp only
      rw [hrow]
    let done : IncidentWork :=
      { loaded := some inc, initial := inc.notes, row := note.elim edited edited.append_note, added := note.toList }
    have hload : self.load session incident_id = self.set_works session [.load inc] := by
      simp [load, work, hidle, hget]
    have hwork : (self.set_works session [.load inc]).work session incident_id = some (.load inc) := by
      simp [work, IncidentWork.load, hid]
    have hwrite : (IncidentWork.load inc).edit now op = .ok done := map_eq_ok_iff.mpr ⟨(edited, note), hok, rfl⟩
    have hperform : (self.set_works session [.load inc]).perform session now incident_id op =
        self.set_works session [done] := by
      have hrowId : (IncidentWork.load inc).row.id = incident_id := hid
      unfold perform
      rw [hwork]
      dsimp only
      rw [hwrite]
      simp [hrowId]
    have hflush : self.ledger.flush done = some { self.ledger with
        incidents := self.ledger.incidents.put (note.elim edited edited.append_note)
        incident_notes := self.ledger.incident_notes ++ note.toList } := by
      simp [IncidentLedger.flush, done, hid, hget, hmodify]
    rw [hload, hperform, commit, view, works_set_works, ledger_set_works, List.foldlM_cons, hflush]
    rfl

end Alone

/-! ## No note is lost -/

def IncidentLedger.notes_of (self : IncidentLedger) (incident_id : String) : List IncidentNote :=
  self.incident_notes.filter fun note => decide (note.incident_id = incident_id)

/-- The text of an incident that no open transaction has in its session has a line for each of its notes, in some
order, after its initial content, and nothing else. -/
def IncidentSessions.NotesKept (self : IncidentSessions) : Prop :=
  ∀ incident_id inc, self.ledger.incidents.get incident_id = some inc →
    (∀ session, self.work session incident_id = none) →
    ∃ order, order.Perm (self.ledger.notes_of incident_id) ∧
      inc.notes.getD "" = aggregated_text ((self.ledger.initial incident_id).getD "") order

/-- An update that sets the text itself. -/
def IncidentOp.replaces_notes : IncidentOp → Bool
  | .update_incident dto => dto.notes.isSome
  | _ => false

/-- If a transaction has added notes, the text of the incident is still the one that it has loaded. -/
def IncidentWork.undisturbed (self : IncidentWork) (incidents : Table IncidentRecord) : Bool :=
  self.added = [] ∨ self.loaded.all fun loaded => (incidents.get loaded.id).all fun inc => inc.notes = loaded.notes

/-- The condition on a step. -/
def IncidentSessions.settled (self : IncidentSessions) : IncidentStep → Bool
  | .perform _ _ _ op => !op.replaces_notes
  | .commit session => (self.works session).all fun work => work.undisturbed self.ledger.incidents
  | _ => true

/-- What a session has made of the text. -/
structure IncidentWork.Sound (work : IncidentWork) : Prop where
  loaded : ∀ inc, work.loaded = some inc → inc.id = work.row.id ∧ inc.notes = work.initial
  added : ∀ note ∈ work.added, note.incident_id = work.row.id
  notes : work.row.notes = note_text work.initial work.added

/-- The text of each incident is made of its notes, and each note has its incident. -/
structure IncidentLedger.Accounted (ledger : IncidentLedger) : Prop where
  text : ∀ incident_id inc, ledger.incidents.get incident_id = some inc →
    inc.notes = note_text (ledger.initial incident_id) (ledger.notes_of incident_id)
  foreign_key : ∀ note ∈ ledger.incident_notes, (ledger.incidents.get note.incident_id).isSome

structure IncidentSessions.Accounted (s : IncidentSessions) : Prop where
  ledger : s.ledger.Accounted
  works : ∀ session, ∀ work ∈ s.works session, work.Sound
  distinct : ∀ session, ((s.works session).map fun work => work.row.id).Nodup

section Edit

variable {now : Time} {op : IncidentOp} {inc edited : IncidentRecord} {note : Option IncidentNote}

/-- An operation that does not replace the text leaves it to the note that it adds. -/
theorem IncidentOp.edit_notes (h : op.edit now inc = .ok (edited, note)) (hop : op.replaces_notes = false) :
    edited.id = inc.id ∧ edited.notes = inc.notes ∧ ∀ added ∈ note.toList, added.incident_id = inc.id := by
  cases op with
  | update_incident dto =>
    obtain ⟨rfl, rfl⟩ := Prod.mk.inj (Except.ok.inj h)
    have hnotes : dto.notes = none := Option.not_isSome_iff_eq_none.mp (by simpa [replaces_notes] using hop)
    refine ⟨?_, ?_, ?_⟩
    · unfold IncidentRecord.set_label
      split <;> rfl
    · unfold IncidentRecord.set_label IncidentRecord.set_fields
      split <;> simp [hnotes]
    · intro added hadded
      obtain ⟨status, -, rfl⟩ := Option.map_eq_some_iff.mp (Option.mem_toList.mp hadded)
      rfl
  | execute_action action_type params user answer =>
    obtain ⟨⟨row, result_msg⟩, haction, heq⟩ := map_eq_ok_iff.mp h
    obtain ⟨rfl, rfl⟩ := Prod.mk.inj heq
    have hrow : row.id = inc.id ∧ row.notes = inc.notes := by
      rw [IncidentRecord.quick_action_ok haction]
      split <;> exact ⟨rfl, rfl⟩
    refine ⟨hrow.1, hrow.2, ?_⟩
    intro added hadded
    rw [List.mem_singleton.mp hadded]
    exact hrow.1
  | add_note | assign_incident | contain_incident | resolve_incident | mark_false_positive | close_incident
  | risk_spike =>
    obtain ⟨rfl, rfl⟩ := Prod.mk.inj (Except.ok.inj h)
    refine ⟨rfl, rfl, ?_⟩
    intro added hadded
    rw [List.mem_singleton.mp hadded]
    rfl

end Edit

namespace IncidentWork

variable {work edited : IncidentWork}

theorem Sound.load (inc : IncidentRecord) : (load inc).Sound where
  loaded _ h := by
    cases h
    exact ⟨rfl, rfl⟩
  added := nofun
  notes := rfl

theorem Sound.create (inc : IncidentRecord) (content : String) : (create inc content).Sound where
  loaded _ hnone := by
    cases hnone
  added note hnote := by
    rw [List.mem_singleton.mp hnote]
    rfl
  notes := rfl

theorem Sound.edit (h : work.Sound) {now : Time} {op : IncidentOp} (hop : op.replaces_notes = false)
    (hedit : work.edit now op = .ok edited) : edited.Sound ∧ edited.row.id = work.row.id := by
  obtain ⟨⟨inc, note⟩, hok, rfl⟩ := map_eq_ok_iff.mp hedit
  obtain ⟨hid, hnotes, hadded⟩ := IncidentOp.edit_notes hok hop
  have hrow : (note.elim inc inc.append_note).id = work.row.id := by
    cases note <;> exact hid
  refine ⟨⟨?_, ?_, ?_⟩, hrow⟩
  · intro loaded hloaded
    dsimp only at hloaded ⊢
    rw [hrow]
    exact h.loaded loaded hloaded
  · intro added hmem
    dsimp only at hmem ⊢
    rw [hrow]
    rcases List.mem_append.mp hmem with hbefore | hnew
    · exact h.added added hbefore
    · exact hadded added hnew
  · dsimp only
    rw [note_text_append, ← h.notes, ← hnotes]
    cases note <;> rfl

end IncidentWork

namespace IncidentLedger

variable {ledger flushed : IncidentLedger} {work : IncidentWork}

/-- The statements of a transaction for one incident. -/
theorem flush_eq_some (h : ledger.flush work = some flushed) :
    (work.loaded = none ∧ ∃ incidents, ledger.incidents.insert work.row = some incidents ∧
      flushed = { incidents
                  incident_notes := ledger.incident_notes ++ work.added
                  initial := Function.update ledger.initial work.row.id work.initial }) ∨
    ∃ loaded, work.loaded = some loaded ∧ (ledger.incidents.get loaded.id).isSome ∧
      flushed = { ledger with
                  incidents := ledger.incidents.modify loaded.id (loaded.flush work.row)
                  incident_notes := ledger.incident_notes ++ work.added } := by
  unfold flush at h
  split at h
  · rename_i hloaded
    obtain ⟨incidents, hinsert, rfl⟩ := Option.map_eq_some_iff.mp h
    exact Or.inl ⟨hloaded, incidents, hinsert, rfl⟩
  · rename_i loaded hloaded
    split at h
    · rename_i hpresent
      cases h
      exact Or.inr ⟨loaded, hloaded, hpresent, rfl⟩
    · cases h

theorem incident_notes_flush (h : ledger.flush work = some flushed) :
    flushed.incident_notes = ledger.incident_notes ++ work.added := by
  obtain ⟨-, -, -, rfl⟩ | ⟨-, -, -, rfl⟩ := flush_eq_some h <;> rfl

theorem notes_of_flush (hwork : work.Sound) (h : ledger.flush work = some flushed) :
    flushed.notes_of work.row.id = ledger.notes_of work.row.id ++ work.added := by
  have hadded : work.added.filter (fun note => decide (note.incident_id = work.row.id)) = work.added :=
    List.filter_eq_self.mpr fun note hnote => decide_eq_true (hwork.added note hnote)
  rw [notes_of, incident_notes_flush h, List.filter_append, hadded]
  rfl

theorem notes_of_flush_of_ne (hwork : work.Sound) (h : ledger.flush work = some flushed) {incident_id : String}
    (hother : incident_id ≠ work.row.id) : flushed.notes_of incident_id = ledger.notes_of incident_id := by
  have hadded : work.added.filter (fun note => decide (note.incident_id = incident_id)) = [] := by
    refine List.filter_eq_nil_iff.mpr fun note hnote hid => hother ?_
    rw [← of_decide_eq_true hid]
    exact hwork.added note hnote
  rw [notes_of, incident_notes_flush h, List.filter_append, hadded, List.append_nil]
  rfl

theorem initial_flush_of_ne (h : ledger.flush work = some flushed) {incident_id : String}
    (hother : incident_id ≠ work.row.id) : flushed.initial incident_id = ledger.initial incident_id := by
  obtain ⟨-, -, -, rfl⟩ | ⟨-, -, -, rfl⟩ := flush_eq_some h
  · exact Function.update_of_ne hother ..
  · rfl

/-- The other incidents are left alone. -/
theorem get_flush (hwork : work.Sound) (h : ledger.flush work = some flushed) {incident_id : String}
    (hother : incident_id ≠ work.row.id) :
    flushed.incidents.get incident_id = ledger.incidents.get incident_id := by
  obtain ⟨-, incidents, hinsert, rfl⟩ | ⟨loaded, hloaded, -, rfl⟩ := flush_eq_some h
  · rw [Table.get_of_insert hinsert, IncidentRecord.key_eq, if_neg (Ne.symm hother)]
  · rw [Table.get_modify (IncidentRecord.key_flush loaded work.row), (hwork.loaded loaded hloaded).1,
      if_neg (Ne.symm hother)]

theorem isSome_get_flush (h : ledger.flush work = some flushed) {incident_id : String}
    (hsome : (ledger.incidents.get incident_id).isSome) : (flushed.incidents.get incident_id).isSome := by
  obtain ⟨-, incidents, hinsert, rfl⟩ | ⟨loaded, -, -, rfl⟩ := flush_eq_some h
  · obtain ⟨inc, hinc⟩ := Option.isSome_iff_exists.mp hsome
    rw [Table.get_of_insert_of_get hinsert hinc]
    rfl
  · exact Table.isSome_get_modify (IncidentRecord.key_flush loaded work.row) hsome

/-- A new incident has no notes but its own. -/
theorem Accounted.text_insert (h : ledger.Accounted) (hwork : work.Sound) (hloaded : work.loaded = none)
    (hflush : ledger.flush work = some flushed) {inc : IncidentRecord}
    (hget : flushed.incidents.get work.row.id = some inc) :
    inc.notes = note_text (flushed.initial work.row.id) (flushed.notes_of work.row.id) := by
  have hnotes := notes_of_flush hwork hflush
  obtain ⟨-, incidents, hinsert, rfl⟩ | ⟨loaded, hsome, -, -⟩ := flush_eq_some hflush
  · rw [Table.get_of_insert hinsert, IncidentRecord.key_eq, if_pos rfl] at hget
    cases hget
    have hfree : ledger.incidents.get work.row.id = none := (Table.insert_eq_some_iff.mp hinsert).1
    have hnone : ledger.notes_of work.row.id = [] := by
      refine List.filter_eq_nil_iff.mpr fun note hnote hid => ?_
      have hsome := h.foreign_key note hnote
      rw [of_decide_eq_true hid, hfree] at hsome
      cases hsome
    rw [hnotes, hnone, List.nil_append]
    change work.row.notes = note_text (Function.update ledger.initial work.row.id work.initial work.row.id) work.added
    rw [Function.update_self]
    exact hwork.notes
  · rw [hloaded] at hsome
    cases hsome

/-- An undisturbed transaction adds its notes to the text that is there. -/
theorem Accounted.text_update (h : ledger.Accounted) (hwork : work.Sound)
    (hundisturbed : work.undisturbed ledger.incidents) {loaded : IncidentRecord} (hloaded : work.loaded = some loaded)
    (hflush : ledger.flush work = some flushed) {inc : IncidentRecord}
    (hget : flushed.incidents.get work.row.id = some inc) :
    inc.notes = note_text (flushed.initial work.row.id) (flushed.notes_of work.row.id) := by
  have hnotes := notes_of_flush hwork hflush
  obtain ⟨hid, hinitial⟩ := hwork.loaded loaded hloaded
  obtain ⟨hnone, -⟩ | ⟨loaded, hsome, -, rfl⟩ := flush_eq_some hflush
  · rw [hloaded] at hnone
    cases hnone
  · rw [hloaded] at hsome
    cases hsome
    rw [Table.get_modify (IncidentRecord.key_flush loaded work.row), if_pos hid] at hget
    obtain ⟨current, hcurrent, rfl⟩ := Option.map_eq_some_iff.mp hget
    have htext := h.text work.row.id current hcurrent
    change assign (· = ·) loaded.notes work.row.notes current.notes = _
    rw [hnotes, note_text_append]
    change _ = note_text (note_text (ledger.initial work.row.id) (ledger.notes_of work.row.id)) work.added
    rw [← htext, hwork.notes, ← hinitial]
    by_cases hadded : work.added = []
    · rw [hadded]
      simp [note_text, assign]
    · have hsame : current.notes = loaded.notes := by
        simpa [IncidentWork.undisturbed, hadded, hloaded, hid, hcurrent] using hundisturbed
      rw [hsame, assign_loaded]

/-- An undisturbed transaction keeps the account. -/
theorem Accounted.flush (h : ledger.Accounted) (hwork : work.Sound) (hundisturbed : work.undisturbed ledger.incidents)
    (hflush : ledger.flush work = some flushed) : flushed.Accounted where
  text incident_id inc hget := by
    by_cases hid : incident_id = work.row.id
    · subst hid
      cases hloaded : work.loaded with
      | none => exact h.text_insert hwork hloaded hflush hget
      | some loaded => exact h.text_update hwork hundisturbed hloaded hflush hget
    · rw [get_flush hwork hflush hid] at hget
      rw [notes_of_flush_of_ne hwork hflush hid, initial_flush_of_ne hflush hid]
      exact h.text incident_id inc hget
  foreign_key note hnote := by
    rw [incident_notes_flush hflush] at hnote
    rcases List.mem_append.mp hnote with hbefore | hadded
    · exact isSome_get_flush hflush (h.foreign_key note hbefore)
    · rw [hwork.added note hadded]
      obtain ⟨-, incidents, hinsert, rfl⟩ | ⟨loaded, hloaded, hpresent, -⟩ := flush_eq_some hflush
      · rw [Table.get_of_insert hinsert, IncidentRecord.key_eq, if_pos rfl]
        rfl
      · rw [(hwork.loaded loaded hloaded).1] at hpresent
        exact isSome_get_flush hflush hpresent

/-- The statements of a whole transaction keep the account. -/
theorem Accounted.foldlM_flush (h : ledger.Accounted) {works : List IncidentWork}
    (hsound : ∀ work ∈ works, work.Sound) (hdistinct : (works.map fun work => work.row.id).Nodup)
    (hundisturbed : ∀ work ∈ works, work.undisturbed ledger.incidents)
    (hfold : works.foldlM IncidentLedger.flush ledger = some flushed) : flushed.Accounted := by
  induction works generalizing ledger with
  | nil =>
    cases hfold
    exact h
  | cons work works ih =>
    rw [List.foldlM_cons] at hfold
    obtain ⟨next, hnext, hrest⟩ := Option.bind_eq_some_iff.mp hfold
    rw [List.map_cons, List.nodup_cons] at hdistinct
    have hwork := hsound work List.mem_cons_self
    have hkept := h.flush hwork (hundisturbed work List.mem_cons_self) hnext
    refine ih hkept (fun other hother => hsound other (List.mem_cons_of_mem _ hother)) hdistinct.2 ?_ hrest
    intro other hother
    have hbefore := hundisturbed other (List.mem_cons_of_mem _ hother)
    have hne : other.row.id ≠ work.row.id := fun heq => hdistinct.1 (heq ▸ List.mem_map_of_mem hother)
    unfold IncidentWork.undisturbed at hbefore ⊢
    cases hloaded : other.loaded with
    | none => simp
    | some loaded =>
      have hid := ((hsound other (List.mem_cons_of_mem _ hother)).loaded loaded hloaded).1
      rw [← hid] at hne
      rw [hloaded, Option.all_some] at hbefore
      rw [Option.all_some, get_flush hwork hnext hne]
      exact hbefore

end IncidentLedger

namespace IncidentSessions

variable {self : IncidentSessions}

theorem Accounted.set_works (h : self.Accounted) {session : ℕ} {works : List IncidentWork}
    (hsound : ∀ work ∈ works, work.Sound) (hdistinct : (works.map fun work => work.row.id).Nodup) :
    (self.set_works session works).Accounted where
  ledger := h.ledger
  works := (Function.forall_update_iff self.works fun _ works => ∀ work ∈ works, work.Sound).mpr
    ⟨hsound, fun other _ => h.works other⟩
  distinct := (Function.forall_update_iff self.works fun _ works => (works.map fun work => work.row.id).Nodup).mpr
    ⟨hdistinct, fun other _ => h.distinct other⟩

theorem Accounted.rollback (h : self.Accounted) (session : ℕ) : (self.set_works session []).Accounted :=
  h.set_works (List.forall_mem_nil _) List.nodup_nil

theorem work_eq_none_iff {session : ℕ} {incident_id : String} :
    self.work session incident_id = none ↔ ∀ work ∈ self.works session, work.row.id ≠ incident_id := by
  simp [work, List.find?_eq_none]

/-- A row that the session does not have is added to those that it has. -/
theorem Accounted.append (h : self.Accounted) {session : ℕ} {work : IncidentWork} (hwork : work.Sound)
    (hnew : self.work session work.row.id = none) :
    (self.set_works session (self.works session ++ [work])).Accounted := by
  refine h.set_works ?_ ?_
  · intro other hother
    rcases List.mem_append.mp hother with hbefore | hlast
    · exact h.works session other hbefore
    · rw [List.mem_singleton.mp hlast]
      exact hwork
  · rw [List.map_append, List.nodup_append]
    refine ⟨h.distinct session, List.nodup_singleton _, ?_⟩
    rintro id hid _ hlast rfl
    obtain ⟨other, hother, rfl⟩ := List.mem_map.mp hid
    exact work_eq_none_iff.mp hnew other hother (List.mem_singleton.mp hlast)

theorem Accounted.load (h : self.Accounted) (session : ℕ) (incident_id : String) :
    (self.load session incident_id).Accounted := by
  unfold IncidentSessions.load
  split
  · rename_i inc hnone hinc
    have hid : inc.id = incident_id := Table.key_of_get hinc
    exact h.append (IncidentWork.Sound.load inc) (hid ▸ hnone)
  · exact h

theorem Accounted.create (h : self.Accounted) (session : ℕ) (inc : IncidentRecord) (content : String) :
    (self.create session inc content).Accounted := by
  unfold IncidentSessions.create
  split
  · rename_i hnone
    exact h.append (IncidentWork.Sound.create inc content) hnone
  · exact h.rollback session

theorem Accounted.perform (h : self.Accounted) (session : ℕ) (now : Time) (incident_id : String) {op : IncidentOp}
    (hop : op.replaces_notes = false) : (self.perform session now incident_id op).Accounted := by
  unfold IncidentSessions.perform
  split
  · exact h
  · rename_i work hwork
    split
    · exact h.rollback session
    · rename_i edited hedit
      have hmem : work ∈ self.works session := List.mem_of_find?_eq_some hwork
      have hid : work.row.id = incident_id := by simpa using List.find?_some hwork
      obtain ⟨hsound, hrow⟩ := (h.works session work hmem).edit hop hedit
      refine h.set_works ?_ ?_
      · intro other hother
        obtain ⟨before, hbefore, rfl⟩ := List.mem_map.mp hother
        split
        · exact hsound
        · exact h.works session before hbefore
      · have hids : ((self.works session).map fun w => if w.row.id = incident_id then edited else w).map
            (fun work => work.row.id) = (self.works session).map fun work => work.row.id := by
          rw [List.map_map]
          refine List.map_congr_left fun w _ => ?_
          rw [Function.comp_apply]
          split
          · rename_i hw
            rw [hrow, hid, hw]
          · rfl
        rw [hids]
        exact h.distinct session

theorem Accounted.commit (h : self.Accounted) {session : ℕ} (hsettled : self.settled (.commit session)) :
    (self.commit session).Accounted := by
  unfold IncidentSessions.commit
  split
  · exact h.rollback session
  · rename_i ledger hview
    have hidle := h.rollback session
    have hundisturbed := List.all_eq_true.mp hsettled
    exact ⟨h.ledger.foldlM_flush (h.works session) (h.distinct session) hundisturbed hview, hidle.works,
      hidle.distinct⟩

/-- A settled step keeps the account. -/
theorem Accounted.step (h : self.Accounted) {step : IncidentStep} (hsettled : self.settled step) :
    (self.step step).Accounted := by
  cases step with
  | load session incident_id => exact h.load session incident_id
  | create_incident session now dto => exact h.create session _ _
  | create_from_risk session now inc_id agent_id spike =>
    unfold IncidentSessions.step create_from_risk
    dsimp only
    split
    · exact h.rollback session
    · split
      · exact (h.load session _).perform session now _ rfl
      · exact h.create session _ _
  | perform session now incident_id op =>
    have hop : op.replaces_notes = false := by simpa [settled] using hsettled
    exact h.perform session now incident_id hop
  | commit session => exact h.commit hsettled
  | rollback session => exact h.rollback session

theorem Accounted.notesKept (h : self.Accounted) : self.NotesKept := by
  intro incident_id inc hget _
  refine ⟨self.ledger.notes_of incident_id, List.Perm.refl _, ?_⟩
  rw [← note_text_getD, ← h.ledger.text incident_id inc hget]

/-- In every run of sessions in which no update replaces the text and no transaction that has added notes overlaps
with another one that has committed a change of the text, no note is lost. -/
theorem notesKept_along_of_settled (ledger : IncidentLedger) (h : ledger.Accounted) (steps : List IncidentStep)
    (hsettled : transition.Along step (fun s next => s.settled next = true) { ledger := ledger } steps) :
    transition.Along step (fun s next => (s.step next).NotesKept) { ledger := ledger } steps :=
  transition.along_of_invariant (I := Accounted) (fun _ _ hs hnext => hs.step hnext)
    (fun _ _ hs hnext => (hs.step hnext).notesKept) hsettled
    ⟨h, fun _ => List.forall_mem_nil _, fun _ => List.nodup_nil⟩

/-- An incident is opened, and an analyst adds a note. -/
theorem notesKept_one_analyst :
    transition.Along step (fun s next => (s.step next).NotesKept) { ledger := {} }
      [.create_incident 0 0 { id := "inc_1", title := "Spike", description := "", notes := some "Opened." },
        .commit 0, .load 1 "inc_1", .perform 1 1 "inc_1" (.add_note "Looking into it." "alice"), .commit 1] :=
  notesKept_along_of_settled {} ⟨fun _ _ hnone => (by cases hnone), List.forall_mem_nil _⟩ _
    ⟨rfl, rfl, rfl, rfl, by decide +kernel, trivial⟩

/-- Two analysts load an incident, add a note each, and commit one after the other. -/
theorem not_notesKept_two_analysts :
    ¬ transition.Along step (fun s next => (s.step next).NotesKept) { ledger := {} }
      [.create_incident 0 0 { id := "inc_1", title := "Spike", description := "", notes := some "Opened." },
        .commit 0, .load 1 "inc_1", .load 2 "inc_1", .perform 1 1 "inc_1" (.add_note "Looking into it." "alice"),
        .perform 2 1 "inc_1" (.add_note "Host is offline." "bob"), .commit 1, .commit 2] := by
  intro h
  obtain ⟨order, hperm, htext⟩ := h.2.2.2.2.2.2.2.1 "inc_1" _ rfl fun session =>
    match session with
    | 0 => rfl
    | 1 => rfl
    | 2 => rfl
    | _ + 3 => rfl
  have hmem := List.mem_permutations'.mpr hperm
  clear h hperm
  revert htext
  revert order
  decide +kernel

end IncidentSessions

end larp
