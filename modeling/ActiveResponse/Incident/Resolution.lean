import ActiveResponse.Incident.CreateFromRisk
import ActiveResponse.Incident.Service
import ActiveResponse.Lib.Run

namespace larp

/-- A call on incidents at a time, with the failure that the database makes it end in, if any. -/
structure TimedIncidentCall where
  now : Time
  call : IncidentCall
  fault : Option AppException := none

namespace IncidentTables

/-- A call that raises is rolled back. -/
def step (self : IncidentTables) (timed : TimedIncidentCall) : IncidentTables :=
  match timed.fault, self.perform timed.now timed.call with
  | none, .ok tables => tables
  | _, _ => self

end IncidentTables

/-- A RESOLVED incident has a resolution time, one that is still worked on has none. -/
structure IncidentRecord.Agrees (inc : IncidentRecord) : Prop where
  resolved : inc.status = .RESOLVED → inc.resolved_at.isSome
  worked_on : inc.toIncident.active → inc.resolved_at = none

/-- The status agrees with the resolution time that the row has. -/
def IncidentRecord.fits (self : IncidentRecord) : IncidentStatus → Bool
  | .RESOLVED => self.resolved_at.isSome
  | .OPEN | .INVESTIGATING | .CONTAINED => self.resolved_at.isNone
  | .FALSE_POSITIVE | .CLOSED => true

/-- The status that an operation assigns without regard to `resolved_at`. -/
def IncidentOp.assigned_status : IncidentOp → Option IncidentStatus
  | .update_incident dto => dto.status
  | .assign_incident _ => some .INVESTIGATING
  | .contain_incident _ => some .CONTAINED
  | .mark_false_positive _ => some .FALSE_POSITIVE
  | .close_incident _ => some .CLOSED
  | .execute_action action_type _ _ _ => if action_type = "isolate" then some .CONTAINED else none
  | .add_note .. | .resolve_incident _ | .risk_spike _ => none

namespace IncidentTables

def Agree (self : IncidentTables) : Prop :=
  ∀ id inc, self.incidents.get id = some inc → inc.Agrees

/-- The condition: an operation that succeeds finds a resolution time that fits the status it assigns.
`update_incident` does not resolve an incident that has no resolution time, and nothing puts one that
has a resolution time back to work. -/
def fitting (self : IncidentTables) (timed : TimedIncidentCall) : Bool :=
  match timed.fault, timed.call with
  | none, .edit incident_id op =>
    (self.incidents.get incident_id).all fun inc =>
      (op.edit timed.now inc).toOption.isSome → op.assigned_status.all inc.fits
  | _, _ => true

end IncidentTables

section Edit

variable {now : Time} {op : IncidentOp} {inc edited : IncidentRecord} {note : Option IncidentNote}

theorem IncidentRecord.agrees_iff_fits : inc.Agrees ↔ inc.fits inc.status := by
  constructor
  · intro h
    cases hstatus : inc.status with
    | RESOLVED => exact h.resolved hstatus
    | OPEN | INVESTIGATING | CONTAINED =>
      simpa [fits] using h.worked_on (by simp [Incident.active, hstatus])
    | FALSE_POSITIVE | CLOSED => rfl
  · intro h
    constructor
    · intro hstatus
      rw [hstatus] at h
      exact h
    · intro hactive
      simp only [Incident.active, decide_eq_true_eq] at hactive
      rcases hactive with hstatus | hstatus | hstatus <;> rw [hstatus] at h <;> simpa [fits] using h

/-- What an operation makes of the status and the resolution time. -/
private theorem edit_cases (h : op.edit now inc = .ok (edited, note)) :
    edited.id = inc.id ∧
      ((op.assigned_status = none ∧ edited.status = .RESOLVED ∧ edited.resolved_at = some now) ∨
        (edited.status = op.assigned_status.getD inc.status ∧ edited.resolved_at = inc.resolved_at)) := by
  cases op with
  | update_incident dto =>
    obtain ⟨rfl, rfl⟩ := Prod.mk.inj (Except.ok.inj h)
    unfold IncidentRecord.set_label
    split <;> exact ⟨rfl, Or.inr ⟨rfl, rfl⟩⟩
  | resolve_incident user =>
    obtain ⟨rfl, rfl⟩ := Prod.mk.inj (Except.ok.inj h)
    exact ⟨rfl, Or.inl ⟨rfl, rfl, rfl⟩⟩
  | execute_action action_type params user answer =>
    obtain ⟨⟨row, result_msg⟩, haction, heq⟩ := map_eq_ok_iff.mp h
    obtain ⟨rfl, rfl⟩ := Prod.mk.inj heq
    rw [IncidentRecord.quick_action_ok haction]
    simp only [IncidentOp.assigned_status]
    split <;> exact ⟨rfl, Or.inr ⟨rfl, rfl⟩⟩
  | add_note | assign_incident | contain_incident | mark_false_positive | close_incident | risk_spike =>
    obtain ⟨rfl, rfl⟩ := Prod.mk.inj (Except.ok.inj h)
    exact ⟨rfl, Or.inr ⟨rfl, rfl⟩⟩

/-- An operation keeps the agreement exactly if the status that it assigns fits. -/
private theorem edit_agrees_iff (h : op.edit now inc = .ok (edited, note)) (hinc : inc.Agrees) :
    edited.Agrees ↔ op.assigned_status.all inc.fits := by
  rw [IncidentRecord.agrees_iff_fits]
  rcases (edit_cases h).2 with ⟨hnone, hstatus, hresolved⟩ | ⟨hstatus, hresolved⟩
  · simp [hnone, hstatus, IncidentRecord.fits, hresolved]
  · have hfits : edited.fits = inc.fits := by
      funext status
      cases status <;> simp [IncidentRecord.fits, hresolved]
    rw [hstatus, hfits]
    cases hassigned : op.assigned_status with
    | none => simpa using IncidentRecord.agrees_iff_fits.mp hinc
    | some status => simp

theorem IncidentRecord.append_note_agrees_iff (added : IncidentNote) : (inc.append_note added).Agrees ↔ inc.Agrees :=
  ⟨fun h => ⟨h.resolved, h.worked_on⟩, fun h => ⟨h.resolved, h.worked_on⟩⟩

end Edit

namespace IncidentTables

variable {self tables : IncidentTables} {now : Time}

theorem agree_put_iff {inc : IncidentRecord} (h : self.Agree) {id : String} (hget : (self.incidents.get id).isSome)
    (hid : inc.id = id) (notes : List IncidentNote) :
    Agree { incidents := self.incidents.put inc, incident_notes := notes } ↔ inc.Agrees := by
  subst hid
  constructor
  · intro hagree
    obtain ⟨old, hold⟩ := Option.isSome_iff_exists.mp hget
    exact hagree inc.id inc (by simp [Table.get_put, hold])
  · intro hagrees id other hother
    simp only [Table.get_put, IncidentRecord.key_eq] at hother
    split at hother
    · obtain ⟨old, _, rfl⟩ := Option.map_eq_some_iff.mp hother
      exact hagrees
    · exact h id other hother

private theorem save_agree_iff {inc edited : IncidentRecord} {op : IncidentOp} {note : Option IncidentNote}
    (h : self.Agree) (hget : self.incidents.get inc.id = some inc) (hedit : op.edit now inc = .ok (edited, note)) :
    (self.save edited note).Agree ↔ op.assigned_status.all inc.fits := by
  have hid : (note.elim edited edited.append_note).id = inc.id := by
    cases note <;> exact (edit_cases hedit).1
  unfold save
  rw [agree_put_iff h (by rw [hget]; rfl) hid, ← edit_agrees_iff hedit (h inc.id inc hget)]
  cases note with
  | none => exact Iff.rfl
  | some added => exact IncidentRecord.append_note_agrees_iff added

/-- A new incident is open and has no resolution time. -/
private theorem create_agree {inc : IncidentRecord} {content : String} (h : self.Agree) (hinc : inc.Agrees)
    (hcreate : self.create inc content = .ok tables) : tables.Agree := by
  unfold create at hcreate
  split at hcreate
  · rename_i incidents hinsert
    obtain rfl := Except.ok.inj hcreate
    intro id other hother
    rw [Table.get_of_insert hinsert] at hother
    split at hother
    · obtain rfl := Option.some.inj hother
      exact (IncidentRecord.append_note_agrees_iff _).mpr hinc
    · exact h id other hother
  · cases hcreate

private theorem agrees_of_new {inc : IncidentRecord} (hstatus : inc.status = .OPEN)
    (hresolved : inc.resolved_at = none) : inc.Agrees := by
  rw [IncidentRecord.agrees_iff_fits, hstatus]
  simp [IncidentRecord.fits, hresolved]

private theorem create_from_risk_agree {inc_id agent_id : String} {spike : RiskSpike} (h : self.Agree)
    (hcreate : self.create_from_risk now inc_id agent_id spike = .ok tables) : tables.Agree := by
  unfold create_from_risk at hcreate
  split at hcreate
  · rename_i existing _
    unfold edit at hcreate
    split at hcreate
    · cases hcreate
    · rename_i inc hget
      obtain ⟨⟨edited, note⟩, hedit, rfl⟩ := map_eq_ok_iff.mp hcreate
      have hid : inc.id = existing.id := Table.key_of_get hget
      rw [← hid] at hget
      exact (save_agree_iff h hget hedit).mpr rfl
  · exact create_agree h (agrees_of_new rfl rfl) hcreate

/-- A call keeps the agreement exactly if the status that it assigns fits. -/
theorem agree_step_iff (h : self.Agree) (timed : TimedIncidentCall) :
    (self.step timed).Agree ↔ self.fitting timed := by
  obtain ⟨now, call, fault⟩ := timed
  cases fault with
  | some e => exact iff_of_true h rfl
  | none =>
    cases hresult : self.perform now call with
    | error e =>
      have hstep : self.step { now, call } = self := by simp [step, hresult]
      rw [hstep]
      refine iff_of_true h ?_
      cases call with
      | create_incident | create_from_risk => rfl
      | edit incident_id op =>
        simp only [perform, edit] at hresult
        cases hget : self.incidents.get incident_id with
        | none => simp [fitting, hget]
        | some inc =>
          rw [hget] at hresult
          cases hedit : op.edit now inc with
          | error e => simp [fitting, hget, hedit, Except.toOption]
          | ok edited => simp [hedit, Except.map] at hresult
    | ok tables =>
      have hstep : self.step { now, call } = tables := by simp [step, hresult]
      rw [hstep]
      cases call with
      | create_incident dto => exact iff_of_true (create_agree h (agrees_of_new rfl rfl) hresult) rfl
      | create_from_risk inc_id agent_id spike => exact iff_of_true (create_from_risk_agree h hresult) rfl
      | edit incident_id op =>
        simp only [perform, edit] at hresult
        cases hget : self.incidents.get incident_id with
        | none =>
          rw [hget] at hresult
          cases hresult
        | some inc =>
          rw [hget] at hresult
          obtain ⟨⟨edited, note⟩, hedit, rfl⟩ := map_eq_ok_iff.mp hresult
          have hid : inc.id = incident_id := Table.key_of_get hget
          subst hid
          simpa [fitting, hget, hedit, Except.toOption] using save_agree_iff h hget hedit

/-- Over every run from an empty table, status and resolution time agree after every call exactly if
every call assigns a status that fits. -/
theorem agree_along_iff (calls : List TimedIncidentCall) :
    transition.Along step (fun self timed => (self.step timed).Agree) {} calls ↔
      transition.Along step (fun self timed => self.fitting timed) {} calls := by
  suffices h : ∀ self : IncidentTables, self.Agree →
      (transition.Along step (fun self timed => (self.step timed).Agree) self calls ↔
        transition.Along step (fun self timed => self.fitting timed) self calls) from
    h {} fun _ _ hnone => by cases hnone
  induction calls with
  | nil => exact fun _ _ => Iff.rfl
  | cons timed calls ih =>
    intro self hagree
    rw [transition.along_cons, transition.along_cons, ← agree_step_iff hagree]
    exact and_congr_right fun hnext => ih _ hnext

/-- An incident is opened by hand and resolved by an update of its status. -/
theorem not_agree_update_resolved : ¬ transition.Along step (fun self timed => (self.step timed).Agree) {}
    [{ now := 0, call := .create_incident { id := "inc_1", title := "Ransomware", description := "" } },
      { now := 1, call := .edit "inc_1" (.update_incident { status := some .RESOLVED }) }] := by
  rw [agree_along_iff]
  exact fun h => absurd h.2.1 (by decide +kernel)

end IncidentTables

end larp
