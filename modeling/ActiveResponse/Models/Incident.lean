import ActiveResponse.Models.Agent

namespace larp

/-- The row of an incident with the columns that only the incident services use. -/
structure IncidentRecord extends Incident where
  title : String
  description : String := ""
  assigned_to : Option String := none
  notes : Option String := none
  resolved_at : Option Time := none
  label : Option String := none
  label_reason : Option String := none
  labeled_by : Option String := none
  labeled_at : Option Time := none

instance : Keyed IncidentRecord String := ⟨fun record => record.id⟩

structure IncidentNote where
  incident_id : String
  user : String := "system"
  content : String
deriving DecidableEq

/-- The line that a note adds to the aggregated text. -/
def IncidentNote.line (self : IncidentNote) : List Char :=
  "\n[".toList ++ self.user.toList ++ "]: ".toList ++ self.content.toList

/-- `f"{current_notes}\n[{user}]: {content}".strip()`. -/
def IncidentNote.append_to (self : IncidentNote) (current_notes : String) : String :=
  py_strip (current_notes ++ String.ofList self.line)

namespace IncidentRecord

@[simp] theorem key_eq (self : IncidentRecord) : Keyed.key self = self.id := rfl

/-- `Incident.assign_to`. -/
def assign_to (self : IncidentRecord) (user_id : String) : IncidentRecord :=
  { self with assigned_to := some user_id, status := .INVESTIGATING }

/-- `Incident.resolve`. -/
def resolve (self : IncidentRecord) (now : Time) : IncidentRecord :=
  { self with status := .RESOLVED, resolved_at := some now }

/-- `Incident.mark_false_positive`. -/
def mark_false_positive (self : IncidentRecord) : IncidentRecord :=
  { self with status := .FALSE_POSITIVE, severity := .LOW }

/-- What `add_note` writes to the incident's row. -/
def append_note (self : IncidentRecord) (note : IncidentNote) : IncidentRecord :=
  { self with notes := some (note.append_to (self.notes.getD "")) }

end IncidentRecord

example : ({ incident_id := "inc_1", content := "Isolated. " } : IncidentNote).append_to "Opened." =
    "Opened.\n[system]: Isolated." := by decide +kernel

end larp
