import ActiveResponse.Incident.Service
import ActiveResponse.Lib.Run

namespace larp

namespace IncidentSeverity

def rank : IncidentSeverity → ℕ
  | .LOW => 0
  | .MEDIUM => 1
  | .HIGH => 2
  | .CRITICAL => 3

/-- Severities in the order of their urgency. -/
instance : Preorder IncidentSeverity := Preorder.lift rank

theorem le_iff {first second : IncidentSeverity} : first ≤ second ↔ first.rank ≤ second.rank := Iff.rfl

theorem le_critical (self : IncidentSeverity) : self ≤ .CRITICAL := by
  rw [le_iff]
  cases self <;> simp [rank]

end IncidentSeverity

namespace Database

theorem risk_severity_of_critical {risk_score : ℚ} (h : 85 ≤ risk_score) : risk_severity risk_score = .CRITICAL :=
  if_pos h

theorem risk_severity_eq_critical_iff {risk_score : ℚ} : risk_severity risk_score = .CRITICAL ↔ 85 ≤ risk_score := by
  refine ⟨fun hcritical => ?_, risk_severity_of_critical⟩
  by_contra hbelow
  rw [risk_severity, if_neg hbelow] at hcritical
  split at hcritical <;> cases hcritical

theorem risk_severity_mono {first second : ℚ} (h : first ≤ second) :
    risk_severity first ≤ risk_severity second := by
  rw [IncidentSeverity.le_iff, risk_severity, risk_severity]
  by_cases hcritical : 85 ≤ first
  · rw [if_pos hcritical, if_pos (le_trans hcritical h)]
  · rw [if_neg hcritical]
    by_cases hhigh : 70 ≤ first
    · rw [if_pos hhigh, if_pos (le_trans hhigh h)]
      split <;> simp [IncidentSeverity.rank]
    · rw [if_neg hhigh]
      repeat' split
      all_goals simp [IncidentSeverity.rank]

theorem risk_severity_max_le_iff {first second : ℚ} {severity : IncidentSeverity} :
    risk_severity (max first second) ≤ severity ↔
      risk_severity first ≤ severity ∧ risk_severity second ≤ severity := by
  constructor
  · intro h
    exact ⟨le_trans (risk_severity_mono (le_max_left ..)) h, le_trans (risk_severity_mono (le_max_right ..)) h⟩
  · rintro ⟨hfirst, hsecond⟩
    rcases max_choice first second with heq | heq <;> rw [heq]
    · exact hfirst
    · exact hsecond

end Database

namespace IncidentRecord

/-- The severity is at least the one that the stored risk score maps to. -/
def KeepsUp (self : IncidentRecord) : Prop :=
  Database.risk_severity self.risk_score ≤ self.severity

/-- Neither the risk score nor the severity is smaller in the second row. -/
def NotBelow (before after : IncidentRecord) : Prop :=
  before.risk_score ≤ after.risk_score ∧ before.severity ≤ after.severity

theorem NotBelow.refl (self : IncidentRecord) : self.NotBelow self := ⟨le_refl _, le_refl _⟩

theorem NotBelow.trans {first second third : IncidentRecord} (h : first.NotBelow second)
    (hnext : second.NotBelow third) : first.NotBelow third :=
  ⟨le_trans h.1 hnext.1, le_trans h.2 hnext.2⟩

theorem notBelow_spike (self : IncidentRecord) (spike : RiskSpike) : self.NotBelow (self.spike spike) := by
  refine ⟨le_max_left .., ?_⟩
  unfold IncidentRecord.spike
  dsimp only
  split
  · exact IncidentSeverity.le_critical _
  · exact le_refl _

/-- A spike promotes to CRITICAL only, so that a severity below HIGH stays below it. -/
theorem keepsUp_spike_iff (self : IncidentRecord) (spike : RiskSpike) :
    (self.spike spike).KeepsUp ↔
      85 ≤ spike.risk_score ∨ self.KeepsUp ∧ Database.risk_severity spike.risk_score ≤ self.severity := by
  unfold KeepsUp IncidentRecord.spike
  dsimp only
  rw [Database.risk_severity_max_le_iff]
  by_cases hcritical : 85 ≤ spike.risk_score
  · rw [if_pos (Database.risk_severity_of_critical hcritical)]
    exact ⟨fun _ => .inl hcritical, fun _ => ⟨IncidentSeverity.le_critical _, IncidentSeverity.le_critical _⟩⟩
  · rw [if_neg (mt Database.risk_severity_eq_critical_iff.mp hcritical)]
    exact ⟨.inr, fun h => h.resolve_left hcritical⟩

@[simp] theorem keepsUp_append_note (self : IncidentRecord) (note : IncidentNote) :
    (self.append_note note).KeepsUp ↔ self.KeepsUp := Iff.rfl

theorem notBelow_append_note (self : IncidentRecord) (note : IncidentNote) : self.NotBelow (self.append_note note) :=
  ⟨le_refl _, le_refl _⟩

end IncidentRecord

theorem RiskSpike.keepsUp_record (self : RiskSpike) (now : Time) (inc_id agent_id : String) :
    (self.record now inc_id agent_id).KeepsUp := le_refl _

/-- A call of `create_from_risk`, with the id that it gives to a new incident. -/
structure RiskReport where
  now : Time
  inc_id : String
  agent_id : String
  spike : RiskSpike

namespace IncidentTables

/-- The tables after a call; one that fails is rolled back. -/
def report (self : IncidentTables) (call : RiskReport) : IncidentTables :=
  match self.create_from_risk call.now call.inc_id call.agent_id call.spike with
  | .ok tables => tables
  | .error _ => self

/-- The incident that a call returns. -/
def reported (self : IncidentTables) (call : RiskReport) : Option IncidentRecord :=
  match self.create_from_risk call.now call.inc_id call.agent_id call.spike with
  | .ok tables =>
    tables.incidents.get ((self.active_incident call.agent_id).elim call.inc_id fun existing => existing.id)
  | .error _ => none

/-- A call writes a spike to the active incident of its agent, or inserts a new incident, or fails and leaves the
tables alone. -/
theorem report_cases (self : IncidentTables) (call : RiskReport) :
    (∃ existing note, self.active_incident call.agent_id = some existing ∧
      self.incidents.get existing.id = some existing ∧
      self.reported call = some ((existing.spike call.spike).append_note note) ∧
      (self.report call).incidents = self.incidents.put ((existing.spike call.spike).append_note note)) ∨
    (∃ note, self.active_incident call.agent_id = none ∧
      self.reported call = some ((call.spike.record call.now call.inc_id call.agent_id).append_note note) ∧
      self.incidents.insert ((call.spike.record call.now call.inc_id call.agent_id).append_note note) =
        some (self.report call).incidents) ∨
    (self.active_incident call.agent_id = none ∧ self.reported call = none ∧ self.report call = self) := by
  unfold reported report create_from_risk
  cases hactive : self.active_incident call.agent_id with
  | some existing =>
    have hget : self.incidents.get existing.id = some existing := Table.get_of_mem (Table.mem_of_latest hactive).1
    simp only [edit, hget, IncidentOp.edit, Except.map, save, Option.elim_some]
    refine .inl ⟨existing, _, rfl, hget, ?_, rfl⟩
    have hkey : Keyed.key ((existing.spike call.spike).append_note
        (existing.note ("Automated risk spike recorded. Score: " ++ call.spike.score_text) "system")) =
        existing.id := rfl
    rw [Table.get_put, if_pos hkey, hget]
    rfl
  | none =>
    simp only [create]
    cases hinsert : self.incidents.insert ((call.spike.record call.now call.inc_id call.agent_id).append_note
        ((call.spike.record call.now call.inc_id call.agent_id).note
          ("Automated incident created due to risk score " ++ call.spike.score_text ++ ".") "system")) with
    | none => exact .inr (.inr ⟨trivial, rfl, rfl⟩)
    | some incidents =>
      refine .inr (.inl ⟨_, trivial, ?_, hinsert⟩)
      simp only [Option.elim_none]
      rw [Table.get_of_insert hinsert]
      exact if_pos rfl

/-- The incident that the call returns is not behind its own score. -/
def ReturnsUpToDate (self : IncidentTables) (call : RiskReport) : Prop :=
  ∀ inc, self.reported call = some inc → inc.KeepsUp

/-- The condition on a call that finds an active incident: its score is critical, or neither it nor the stored one
maps to more than the severity that the incident has. -/
def NeedsNoPromotion (self : IncidentTables) (call : RiskReport) : Prop :=
  ∀ existing, self.active_incident call.agent_id = some existing →
    85 ≤ call.spike.risk_score ∨
      existing.KeepsUp ∧ Database.risk_severity call.spike.risk_score ≤ existing.severity

/-- Every incident is still there, with no smaller score and no smaller severity. -/
def NotBelow (before after : IncidentTables) : Prop :=
  ∀ id inc, before.incidents.get id = some inc →
    ∃ later, after.incidents.get id = some later ∧ inc.NotBelow later

theorem NotBelow.refl (self : IncidentTables) : self.NotBelow self :=
  fun _ inc hget => ⟨inc, hget, .refl inc⟩

/-- The severity of the incidents over a sequence of calls. -/
def SeverityLaw (self : IncidentTables) (calls : List RiskReport) : Prop :=
  transition.Along report ReturnsUpToDate self calls ∧
    ∀ first second, calls = first ++ second →
      (transition.run report self first).NotBelow (transition.run report self calls)

theorem returnsUpToDate_iff (self : IncidentTables) (call : RiskReport) :
    self.ReturnsUpToDate call ↔ self.NeedsNoPromotion call := by
  unfold ReturnsUpToDate NeedsNoPromotion
  obtain ⟨existing, note, hactive, -, hreported, -⟩ | ⟨note, hactive, hreported, -⟩ | ⟨hactive, hreported, -⟩ :=
    self.report_cases call
  · simp only [hactive, hreported, Option.some.injEq, forall_eq', IncidentRecord.keepsUp_append_note,
      IncidentRecord.keepsUp_spike_iff]
  · simp only [hactive, hreported, Option.some.injEq, forall_eq', reduceCtorEq, false_imp_iff, implies_true, iff_true,
      IncidentRecord.keepsUp_append_note]
    exact call.spike.keepsUp_record call.now call.inc_id call.agent_id
  · simp only [hactive, hreported, reduceCtorEq, false_imp_iff, implies_true]

theorem notBelow_report (self : IncidentTables) (call : RiskReport) : self.NotBelow (self.report call) := by
  intro id inc hget
  obtain ⟨existing, note, -, hexisting, -, hput⟩ | ⟨note, -, -, hinsert⟩ | ⟨-, -, hsame⟩ := self.report_cases call
  · rw [hput, Table.get_put]
    split
    · rename_i hkey
      have hsame : existing.id = id := hkey
      subst hsame
      rw [hget, Option.some.injEq] at hexisting
      subst hexisting
      exact ⟨_, by rw [hget]; rfl, (inc.notBelow_spike call.spike).trans (IncidentRecord.notBelow_append_note _ note)⟩
    · exact ⟨inc, hget, .refl inc⟩
  · exact ⟨inc, Table.get_of_insert_of_get hinsert hget, .refl inc⟩
  · rw [hsame]
    exact ⟨inc, hget, .refl inc⟩

theorem NotBelow.trans {first second third : IncidentTables} (h : first.NotBelow second)
    (hnext : second.NotBelow third) : first.NotBelow third := by
  intro id inc hget
  obtain ⟨later, hlater, hbelow⟩ := h id inc hget
  obtain ⟨last, hlast, hnotBelow⟩ := hnext id later hlater
  exact ⟨last, hlast, hbelow.trans hnotBelow⟩

/-- No call lowers the score or the severity of any incident. -/
theorem notBelow_run (self : IncidentTables) (calls : List RiskReport) :
    self.NotBelow (transition.run report self calls) :=
  transition.run_preserves (I := fun tables => self.NotBelow tables)
    (fun tables call h => h.trans (tables.notBelow_report call)) (NotBelow.refl self) calls

/-- Scores and severities never decrease, and the returned incidents are up to date in exactly the sequences in which
no call has to promote an incident to HIGH. -/
theorem severityLaw_iff (self : IncidentTables) (calls : List RiskReport) :
    self.SeverityLaw calls ↔ transition.Along report NeedsNoPromotion self calls := by
  constructor
  · intro h
    exact h.1.mono fun tables call => (tables.returnsUpToDate_iff call).mp
  · intro h
    refine ⟨h.mono fun tables call => (tables.returnsUpToDate_iff call).mpr, ?_⟩
    rintro first second rfl
    rw [transition.run_append]
    exact notBelow_run _ second

/-- An agent whose score rises from 60 to 75. -/
def rising_reports : List RiskReport :=
  [{ now := 0, inc_id := "inc_1", agent_id := "web-1"
     spike := { risk_score := 60, score_text := "60.0", factors_text := "\x7b\x7d" } },
   { now := 1, inc_id := "inc_2", agent_id := "web-1"
     spike := { risk_score := 75, score_text := "75.0", factors_text := "\x7b\x7d" } }]

/-- The incident is still MEDIUM when its stored score maps to HIGH. -/
theorem not_severityLaw_rising : ¬ SeverityLaw {} rising_reports := by
  rw [SeverityLaw, not_and_or]
  left
  intro h
  have hreported : ((transition.run report {} (rising_reports.take 1)).reported
      (rising_reports.get ⟨1, by decide⟩)).any fun inc => decide (inc.risk_score = 75 ∧ inc.severity = .MEDIUM) := by
    decide +kernel
  obtain ⟨inc, hinc, hstale⟩ := (Option.any_eq_true _ _).mp hreported
  obtain ⟨hscore, hseverity⟩ := of_decide_eq_true hstale
  have hkeeps : inc.KeepsUp := h.2.1 inc hinc
  rw [IncidentRecord.KeepsUp, hscore, hseverity] at hkeeps
  exact absurd hkeeps (by decide +kernel)

end IncidentTables

end larp
