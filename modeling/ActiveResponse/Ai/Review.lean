import ActiveResponse.Ai.SuggestResponse

namespace larp

namespace AIAnalysis

/-- An analyst has applied the suggestion. -/
def is_applied (self : AIAnalysis) : Prop := self.applied_by_analyst.isSome ∨ self.applied_at.isSome

/-- An analyst has dismissed the suggestion. -/
def is_dismissed (self : AIAnalysis) : Prop := self.dismissed_by_analyst.isSome ∨ self.dismissed_at.isSome

instance (row : AIAnalysis) : Decidable row.is_applied := inferInstanceAs (Decidable (_ ∨ _))

instance (row : AIAnalysis) : Decidable row.is_dismissed := inferInstanceAs (Decidable (_ ∨ _))

/-- The review state of an analysis: at most one verdict, and none without a suggestion. -/
structure Reviewed (row : AIAnalysis) : Prop where
  exclusive : ¬ (row.is_applied ∧ row.is_dismissed)
  suggested : ¬ present row.suggested_action → ¬ row.is_applied ∧ ¬ row.is_dismissed

/-- The columns of a dismissal are written and reset together, and a dismissal names an analyst. -/
def WholeDismissal (row : AIAnalysis) : Prop :=
  (row.dismissed_by_analyst = none ∧ row.dismissed_at = none) ∨
    (present row.dismissed_by_analyst ∧ row.dismissed_at.isSome)

variable {self row : AIAnalysis}

theorem WholeDismissal.not_dismissed (h : row.WholeDismissal) (hname : ¬ present row.dismissed_by_analyst) :
    ¬ row.is_dismissed := by
  rcases h with ⟨hby, hat⟩ | ⟨hby, _⟩
  · simp [is_dismissed, hby, hat]
  · exact absurd hby hname

theorem reviewed_of_pending (hsuggested : present row.suggested_action) (hdismissed : ¬ row.is_dismissed) :
    row.Reviewed :=
  ⟨fun h => hdismissed h.2, fun h => absurd hsuggested h⟩

/-- A column that is reset is empty afterwards, unless the copy of the session was empty: then it is not written. -/
private theorem assign_none {A : Type} [DecidableEq A] (loaded current : Option A) :
    assign (· = ·) loaded none current = if loaded = none then current else none := by
  simp [assign]

theorem is_applied_of_suggest {suggestion : Suggestion} (h : (self.suggest suggestion row).is_applied) :
    row.is_applied := by
  simp only [is_applied, suggest, assign_none] at h
  unfold is_applied
  rcases h with h | h
  · split at h
    · exact Or.inl h
    · cases h
  · split at h
    · exact Or.inr h
    · cases h

theorem is_dismissed_of_suggest {suggestion : Suggestion} (h : (self.suggest suggestion row).is_dismissed) :
    row.is_dismissed := by
  simp only [is_dismissed, suggest, assign_none] at h
  unfold is_dismissed
  rcases h with h | h
  · split at h
    · exact Or.inl h
    · cases h
  · split at h
    · exact Or.inr h
    · cases h

theorem WholeDismissal.suggest (hloaded : self.WholeDismissal) (hrow : row.WholeDismissal) (suggestion : Suggestion) :
    (self.suggest suggestion row).WholeDismissal := by
  simp only [WholeDismissal, AIAnalysis.suggest, assign_none]
  rcases hloaded with ⟨hby, hat⟩ | ⟨hby, hat⟩
  · simp only [hby, hat, if_true]
    exact hrow
  · have hby : self.dismissed_by_analyst ≠ none := by
      rintro hnone
      simp [present, hnone] at hby
    have hat : self.dismissed_at ≠ none := by
      rintro hnone
      simp [hnone] at hat
    simp [hby, hat]

/-- A suggestion is in the row after it has been regenerated, also if the copy already had the new one. -/
theorem present_suggest {suggestion : Suggestion} (hnew : suggestion.suggested_action ≠ "")
    (hrow : present self.suggested_action → present row.suggested_action) :
    present (self.suggest suggestion row).suggested_action := by
  simp only [AIAnalysis.suggest, assign, decide_eq_true_eq]
  split
  · rename_i hsame
    refine hrow ?_
    simp [hsame, present, hnew]
  · simp [present, hnew]

end AIAnalysis

namespace SuggestionSessions

/-- The condition on a step. A dismissal finds a suggestion that has not been applied and that no call of
`apply_suggestion` has loaded, and names the analyst. A regenerated action is one that `_validate_suggestion` returns. -/
def Guarded (self : SuggestionSessions) : SuggestionStep → Prop
  | .dismiss incident_id analyst _ _ => ∀ row, self.store.latest_triage incident_id = some row →
      present row.suggested_action ∧ ¬ row.is_applied ∧ analyst ≠ "" ∧
        ∀ sid call, self.calls sid = some call → call.suggestion.id ≠ row.id
  | .regenerate _ suggestion => suggestion.suggested_action ∈ ALLOWED_ACTIONS
  | _ => True

/-- Every analysis is in a legal review state, and a call works on a suggestion that nobody has dismissed. -/
structure Orderly (s : SuggestionSessions) : Prop where
  reviewed : ∀ row ∈ s.store.analyses.rows, row.Reviewed ∧ row.WholeDismissal
  calls : ∀ sid call, s.calls sid = some call → ∃ row, s.store.analyses.get call.suggestion.id = some row ∧
    present row.suggested_action ∧ ¬ row.is_dismissed
  loaded : ∀ sid copy, s.suggesting sid = some copy → copy.WholeDismissal ∧
    ∃ row, s.store.analyses.get copy.id = some row ∧ (present copy.suggested_action → present row.suggested_action)

variable {self : SuggestionSessions} {sid : ℕ} {call : ApplyCall}

theorem Orderly.set_call (h : self.Orderly) {next : Option ApplyCall}
    (hnext : ∀ call ∈ next, ∃ row, self.store.analyses.get call.suggestion.id = some row ∧
      present row.suggested_action ∧ ¬ row.is_dismissed) : (self.set_call sid next).Orderly :=
  ⟨h.reviewed, transition.forall_update h.calls sid hnext, h.loaded⟩

theorem Orderly.end_call (h : self.Orderly) : (self.set_call sid none).Orderly :=
  h.set_call fun _ hcall => by cases hcall

theorem Orderly.next (h : self.Orderly) (hcall : self.calls sid = some call) (next : ApplyCall)
    (hcopy : next.suggestion = call.suggestion) : (self.set_call sid (some next)).Orderly :=
  h.set_call fun _ hnext => by
    cases hnext
    rw [hcopy]
    exact h.calls sid call hcall

/-- A write to one row keeps the sessions orderly, if the row stays legal, keeps its suggestion and is dismissed only
if no call works on it. -/
theorem Orderly.modify (h : self.Orderly) {id : String} {f : AIAnalysis → AIAnalysis}
    (hf : ∀ row, Keyed.key (f row) = Keyed.key row) {next : SuggestionSessions}
    (hanalyses : next.store.analyses = self.store.analyses.modify id f)
    (hcalls : ∀ sid call, next.calls sid = some call → self.calls sid = some call)
    (hsuggesting : ∀ sid copy, next.suggesting sid = some copy → self.suggesting sid = some copy)
    (hrow : ∀ row, self.store.analyses.get id = some row → (f row).Reviewed ∧ (f row).WholeDismissal)
    (hpresent : ∀ row, self.store.analyses.get id = some row → present row.suggested_action →
      present (f row).suggested_action)
    (hdismissed : ∀ sid call row, next.calls sid = some call → self.store.analyses.get id = some row →
      call.suggestion.id = id → ¬ row.is_dismissed → ¬ (f row).is_dismissed) : next.Orderly := by
  refine ⟨fun row hmem => ?_, fun sid call hcall => ?_, fun sid copy hcopy => ?_⟩
  · rw [hanalyses] at hmem
    obtain ⟨old, hold, rfl⟩ := (Table.mem_modify hf).mp hmem
    split
    · rename_i hkey
      exact hrow old (hkey ▸ Table.get_of_mem hold)
    · exact h.reviewed old hold
  · obtain ⟨row, hget, hsuggested, hpending⟩ := h.calls sid call (hcalls sid call hcall)
    rw [hanalyses, Table.get_modify hf]
    split
    · rename_i hid
      have hget' : self.store.analyses.get id = some row := by rw [hid, hget]
      exact ⟨f row, by rw [hget]; rfl, hpresent row hget' hsuggested,
        hdismissed sid call row hcall hget' hid.symm hpending⟩
    · exact ⟨row, hget, hsuggested, hpending⟩
  · obtain ⟨hwhole, row, hget, hsuggested⟩ := h.loaded sid copy (hsuggesting sid copy hcopy)
    refine ⟨hwhole, ?_⟩
    rw [hanalyses, Table.get_modify hf]
    split
    · rename_i hid
      exact ⟨f row, by rw [hget]; rfl, fun hcopy => hpresent row (by rw [hid, hget]) (hsuggested hcopy)⟩
    · exact ⟨row, hget, hsuggested⟩

/-- A suggestion that may be applied is stored, and nobody has a verdict on it. -/
theorem select_suggestion_pending {store : SuggestionStore} {incident_id : String} {suggestion : AIAnalysis}
    (h : store.select_suggestion incident_id = .ok suggestion) : store.analyses.get suggestion.id = some suggestion ∧
      present suggestion.suggested_action ∧ ¬ present suggestion.dismissed_by_analyst := by
  unfold SuggestionStore.select_suggestion at h
  split at h
  · rename_i row hlatest
    split at h
    · rename_i hsuggested
      obtain ⟨_, hcheck, rfl⟩ := map_eq_ok_iff.mp h
      refine ⟨latest_triage_get hlatest, hsuggested, fun hdismissed => ?_⟩
      simp only [AIAnalysis.check_idempotency, hdismissed, if_true] at hcheck
      split at hcheck <;> cases hcheck
    · cases h
  · cases h

private theorem Orderly.select (h : self.Orderly) (incident_id analyst : String) :
    (self.select sid incident_id analyst).Orderly := by
  refine advance_cases (fun suggestion hselect => ?_) h.end_call
  obtain ⟨hget, hsuggested, hname⟩ := select_suggestion_pending hselect
  refine h.set_call fun call hcall => ?_
  cases hcall
  exact ⟨suggestion, hget, hsuggested, (h.reviewed suggestion (Table.get_mem hget)).2.not_dismissed hname⟩

private theorem Orderly.mark (h : self.Orderly) (hcall : self.calls sid = some call) (now : Time) :
    (self.mark sid now call).Orderly := by
  unfold SuggestionSessions.mark
  split
  · obtain ⟨row, hget, hsuggested, hpending⟩ := h.calls sid call hcall
    refine h.end_call.modify (AIAnalysis.key_mark_applied call.suggestion call.analyst now) rfl (fun _ _ hnext => hnext)
      (fun _ _ hcopy => hcopy) (fun other hother => ?_) (fun _ _ hpresent => hpresent) fun _ _ _ _ _ _ hnot => hnot
    obtain rfl : row = other := Option.some.inj (hget.symm.trans hother)
    exact ⟨AIAnalysis.reviewed_of_pending hsuggested hpending, (h.reviewed row (Table.get_mem hget)).2⟩
  · exact h

private theorem Orderly.regenerate (h : self.Orderly) {loaded : AIAnalysis} (hloaded : self.suggesting sid = some loaded)
    {suggestion : Suggestion} (hallowed : suggestion.suggested_action ∈ ALLOWED_ACTIONS) :
    (self.regenerate sid loaded suggestion).Orderly := by
  have hnonempty : suggestion.suggested_action ≠ "" := by
    rintro hempty
    exact absurd (hempty ▸ hallowed) (by decide)
  obtain ⟨hwhole, stored, hstored, hsuggested⟩ := h.loaded sid loaded hloaded
  have hrow : ∀ row, self.store.analyses.get loaded.id = some row →
      present (loaded.suggest suggestion row).suggested_action := by
    rintro row hget
    rw [hstored] at hget
    cases hget
    exact AIAnalysis.present_suggest hnonempty hsuggested
  refine h.modify (AIAnalysis.key_suggest loaded suggestion) rfl (fun _ _ hcall => hcall) ?_ (fun row hget => ?_)
    (fun row hget _ => hrow row hget) fun _ _ _ _ _ _ hnot hdismissed =>
      hnot (AIAnalysis.is_dismissed_of_suggest hdismissed)
  · intro other copy hcopy
    by_cases hother : other = sid
    · subst hother
      simp [SuggestionSessions.regenerate] at hcopy
    · simpa [SuggestionSessions.regenerate, set_analyses, Function.update_of_ne hother] using hcopy
  · obtain ⟨hreviewed, hrow_whole⟩ := h.reviewed row (Table.get_mem hget)
    refine ⟨⟨fun hboth => ?_, fun hmissing => absurd (hrow row hget) hmissing⟩, hwhole.suggest hrow_whole suggestion⟩
    exact hreviewed.exclusive
      ⟨AIAnalysis.is_applied_of_suggest hboth.1, AIAnalysis.is_dismissed_of_suggest hboth.2⟩

private theorem Orderly.dismiss (h : self.Orderly) {incident_id analyst reason : String} {now : Time} {row : AIAnalysis}
    (hlatest : self.store.latest_triage incident_id = some row)
    (hguarded : self.Guarded (.dismiss incident_id analyst reason now)) :
    (self.set_analyses (self.store.analyses.modify row.id (.dismiss analyst reason now))).Orderly := by
  obtain ⟨hsuggested, happlied, hname, hcalls⟩ := hguarded row hlatest
  refine h.modify (AIAnalysis.key_dismiss analyst reason now) rfl (fun _ _ hcall => hcall) (fun _ _ hcopy => hcopy)
    (fun other hother => ?_) (fun _ _ hpresent => hpresent) fun other call _ hcall _ hid => absurd hid (hcalls other call hcall)
  obtain rfl : row = other := Option.some.inj ((latest_triage_get hlatest).symm.trans hother)
  refine ⟨⟨fun hboth => happlied hboth.1, fun hmissing => absurd hsuggested hmissing⟩, Or.inr ⟨?_, rfl⟩⟩
  simpa [AIAnalysis.dismiss, present] using hname

private theorem Orderly.insert (h : self.Orderly) {analyses : Table AIAnalysis} {id incident_id : String}
    {confidence : ℚ} {now : Time}
    (hinsert : self.store.analyses.insert { id, incident_id, confidence, created_at := now } = some analyses) :
    (self.set_analyses analyses).Orderly := by
  refine ⟨fun row hmem => ?_, fun sid call hcall => ?_, fun sid copy hcopy => ?_⟩
  · rcases (Table.mem_of_insert hinsert).mp hmem with hold | rfl
    · exact h.reviewed row hold
    · exact ⟨⟨by simp [AIAnalysis.is_applied], fun _ => by simp [AIAnalysis.is_applied, AIAnalysis.is_dismissed]⟩,
        Or.inl ⟨rfl, rfl⟩⟩
  · obtain ⟨row, hget, hrow⟩ := h.calls sid call hcall
    exact ⟨row, Table.get_of_insert_of_get hinsert hget, hrow⟩
  · obtain ⟨hwhole, row, hget, hrow⟩ := h.loaded sid copy hcopy
    exact ⟨hwhole, row, Table.get_of_insert_of_get hinsert hget, hrow⟩

private theorem Orderly.load (h : self.Orderly) (incident_id : String) :
    ({ self with suggesting := Function.update self.suggesting sid (self.store.latest_triage incident_id) } :
      SuggestionSessions).Orderly := by
  refine ⟨h.reviewed, h.calls, transition.forall_update h.loaded sid fun copy hcopy => ?_⟩
  have hget := latest_triage_get hcopy
  exact ⟨(h.reviewed copy (Table.get_mem hget)).2, copy, hget, id⟩

variable (is_datetime : Json → Bool) (py_str : Json → String)

/-- A guarded step keeps the sessions orderly. -/
theorem Orderly.step (h : self.Orderly) {op : SuggestionStep} (hguarded : self.Guarded op) :
    (self.step is_datetime py_str op).Orderly := by
  cases op with
  | select sid incident_id analyst =>
    simp only [SuggestionSessions.step]
    split
    · exact h
    · exact h.select incident_id analyst
  | get_incident sid =>
    refine resume_cases (fun call hcall => ?_) h
    unfold SuggestionSessions.get_incident
    split
    · exact advance_cases (fun _ _ => h.next hcall _ rfl) h.end_call
    · exact h
  | validate sid now =>
    refine resume_cases (fun call hcall => ?_) h
    unfold SuggestionSessions.validate
    split
    · exact advance_cases (fun _ _ => h.next hcall _ rfl) h.end_call
    · exact h
  | create sid now action_id cmd_id =>
    refine resume_cases (fun call hcall => ?_) h
    unfold SuggestionSessions.create
    split
    · refine advance_cases (fun created _ => ?_) h.end_call
      have hnext := h.next hcall { call with phase := .created action_id } rfl
      exact ⟨hnext.reviewed, hnext.calls, hnext.loaded⟩
    · exact h
  | mark sid now => exact resume_cases (fun _ hcall => h.mark hcall now) h
  | fail sid => exact h.end_call
  | load_triage sid incident_id => exact h.load incident_id
  | regenerate sid suggestion =>
    simp only [SuggestionSessions.step]
    split
    · rename_i loaded hloaded
      exact h.regenerate hloaded hguarded
    · exact h
  | dismiss incident_id analyst reason now =>
    simp only [SuggestionSessions.step]
    split
    · rename_i row hlatest
      exact h.dismiss hlatest hguarded
    · exact h
  | triage id incident_id confidence now =>
    simp only [SuggestionSessions.step]
    split
    · rename_i analyses hinsert
      exact h.insert hinsert
    · exact h
  | telemetry | other => exact ⟨h.reviewed, h.calls, h.loaded⟩

/-! ## What follows a dismissal -/

/-- A dismissal stays until the suggestion is regenerated. -/
def KeepsDismissals (self next : SuggestionSessions) : Prop :=
  ∀ id row, self.store.analyses.get id = some row → ∃ row', next.store.analyses.get id = some row' ∧
    (self.generation id < next.generation id ∨
      (self.generation id = next.generation id ∧ (row.is_dismissed → row'.is_dismissed)))

theorem KeepsDismissals.of_eq {next : SuggestionSessions} (hanalyses : next.store.analyses = self.store.analyses)
    (hgeneration : next.generation = self.generation) : self.KeepsDismissals next := by
  intro id row hget
  rw [hanalyses, hgeneration]
  exact ⟨row, hget, Or.inr ⟨rfl, fun hdismissed => hdismissed⟩⟩

theorem KeepsDismissals.of_modify {next : SuggestionSessions} {id : String} {f : AIAnalysis → AIAnalysis}
    (hf : ∀ row, Keyed.key (f row) = Keyed.key row)
    (hanalyses : next.store.analyses = self.store.analyses.modify id f) (hgeneration : next.generation = self.generation)
    (hkeep : ∀ row : AIAnalysis, row.is_dismissed → (f row).is_dismissed) : self.KeepsDismissals next := by
  intro other row hget
  rw [hanalyses, hgeneration, Table.get_modify hf, hget]
  split
  · exact ⟨f row, rfl, Or.inr ⟨rfl, hkeep row⟩⟩
  · exact ⟨row, rfl, Or.inr ⟨rfl, fun hdismissed => hdismissed⟩⟩

private theorem keepsDismissals_regenerate (loaded : AIAnalysis) (suggestion : Suggestion) :
    self.KeepsDismissals (self.regenerate sid loaded suggestion) := by
  intro id row hget
  simp only [SuggestionSessions.regenerate, set_analyses, Table.get_modify (AIAnalysis.key_suggest _ _), hget]
  by_cases hid : loaded.id = id
  · subst hid
    exact ⟨_, if_pos rfl, Or.inl (by simp)⟩
  · exact ⟨row, if_neg hid, Or.inr ⟨by rw [Function.update_of_ne (Ne.symm hid)], fun hdismissed => hdismissed⟩⟩

theorem keepsDismissals_step (op : SuggestionStep) : self.KeepsDismissals (self.step is_datetime py_str op) := by
  have hidle : self.KeepsDismissals self := .of_eq rfl rfl
  cases op with
  | select sid incident_id analyst =>
    simp only [SuggestionSessions.step]
    split
    · exact hidle
    · exact advance_cases (fun _ _ => .of_eq rfl rfl) (.of_eq rfl rfl)
  | get_incident sid =>
    refine resume_cases (fun call _ => ?_) hidle
    unfold SuggestionSessions.get_incident
    split
    · exact advance_cases (fun _ _ => .of_eq rfl rfl) (.of_eq rfl rfl)
    · exact hidle
  | validate sid now =>
    refine resume_cases (fun call _ => ?_) hidle
    unfold SuggestionSessions.validate
    split
    · exact advance_cases (fun _ _ => .of_eq rfl rfl) (.of_eq rfl rfl)
    · exact hidle
  | create sid now action_id cmd_id =>
    refine resume_cases (fun call _ => ?_) hidle
    unfold SuggestionSessions.create
    split
    · exact advance_cases (fun _ _ => .of_eq rfl rfl) (.of_eq rfl rfl)
    · exact hidle
  | mark sid now =>
    refine resume_cases (fun call _ => ?_) hidle
    unfold SuggestionSessions.mark
    split
    · exact .of_modify (AIAnalysis.key_mark_applied _ _ _) rfl rfl fun _ hdismissed => hdismissed
    · exact hidle
  | fail | load_triage | telemetry | other => exact .of_eq rfl rfl
  | regenerate sid suggestion =>
    simp only [SuggestionSessions.step]
    split
    · exact keepsDismissals_regenerate _ suggestion
    · exact hidle
  | dismiss incident_id analyst reason now =>
    simp only [SuggestionSessions.step]
    split
    · exact .of_modify (AIAnalysis.key_dismiss analyst reason now) rfl rfl fun _ _ => Or.inl rfl
    · exact hidle
  | triage id incident_id confidence now =>
    simp only [SuggestionSessions.step]
    split
    · rename_i analyses hinsert
      intro other row hget
      exact ⟨row, Table.get_of_insert_of_get hinsert hget, Or.inr ⟨rfl, fun hdismissed => hdismissed⟩⟩
    · exact hidle

/-- A new application is one of a suggestion that nobody has dismissed. -/
theorem Orderly.pending_of_applied (h : self.Orderly) {op : SuggestionStep} {a : Application}
    (ha : a ∈ (self.step is_datetime py_str op).applied) :
    a ∈ self.applied ∨ ∃ row, self.store.analyses.get a.analysis_id = some row ∧ ¬ row.is_dismissed := by
  revert ha
  cases op with
  | select sid incident_id analyst =>
    simp only [SuggestionSessions.step]
    split
    · exact Or.inl
    · exact advance_cases (P := fun next => a ∈ next.applied → _) (fun _ _ => Or.inl) Or.inl
  | get_incident sid =>
    refine resume_cases (P := fun next => a ∈ next.applied → _) (fun call _ => ?_) Or.inl
    unfold SuggestionSessions.get_incident
    split
    · exact advance_cases (P := fun next => a ∈ next.applied → _) (fun _ _ => Or.inl) Or.inl
    · exact Or.inl
  | validate sid now =>
    refine resume_cases (P := fun next => a ∈ next.applied → _) (fun call _ => ?_) Or.inl
    unfold SuggestionSessions.validate
    split
    · exact advance_cases (P := fun next => a ∈ next.applied → _) (fun _ _ => Or.inl) Or.inl
    · exact Or.inl
  | create sid now action_id cmd_id =>
    refine resume_cases (P := fun next => a ∈ next.applied → _) (fun call hcall => ?_) Or.inl
    unfold SuggestionSessions.create
    split
    · refine advance_cases (P := fun next => a ∈ next.applied → _) (fun created _ hmem => ?_) Or.inl
      rcases List.mem_append.mp hmem with hold | hnew
      · exact Or.inl hold
      · cases List.mem_singleton.mp hnew
        obtain ⟨row, hget, _, hpending⟩ := h.calls sid call hcall
        exact Or.inr ⟨row, hget, hpending⟩
    · exact Or.inl
  | mark sid now =>
    refine resume_cases (P := fun next => a ∈ next.applied → _) (fun call _ => ?_) Or.inl
    unfold SuggestionSessions.mark
    split
    · exact Or.inl
    · exact Or.inl
  | fail | load_triage | telemetry | other => exact Or.inl
  | regenerate | dismiss | triage =>
    simp only [SuggestionSessions.step]
    split
    · exact Or.inl
    · exact Or.inl

private theorem generation_le_run {id : String} {row : AIAnalysis} (hget : self.store.analyses.get id = some row)
    (steps : List SuggestionStep) :
    self.generation id ≤ (transition.run (step is_datetime py_str) self steps).generation id := by
  induction steps generalizing self row with
  | nil => exact le_rfl
  | cons op steps ih =>
    obtain ⟨row', hget', hkeep⟩ := keepsDismissals_step is_datetime py_str op id row hget
    have hstep : self.generation id ≤ (self.step is_datetime py_str op).generation id := by
      rcases hkeep with hlt | ⟨heq, _⟩ <;> omega
    exact hstep.trans (ih hget')

/-- As long as a dismissed suggestion is not regenerated, no action is created from it. -/
theorem Orderly.no_application_of_dismissed (h : self.Orderly) {steps : List SuggestionStep}
    (hsteps : transition.Along (SuggestionSessions.step is_datetime py_str) Guarded self steps) {id : String}
    {row : AIAnalysis} (hget : self.store.analyses.get id = some row) (hdismissed : row.is_dismissed)
    (hgeneration : (transition.run (SuggestionSessions.step is_datetime py_str) self steps).generation id =
      self.generation id) {a : Application} (hid : a.analysis_id = id)
    (ha : a ∈ (transition.run (SuggestionSessions.step is_datetime py_str) self steps).applied) : a ∈ self.applied := by
  induction steps generalizing self row with
  | nil => exact ha
  | cons op steps ih =>
    obtain ⟨row', hget', hkeep⟩ := keepsDismissals_step is_datetime py_str op id row hget
    have hrest := generation_le_run is_datetime py_str hget' steps
    rw [transition.run_cons] at hgeneration ha
    rcases hkeep with hlt | ⟨heq, hkept⟩
    · omega
    · have hbefore := ih (h.step is_datetime py_str hsteps.1) hsteps.2 hget' (hkept hdismissed)
        (hgeneration.trans heq) ha
      rcases h.pending_of_applied is_datetime py_str hbefore with hold | ⟨other, hother, hpending⟩
      · exact hold
      · rw [hid, hget] at hother
        cases hother
        exact absurd hdismissed hpending

theorem orderly_run (store : SuggestionStore)
    (hstore : ∀ row ∈ store.analyses.rows, row.Reviewed ∧ row.WholeDismissal) {steps : List SuggestionStep}
    (hsteps : transition.Along (step is_datetime py_str) Guarded { store } steps) :
    (transition.run (step is_datetime py_str) { store } steps).Orderly :=
  transition.run_invariant (I := Orderly) (fun _ _ h hguarded => h.step is_datetime py_str hguarded) hsteps
    ⟨hstore, fun _ _ hcall => (by cases hcall), fun _ _ hcopy => (by cases hcopy)⟩

/-- Over every interleaving of regenerations, applications and dismissals in which a dismissal finds a suggestion that
is neither applied nor loaded by a call, every analysis, the latest triage among them, is never both applied and
dismissed, and neither without a suggestion, and no action is created from a dismissed suggestion before it is
regenerated. -/
theorem reviewed_of_guarded (store : SuggestionStore)
    (hstore : ∀ row ∈ store.analyses.rows, row.Reviewed ∧ row.WholeDismissal) (first last : List SuggestionStep)
    (hsteps : transition.Along (step is_datetime py_str) Guarded { store } (first ++ last)) :
    let before := transition.run (step is_datetime py_str) { store } first
    let after := transition.run (step is_datetime py_str) before last
    (∀ row ∈ after.store.analyses.rows, row.Reviewed) ∧
    ∀ id row, before.store.analyses.get id = some row → row.is_dismissed → after.generation id = before.generation id →
      ∀ a ∈ after.applied, a.analysis_id = id → a ∈ before.applied := by
  obtain ⟨hfirst, hlast⟩ := transition.along_append.mp hsteps
  have hbefore := orderly_run is_datetime py_str store hstore hfirst
  have hafter := orderly_run is_datetime py_str store hstore hsteps
  rw [transition.run_append] at hafter
  refine ⟨fun row hmem => (hafter.reviewed row hmem).1, ?_⟩
  intro id row hget hdismissed hgeneration a ha hid
  exact hbefore.no_application_of_dismissed is_datetime py_str hlast hget hdismissed hgeneration hid ha

/-- An analyst dismisses the suggestion, another one wants to apply it. -/
def applied_after_dismissal : List SuggestionStep :=
  [.dismiss "inc_1" "alice" "" 1, .select 0 "inc_1" "bob"]

theorem reviewed_applied_after_dismissal : ∃ row,
    (transition.run (step (fun _ => false) fun _ => "") { store := suggested_isolation }
      applied_after_dismissal).store.latest_triage "inc_1" = some row ∧ row.Reviewed := by
  have hpending : ∀ row ∈ suggested_isolation.analyses.rows,
      present row.suggested_action ∧ ¬ row.is_applied ∧ ¬ row.is_dismissed ∧
        row.dismissed_by_analyst = none ∧ row.dismissed_at = none := by decide
  have hreviewed := (reviewed_of_guarded (fun _ => false) (fun _ => "") suggested_isolation (fun row hmem => ?_)
    applied_after_dismissal [] ⟨fun row hlatest => ?_, trivial, trivial⟩).1
  · have hlatest : ((transition.run (step (fun _ => false) fun _ => "") { store := suggested_isolation }
        applied_after_dismissal).store.latest_triage "inc_1").isSome := by decide +kernel
    obtain ⟨row, hrow⟩ := Option.isSome_iff_exists.mp hlatest
    exact ⟨row, hrow, hreviewed row (Table.mem_of_latest hrow).1⟩
  · obtain ⟨hsuggested, _, hdismissed, hempty⟩ := hpending row hmem
    exact ⟨AIAnalysis.reviewed_of_pending hsuggested hdismissed, Or.inl hempty⟩
  · obtain ⟨hsuggested, happlied, _⟩ := hpending row (Table.mem_of_latest hlatest).1
    exact ⟨hsuggested, happlied, by decide, fun _ _ hcall => by cases hcall⟩

/-- An analyst applies the suggestion, and another one dismisses it afterwards. -/
def dismissed_after_application : List SuggestionStep :=
  apply_steps 0 "act_1" "cmd_1" "alice" ++ [.mark 0 1, .dismiss "inc_1" "bob" "" 2]

theorem not_reviewed_dismissed_after_application : ¬ ∀ row,
    (transition.run (step (fun _ => false) fun _ => "") { store := suggested_isolation }
      dismissed_after_application).store.latest_triage "inc_1" = some row → row.Reviewed := by
  intro h
  have hboth : ((transition.run (step (fun _ => false) fun _ => "") { store := suggested_isolation }
      dismissed_after_application).store.latest_triage "inc_1").any fun row =>
        row.is_applied ∧ row.is_dismissed := by decide +kernel
  obtain ⟨row, hlatest, hverdicts⟩ := Option.any_eq_true _ _ |>.mp hboth
  exact (h row hlatest).exclusive (of_decide_eq_true hverdicts)

end SuggestionSessions

end larp
