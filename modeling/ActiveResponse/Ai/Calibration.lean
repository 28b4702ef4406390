import ActiveResponse.Ai.BackgroundTriage
import ActiveResponse.Ai.SuggestResponse

namespace larp

/-! ## The ids of the techniques -/

private theorem toUpper_ascii : ∀ n : Fin 128, (Char.ofNat n).toUpper.toUpper = (Char.ofNat n).toUpper ∧
    py_isspace (Char.ofNat n).toUpper = py_isspace (Char.ofNat n) := by decide +kernel

/-- `toUpper` changes ASCII letters only, and no blank is one of them. -/
private theorem toUpper_spec (c : Char) :
    c.toUpper.toUpper = c.toUpper ∧ py_isspace c.toUpper = py_isspace c := by
  by_cases hascii : c.toNat < 128
  · have h := toUpper_ascii ⟨c.toNat, hascii⟩
    rwa [Char.ofNat_toNat] at h
  · have hsame : c.toUpper = c := by
      refine dif_neg fun hlower => hascii ?_
      have hle : c.val.toNat ≤ 'z'.val.toNat := UInt32.le_iff_toNat_le.mp hlower.2
      exact lt_of_le_of_lt hle (by decide)
    rw [hsame, hsame]
    exact ⟨rfl, rfl⟩

theorem toUpper_toUpper (c : Char) : c.toUpper.toUpper = c.toUpper := (toUpper_spec c).1

theorem py_isspace_toUpper (c : Char) : py_isspace c.toUpper = py_isspace c := (toUpper_spec c).2

theorem py_strip_toUpper (s : String) : py_strip s.toUpper = (py_strip s).toUpper := by
  have hspace : py_isspace ∘ Char.toUpper = py_isspace := funext py_isspace_toUpper
  have hlist : (py_strip s.toUpper).toList = (py_strip s).toUpper.toList := by
    rw [String.toUpper, py_strip, py_strip, String.toUpper, String.toList_map, String.toList_map,
      String.toList_ofList, String.toList_ofList, py_rstrip, py_rstrip, List.rdropWhile, List.rdropWhile, py_lstrip,
      py_lstrip, ← List.map_reverse, List.dropWhile_map, ← List.map_reverse, List.dropWhile_map, hspace]
  exact String.toList_injective hlist

theorem py_strip_py_strip (s : String) : py_strip (py_strip s) = py_strip s := by
  unfold py_strip
  rw [String.toList_ofList]
  have hright : py_rstrip (py_lstrip (py_rstrip s.toList)) = py_lstrip (py_rstrip s.toList) := by
    rw [py_rstrip, List.rdropWhile_eq_self_iff]
    intro hne
    have hlast : (py_lstrip (py_rstrip s.toList)).getLast hne =
        (py_rstrip s.toList).getLast fun hnil => hne (by rw [hnil]; rfl) :=
      (List.dropWhile_suffix _).getLast hne
    rw [hlast]
    exact List.rdropWhile_last_not _ _ _
  rw [hright, py_lstrip, py_lstrip, List.dropWhile_idempotent]

/-- What `get_technique` does to an id once more, it has been through. -/
theorem upper_strip_idempotent (s : String) :
    (py_strip (py_strip s).toUpper).toUpper = (py_strip s).toUpper := by
  rw [py_strip_toUpper, py_strip_py_strip]
  have hlist : (py_strip s).toUpper.toUpper.toList = (py_strip s).toUpper.toList := by
    rw [String.toUpper, String.toUpper, String.toList_map, String.toList_map, List.map_map]
    exact List.map_congr_left fun c _ => toUpper_toUpper c
  exact String.toList_injective hlist

/-! ## What is stored -/

section Calibration

variable (kb : MitreKb) (py_str : Json → String)

/-- The row that `analyze_incident` stores after an answer of the model: the analysis, or, if the answer cannot be
parsed or used, the error. -/
def stored_analysis (id incident_id : String) (now : Time) (answer : String) (parsed : Except AppException Dict) :
    TriageRecord :=
  match parsed.bind (triage_analysis kb py_str id incident_id now answer) with
  | .ok row => row
  | .error e => failed_analysis id incident_id now e (some answer)

/-- The law of a stored analysis. -/
structure TriageRecord.Calibrated (row : TriageRecord) : Prop where
  known : ∀ tech ∈ row.mitre_techniques.getD [], tech.id ∈ kb.techs.map Prod.fst
  unit : 0 ≤ row.confidence ∧ row.confidence ≤ 1
  supported : 9 / 10 ≤ row.confidence → ∃ tech ∈ row.mitre_techniques.getD [], tech.evidence ≠ ""

/-- A technique of the answer that the knowledge base has comes with evidence. -/
def Evidenced (parsed : Dict) : Prop :=
  ∃ techs, parsed.get "mitre_techniques" = some (.arr techs) ∧ ∃ t : Dict, .obj t ∈ techs ∧
    (kb.get_technique (py_strip (text_of py_str t "id")).toUpper).isSome ∧
    py_strip (text_of py_str t "evidence") ≠ ""

theorem evidenced_iff (parsed : Dict) :
    Evidenced kb py_str parsed ↔ ∃ tech ∈ validated_techs kb py_str parsed, tech.evidence ≠ "" := by
  unfold Evidenced validated_techs
  constructor
  · rintro ⟨techs, hget, t, ht, hknown, hevidence⟩
    obtain ⟨entry, hentry⟩ := Option.isSome_iff_exists.mp hknown
    obtain ⟨tech, htech⟩ : ∃ tech, validate_technique kb py_str (.obj t) = some tech :=
      ⟨_, Option.map_eq_some_iff.mpr ⟨entry, hentry, rfl⟩⟩
    have hstored : tech.evidence = py_strip (text_of py_str t "evidence") := by
      obtain ⟨_, -, rfl⟩ := Option.map_eq_some_iff.mp htech
      rfl
    rw [hget]
    exact ⟨tech, List.mem_filterMap.mpr ⟨_, ht, htech⟩, by rwa [hstored]⟩
  · rintro ⟨tech, htech, hevidence⟩
    split at htech
    · rename_i techs hget
      obtain ⟨json, hjson, hvalid⟩ := List.mem_filterMap.mp htech
      unfold validate_technique at hvalid
      split at hvalid
      · rename_i t
        obtain ⟨entry, hentry, rfl⟩ := Option.map_eq_some_iff.mp hvalid
        exact ⟨techs, hget, t, hjson, by rw [hentry]; rfl, hevidence⟩
      · cases hvalid
    · cases htech

theorem known_of_mem_validated_techs {parsed : Dict} {tech : MitreTechnique}
    (h : tech ∈ validated_techs kb py_str parsed) : tech.id ∈ kb.techs.map Prod.fst := by
  unfold validated_techs at h
  split at h
  · obtain ⟨json, -, hvalid⟩ := List.mem_filterMap.mp h
    unfold validate_technique at hvalid
    split at hvalid
    · obtain ⟨entry, hentry, rfl⟩ := Option.map_eq_some_iff.mp hvalid
      unfold MitreKb.get_technique at hentry
      split at hentry
      · cases hentry
      · rw [upper_strip_idempotent] at hentry
        obtain ⟨before, after, heq, -⟩ := List.lookup_eq_some_iff.mp hentry
        rw [heq]
        simp
    · cases hvalid
  · cases h

end Calibration

/-- The guard is applied before the rounding, which reaches 0.9 from 0.895 on. -/
theorem le_round_confidence_iff {confidence : ℚ} :
    9 / 10 ≤ round_confidence confidence ↔ 895 / 1000 ≤ confidence := by
  unfold round_confidence
  rw [le_div_iff₀ (by norm_num), show (9 / 10 * 100 : ℚ) = ((90 : ℤ) : ℚ) by norm_num, Int.cast_le]
  constructor
  · intro h
    by_contra hbelow
    have hnear := (round_half_even_near (100 * confidence)).2
    have hcast : (90 : ℚ) ≤ round_half_even (100 * confidence) := by exact_mod_cast h
    linarith
  · intro h
    have htie : round_half_even (179 / 2) = 90 := by decide +kernel
    rw [← htie]
    exact round_half_even_mono (by linarith)

theorem round_confidence_mono {first second : ℚ} (h : first ≤ second) :
    round_confidence first ≤ round_confidence second := by
  unfold round_confidence
  have hround : round_half_even (100 * first) ≤ round_half_even (100 * second) :=
    round_half_even_mono (by linarith)
  have hcast : (round_half_even (100 * first) : ℚ) ≤ round_half_even (100 * second) := by exact_mod_cast hround
  linarith

/-- Rounding to two digits keeps the unit interval. -/
theorem round_confidence_unit {confidence : ℚ} (h : 0 ≤ confidence ∧ confidence ≤ 1) :
    0 ≤ round_confidence confidence ∧ round_confidence confidence ≤ 1 := by
  have hzero : round_confidence 0 = 0 := by decide +kernel
  have hone : round_confidence 1 = 1 := by decide +kernel
  have hlow := round_confidence_mono h.1
  have hhigh := round_confidence_mono h.2
  rw [hzero] at hlow
  rw [hone] at hhigh
  exact ⟨hlow, hhigh⟩

theorem calibrate_eq (techs : List MitreTechnique) (confidence : ℚ) :
    calibrate techs confidence =
      if 9 / 10 ≤ max 0 (min confidence 1) ∧ ¬ (∃ tech ∈ techs, tech.evidence ≠ "") then 7 / 10
      else max 0 (min confidence 1) := by
  have hclamp : (if 1 < confidence then 1 else if confidence < 0 then 0 else confidence) =
      max 0 (min confidence 1) := by
    split
    · rename_i hgt
      rw [min_eq_right (le_of_lt hgt), max_eq_right zero_le_one]
    · rename_i hle
      rw [min_eq_left (not_lt.mp hle)]
      split
      · rename_i hneg
        rw [max_eq_left (le_of_lt hneg)]
      · rename_i hpos
        rw [max_eq_right (not_lt.mp hpos)]
  simp only [calibrate, hclamp, List.any_eq_true, decide_eq_true_eq]

theorem calibrate_unit (techs : List MitreTechnique) (confidence : ℚ) :
    0 ≤ calibrate techs confidence ∧ calibrate techs confidence ≤ 1 := by
  rw [calibrate_eq]
  split
  · norm_num
  · exact ⟨le_max_left .., max_le zero_le_one (min_le_right ..)⟩

/-- Without evidence only a confidence just below the guard reaches the rounding with 0.895 or more. -/
theorem le_calibrate_iff {techs : List MitreTechnique} (h : ¬ ∃ tech ∈ techs, tech.evidence ≠ "") (confidence : ℚ) :
    895 / 1000 ≤ calibrate techs confidence ↔ 895 / 1000 ≤ confidence ∧ confidence < 9 / 10 := by
  have hclamp {bound : ℚ} (hpos : 0 < bound) (hunit : bound ≤ 1) :
      bound ≤ max 0 (min confidence 1) ↔ bound ≤ confidence := by
    rw [le_max_iff, le_min_iff]
    exact ⟨fun hle => (hle.resolve_left (not_le.mpr hpos)).1, fun hle => .inr ⟨hle, hunit⟩⟩
  rw [calibrate_eq]
  by_cases hguard : 9 / 10 ≤ max 0 (min confidence 1)
  · rw [if_pos ⟨hguard, h⟩]
    have hhigh := (hclamp (by norm_num) (by norm_num)).mp hguard
    refine ⟨fun hle => ?_, fun hlow => absurd hhigh (not_le.mpr hlow.2)⟩
    norm_num at hle
  · rw [if_neg (fun hboth => hguard hboth.1), hclamp (by norm_num) (by norm_num)]
    have hlow := mt (hclamp (by norm_num) (by norm_num)).mpr hguard
    exact ⟨fun hle => ⟨hle, not_le.mp hlow⟩, fun hle => hle.1⟩

section Law

variable (kb : MitreKb) (py_str : Json → String)

/-- Without evidence the confidence of the answer is not one that is rounded up to 0.9. -/
def Supported (parsed : Dict) : Prop :=
  Evidenced kb py_str parsed ∨
    ∀ confidence, ((parsed.get "confidence").getD (.num (3 / 4))).to_float = .ok confidence →
      ¬ (895 / 1000 ≤ confidence ∧ confidence < 9 / 10)

theorem failed_analysis_calibrated (id incident_id : String) (now : Time) (e : AppException)
    (answer : Option String) :
    (failed_analysis id incident_id now e answer).Calibrated kb where
  known := by simp [failed_analysis]
  unit := by simp [failed_analysis]
  supported := by
    intro hhigh
    norm_num [failed_analysis] at hhigh

theorem triage_analysis_calibrated_iff {id incident_id answer : String} {now : Time} {parsed : Dict}
    {row : TriageRecord} (h : triage_analysis kb py_str id incident_id now answer parsed = .ok row) :
    row.Calibrated kb ↔ Supported kb py_str parsed := by
  obtain ⟨confidence, hconfidence, hrow⟩ := bind_eq_ok_iff.mp h
  cases hrow
  have hevidenced := evidenced_iff kb py_str parsed
  constructor
  · intro hcalibrated
    by_cases hevidence : Evidenced kb py_str parsed
    · exact .inl hevidence
    · refine .inr fun read hread hlifted => hevidence ?_
      rw [hconfidence, Except.ok.injEq] at hread
      subst hread
      have hcalibrate := (le_calibrate_iff (mt hevidenced.mpr hevidence) confidence).mpr hlifted
      exact hevidenced.mpr (hcalibrated.supported (le_round_confidence_iff.mpr hcalibrate))
  · intro hsupported
    refine ⟨fun tech htech => known_of_mem_validated_techs kb py_str htech,
      round_confidence_unit (calibrate_unit _ _), fun hhigh => ?_⟩
    by_contra hnone
    have hlifted := (le_calibrate_iff hnone confidence).mp (le_round_confidence_iff.mp hhigh)
    obtain hevidence | hread := hsupported
    · exact hnone (hevidenced.mp hevidence)
    · exact hread confidence hconfidence hlifted

/-- An answer whose confidence is no number is stored as a failure. -/
theorem supported_of_triage_error {id incident_id answer : String} {now : Time} {parsed : Dict} {e : AppException}
    (h : triage_analysis kb py_str id incident_id now answer parsed = .error e) : Supported kb py_str parsed := by
  refine .inr fun confidence hconfidence => ?_
  unfold triage_analysis at h
  simp only [hconfidence, bind, Except.bind] at h
  cases h

/-- An analysis is calibrated unless its answer has no evidence and a confidence that the rounding lifts to 0.9. -/
theorem stored_analysis_calibrated_iff (id incident_id : String) (now : Time) (answer : String)
    (parsed : Except AppException Dict) :
    (stored_analysis kb py_str id incident_id now answer parsed).Calibrated kb ↔
      ∀ d, parsed = .ok d → Supported kb py_str d := by
  unfold stored_analysis
  cases parsed with
  | error e =>
    exact ⟨fun _ d hd => (by cases hd), fun _ => failed_analysis_calibrated kb id incident_id now e (some answer)⟩
  | ok d =>
    simp only [Except.bind, Except.ok.injEq, forall_eq']
    cases hrow : triage_analysis kb py_str id incident_id now answer d with
    | ok row => exact triage_analysis_calibrated_iff kb py_str hrow
    | error e =>
      exact ⟨fun _ => supported_of_triage_error kb py_str hrow,
        fun _ => failed_analysis_calibrated kb id incident_id now e (some answer)⟩

/-- An answer that is sure of itself and lists no technique. -/
def unsupported_answer : Dict := [("mitre_techniques", .arr []), ("confidence", .num 0.899)]

def one_technique : MitreKb where
  techs := [("T1059", { name := "Command and Scripting Interpreter", tactic := "Execution" })]

/-- The guard lets 0.899 pass, and 0.9 is stored. -/
theorem not_calibrated_unsupported : ¬ (stored_analysis one_technique SuggestionContext.json_text "ana_1" "inc_1" 0 ""
    (.ok unsupported_answer)).Calibrated one_technique := by
  intro h
  have hconfidence : (stored_analysis one_technique SuggestionContext.json_text "ana_1" "inc_1" 0 ""
      (.ok unsupported_answer)).confidence = 9 / 10 := by decide +kernel
  obtain ⟨tech, htech, -⟩ := h.supported (le_of_eq hconfidence.symm)
  cases htech

end Law

namespace TriageSystem

/-- The task of an answered triage stores that row, at the latest when it handles its own exception. -/
theorem advance_store {s : TriageSystem} {kb : MitreKb} {py_str : Json → String} {task : ℕ}
    {incident_id answer : String} {parsed : Except AppException Dict}
    (hincident : (s.tables.incidents.get incident_id).isSome) (id : String) (now : Time) :
    (s.advance kb py_str task incident_id (.answered answer parsed) (.store id now)).tables.ai_analysis =
      s.tables.ai_analysis ++ [stored_analysis kb py_str id incident_id now answer parsed] ∨
    ∃ e, s.advance kb py_str task incident_id (.answered answer parsed) (.store id now) =
        s.set_task task incident_id (.failed e (some answer)) ∧
      (s.advance kb py_str task incident_id (.failed e (some answer)) (.store id now)).tables.ai_analysis =
        s.tables.ai_analysis ++ [stored_analysis kb py_str id incident_id now answer parsed] := by
  have hstore {row : TriageRecord} (hrow : row.incident_id = incident_id) :
      (s.store task incident_id row).tables.ai_analysis = s.tables.ai_analysis ++ [row] := by
    rw [← hrow] at hincident
    simp only [store, TriageTables.store, hincident, dite_true]
  unfold stored_analysis
  cases hresult : parsed.bind (triage_analysis kb py_str id incident_id now answer) with
  | ok row =>
    obtain ⟨d, -, hanalysis⟩ := bind_eq_ok_iff.mp hresult
    left
    simp only [advance, hresult]
    exact hstore (triage_analysis_eq_ok hanalysis).1
  | error e =>
    refine .inr ⟨e, ?_, hstore rfl⟩
    simp only [advance, hresult]

end TriageSystem

end larp
