import ActiveResponse.Ai.ApplySuggestion

namespace larp

/-- The entry of a technique in the knowledge base. -/
structure MitreEntry where
  name : String
  tactic : String

/-- `MITREKnowledgeBase`: its techniques by their ids. -/
structure MitreKb where
  techs : List (String × MitreEntry)

/-- A technique that an analysis lists. -/
structure MitreTechnique where
  id : String
  name : Json
  tactic : String
  evidence : String

/-- The row of an analysis with the columns that the triage fills. -/
structure TriageRecord extends AIAnalysis where
  summary : String
  mitre_techniques : Option (List MitreTechnique) := none
  root_cause : Option String := none
  model_name : Option String := none
  error_message : Option String := none
  raw_response : Option String := none

def MitreKb.get_technique (self : MitreKb) (tech_id : String) : Option MitreEntry :=
  if tech_id = "" then none else self.techs.lookup (py_strip tech_id).toUpper

/-- `s[:n]`. -/
def truncate_text (n : ℕ) (s : String) : String := String.ofList (s.toList.take n)

/-- `f"{type(e).__name__}: {str(e)}".strip(": ")`. -/
def AppException.err_msg (self : AppException) : String :=
  let type_name := match self with
    | .NotFoundError _ => "NotFoundError"
    | .BadRequestError _ => "BadRequestError"
    | .ConflictError _ => "ConflictError"
    | .FlappingCooldownError _ => "FlappingCooldownError"
    | .ValidationError _ _ => "ValidationError"
    | .ValueError _ => "ValueError"
    | .TypeError _ => "TypeError"
    | .IntegrityError _ => "IntegrityError"
    | .DataError _ => "DataError"
    | .MultipleResultsFound => "MultipleResultsFound"
    | .PendingRollbackError => "PendingRollbackError"
    | .Fault _ => "Exception"
  let separator := fun c : Char => decide (c = ':' ∨ c = ' ')
  String.ofList (((type_name ++ ": " ++ self.message).toList.rdropWhile separator).dropWhile separator)

section Analysis

variable (kb : MitreKb) (py_str : Json → String)

/-- `str(d.get(key, ""))`. -/
def text_of (d : Dict) (key : String) : String := py_str ((d.get key).getD (.str ""))

/-- A technique of the answer, if the knowledge base has it. -/
def validate_technique : Json → Option MitreTechnique
  | .obj t =>
    let tech_id := (py_strip (text_of py_str t "id")).toUpper
    (kb.get_technique tech_id).map fun entry =>
      { id := tech_id
        name := ((Dict.get t "name").filter Json.truthy).getD (.str entry.name)
        tactic := entry.tactic
        evidence := py_strip (text_of py_str t "evidence") }
  | _ => none

/-- The techniques of the answer, without those that are made up. -/
def validated_techs (parsed : Dict) : List MitreTechnique :=
  match parsed.get "mitre_techniques" with
  | some (.arr raw_techs) => raw_techs.filterMap (validate_technique kb py_str)
  | _ => []

/-- The confidence is cut to the unit interval, and a high one needs a technique with evidence. -/
def calibrate (techs : List MitreTechnique) (confidence : ℚ) : ℚ :=
  let confidence := if 1 < confidence then 1 else if confidence < 0 then 0 else confidence
  if 9 / 10 ≤ confidence ∧ ¬techs.any fun tech => tech.evidence ≠ "" then 7 / 10 else confidence

/-- `round(confidence, 2)`. -/
def round_confidence (confidence : ℚ) : ℚ := round_half_even (100 * confidence) / 100

/-- The analysis of an answer that has been parsed: steps 6 to 8 of `analyze_incident`. -/
def triage_analysis (id incident_id : String) (now : Time) (answer : String) (parsed : Dict) :
    Except AppException TriageRecord := do
  let techs := validated_techs kb py_str parsed
  let confidence ← ((parsed.get "confidence").getD (.num (3 / 4))).to_float
  let summary := truncate_text 4000 (py_strip (text_of py_str parsed "summary"))
  return {
    id
    incident_id
    analysis_type := "triage"
    confidence := round_confidence (calibrate techs confidence)
    created_at := now
    summary := if summary = "" then "AI đã phân tích dữ liệu nhưng không tạo được tóm tắt phù hợp." else summary
    mitre_techniques := some techs
    root_cause := some (truncate_text 2000 (py_strip (text_of py_str parsed "root_cause")))
    model_name := some "foundation-sec"
    raw_response := some (truncate_text 8000 answer) }

/-- The row that says that the triage has failed, with the answer if there was one. -/
def failed_analysis (id incident_id : String) (now : Time) (e : AppException) (answer : Option String) :
    TriageRecord where
  id := id
  incident_id := incident_id
  analysis_type := "triage"
  confidence := 0
  created_at := now
  summary := "[AI analysis failed]"
  error_message := some (truncate_text 500 e.err_msg)
  model_name := some "foundation-sec"
  raw_response := answer.map (truncate_text 8000)

end Analysis

end larp
