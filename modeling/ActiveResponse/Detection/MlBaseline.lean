import ActiveResponse.Detection.RuleContext

namespace larp

/-- A row of `agent_baselines`, as far as `score_telemetry` reads it. -/
structure AgentBaseline where
  model_data : String
  features_list : List String
  samples_count : ℕ
  mean_vector : List (String × ℚ)
  std_vector : List (String × ℚ)
  updated_at : Time

/-- What is left to scikit-learn and joblib. -/
structure IsolationForest where
  /-- `_train_isolation_forest`: the stored pipeline, the means and the standard deviations. -/
  train : List (List ℚ) → Except AppException (String × List (String × ℚ) × List (String × ℚ))
  /-- Whether `joblib.load` reads the stored pipeline. -/
  loads : String → Bool
  /-- `_predict_model` with the loaded pipeline: `is_anomaly` and `risk_points`. -/
  predict : AgentBaseline → List ℚ → Except AppException (Bool × ℚ)

namespace MLAnomalyService

open RiskProcessChainRule (or_else)

def FEATURE_NAMES : List String := ["cpu_usage", "ram_usage"]

/-- `float(telemetry.get(name, 0.0) or telemetry.get(short, 0.0) or 0.0)`. -/
def feature (telemetry : Dict) (name short : String) : Except AppException ℚ :=
  (or_else (telemetry.get_default name (.num 0))
    (or_else (telemetry.get_default short (.num 0)) (.num 0))).to_float

def extract_features (telemetry : Dict) : Except AppException (List ℚ) := do
  return [← feature telemetry "cpu_usage" "cpu", ← feature telemetry "ram_usage" "ram"]

/-- The variations around an average that fill a short history up. -/
def jitter (i : ℕ) : List ℚ := [15, 35].map fun val => val + ((i % 5 : ℕ) - 2) * (3 / 2)

def data_matrix (history : List (ℚ × ℚ)) : List (List ℚ) :=
  let samples := (history.take 500).map fun (cpu, ram) => [cpu, ram]
  if samples.length < 20 then samples ++ (List.range 30).map jitter else samples

def needs_retrain (now : Time) (baseline : AgentBaseline) : Bool :=
  let age := now - baseline.updated_at
  baseline.model_data = "" ∨ baseline.features_list ≠ FEATURE_NAMES ∨
    (baseline.samples_count < 100 ∧ seconds 300 < age) ∨ seconds 3600 < age

section Score

variable (forest : IsolationForest) (history : List (ℚ × ℚ)) (now : Time)

/-- The row that `train_agent_baseline` commits. `history` are the samples of the agent, the latest first. -/
def train_agent_baseline : Except AppException AgentBaseline := do
  let (model_data, mean_vector, std_vector) ← forest.train (data_matrix history)
  return {
    model_data, mean_vector, std_vector
    features_list := FEATURE_NAMES, samples_count := (data_matrix history).length, updated_at := now }

def no_anomaly : Bool × ℚ := (false, 0)

/-- The end of `score_telemetry`, after a prediction that has failed: what the row that has been trained instead
predicts, or the exception. -/
def predict_retrained (features : List ℚ) (baseline : AgentBaseline) : Except AppException (Bool × ℚ) :=
  if baseline.model_data = "" then .ok no_anomaly
  else if forest.loads baseline.model_data then forest.predict baseline features
  else .error (.Fault "Failed to load ML baseline")

/-- The end of `score_telemetry` on a row: the verdict, and the row that is stored after it. -/
def score_with (baseline : AgentBaseline) (telemetry : Dict) : Except AppException (Bool × ℚ) × AgentBaseline :=
  if baseline.model_data = "" ∨ !forest.loads baseline.model_data then (.ok no_anomaly, baseline)
  else
    match extract_features telemetry with
    | .error e => (.error e, baseline)
    | .ok features =>
      match forest.predict baseline features with
      | .ok verdict => (.ok verdict, baseline)
      | .error _ =>
        match train_agent_baseline forest history now with
        | .error e => (.error e, baseline)
        | .ok retrained => (predict_retrained forest features retrained, retrained)

/-- `score_telemetry`, and the row that is stored after it. Each training is committed. -/
def score_telemetry (stored : Option AgentBaseline) (telemetry : Dict) :
    Except AppException (Bool × ℚ) × Option AgentBaseline :=
  let current : Except AppException AgentBaseline :=
    match stored.filter fun baseline => !needs_retrain now baseline with
    | some baseline => .ok baseline
    | none => train_agent_baseline forest history now
  match current with
  | .error e => (.error e, stored)
  | .ok baseline => (score_with forest history now baseline telemetry).map id some

/-- The pipeline of the row can be loaded, but not used. -/
def prediction_fails (telemetry : Dict) (baseline : AgentBaseline) : Bool :=
  match extract_features telemetry with
  | .ok features =>
    baseline.model_data ≠ "" ∧ forest.loads baseline.model_data ∧ !(forest.predict baseline features).isOk
  | .error _ => false

/-- The agent is given a new row: it can be trained, and the stored one is missing, too old or of no use. -/
def retrains (stored : Option AgentBaseline) (telemetry : Dict) : Bool :=
  (train_agent_baseline forest history now).isOk ∧
    stored.all fun baseline => needs_retrain now baseline ∨ prediction_fails forest telemetry baseline

variable {forest history now} {baseline retrained : AgentBaseline} {telemetry : Dict}

/-- A training that the same message repeats gives the same row. -/
theorem row_score_with : (score_with forest history now baseline telemetry).2 =
    if prediction_fails forest telemetry baseline then
      (train_agent_baseline forest history now).toOption.getD baseline
    else baseline := by
  unfold score_with prediction_fails
  by_cases hread : baseline.model_data ≠ "" ∧ forest.loads baseline.model_data
  · obtain ⟨hdata, hloads⟩ := hread
    rw [if_neg (by simp [hdata, hloads])]
    cases extract_features telemetry with
    | error e => rfl
    | ok features =>
      cases hpredict : forest.predict baseline features with
      | ok verdict => simp [hpredict, Except.isOk, Except.toBool]
      | error e =>
        have hfails : baseline.model_data ≠ "" ∧ forest.loads baseline.model_data ∧
            !(forest.predict baseline features).isOk := ⟨hdata, hloads, by rw [hpredict]; rfl⟩
        simp only [hpredict]
        rw [if_pos (decide_eq_true (hpredict ▸ hfails))]
        cases train_agent_baseline forest history now <;> rfl
  · rw [if_pos (by simpa [imp_iff_not_or] using hread)]
    split
    · split <;> grind
    · rfl

/-- The row after `score_telemetry` is the stored one or the one that it trains. -/
theorem row_score_telemetry {stored : Option AgentBaseline} :
    (score_telemetry forest history now stored telemetry).2 =
      if retrains forest history now stored telemetry then (train_agent_baseline forest history now).toOption
      else stored := by
  unfold score_telemetry retrains
  cases hcurrent : stored.filter fun baseline => !needs_retrain now baseline with
  | some baseline =>
    obtain ⟨rfl, hneeds⟩ := Option.filter_eq_some_iff.mp hcurrent
    have hneeds : needs_retrain now baseline = false := by simpa using hneeds
    dsimp only
    rw [Prod.map_snd, row_score_with]
    cases train_agent_baseline forest history now <;> cases hfails : prediction_fails forest telemetry baseline <;>
      simp [hneeds, hfails, Except.isOk, Except.toBool, Except.toOption]
  | none =>
    have hneeds : stored.all fun baseline =>
        needs_retrain now baseline ∨ prediction_fails forest telemetry baseline := by
      cases stored with
      | none => rfl
      | some baseline => simpa [Option.filter] using Or.inl (by simpa [Option.filter] using hcurrent)
    dsimp only
    cases htrained : train_agent_baseline forest history now with
    | error e => simp [Except.isOk, Except.toBool]
    | ok retrained =>
      dsimp only
      rw [Prod.map_snd, row_score_with, htrained, if_pos (decide_eq_true ⟨rfl, hneeds⟩)]
      simp [Except.toOption]

end Score

end MLAnomalyService

end larp
