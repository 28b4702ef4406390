import ActiveResponse.Detection.DefaultRegistry
import ActiveResponse.Detection.MlBaseline
import ActiveResponse.Lib.Run
import ActiveResponse.System

namespace larp

open MLAnomalyService (score_telemetry retrains row_score_telemetry)

/-- A stored authentication event, as far as the sliding window reads it. -/
structure AuthEvent where
  agent_id : String
  status : String
  count : ℤ
  timestamp : Time

/-- `AuthEventRepository.count_failed_attempts`. An agent without a name is not looked up. -/
def count_failed_attempts (auth_events : List AuthEvent) (agent_id : String) (now : Time) : FailedAttempts :=
  fun window_seconds =>
    if agent_id = "" then none
    else
      some ((auth_events.filter fun event =>
        event.agent_id = agent_id ∧ event.status = "failed" ∧
          now - seconds window_seconds ≤ event.timestamp).map AuthEvent.count).sum

inductive RiskMessageType where
  | TELEMETRY_RISK
  | AUTH_EVENT
  | YARA_SCAN_ALERT
deriving DecidableEq

/-- A message that has the risk of an agent assessed, with what its handler finds: the clock, the rules as they
are configured, which ask `score_telemetry`, the samples of the agent in `agent_history`, the latest first, the
thresholds, and whether the transaction is committed in the end. -/
structure RiskMessage where
  type : RiskMessageType
  agent_id : String
  payload : Dict
  now : Time
  registry : (Dict → Except AppException (Bool × ℚ)) → RiskRuleRegistry
  history : List (ℚ × ℚ) := []
  thresholds : Database.RiskThresholds := Database.default_risk_thresholds
  stored : Bool := true

/-- What a handler hands to `process_risk`, and the rows that it has stored before. -/
structure Intake where
  agent_id : String
  telemetry : Dict
  auth_events : List AuthEvent := []

section Handlers

variable (py_str : Json → String) (model_dump : Dict → Option Dict)

/-- The head of `evaluate`: data that is no valid `RiskAssessmentDTO` reaches the rules as it is. -/
def to_telemetry (data : Dict) : Except AppException Dict :=
  let telemetry := (model_dump data).getD data
  match (Dict.get telemetry "process_list").getD (.arr []) with
  | .arr _ | .obj _ | .str _ => .ok telemetry
  | _ => .error (.TypeError "object has no len()")

/-- The row that `_handle_auth_event` stores for an event. -/
def AuthEvent.of_json (agent_id : String) (now : Time) : Json → Except AppException AuthEvent
  | .obj event => do
    let count ← ((Dict.get event "count").getD (.num 1)).to_int
    return {
      agent_id, count, timestamp := now
      status := match Dict.get event "status" with
        | some (.str status) => if status = "" then "failed" else status
        | some value => if value.truthy then py_str value else "failed"
        | none => "failed" }
  | _ => .error (.Fault "object has no attribute 'get'")

namespace RiskMessage

/-- The agent that a message is about: the one it names, or the one that has sent it. -/
def target_agent_id (self : RiskMessage) : Except AppException String :=
  match self.payload.get "agent_id" with
  | none => .ok self.agent_id
  | some (.str agent_id) => .ok agent_id
  | some _ => .error (.DataError "invalid input for query argument (expected str)")

def events_list (self : RiskMessage) : List Json :=
  match self.payload.get "events" with
  | some (.arr events) => events
  | _ => [.obj self.payload]

/-- The rules named in an alert, which must be texts that can be joined. -/
def matched_rules (self : RiskMessage) : Except AppException Json :=
  match (self.payload.get "matched_rules").getD (.arr []) with
  | .arr rules =>
    if rules.all fun rule => match rule with
      | .str _ => true
      | _ => false
    then .ok (.arr rules)
    else .error (.TypeError "sequence item: expected str instance")
  | .str rules => .ok (.str rules)
  | .obj rules => .ok (.obj rules)
  | _ => .error (.TypeError "can only join an iterable")

/-- `_handle_telemetry_risk`, `_handle_auth_event` and `_handle_yara_scan_alert` up to the assessment. The
last two hand over a dictionary with nothing in it but their own fields. -/
def intake (self : RiskMessage) : Except AppException Intake := do
  let agent_id ← self.target_agent_id
  match self.type with
  | .TELEMETRY_RISK => return { agent_id, telemetry := ← to_telemetry model_dump self.payload }
  | .AUTH_EVENT =>
    let auth_events ← self.events_list.mapM (AuthEvent.of_json py_str agent_id self.now)
    let telemetry ← to_telemetry model_dump
      [("auth_events", .arr self.events_list), ("agent_id", .str agent_id)]
    return { agent_id, telemetry, auth_events }
  | .YARA_SCAN_ALERT =>
    let matched_rules ← self.matched_rules
    let telemetry ← to_telemetry model_dump [("yara_matches", matched_rules), ("agent_id", .str agent_id)]
    return { agent_id, telemetry }

end RiskMessage

end Handlers

/-- Smooth a raw score with the score of the assessment before. -/
def smooth (raw_score : ℚ) (previous : Option ℚ) : ℚ :=
  if CRITICAL_BYPASS_THRESHOLD ≤ raw_score then round2 raw_score else compute_ema raw_score previous

theorem Database.smoothed_score_eq (db : Database) (agent_id : String) (raw_score : ℚ) :
    db.smoothed_score agent_id raw_score = smooth raw_score (db.previous_score agent_id) := rfl

/-- What an assessment leaves behind and what it decides. -/
structure Assessment where
  agent_id : String
  counters : HitCounter
  smoothed_score : ℚ
  action : String

/-- What the assessments of an agent depend on: the debounce counters, which are kept in memory, the score of
its latest record, its trained baseline, and the stored authentication events. -/
structure RiskState where
  counters : String → HitCounter := fun _ _ => 0
  smoothed : String → Option ℚ := fun _ => none
  baselines : String → Option AgentBaseline := fun _ => none
  auth_events : List AuthEvent := []

namespace RiskState

def attempts (self : RiskState) (message : RiskMessage) (intake : Intake) : FailedAttempts :=
  count_failed_attempts (self.auth_events ++ intake.auth_events) intake.agent_id message.now

section Assess

variable (forest : IsolationForest)

/-- The rules of the message, which judge by the baseline of the agent. -/
def rules (self : RiskState) (message : RiskMessage) (intake : Intake) : RiskRuleRegistry :=
  message.registry fun telemetry =>
    (score_telemetry forest message.history message.now (self.baselines intake.agent_id) telemetry).1

/-- The rule for anomalies is enabled, and there is an agent for it to look up. -/
def asks_baseline (self : RiskState) (message : RiskMessage) (intake : Intake) : Bool :=
  intake.agent_id ≠ "" ∧
    (self.rules forest message intake).get_enabled_rules.any fun rule => rule.rule_id = "ml_behavioral_anomaly"

/-- The evaluation trains the agent's baseline. -/
def trains (self : RiskState) (message : RiskMessage) (intake : Intake) : Bool :=
  self.asks_baseline forest message intake ∧
    retrains forest message.history message.now (self.baselines intake.agent_id) intake.telemetry

/-- The baseline of the agent after the evaluation. -/
def baseline (self : RiskState) (message : RiskMessage) (intake : Intake) : Option AgentBaseline :=
  if self.asks_baseline forest message intake then
    (score_telemetry forest message.history message.now (self.baselines intake.agent_id) intake.telemetry).2
  else self.baselines intake.agent_id

def evaluation (self : RiskState) (message : RiskMessage) (intake : Intake) : Evaluation :=
  evaluate (self.rules forest message intake) intake.telemetry (self.attempts message intake)
    (self.counters intake.agent_id)

def assessment (self : RiskState) (message : RiskMessage) (intake : Intake) : Assessment :=
  let smoothed_score := smooth (self.evaluation forest message intake).final_score (self.smoothed intake.agent_id)
  { agent_id := intake.agent_id
    counters := (self.evaluation forest message intake).counters
    smoothed_score
    action := Database.determine_action message.thresholds smoothed_score }

/-- The effect of `process_risk` on later assessments. The counters are changed even if the transaction is
rolled back, and a training commits the baseline with all that the handler has stored before it. -/
def process_risk (self : RiskState) (message : RiskMessage) (intake : Intake) : RiskState where
  counters := Function.update self.counters intake.agent_id (self.evaluation forest message intake).counters
  smoothed :=
    if message.stored then
      Function.update self.smoothed intake.agent_id (some (self.assessment forest message intake).smoothed_score)
    else self.smoothed
  baselines := Function.update self.baselines intake.agent_id (self.baseline forest message intake)
  auth_events :=
    if message.stored ∨ self.trains forest message intake then self.auth_events ++ intake.auth_events
    else self.auth_events

end Assess

variable (py_str : Json → String) (model_dump : Dict → Option Dict) (forest : IsolationForest)

/-- A message whose handler raises before the assessment changes nothing. -/
def step (self : RiskState) (message : RiskMessage) : RiskState :=
  match message.intake py_str model_dump with
  | .ok intake => self.process_risk forest message intake
  | .error _ => self

/-- The assessments of telemetry. -/
def observe (self : RiskState) (message : RiskMessage) : List Assessment :=
  match message.type, message.intake py_str model_dump with
  | .TELEMETRY_RISK, .ok intake => [self.assessment forest message intake]
  | _, _ => []

/-- No rule scores on the message. -/
def silent (self : RiskState) (message : RiskMessage) : Bool :=
  match message.intake py_str model_dump with
  | .ok intake =>
    (self.rules forest message intake).get_enabled_rules.all fun rule =>
      !rule.scores intake.telemetry (self.attempts message intake)
  | .error _ => true

/-- Messages that carry only a part of the telemetry do not disturb the risk state: authentication events
on which no rule scores can be left out of the run without any assessment of telemetry coming out
differently, and a malware alert lowers no counter of an anomaly rule. -/
structure Undisturbed (s : RiskState) (messages : List RiskMessage) : Prop where
  auth_events :
    transition.Along (step py_str model_dump forest)
      (fun s message => message.type = .AUTH_EVENT → s.silent py_str model_dump forest message) s messages →
    transition.trace (step py_str model_dump forest) (observe py_str model_dump forest) s messages =
      transition.trace (step py_str model_dump forest) (observe py_str model_dump forest) s
        (messages.filter fun message => !decide (message.type = .AUTH_EVENT))
  yara_alerts : ∀ early alert late, messages = early ++ alert :: late → alert.type = .YARA_SCAN_ALERT →
    ∀ agent_id, ∀ rule_id ∈ ANOMALY_RULES,
      (transition.run (step py_str model_dump forest) s early).counters agent_id rule_id ≤
        (transition.run (step py_str model_dump forest) s (early ++ [alert])).counters agent_id rule_id

/-- The message takes no counter away from the selected rules. -/
def keeps_counters (self : RiskState) (message : RiskMessage) (intake : Intake) (select : RiskRule → Bool) :
    Bool :=
  (self.rules forest message intake).get_enabled_rules.all fun rule =>
    !(select rule &&
      (self.counters intake.agent_id).drops rule intake.telemetry (self.attempts message intake))

/-- The rules judge the message as they would without the authentication events stored since `initial`. -/
def judges_alike (self initial : RiskState) (message : RiskMessage) (intake : Intake) : Bool :=
  (self.rules forest message intake).get_enabled_rules.all fun rule =>
    rule.evaluate intake.telemetry (self.attempts message intake) =
      rule.evaluate intake.telemetry (initial.attempts message intake)

/-- A smoothed score that a raw score of 0 leaves as it is. -/
def settled (smoothed : ℚ) : Bool :=
  compute_ema 0 (some smoothed) = smoothed

/-- The condition under which a message does not disturb the risk state. -/
def harmless (initial self : RiskState) (message : RiskMessage) : Bool :=
  match message.intake py_str model_dump with
  | .error _ => true
  | .ok intake =>
    match message.type with
    | .AUTH_EVENT =>
      self.keeps_counters forest message intake (fun _ => true) ∧ !self.trains forest message intake ∧
        (message.stored → (self.smoothed intake.agent_id).any settled)
    | .YARA_SCAN_ALERT =>
      self.judges_alike forest initial message intake ∧
        self.keeps_counters forest message intake fun rule => rule.rule_id ∈ ANOMALY_RULES
    | .TELEMETRY_RISK => self.judges_alike forest initial message intake

end RiskState

/-! ## Scores that decay no further -/

namespace RiskState

/-- A raw score of 0 makes every smoothed score smaller, down to a hundredth. -/
theorem settled_iff {smoothed : ℚ} :
    settled smoothed ↔ smoothed = 0 ∨ smoothed = 1 / 100 ∨ smoothed = -1 / 100 := by
  constructor
  · intro h
    have hbypass : ¬ CRITICAL_BYPASS_THRESHOLD ≤ 0 := by decide +kernel
    simp only [settled, compute_ema, if_neg hbypass, round2, decide_eq_true_eq] at h
    obtain ⟨hlow, hhigh⟩ := round_half_even_near (100 * (EMA_ALPHA * 0 + (1 - EMA_ALPHA) * smoothed))
    generalize round_half_even (100 * (EMA_ALPHA * 0 + (1 - EMA_ALPHA) * smoothed)) = hundredths at h hlow hhigh
    subst h
    simp only [EMA_ALPHA] at hlow hhigh
    have hlow : (-2 : ℚ) < hundredths := by linarith
    have hhigh : (hundredths : ℚ) < 2 := by linarith
    have hlow : -2 < hundredths := by exact_mod_cast hlow
    have hhigh : hundredths < 2 := by exact_mod_cast hhigh
    obtain rfl | rfl | rfl : hundredths = 0 ∨ hundredths = 1 ∨ hundredths = -1 := by omega
    · left
      norm_num
    · right
      left
      norm_num
    · right
      right
      norm_num
  · rintro (rfl | rfl | rfl) <;> decide +kernel

theorem smooth_of_settled {smoothed : ℚ} (h : settled smoothed) : smooth 0 (some smoothed) = smoothed := by
  have hbypass : ¬ CRITICAL_BYPASS_THRESHOLD ≤ 0 := by decide +kernel
  rw [smooth, if_neg hbypass]
  simpa [settled] using h

/-! ## One message -/

section Step

variable {py_str : Json → String} {model_dump : Dict → Option Dict} {forest : IsolationForest} {s t : RiskState}
  {message : RiskMessage}

/-- Only authentication events are stored. -/
theorem auth_events_of_intake {intake : Intake} (hintake : message.intake py_str model_dump = .ok intake)
    (htype : message.type ≠ .AUTH_EVENT) : intake.auth_events = [] := by
  unfold RiskMessage.intake at hintake
  rw [bind_eq_ok_iff] at hintake
  obtain ⟨agent_id, -, hintake⟩ := hintake
  cases hmessage : message.type with
  | TELEMETRY_RISK =>
    rw [hmessage, bind_eq_ok_iff] at hintake
    obtain ⟨telemetry, -, hintake⟩ := hintake
    cases hintake
    rfl
  | AUTH_EVENT => exact absurd hmessage htype
  | YARA_SCAN_ALERT =>
    rw [hmessage, bind_eq_ok_iff] at hintake
    obtain ⟨matched_rules, -, hintake⟩ := hintake
    rw [bind_eq_ok_iff] at hintake
    obtain ⟨telemetry, -, hintake⟩ := hintake
    cases hintake
    rfl

/-- An evaluation in which no rule scores and no counter is dropped has no effect and the score 0. -/
theorem evaluation_of_silent {intake : Intake}
    (hsilent : ∀ rule ∈ (s.rules forest message intake).get_enabled_rules,
      ¬ rule.scores intake.telemetry (s.attempts message intake))
    (hkeeps : s.keeps_counters forest message intake fun _ => true) :
    (s.evaluation forest message intake).counters = s.counters intake.agent_id ∧
      (s.evaluation forest message intake).final_score = 0 := by
  have hdrops : ∀ rule ∈ (s.rules forest message intake).get_enabled_rules,
      ¬ (s.counters intake.agent_id).drops rule intake.telemetry (s.attempts message intake) := by
    simpa [keeps_counters] using hkeeps
  have hloop := Evaluation.foldl_of_silent { counters := s.counters intake.agent_id } hsilent hdrops
  have hempty : min 100 (apply_category_cap []) = 0 := by decide +kernel
  rw [evaluation, evaluate, hloop]
  exact ⟨rfl, hempty⟩

/-- An evaluation that trains nothing leaves the baseline. -/
theorem baseline_of_not_trains {intake : Intake} (h : s.trains forest message intake = false) :
    s.baseline forest message intake = s.baselines intake.agent_id := by
  unfold baseline
  split
  · rename_i hasks
    have hretrains : retrains forest message.history message.now (s.baselines intake.agent_id)
        intake.telemetry = false := by simpa [trains, hasks] using h
    rw [row_score_telemetry, if_neg (by simp [hretrains])]
  · rfl

/-- What later assessments of telemetry go by is the same in both states, and only the second one has no
authentication events of the run. -/
structure SameView (initial s t : RiskState) : Prop where
  counters : s.counters = t.counters
  smoothed : s.smoothed = t.smoothed
  baselines : s.baselines = t.baselines
  auth_events : t.auth_events = initial.auth_events

/-- A harmless authentication event on which no rule scores is not noticed. -/
theorem sameView_auth_event {initial : RiskState} (hview : SameView initial s t)
    (htype : message.type = .AUTH_EVENT) (hsilent : s.silent py_str model_dump forest message)
    (hharmless : harmless py_str model_dump forest initial s message) :
    SameView initial (s.step py_str model_dump forest message) t := by
  unfold step
  split
  · rename_i intake hintake
    simp only [silent, hintake, List.all_eq_true, Bool.not_eq_true'] at hsilent
    simp only [harmless, hintake, htype, decide_eq_true_eq, Bool.not_eq_true'] at hharmless
    obtain ⟨hkeeps, htrains, hsettled⟩ := hharmless
    obtain ⟨hcounters, hscore⟩ := evaluation_of_silent (by simpa using hsilent) hkeeps
    constructor
    · rw [process_risk, hcounters, Function.update_eq_self]
      exact hview.counters
    · rw [process_risk]
      dsimp only
      split
      · rename_i hstored
        have hprevious := hsettled hstored
        rw [Option.any_eq_true] at hprevious
        obtain ⟨smoothed, hget, hdecayed⟩ := hprevious
        simp only [assessment, hscore, hget, smooth_of_settled hdecayed]
        rw [← hget, Function.update_eq_self]
        exact hview.smoothed
      · exact hview.smoothed
    · rw [process_risk, baseline_of_not_trains htrains, Function.update_eq_self]
      exact hview.baselines
    · exact hview.auth_events
  · exact hview

/-- The rules that both states hold judge a message alike if the failed logins of the run do not matter to them. -/
theorem evaluation_of_sameView {initial : RiskState} (hview : SameView initial s t) {intake : Intake}
    (hjudges : s.judges_alike forest initial message intake) :
    s.evaluation forest message intake = t.evaluation forest message intake := by
  have hattempts : initial.attempts message intake = t.attempts message intake := by
    simp only [attempts, hview.auth_events]
  have hrules : s.rules forest message intake = t.rules forest message intake := by
    simp only [rules, hview.baselines]
  simp only [evaluation, ← hrules, hview.counters]
  refine evaluate_congr fun rule hrule => ?_
  simp only [judges_alike, List.all_eq_true, decide_eq_true_eq] at hjudges
  rw [hjudges rule hrule, hattempts]

theorem baseline_of_sameView {initial : RiskState} (hview : SameView initial s t) (intake : Intake) :
    s.baseline forest message intake = t.baseline forest message intake := by
  rw [baseline, baseline, asks_baseline, asks_baseline, rules, rules, hview.baselines]

/-- Every other message does the same to both states. -/
theorem sameView_step {initial : RiskState} (hview : SameView initial s t) (htype : message.type ≠ .AUTH_EVENT)
    (hharmless : harmless py_str model_dump forest initial s message) :
    s.observe py_str model_dump forest message = t.observe py_str model_dump forest message ∧
      SameView initial (s.step py_str model_dump forest message) (t.step py_str model_dump forest message) := by
  cases hintake : message.intake py_str model_dump with
  | error e =>
    simp only [observe, step, hintake]
    refine ⟨?_, hview⟩
    cases message.type <;> rfl
  | ok intake =>
    have hstored := auth_events_of_intake hintake htype
    have hjudges : s.judges_alike forest initial message intake := by
      simp only [harmless, hintake] at hharmless
      split at hharmless
      · exact absurd ‹_› htype
      · simp only [decide_eq_true_eq] at hharmless
        exact hharmless.1
      · exact hharmless
    have hevaluation := evaluation_of_sameView hview hjudges
    have hbaseline : s.baseline forest message intake = t.baseline forest message intake :=
      baseline_of_sameView hview intake
    have hassessment : s.assessment forest message intake = t.assessment forest message intake := by
      simp only [assessment, hevaluation, hview.smoothed]
    constructor
    · simp only [observe, hintake]
      cases message.type with
      | TELEMETRY_RISK => exact congrArg (fun assessment => [assessment]) hassessment
      | AUTH_EVENT | YARA_SCAN_ALERT => rfl
    · simp only [step, hintake, process_risk, hevaluation, hassessment, hbaseline, hview.counters, hview.smoothed,
        hview.baselines, hstored, List.append_nil, ite_self]
      exact ⟨rfl, rfl, rfl, hview.auth_events⟩

/-- A harmless malware alert lowers no counter of an anomaly rule. -/
theorem le_counters_yara_alert {initial : RiskState} (htype : message.type = .YARA_SCAN_ALERT)
    (hharmless : harmless py_str model_dump forest initial s message) (agent_id : String) {rule_id : String}
    (hrule : rule_id ∈ ANOMALY_RULES) :
    s.counters agent_id rule_id ≤ (s.step py_str model_dump forest message).counters agent_id rule_id := by
  unfold step
  split
  · rename_i intake hintake
    simp only [harmless, hintake, htype, decide_eq_true_eq] at hharmless
    rw [process_risk]
    dsimp only
    by_cases hagent : agent_id = intake.agent_id
    · subst hagent
      rw [Function.update_self]
      have hids : ((s.rules forest message intake).get_enabled_rules.map RiskRule.rule_id).Nodup :=
        (s.rules forest message intake).nodup.sublist (List.filter_sublist.map _)
      refine Evaluation.le_counters_foldl { counters := s.counters intake.agent_id } hids
        fun rule hmem hid => ?_
      have hkeeps := hharmless.2
      simp only [keeps_counters, List.all_eq_true, Bool.not_eq_true', Bool.and_eq_false_iff,
        decide_eq_false_iff_not] at hkeeps
      rcases hkeeps rule hmem with hother | hkept
      · exact absurd (hid ▸ hrule) hother
      · simp [hkept]
    · rw [Function.update_of_ne hagent]
  · exact le_refl _

end Step

/-- Over every run of harmless messages the risk state of the agents is undisturbed. -/
theorem undisturbed_of_harmless (py_str : Json → String) (model_dump : Dict → Option Dict)
    (forest : IsolationForest) (initial : RiskState) (messages : List RiskMessage)
    (hharmless : transition.Along (step py_str model_dump forest)
      (fun s message => harmless py_str model_dump forest initial s message) initial messages) :
    Undisturbed py_str model_dump forest initial messages where
  auth_events hsilent := by
    refine transition.trace_purge (R := SameView initial) ?_ ?_ (hsilent.and hharmless) ⟨rfl, rfl, rfl, rfl⟩
    · rintro s t message hview ⟨hscores, hguard⟩ htype
      have htype : message.type = .AUTH_EVENT := of_decide_eq_true htype
      refine ⟨?_, sameView_auth_event hview htype (hscores htype) hguard⟩
      simp only [observe, htype]
    · rintro s t message hview ⟨-, hguard⟩ htype
      exact sameView_step hview (of_decide_eq_false htype) hguard
  yara_alerts := by
    rintro early alert late rfl htype agent_id rule_id hrule
    rw [transition.run_append]
    exact le_counters_yara_alert htype (transition.along_append.mp hharmless).2.1 agent_id hrule

end RiskState

/-! ## The state that is kept in the database -/

/-- The latest score of an agent is that of a record which is newer than all of its others. -/
theorem Database.previous_score_of_newest {db db' : Database} {record : RiskScoreRecord}
    (h : db.add_risk_record record = .ok db')
    (hnewest : ∀ other ∈ db.risk_score_records.rows, other.agent_id = record.agent_id →
      other.timestamp < record.timestamp) (agent_id : String) :
    db'.previous_score agent_id =
      if agent_id = record.agent_id then some (record.smoothed_score.getD record.score)
      else db.previous_score agent_id := by
  unfold add_risk_record at h
  split at h
  · cases h
  · split at h
    · rename_i records hinsert
      cases h
      unfold previous_score
      dsimp only
      split
      · rename_i hagent
        subst hagent
        have hmem := (Table.mem_of_insert hinsert).mpr (Or.inr rfl)
        cases hlatest : records.latest (fun other => other.agent_id = record.agent_id) RiskScoreRecord.timestamp with
        | none => exact absurd (by simp) (Table.latest_eq_none_iff.mp hlatest record hmem)
        | some latest =>
          have hle := Table.le_of_latest hlatest hmem (by simp)
          obtain ⟨hfound, hagent⟩ := Table.mem_of_latest hlatest
          rcases (Table.mem_of_insert hinsert).mp hfound with hold | rfl
          · exact absurd (hnewest latest hold (by simpa using hagent)) (not_lt.mpr hle)
          · rfl
      · rename_i hagent
        have hrows := (Table.insert_eq_some_iff.mp hinsert).2
        rw [Table.latest, Table.latest, Table.select_desc, Table.select_desc, hrows, List.filter_append,
          List.filter_singleton, decide_eq_false (Ne.symm hagent), cond_false, List.append_nil]
    · cases h

/-- The scores in memory of the model are those that the database would answer. -/
def RiskState.Reads (self : RiskState) (db : Database) : Prop :=
  ∀ agent_id, self.smoothed agent_id = db.previous_score agent_id

/-- Storing the record of an assessment keeps the two together. -/
theorem RiskState.reads_process_risk {forest : IsolationForest} {self : RiskState} {db db' : Database}
    (hreads : self.Reads db) {message : RiskMessage} {intake : Intake} (hstored : message.stored) {id : String} {factors : Dict}
    (h : db.add_risk_record {
        id, agent_id := intake.agent_id, score := (self.evaluation forest message intake).final_score
        smoothed_score := some (db.smoothed_score intake.agent_id (self.evaluation forest message intake).final_score)
        factors, timestamp := message.now } = .ok db')
    (hnewest : ∀ other ∈ db.risk_score_records.rows, other.agent_id = intake.agent_id →
      other.timestamp < message.now) : (self.process_risk forest message intake).Reads db' := by
  intro agent_id
  rw [Database.previous_score_of_newest h hnewest, process_risk]
  simp only [hstored, if_true]
  split
  · rename_i hagent
    subst hagent
    rw [Function.update_self, Option.getD_some, Database.smoothed_score_eq, ← hreads]
    rfl
  · rename_i hagent
    rw [Function.update_of_ne hagent]
    exact hreads agent_id

/-! ## A successful login between two reports of a busy processor -/

/-- The defaults of `RiskAssessmentDTO`. -/
def RiskAssessmentDTO.defaults : Dict :=
  [("platform", .null), ("timestamp", .null), ("cpu_usage", .num 0), ("ram_usage", .num 0), ("disk_usage", .num 0),
    ("process_list", .arr []), ("network_connections", .arr []), ("file_changes_count", .num 0),
    ("suspicious_commands", .arr []), ("shadow_copy_deletion", .bool false), ("registry_changes", .arr []),
    ("credential_access_events", .arr []), ("lateral_movement_events", .arr []),
    ("mass_file_modification", .bool false), ("dns_queries", .arr []), ("process_tree", .arr []),
    ("auth_events", .arr []), ("connection_history", .arr []), ("yara_matches", .arr [])]

/-- The dump of data whose entries are valid as they are. -/
def RiskAssessmentDTO.fill (data : Dict) : Option Dict :=
  some (data.foldl (fun dump (key, value) => Dict.set dump key value) RiskAssessmentDTO.defaults)

/-- The rules for processor load and failed logins; the others are disabled. -/
def cpu_and_logins : RiskRuleRegistry :=
  ⟨[({} : CpuSpikeRule).rule, ({} : BruteForceRule).rule fun _ => ""], by decide⟩

/-- All rules, on a host about which nothing else is known. -/
def default_rules (score_telemetry : Dict → Except AppException (Bool × ℚ)) : RiskRuleRegistry :=
  registry_of (create_default_registry
    { quiet_context with score_telemetry := fun _ telemetry => score_telemetry telemetry })

def cpu_report (registry : (Dict → Except AppException (Bool × ℚ)) → RiskRuleRegistry) (now : Time)
    (cpu_usage : ℚ) : RiskMessage where
  type := .TELEMETRY_RISK
  agent_id := "web-1"
  payload := [("agent_id", .str "web-1"), ("cpu_usage", .num cpu_usage)]
  now
  registry

def successful_login (registry : (Dict → Except AppException (Bool × ℚ)) → RiskRuleRegistry) (now : Time) :
    RiskMessage where
  type := .AUTH_EVENT
  agent_id := "web-1"
  payload := [("agent_id", .str "web-1"),
    ("events", .arr [.obj [("service", .str "ssh"), ("username", .str "admin"), ("status", .str "success")]])]
  now
  registry

/-- Where no feature is far from its mean there is no anomaly, whatever the pipeline predicts. -/
def calm_forest : IsolationForest where
  train _ := .ok ("pipeline", [("cpu_usage", 15), ("ram_usage", 35)],
    [("cpu_usage", 53 / 25), ("ram_usage", 53 / 25)])
  loads model_data := model_data = "pipeline"
  predict _ _ := .ok MLAnomalyService.no_anomaly

/-- The agent web-1 has been trained on a processor load between 50 and 80. -/
def trained_state : RiskState where
  baselines := Function.update (fun _ => none) "web-1" (some {
    model_data := "pipeline", features_list := MLAnomalyService.FEATURE_NAMES, samples_count := 500
    mean_vector := [("cpu_usage", 65), ("ram_usage", 40)], std_vector := [("cpu_usage", 6), ("ram_usage", 4)]
    updated_at := 0 })

namespace RiskState

/-- An agent without load can report a login. -/
theorem undisturbed_idle_login :
    Undisturbed (fun _ => "") RiskAssessmentDTO.fill calm_forest trained_state
      [cpu_report default_rules (seconds 60) 10, successful_login default_rules (seconds 61),
        cpu_report default_rules (seconds 70) 72] :=
  undisturbed_of_harmless (fun _ => "") RiskAssessmentDTO.fill calm_forest trained_state _
    ⟨by decide +kernel, by decide +kernel, by decide +kernel, trivial⟩

/-- The login resets the counter of the processor load and lets the score decay. -/
theorem not_undisturbed_busy_login :
    ¬ Undisturbed (fun _ => "") RiskAssessmentDTO.fill calm_forest {}
      [cpu_report (fun _ => cpu_and_logins) 0 95, successful_login (fun _ => cpu_and_logins) 1,
        cpu_report (fun _ => cpu_and_logins) 2 95] := by
  intro hlaw
  have hsame := hlaw.auth_events ⟨by decide +kernel, by decide +kernel, by decide +kernel, trivial⟩
  have hscores := congrArg (List.map Assessment.smoothed_score) hsame
  exact absurd hscores (by decide +kernel)

end RiskState

end larp
