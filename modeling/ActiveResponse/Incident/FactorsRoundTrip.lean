import ActiveResponse.Incident.ReadFactors
import ActiveResponse.Incident.Resolution

namespace larp

/-! ## Descriptions -/

/-- What `str` writes of a score. -/
structure ScoreText where
  chars : List Char
  numeral : (∀ c ∈ chars, is_numeral c) ∨ chars ∈ ["inf".toList, "-inf".toList, "nan".toList]

/-- The spike that `create_from_risk` records. -/
def factors_spike {numbers : PyNumbers} (printable : Char → Bool) (risk_score : ℚ) (score : ScoreText)
    (factors : Factors numbers) : RiskSpike where
  risk_score := risk_score
  score_text := String.ofList score.chars
  factors_text := String.ofList (factors.repr printable)

section Search

variable {numbers : PyNumbers} {printable : Char → Bool}

theorem search_factors_append {before : List Char} (h : 'F' ∉ before) (cs : List Char) :
    search_factors (before ++ cs) = search_factors cs := by
  induction before with
  | nil => rfl
  | cons c before ih =>
    obtain ⟨hc, hbefore⟩ := not_or.mp (mt List.mem_cons.mpr h)
    have hnone : factors_at (c :: (before ++ cs)) = none := by
      rw [factors_at, if_neg]
      intro hprefix
      have hsome := List.isPrefixOf_iff_prefix.mp hprefix
      exact hc (List.cons_prefix_cons.mp hsome).1
    rw [List.cons_append, search_factors, hnone, Option.none_or, ih hbefore]

/-- A dictionary behind its label is found up to its first closing brace. -/
theorem factors_at_label (factors : Factors numbers) (later : List Char) :
    factors_at ("Factors: ".toList ++ (factors.repr printable ++ later)) =
      some (raw_factors printable factors later) := by
  rw [Factors.repr, List.cons_append, List.append_assoc, List.singleton_append, raw_factors, cut]
  have hbrace : '}' ∈ repr_entries printable factors.entries ++ '}' :: later := by simp
  generalize repr_entries printable factors.entries ++ '}' :: later = cs at hbrace
  have hlabel : "Factors:".toList.isPrefixOf ("Factors: ".toList ++ '{' :: cs) := rfl
  have hopen : (("Factors: ".toList ++ '{' :: cs).drop 8).dropWhile py_isspace = '{' :: cs := by
    change (' ' :: '{' :: cs).dropWhile py_isspace = '{' :: cs
    rw [List.dropWhile_cons_of_pos (by decide), List.dropWhile_cons_of_neg (by decide)]
  rw [factors_at, if_pos hlabel, hopen]
  exact if_pos hbrace

theorem score_not_mem (score : ScoreText) : 'F' ∉ score.chars := by
  intro hmem
  obtain hnumeral | hword := score.numeral
  · exact absurd (hnumeral 'F' hmem) (by decide)
  · simp only [List.mem_cons, List.not_mem_nil, or_false] at hword
    obtain hword | hword | hword := hword <;> rw [hword] at hmem <;> exact absurd hmem (by decide)

/-- In the description of a new incident, whatever has been added to it, the factors of the creation are found. -/
theorem search_description {description : String} (now : Time) (inc_id agent_id : String) (risk_score : ℚ)
    (score : ScoreText) (factors : Factors numbers)
    (h : ((factors_spike printable risk_score score factors).record now inc_id agent_id).description.toList <+:
      description.toList) :
    ∃ later, search_factors description.toList = some (raw_factors printable factors later) := by
  obtain ⟨later, hlater⟩ := h
  refine ⟨later, ?_⟩
  have hsplit : description.toList =
      ("Automated incident generated due to risk score ".toList ++ score.chars ++ ".\n".toList) ++
        ("Factors: ".toList ++ (factors.repr printable ++ later)) := by
    rw [← hlater]
    simp [RiskSpike.record, factors_spike]
  have hbefore : 'F' ∉ "Automated incident generated due to risk score ".toList ++ score.chars ++ ".\n".toList := by
    simp only [List.mem_append, not_or]
    exact ⟨⟨by decide, score_not_mem score⟩, by decide⟩
  rw [hsplit, search_factors_append hbefore]
  have hlabel : "Factors: ".toList ++ (factors.repr printable ++ later) =
      'F' :: ("actors: ".toList ++ (factors.repr printable ++ later)) := rfl
  rw [hlabel, search_factors, ← hlabel, factors_at_label, Option.some_or]

/-- The loaders return the factors exactly if they are kept. -/
theorem parse_factors_iff {description : String} {factors : Factors numbers} {later : List Char}
    (h : search_factors description.toList = some (raw_factors printable factors later)) :
    parse_factors (flat_loaders numbers) description = factors.entries ↔ factors.Kept := by
  unfold parse_factors
  rw [h]
  dsimp only [flat_loaders]
  constructor
  · intro heq
    by_contra hkept
    rw [read_dict_not_kept (reads_json_literal printable) hkept,
      read_dict_not_kept (reads_py_literal printable) hkept] at heq
    have hempty : factors.entries = [] := heq.symm
    exact hkept fun entry hentry => by rw [hempty] at hentry; cases hentry
  · intro hkept
    obtain ⟨hrefuses, -⟩ | hpython := read_dict_kept (reads_py_literal printable) hkept later
    · exact hrefuses.elim
    · obtain ⟨-, hnone⟩ | hjson := read_dict_kept (reads_json_literal printable) hkept later
      · rw [hnone, hpython]
        rfl
      · rw [hjson]
        rfl

end Search

/-! ## Further spikes -/

theorem IncidentRecord.description_spike (self : IncidentRecord) (spike : RiskSpike) :
    self.description.toList <+: (self.spike spike).description.toList := by
  simp only [IncidentRecord.spike, String.toList_append, List.append_assoc]
  exact List.prefix_append ..

/-- A further call of `create_from_risk`, and the failure that it ends in, if any. -/
structure RiskUpdate where
  now : Time
  inc_id : String
  agent_id : String
  spike : RiskSpike
  fault : Option AppException := none

namespace IncidentTables

def update (self : IncidentTables) (update : RiskUpdate) : IncidentTables :=
  self.step ⟨update.now, .create_from_risk update.inc_id update.agent_id update.spike, update.fault⟩

/-- The incident is stored, and its description begins with the text. -/
def Describes (self : IncidentTables) (id : String) (text : List Char) : Prop :=
  ∃ inc, self.incidents.get id = some inc ∧ text <+: inc.description.toList

variable {self tables : IncidentTables} {now : Time} {inc_id agent_id : String} {spike : RiskSpike}

/-- A new row leaves the others alone. -/
theorem create_describes {inc : IncidentRecord} {content id : String} {text : List Char}
    (hcreate : self.create inc content = .ok tables) (h : self.Describes id text) : tables.Describes id text := by
  obtain ⟨row, hrow, hprefix⟩ := h
  unfold create at hcreate
  split at hcreate
  · rename_i incidents hinsert
    obtain rfl := Except.ok.inj hcreate
    exact ⟨row, Table.get_of_insert_of_get hinsert hrow, hprefix⟩
  · cases hcreate

/-- A written row may have a longer description. -/
theorem put_describes {inc : IncidentRecord} (written : IncidentRecord)
    (hget : self.incidents.get written.id = some inc)
    (hlonger : inc.description.toList <+: written.description.toList) (notes : List IncidentNote) {id : String}
    {text : List Char} (h : self.Describes id text) :
    Describes { incidents := self.incidents.put written, incident_notes := notes } id text := by
  obtain ⟨row, hrow, hprefix⟩ := h
  by_cases hid : written.id = id
  · rw [hid, hrow] at hget
    refine ⟨written, ?_, hprefix.trans (Option.some.inj hget ▸ hlonger)⟩
    rw [Table.get_put, IncidentRecord.key_eq, if_pos hid, hrow]
    rfl
  · refine ⟨row, ?_, hprefix⟩
    rw [Table.get_put, IncidentRecord.key_eq, if_neg hid, hrow]

/-- A call adds to descriptions, and takes nothing away. -/
theorem create_from_risk_describes {id : String} {text : List Char}
    (hcreate : self.create_from_risk now inc_id agent_id spike = .ok tables) (h : self.Describes id text) :
    tables.Describes id text := by
  unfold create_from_risk at hcreate
  split at hcreate
  · rename_i existing _
    unfold edit at hcreate
    split at hcreate
    · cases hcreate
    · rename_i inc hget
      obtain rfl := Except.ok.inj hcreate
      have hid : inc.id = existing.id := Table.key_of_get hget
      rw [← hid] at hget
      exact put_describes ((inc.spike spike).append_note _) hget (inc.description_spike spike) _ h
  · exact create_describes hcreate h

/-- A call for an agent without an active incident describes its factors in a new row. -/
theorem describes_of_create (hactive : self.active_incident agent_id = none)
    (hcreate : self.create_from_risk now inc_id agent_id spike = .ok tables) :
    tables.Describes inc_id (spike.record now inc_id agent_id).description.toList := by
  simp only [create_from_risk, hactive] at hcreate
  unfold create at hcreate
  split at hcreate
  · rename_i incidents hinsert
    obtain rfl := Except.ok.inj hcreate
    exact ⟨_, (Table.get_of_insert hinsert inc_id).trans (if_pos rfl), List.prefix_refl _⟩
  · cases hcreate

theorem update_describes (risk : RiskUpdate) {id : String} {text : List Char} (h : self.Describes id text) :
    (self.update risk).Describes id text := by
  unfold update step
  split
  · rename_i tables _ hperform
    exact create_from_risk_describes hperform h
  · exact h

end IncidentTables

/-- What `create_from_risk` writes of the factors when it creates an incident can be read from the description after
any further calls. -/
def Factors.RoundTrips {numbers : PyNumbers} (printable : Char → Bool) (self : Factors numbers) : Prop :=
  ∀ (tables created : IncidentTables) (now : Time) (inc_id agent_id : String) (risk_score : ℚ) (score : ScoreText),
    tables.active_incident agent_id = none →
    tables.create_from_risk now inc_id agent_id (factors_spike printable risk_score score self) = .ok created →
    ∀ updates : List RiskUpdate, ∃ inc,
      (transition.run IncidentTables.update created updates).incidents.get inc_id = some inc ∧
        parse_factors (flat_loaders numbers) inc.description = self.entries

section RoundTrip

variable {numbers : PyNumbers}

/-- The first incident shows what the loaders make of the factors. -/
theorem Factors.kept_of_roundTrips {printable : Char → Bool} {self : Factors numbers}
    (hround : self.RoundTrips printable) : self.Kept := by
  have hscore : ∀ c ∈ "85.0".toList, is_numeral c := List.all_eq_true.mp (by decide)
  obtain ⟨created, hcreate⟩ : ∃ created, ({} : IncidentTables).create_from_risk 0 "inc_1" "agent_1"
      (factors_spike printable 85 ⟨"85.0".toList, .inl hscore⟩ self) = .ok created := ⟨_, rfl⟩
  obtain ⟨inc, hget, hparse⟩ := hround {} created 0 "inc_1" "agent_1" 85 ⟨"85.0".toList, .inl hscore⟩ rfl hcreate []
  obtain ⟨row, hrow, hprefix⟩ := IncidentTables.describes_of_create rfl hcreate
  obtain rfl : row = inc := Option.some.inj (hrow.symm.trans hget)
  obtain ⟨later, hsearch⟩ := search_description 0 "inc_1" "agent_1" 85 _ self hprefix
  exact (parse_factors_iff hsearch).mp hparse

/-- The factors round trip exactly if no key and no text has a closing brace in it and every number is finite. -/
theorem Factors.roundTrips_iff (printable : Char → Bool) (self : Factors numbers) :
    self.RoundTrips printable ↔ self.Kept := by
  refine ⟨kept_of_roundTrips, ?_⟩
  intro hkept tables created now inc_id agent_id risk_score score hactive hcreate updates
  have hdescribes := IncidentTables.describes_of_create hactive hcreate
  have hkeeps (s : IncidentTables) (risk : RiskUpdate) (h : s.Describes inc_id
      ((factors_spike printable risk_score score self).record now inc_id agent_id).description.toList) :
      (s.update risk).Describes inc_id _ := IncidentTables.update_describes risk h
  obtain ⟨inc, hget, hprefix⟩ := transition.run_preserves hkeeps hdescribes updates
  obtain ⟨later, hsearch⟩ := search_description now inc_id agent_id risk_score score self hprefix
  exact ⟨inc, hget, (parse_factors_iff hsearch).mpr hkept⟩

/-- Numbers that are known by their numerals. -/
def numerals : PyNumbers where
  Number := { cs : List Char // cs.all is_numeral ∧ cs ≠ [] ∧ cs ≠ ['-'] }
  repr n := n.1
  read cs := if h : cs.all is_numeral ∧ cs ≠ [] ∧ cs ≠ ['-'] then some ⟨cs, h⟩ else none
  numeral n := List.all_eq_true.mp n.2.1
  read_repr n := dif_pos n.2
  read_nil := dif_neg fun h => h.2.1 rfl
  read_minus := dif_neg fun h => h.2.2 rfl

/-- A reason with a closing brace in it. -/
def brace_reason : Factors numerals where
  entries := [("suspicious_command".toList, .text ['$', '{', 'I', 'F', 'S', '}'])]
  nodup := by decide

/-- The pattern stops at the brace inside the reason. -/
theorem not_roundTrips_brace : ¬ brace_reason.RoundTrips fun _ => true := by
  intro hround
  have hkept := Factors.kept_of_roundTrips hround _ List.mem_cons_self
  exact hkept.2 (by decide)

end RoundTrip

end larp
