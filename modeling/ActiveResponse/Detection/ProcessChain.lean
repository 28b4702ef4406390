import ActiveResponse.Core.Text
import ActiveResponse.Detection.ChainRuleCache
import ActiveResponse.Lib.FreshMax
import Mathlib.Data.List.Pairwise
import Mathlib.Data.Set.Finite.Lemmas

namespace larp.RiskProcessChainRule

/-- `ACTION_TO_SCORE.get(action, 40.0)`. -/
def action_to_score (action : String) : ℚ :=
  if action = "block" then 70 else if action = "isolate" then 90 else 40

/-- `action_priority.get(action, 1)`. -/
def action_priority (action : String) : ℕ :=
  if action = "block" then 2 else if action = "isolate" then 3 else 1

structure SuspiciousChain where
  parent_pat : String
  child_pat : String
  chain_score : ℚ
deriving DecidableEq

def SUSPICIOUS_CHAINS : List SuspiciousChain :=
  [⟨"electron.exe", "msbuild.exe", 50⟩, ⟨"chrome.exe", "msbuild.exe", 50⟩, ⟨"msedge.exe", "msbuild.exe", 50⟩,
    ⟨"firefox.exe", "msbuild.exe", 50⟩, ⟨"winword.exe", "msbuild.exe", 60⟩, ⟨"excel.exe", "msbuild.exe", 60⟩,
    ⟨"electron.exe", "powershell.exe", 40⟩, ⟨"electron.exe", "cmd.exe", 40⟩, ⟨"chrome.exe", "powershell.exe", 40⟩,
    ⟨"winword.exe", "powershell.exe", 50⟩, ⟨"winword.exe", "cmd.exe", 50⟩, ⟨"msbuild.exe", "powershell.exe", 40⟩,
    ⟨"msbuild.exe", "cmd.exe", 40⟩, ⟨"msbuild.exe", "csc.exe", 5⟩]

/-- `s.replace("\\", "/").split("/")[-1]`. -/
def base_name (s : String) : String := String.ofList (s.toList.rtakeWhile fun c => c ≠ '/' && c ≠ '\\')

/-- `s[:-4]`, if the text ends with `.exe`. -/
def without_exe (s : String) : Option String :=
  if ".exe".toList <:+ s.toList then some (String.ofList (s.toList.take (s.length - 4))) else none

/-- `_matches_pattern`. -/
def matches_pattern (proc_name pattern : String) : Bool :=
  let p_clean := py_lower (RuleTables.strip_pattern proc_name)
  let pat_clean := py_lower (RuleTables.strip_pattern pattern)
  let base := base_name p_clean
  p_clean ≠ "" && pat_clean ≠ "" &&
    (base = pat_clean || p_clean = pat_clean || without_exe base = some pat_clean ||
      without_exe pat_clean = some base)

/-! ## The pairs of names that are derived from the telemetry -/

section Pairs

variable (py_str : Json → String)

/-- An item as a dictionary; what is none counts as empty. -/
def p_dict : Json → Dict
  | .obj entries => entries
  | _ => []

/-- `str(value).strip()`. -/
def stripped : Json → String
  | .str text => py_strip text
  | value => py_strip (py_str value)

/-- `str(p_dict.get(key, "")).strip()`. -/
def field (process : Dict) (key : String) : String := stripped py_str ((process.get key).getD (.str ""))

/-- `a or b`. -/
def or_else (a b : Json) : Json := if a.truthy then a else b

/-- `names.append(name)`, unless the name is empty or in the list. -/
def append_name (names : List String) (name : String) : List String :=
  if name = "" ∨ name ∈ names then names else names ++ [name]

/-- `_extract_proc_names`. -/
def extract_proc_names (process : Dict) : List String :=
  let value key := (process.get key).getD .null
  let cmdline := field py_str process "cmdline"
  let argv0 := base_name (String.ofList (cmdline.toList.takeWhile fun c => !py_isspace c))
  let exe := stripped py_str (or_else (value "exe") (or_else (value "path") (or_else (value "exe_path") (.str ""))))
  [field py_str process "name", argv0, base_name exe].foldl append_name []

/-- The pairs of the first loop, over `process_tree`. -/
def tree_pair (item : Json) : Option (String × String) :=
  let raw_p := field py_str (p_dict item) "parent_name"
  let name := ((p_dict item).get "name").getD (.str "")
  let raw_c := stripped py_str (or_else (((p_dict item).get "child_name").getD .null) name)
  if raw_p ≠ "" ∧ raw_c ≠ "" then some (raw_p, raw_c) else none

/-- The key of a dictionary that a value is. Equal numbers and booleans are one key, and `None` is not looked up. -/
def dict_key : Json → Option (ℚ ⊕ String)
  | .bool value => some (.inl (if value then 1 else 0))
  | .num value => some (.inl value)
  | .str value => some (.inr value)
  | _ => none

/-- A list or a dictionary cannot be a key. -/
def unhashable : Json → Bool
  | .arr _ | .obj _ => true
  | _ => false

def pid (item : Json) : Json := ((p_dict item).get "pid").getD .null

/-- `parent_pid`, or `ppid` if it is missing. -/
def parent_pid (item : Json) : Json :=
  match ((p_dict item).get "parent_pid").getD .null with
  | .null => ((p_dict item).get "ppid").getD .null
  | value => value

/-- `pid_map.get(parent_pid)`: of two processes with one pid the map keeps the later one. -/
def parent_proc (process_list : List Json) (item : Json) : Option Json :=
  (dict_key (parent_pid item)).bind fun key => process_list.reverse.find? fun proc => dict_key (pid proc) = some key

def child_names (item : Json) : List String := extract_proc_names py_str (p_dict item)

def parent_names (process_list : List Json) (item : Json) : List String :=
  ((parent_proc process_list item).elim [] (child_names py_str)).foldl append_name
    (append_name [] (field py_str (p_dict item) "parent_name"))

/-- The pairs of one process of `process_list`. -/
def list_pairs (process_list : List Json) (item : Json) : List (String × String) :=
  (parent_names py_str process_list item).flatMap fun p_n => (child_names py_str item).map fun c_n => (p_n, c_n)

/-- The list `pairs`, without the lowered names. -/
def pairs (process_tree process_list : List Json) : List (String × String) :=
  process_tree.filterMap (tree_pair py_str) ++ process_list.flatMap (list_pairs py_str process_list)

/-- Whether a pid or a parent pid that is used as a key raises. -/
def raises (process_list : List Json) : Bool :=
  process_list.any (fun item => unhashable (pid item)) ||
    process_list.any fun item => child_names py_str item ≠ [] && unhashable (parent_pid item)

end Pairs

/-! ## The loop over the pairs -/

/-- `action.upper()` of an ASCII text. -/
def upper (action : String) : String := String.ofList (action.toList.map Char.toUpper)

def rule_matches (pair : String × String) (rule : PreparedRule) : Bool :=
  rule.parent_patterns.any (matches_pattern (py_lower pair.1)) &&
    rule.child_patterns.any (matches_pattern (py_lower pair.2))

def chain_matches (pair : String × String) (chain : SuspiciousChain) : Bool :=
  matches_pattern (py_lower pair.1) chain.parent_pat && matches_pattern (py_lower pair.2) chain.child_pat

def rule_desc (pair : String × String) (rule : PreparedRule) : String :=
  "[Rule: " ++ rule.name ++ " (" ++ upper rule.action ++ ")] '" ++ pair.1 ++ "' spawned '" ++ pair.2 ++ "'"

def chain_desc (pair : String × String) : String :=
  "[Rule: Suspicious Execution Chain] '" ++ pair.1 ++ "' spawned '" ++ pair.2 ++ "'"

structure Findings where
  anomalies : List String := []
  highest_action : String := "alert"
  max_chain_score : ℚ := 0

/-- A rule that matches the pair. -/
def Findings.add_rule (pair : String × String) (self : Findings) (rule : PreparedRule) : Findings :=
  if rule_matches pair rule then
    { self with
      anomalies := if rule_desc pair rule ∈ self.anomalies then self.anomalies
        else self.anomalies ++ [rule_desc pair rule]
      highest_action := if action_priority self.highest_action < action_priority rule.action then rule.action
        else self.highest_action }
  else self

/-- A built-in chain that matches the pair. -/
def Findings.add_chain (pair : String × String) (self : Findings) (chain : SuspiciousChain) : Findings :=
  if chain_matches pair chain then
    if chain_desc pair ∈ self.anomalies then self
    else
      { self with
        anomalies := self.anomalies ++ [chain_desc pair]
        max_chain_score := max self.max_chain_score chain.chain_score }
  else self

/-- One round of the loop over the pairs. -/
def Findings.add_pair (rules : List PreparedRule) (self : Findings) (pair : String × String) : Findings :=
  SUSPICIOUS_CHAINS.foldl (add_chain pair) (rules.foldl (add_rule pair) self)

/-- The score before the cut at 100. -/
def Findings.base (self : Findings) : ℚ :=
  if 0 < self.max_chain_score then max (action_to_score self.highest_action) self.max_chain_score
  else action_to_score self.highest_action

/-- The score that `evaluate` returns, with the configured `base_score`. -/
def evaluate (py_str : Json → String) (base_score : ℚ) (rules : List PreparedRule)
    (process_tree process_list : List Json) : Except AppException ℚ :=
  if rules.isEmpty then .ok 0
  else if raises py_str process_list then .error (.TypeError "unhashable type")
  else
    let findings := (pairs py_str process_tree process_list).foldl (Findings.add_pair rules) {}
    .ok (if findings.anomalies.isEmpty then 0 else min 100 (findings.base * base_score))

/-! ## The matches of the pairs -/

/-- A rule or a built-in chain that matches a pair. -/
structure Hit where
  pair : String × String
  source : PreparedRule ⊕ SuspiciousChain
deriving DecidableEq

namespace Hit

def of_rule (self : Hit) : Bool := self.source.isLeft

def desc (self : Hit) : String := self.source.elim (rule_desc self.pair) fun _ => chain_desc self.pair

def weight (self : Hit) : ℚ :=
  self.source.elim (fun rule => action_to_score rule.action) SuspiciousChain.chain_score

end Hit

def hits_of_pair (rules : List PreparedRule) (pair : String × String) : List Hit :=
  (rules.filter (rule_matches pair)).map (fun rule => ⟨pair, .inl rule⟩) ++
    (SUSPICIOUS_CHAINS.filter (chain_matches pair)).map fun chain => ⟨pair, .inr chain⟩

/-- The matches in the order in which the loop meets them. -/
def hits (rules : List PreparedRule) (pairs : List (String × String)) : List Hit := pairs.flatMap (hits_of_pair rules)

/-- The scores of the rules and the weights of the chains that match one of the pairs. -/
def matched_scores (rules : List PreparedRule) (pairs : List (String × String)) : Set ℚ :=
  {w | ∃ pair ∈ pairs, (∃ rule ∈ rules, rule_matches pair rule ∧ action_to_score rule.action = w) ∨
    ∃ chain ∈ SUSPICIOUS_CHAINS, chain_matches pair chain ∧ chain.chain_score = w}

theorem matched_scores_eq (rules : List PreparedRule) (pairs : List (String × String)) :
    matched_scores rules pairs = {w | ∃ hit ∈ hits rules pairs, hit.weight = w} := by
  ext w
  simp only [matched_scores, hits, hits_of_pair, Set.mem_ofPred_eq, List.mem_flatMap, List.mem_append, List.mem_map,
    List.mem_filter]
  constructor
  · rintro ⟨pair, hpair, ⟨rule, hrule, hmatches, rfl⟩ | ⟨chain, hchain, hmatches, rfl⟩⟩
    · exact ⟨⟨pair, .inl rule⟩, ⟨pair, hpair, .inl ⟨rule, ⟨hrule, hmatches⟩, rfl⟩⟩, rfl⟩
    · exact ⟨⟨pair, .inr chain⟩, ⟨pair, hpair, .inr ⟨chain, ⟨hchain, hmatches⟩, rfl⟩⟩, rfl⟩
  · rintro ⟨hit, ⟨pair, hpair, ⟨rule, ⟨hrule, hmatches⟩, rfl⟩ | ⟨chain, ⟨hchain, hmatches⟩, rfl⟩⟩, rfl⟩
    · exact ⟨pair, hpair, .inl ⟨rule, hrule, hmatches, rfl⟩⟩
    · exact ⟨pair, hpair, .inr ⟨chain, hchain, hmatches, rfl⟩⟩

theorem action_to_score_ge (action : String) : 40 ≤ action_to_score action := by
  unfold action_to_score
  split_ifs <;> norm_num

theorem weight_pos {rules : List PreparedRule} {pairs : List (String × String)} {w : ℚ}
    (h : w ∈ matched_scores rules pairs) : 0 < w := by
  obtain ⟨pair, -, ⟨rule, -, -, rfl⟩ | ⟨chain, hchain, -, rfl⟩⟩ := h
  · exact lt_of_lt_of_le (by norm_num) (action_to_score_ge rule.action)
  · revert chain
    decide +kernel

/-- The action of higher priority is the one with the higher score. -/
theorem action_to_score_higher (highest action : String) :
    action_to_score (if action_priority highest < action_priority action then action else highest) =
      max (action_to_score highest) (action_to_score action) := by
  unfold action_to_score action_priority
  split_ifs <;> simp_all <;> norm_num

/-! ## The loop as a tally of the matches -/

/-- What the loop has found, with one number for the action and the chains. -/
def Findings.tally (self : Findings) : FreshMax.Tally String ℚ :=
  ⟨self.anomalies, max (action_to_score self.highest_action) self.max_chain_score⟩

abbrev record : FreshMax.Tally String ℚ → Hit → FreshMax.Tally String ℚ :=
  FreshMax.Tally.record Hit.desc Hit.weight Hit.of_rule

theorem tally_add_rule (pair : String × String) (self : Findings) (rule : PreparedRule) :
    (self.add_rule pair rule).tally =
      if rule_matches pair rule then record self.tally ⟨pair, .inl rule⟩ else self.tally := by
  unfold Findings.add_rule
  split
  · simp only [Findings.tally, record, FreshMax.Tally.record, Hit.desc, Hit.weight, Hit.of_rule, Sum.elim_inl,
      Sum.isLeft_inl, action_to_score_higher, true_or, if_true]
    exact congrArg _ (max_right_comm _ _ _)
  · rfl

theorem tally_add_chain (pair : String × String) (self : Findings) (chain : SuspiciousChain) :
    (self.add_chain pair chain).tally =
      if chain_matches pair chain then record self.tally ⟨pair, .inr chain⟩ else self.tally := by
  unfold Findings.add_chain
  split
  · by_cases hseen : chain_desc pair ∈ self.anomalies
    · simp [Findings.tally, FreshMax.Tally.record, Hit.desc, Hit.of_rule, hseen]
    · simp [Findings.tally, FreshMax.Tally.record, Hit.desc, Hit.weight, Hit.of_rule, hseen, max_assoc]
  · rfl

theorem tally_foldl_rules (pair : String × String) (rules : List PreparedRule) (self : Findings) :
    (rules.foldl (Findings.add_rule pair) self).tally =
      ((rules.filter (rule_matches pair)).map fun rule => (⟨pair, .inl rule⟩ : Hit)).foldl record self.tally := by
  induction rules generalizing self with
  | nil => rfl
  | cons rule rules ih =>
    rw [List.foldl_cons, ih, tally_add_rule, List.filter_cons]
    split <;> rfl

theorem tally_foldl_chains (pair : String × String) (chains : List SuspiciousChain) (self : Findings) :
    (chains.foldl (Findings.add_chain pair) self).tally =
      ((chains.filter (chain_matches pair)).map fun chain => (⟨pair, .inr chain⟩ : Hit)).foldl record self.tally := by
  induction chains generalizing self with
  | nil => rfl
  | cons chain chains ih =>
    rw [List.foldl_cons, ih, tally_add_chain, List.filter_cons]
    split <;> rfl

theorem tally_add_pair (rules : List PreparedRule) (self : Findings) (pair : String × String) :
    (self.add_pair rules pair).tally = (hits_of_pair rules pair).foldl record self.tally := by
  rw [Findings.add_pair, hits_of_pair, List.foldl_append, tally_foldl_chains, tally_foldl_rules]

/-- The loop over the pairs records the matches one after the other. -/
theorem tally_foldl (rules : List PreparedRule) (pairs : List (String × String)) (self : Findings) :
    (pairs.foldl (Findings.add_pair rules) self).tally = (hits rules pairs).foldl record self.tally := by
  induction pairs generalizing self with
  | nil => rfl
  | cons pair pairs ih =>
    rw [List.foldl_cons, ih, tally_add_pair]
    exact List.foldl_append.symm

/-- The tally of all the matches. -/
def tally_of (hits : List Hit) : FreshMax.Tally String ℚ := hits.foldl record ⟨[], 40⟩

theorem base_eq (self : Findings) : self.base = self.tally.best := by
  unfold Findings.base
  split
  · rfl
  · rename_i hnone
    refine (max_eq_left ((not_lt.mp hnone).trans ?_)).symm
    exact le_trans (by norm_num) (action_to_score_ge self.highest_action)

/-- What `evaluate` returns, in terms of the matches. -/
theorem evaluate_eq {py_str : Json → String} {base_score : ℚ} {rules : List PreparedRule}
    {process_tree process_list : List Json} (hrules : rules ≠ []) (hraises : ¬ raises py_str process_list) :
    evaluate py_str base_score rules process_tree process_list =
      .ok (if hits rules (pairs py_str process_tree process_list) = [] then 0
        else min 100 ((tally_of (hits rules (pairs py_str process_tree process_list))).best * base_score)) := by
  have htally := tally_foldl rules (pairs py_str process_tree process_list) {}
  have hinit : Findings.tally {} = ⟨[], 40⟩ := by
    simp [Findings.tally, action_to_score]
  rw [hinit] at htally
  have hanomalies (hits : List Hit) : (tally_of hits).seen = [] ↔ hits = [] := by
    rw [List.eq_nil_iff_forall_not_mem, ← List.map_eq_nil_iff (f := Hit.desc), List.eq_nil_iff_forall_not_mem]
    exact forall_congr' fun desc => not_congr FreshMax.mem_seen_foldl
  rw [evaluate, if_neg (by simpa using hrules), if_neg hraises]
  dsimp only
  rw [base_eq, htally]
  refine congrArg _ (if_congr ?_ rfl rfl)
  rw [List.isEmpty_iff, ← hanomalies]
  exact iff_of_eq (congrArg (fun tally => tally.seen = []) htally)

/-! ## Which order of the processes makes no difference -/

/-- The heaviest match decides about the score: it is no lighter than an alert, and it counts. A lighter one does as
well where the score is cut at 100. -/
def Counted (base_score : ℚ) (hits : List Hit) : Prop :=
  ∀ m, IsGreatest {w | ∃ hit ∈ hits, hit.weight = w} m →
    (40 ≤ m ∨ 100 ≤ m * base_score) ∧
      ∃ w, (w = 40 ∨ ∃ hit, FreshMax.Counts Hit.desc Hit.of_rule hits hit ∧ hit.weight = w) ∧
        (w = m ∨ 100 ≤ w * base_score)

theorem min_hundred_eq_iff {x y : ℚ} : min 100 x = min 100 y ↔ x = y ∨ 100 ≤ x ∧ 100 ≤ y := by
  constructor
  · intro heq
    rcases le_or_gt 100 x with hx | hx
    · rw [min_eq_left hx] at heq
      exact Or.inr ⟨hx, heq ▸ min_le_right _ _⟩
    · rw [min_eq_right hx.le] at heq
      rcases le_or_gt 100 y with hy | hy
      · rw [min_eq_left hy] at heq
        exact absurd heq hx.ne
      · exact Or.inl (heq.trans (min_eq_right hy.le))
  · rintro (rfl | ⟨hx, hy⟩)
    · rfl
    · rw [min_eq_left hx, min_eq_left hy]

/-- The matches of these pairs are scored by the heaviest of them exactly when it counts. -/
theorem score_eq_iff {base_score : ℚ} (hbase : 0 < base_score) {hits : List Hit} {m : ℚ}
    (hm : IsGreatest {w | ∃ hit ∈ hits, hit.weight = w} m) :
    min 100 ((tally_of hits).best * base_score) = min 100 (m * base_score) ↔
      (40 ≤ m ∨ 100 ≤ m * base_score) ∧
        ∃ w, (w = 40 ∨ ∃ hit, FreshMax.Counts Hit.desc Hit.of_rule hits hit ∧ hit.weight = w) ∧
          (w = m ∨ 100 ≤ w * base_score) := by
  obtain ⟨hbest, hupper⟩ : IsGreatest _ (tally_of hits).best := FreshMax.isGreatest_foldl hits 40
  have hlow : 40 ≤ (tally_of hits).best := hupper (.inl rfl)
  have hhigh (h40 : 40 ≤ m) : (tally_of hits).best ≤ m := by
    rcases hbest with heq | ⟨hit, hcounts, heq⟩
    · exact heq.le.trans h40
    · exact heq ▸ hm.2 ⟨hit, hcounts.mem, rfl⟩
  have hscale {x y : ℚ} (hxy : x ≤ y) : x * base_score ≤ y * base_score := mul_le_mul_of_nonneg_right hxy hbase.le
  rw [min_hundred_eq_iff]
  constructor
  · rintro (heq | ⟨hbest100, hm100⟩)
    · obtain heq := mul_right_cancel₀ hbase.ne' heq
      exact ⟨.inl (heq ▸ hlow), _, hbest, .inl heq⟩
    · exact ⟨.inr hm100, _, hbest, .inr hbest100⟩
  · rintro ⟨hm100, w, hw, rfl | hw100⟩
    · have hle : w ≤ (tally_of hits).best := hupper hw
      rcases hm100 with h40 | hm100
      · exact .inl (congrArg (· * base_score) (le_antisymm (hhigh h40) hle))
      · exact .inr ⟨hm100.trans (hscale hle), hm100⟩
    · have hbest100 := hw100.trans (hscale (hupper hw))
      exact .inr ⟨hbest100, hm100.elim (fun h40 => hbest100.trans (hscale (hhigh h40))) id⟩

/-- The heaviest of some matches. -/
theorem exists_isGreatest {hits : List Hit} (hne : hits ≠ []) :
    ∃ m, IsGreatest {w | ∃ hit ∈ hits, hit.weight = w} m := by
  obtain ⟨hit, hmem, hmax⟩ := Set.exists_max_image {hit | hit ∈ hits} Hit.weight (List.finite_toSet hits)
    (List.exists_mem_of_ne_nil hits hne)
  refine ⟨hit.weight, ⟨hit, hmem, rfl⟩, ?_⟩
  rintro w ⟨other, hother, rfl⟩
  exact hmax other hother

section Order

variable {py_str : Json → String} {rules : List PreparedRule} {process_tree process_tree' process_list
  process_list' : List Json}

/-- No pid is reported twice. -/
def DistinctPids (process_list : List Json) : Prop := (process_list.filterMap fun item => dict_key (pid item)).Nodup

instance (process_list : List Json) : Decidable (DistinctPids process_list) :=
  inferInstanceAs (Decidable (List.Nodup _))

/-- A search for the last element with a property that one element has at most. -/
theorem find?_reverse_eq_some_iff {p : Json → Bool} {l : List Json}
    (hunique : ∀ a ∈ l, ∀ b ∈ l, p a → p b → a = b) {a : Json} : l.reverse.find? p = some a ↔ a ∈ l ∧ p a := by
  constructor
  · intro h
    exact ⟨List.mem_reverse.mp (List.mem_of_find?_eq_some h), List.find?_some h⟩
  · rintro ⟨ha, hp⟩
    cases hfind : l.reverse.find? p with
    | none => exact absurd hp (List.find?_eq_none.mp hfind a (List.mem_reverse.mpr ha))
    | some b =>
      rw [hunique b (List.mem_reverse.mp (List.mem_of_find?_eq_some hfind)) a ha (List.find?_some hfind) hp]

theorem eq_of_pid (hpids : DistinctPids process_list) {key : ℚ ⊕ String} {a b : Json} (ha : a ∈ process_list)
    (hb : b ∈ process_list) (hakey : dict_key (pid a) = some key) (hbkey : dict_key (pid b) = some key) : a = b := by
  by_contra hne
  have hpairwise := List.pairwise_filterMap.mp hpids
  have hsymm : Std.Symm fun a a' : Json => ∀ key, dict_key (pid a) = some key → ∀ key',
      dict_key (pid a') = some key' → key ≠ key' :=
    ⟨fun a a' h key hkey key' hkey' => (h key' hkey' key hkey).symm⟩
  exact hpairwise.forall ha hb hne key hakey key hbkey rfl

/-- The parent of a process does not depend on the order of the list. -/
theorem parent_proc_perm (hpids : DistinctPids process_list) (hperm : process_list'.Perm process_list) (item : Json) :
    parent_proc process_list' item = parent_proc process_list item := by
  refine congrArg _ (funext fun key => Option.ext fun proc => ?_)
  rw [find?_reverse_eq_some_iff, find?_reverse_eq_some_iff, hperm.mem_iff]
  · intro a ha b hb hakey hbkey
    exact eq_of_pid hpids ha hb (of_decide_eq_true hakey) (of_decide_eq_true hbkey)
  · intro a ha b hb hakey hbkey
    exact eq_of_pid hpids (hperm.subset ha) (hperm.subset hb) (of_decide_eq_true hakey) (of_decide_eq_true hbkey)

theorem pairs_perm (hpids : DistinctPids process_list) (htree : process_tree'.Perm process_tree)
    (hlist : process_list'.Perm process_list) :
    (pairs py_str process_tree' process_list').Perm (pairs py_str process_tree process_list) := by
  have hpairs : list_pairs py_str process_list' = list_pairs py_str process_list := by
    funext item
    rw [list_pairs, list_pairs, parent_names, parent_names, parent_proc_perm hpids hlist]
  rw [pairs, pairs, hpairs]
  exact (htree.filterMap _).append (hlist.flatMap_right _)

theorem raises_perm (hlist : process_list'.Perm process_list) :
    raises py_str process_list' = raises py_str process_list := by
  rw [raises, raises, hlist.any_eq, hlist.any_eq]

theorem hits_perm {pairs pairs' : List (String × String)} (hperm : pairs'.Perm pairs) :
    (hits rules pairs').Perm (hits rules pairs) := hperm.flatMap_right _

theorem matched_scores_perm {pairs pairs' : List (String × String)} (hperm : pairs'.Perm pairs) :
    matched_scores rules pairs' = matched_scores rules pairs := by
  rw [matched_scores_eq, matched_scores_eq]
  ext w
  simp only [Set.mem_ofPred_eq, (hits_perm hperm).mem_iff]

end Order

/-- The law: the score is positive when a pair matches a rule or a built-in chain, it is the highest of their scores
times the base score, up to 100, and it does not depend on the order of the processes. -/
structure Law (py_str : Json → String) (base_score : ℚ) (rules : List PreparedRule)
    (process_tree process_list : List Json) : Prop where
  score : ∃ score, evaluate py_str base_score rules process_tree process_list = .ok score ∧
    (0 < score ↔ (matched_scores rules (pairs py_str process_tree process_list)).Nonempty) ∧
    ∀ m, IsGreatest (matched_scores rules (pairs py_str process_tree process_list)) m →
      score = min 100 (m * base_score)
  order : ∀ process_tree' process_list', process_tree'.Perm process_tree → process_list'.Perm process_list →
    evaluate py_str base_score rules process_tree' process_list' =
      evaluate py_str base_score rules process_tree process_list

section Law

variable {py_str : Json → String} {base_score : ℚ} {rules : List PreparedRule} {process_tree process_list : List Json}

theorem active_chain_rules_ne_nil (served : Option (List PreparedRule)) : active_chain_rules served ≠ [] := by
  unfold active_chain_rules
  split <;> exact List.cons_ne_nil _ _

/-- Without a match the score is 0, and the matches that count are scored by the heaviest of them. -/
theorem evaluate_of_counted (hbase : 0 < base_score) (hrules : rules ≠ []) (hraises : ¬ raises py_str process_list)
    (hcounted : Counted base_score (hits rules (pairs py_str process_tree process_list))) :
    (matched_scores rules (pairs py_str process_tree process_list) = ∅ ∧
        evaluate py_str base_score rules process_tree process_list = .ok 0) ∨
      ∃ m, IsGreatest (matched_scores rules (pairs py_str process_tree process_list)) m ∧
        evaluate py_str base_score rules process_tree process_list = .ok (min 100 (m * base_score)) := by
  rw [evaluate_eq hrules hraises, matched_scores_eq]
  split
  · rename_i hnone
    exact Or.inl ⟨by simp [hnone], rfl⟩
  · rename_i hsome
    obtain ⟨m, hm⟩ := exists_isGreatest hsome
    exact Or.inr ⟨m, hm, congrArg _ ((score_eq_iff hbase hm).mpr (hcounted m hm))⟩

/-- A score that is the one of the heaviest match shows that it counts. -/
theorem counted_of_evaluate (hbase : 0 < base_score) (hrules : rules ≠ []) (hraises : ¬ raises py_str process_list)
    (h : ∀ m, IsGreatest (matched_scores rules (pairs py_str process_tree process_list)) m →
      evaluate py_str base_score rules process_tree process_list = .ok (min 100 (m * base_score))) :
    Counted base_score (hits rules (pairs py_str process_tree process_list)) := by
  intro m hm
  have hsome : hits rules (pairs py_str process_tree process_list) ≠ [] := by
    rintro hnone
    obtain ⟨hit, hhit, -⟩ := hm.1
    rw [hnone] at hhit
    exact List.not_mem_nil hhit
  rw [matched_scores_eq] at h
  have hscore := h m hm
  rw [evaluate_eq hrules hraises, if_neg hsome] at hscore
  exact (score_eq_iff hbase hm).mp (Except.ok.inj hscore)

/-- The law holds exactly when nothing is raised and the heaviest match counts in every order of the processes. -/
theorem processChainLaw_iff (py_str : Json → String) (base_score : ℚ) (served : Option (List PreparedRule))
    (process_tree process_list : List Json) (hbase : 0 < base_score) (hpids : DistinctPids process_list) :
    Law py_str base_score (active_chain_rules served) process_tree process_list ↔
      ¬ raises py_str process_list ∧ ∀ process_tree' process_list', process_tree'.Perm process_tree →
        process_list'.Perm process_list →
        Counted base_score (hits (active_chain_rules served) (pairs py_str process_tree' process_list')) := by
  have hrules := active_chain_rules_ne_nil served
  constructor
  · rintro ⟨⟨score, hscore, -, hheaviest⟩, horder⟩
    have hraises : ¬ raises py_str process_list := by
      intro hraises
      rw [evaluate, if_neg (by simpa using hrules), if_pos hraises] at hscore
      cases hscore
    refine ⟨hraises, fun process_tree' process_list' htree hlist => ?_⟩
    refine counted_of_evaluate hbase hrules (by rwa [raises_perm hlist]) fun m hm => ?_
    rw [matched_scores_perm (pairs_perm hpids htree hlist)] at hm
    rw [horder _ _ htree hlist, hscore, hheaviest m hm]
  · rintro ⟨hraises, hcounted⟩
    have hself := evaluate_of_counted hbase hrules hraises (hcounted _ _ (.refl _) (.refl _))
    refine ⟨?_, fun process_tree' process_list' htree hlist => ?_⟩
    · rcases hself with ⟨hnone, heval⟩ | ⟨m, hm, heval⟩
      · rw [hnone]
        exact ⟨0, heval, by simp, fun m hm => absurd hm.1 (Set.notMem_empty m)⟩
      · refine ⟨_, heval, iff_of_true ?_ ⟨m, hm.1⟩, fun m' hm' => by rw [hm.unique hm']⟩
        exact lt_min (by norm_num) (mul_pos (weight_pos hm.1) hbase)
    · have hother := evaluate_of_counted hbase hrules (by rwa [raises_perm hlist]) (hcounted _ _ htree hlist)
      rw [matched_scores_perm (pairs_perm hpids htree hlist)] at hother
      rcases hself with ⟨hnone, heval⟩ | ⟨m, hm, heval⟩
      · rw [hnone] at hother
        rcases hother with ⟨-, heval'⟩ | ⟨m, hm, -⟩
        · rw [heval, heval']
        · exact absurd hm.1 (Set.notMem_empty m)
      · rcases hother with ⟨hnone, -⟩ | ⟨m', hm', heval'⟩
        · exact absurd (hnone ▸ hm.1) (Set.notMem_empty m)
        · rw [heval, heval', hm.unique hm']

private def web_shell : PreparedRule where
  id := "rule-1"
  name := "Web server spawns shell"
  action := "isolate"
  parent_patterns := ["nginx"]
  child_patterns := ["sh"]

private def nginx_and_shell : List Json :=
  [.obj [("pid", .num 7), ("name", .str "nginx")], .obj [("pid", .num 9), ("ppid", .num 7), ("name", .str "sh")]]

/-- A web server and its shell, with a rule that isolates. -/
theorem law_nginx : Law (fun _ => "") 1 (active_chain_rules (some [web_shell])) [] nginx_and_shell := by
  refine (processChainLaw_iff (fun _ => "") 1 (some [web_shell]) [] nginx_and_shell one_pos (by decide +kernel)).mpr
    ⟨by decide +kernel, fun process_tree' process_list' htree hlist => ?_⟩
  have hhits : hits [web_shell] (pairs (fun _ => "") [] nginx_and_shell) = [⟨("nginx", "sh"), .inl web_shell⟩] := by
    decide +kernel
  have hperm : (hits [web_shell] (pairs (fun _ => "") process_tree' process_list')).Perm
      (hits [web_shell] (pairs (fun _ => "") [] nginx_and_shell)) :=
    hits_perm (pairs_perm (by decide +kernel) htree hlist)
  rw [hhits, List.perm_singleton] at hperm
  change Counted 1 (hits [web_shell] _)
  rw [hperm]
  intro m hm
  obtain ⟨hit, hhit, rfl⟩ := hm.1
  obtain rfl := List.mem_singleton.mp hhit
  have hweight : Hit.weight ⟨("nginx", "sh"), .inl web_shell⟩ = 90 := by decide +kernel
  exact ⟨.inl (by rw [hweight]; norm_num), _, .inr ⟨_, ⟨[], [], rfl, .inl rfl⟩, rfl⟩, .inl rfl⟩

/-- The law for every list of active rules and all telemetry. -/
def ProcessChainLaw : Prop :=
  ∀ (py_str : Json → String) (base_score : ℚ) (served : Option (List PreparedRule))
    (process_tree process_list : List Json), 0 < base_score → DistinctPids process_list →
    Law py_str base_score (active_chain_rules served) process_tree process_list

private def compiler_chain : List Json := [.obj [("parent_name", .str "msbuild.exe"), ("child_name", .str "csc.exe")]]

/-- A match of the built-in chain of weight 5 scores 40. -/
theorem not_processChainLaw_compiler : ¬ ProcessChainLaw := by
  intro h
  obtain ⟨score, hscore, -, hheaviest⟩ := (h (fun _ => "") 1 none compiler_chain [] one_pos (by decide)).score
  have hhits : hits (active_chain_rules none) (pairs (fun _ => "") compiler_chain []) =
      [⟨("msbuild.exe", "csc.exe"), .inr ⟨"msbuild.exe", "csc.exe", 5⟩⟩] := by decide +kernel
  have heval : evaluate (fun _ => "") 1 (active_chain_rules none) compiler_chain [] = .ok 40 := by
    rw [evaluate_eq (by decide) (by decide), hhits]
    decide +kernel
  rw [matched_scores_eq, hhits] at hheaviest
  obtain rfl := Except.ok.inj (heval.symm.trans hscore)
  have hfive := hheaviest 5 (by simp [IsGreatest, Hit.weight, upperBounds])
  norm_num at hfive

private def disguised_chains : List Json :=
  [.obj [("parent_name", .str "msbuild.exe"), ("child_name", .str "/winword.exe' spawned '/cmd.exe")],
    .obj [("parent_name", .str "msbuild.exe' spawned '/winword.exe"), ("child_name", .str "/cmd.exe")]]

/-- Two names that are described alike hide one of their chains, and which one depends on their order. -/
example : evaluate (fun _ => "") 1 [web_shell] disguised_chains [] = .ok 40 ∧
    evaluate (fun _ => "") 1 [web_shell] disguised_chains.reverse [] = .ok 50 := by decide +kernel

end Law

end larp.RiskProcessChainRule
