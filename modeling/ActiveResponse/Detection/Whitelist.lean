import ActiveResponse.Detection.Processes

namespace larp

/-- A text that is there: an empty one counts as missing. -/
def given (text : Option String) : Option String := text.filter (· ≠ "")

/-- An argument of the whitelist check as a message or a caller passes it. -/
def text_argument (text : Option String) : Json := text.elim .null .str

theorem text_filter_text_argument (text : Option String) : text_filter (text_argument text) = .ok (given text) := by
  cases text with
  | none => rfl
  | some text =>
    by_cases h : text = ""
    · simp [text_argument, text_filter, given, Option.filter, h]
    · simp [text_argument, text_filter, given, Option.filter, h]

namespace WhitelistEntry

/-- An entry applies to its own agent, and to every agent when it names none. -/
def Applies (entry : WhitelistEntry) (agent_id : Option String) : Prop :=
  entry.agent_id = none ∨ entry.agent_id = given agent_id

/-- An entry names the given process or the given path. -/
def Names (entry : WhitelistEntry) (process_name path : Option String) : Prop :=
  ((given process_name).isSome ∧ entry.process_name = given process_name) ∨
    ((given path).isSome ∧ entry.path = given path)

instance (entry : WhitelistEntry) (agent_id process_name path : Option String) :
    Decidable (entry.Applies agent_id ∧ entry.Names process_name path) :=
  inferInstanceAs (Decidable ((_ ∨ _) ∧ (_ ∧ _ ∨ _ ∧ _)))

end WhitelistEntry

namespace Database

/-- What the whitelist is for. -/
def Whitelisted (db : Database) (agent_id process_name path : Option String) : Prop :=
  ∃ entry ∈ db.whitelist.rows, entry.Applies agent_id ∧ entry.Names process_name path

instance (db : Database) (agent_id process_name path : Option String) :
    Decidable (db.Whitelisted agent_id process_name path) :=
  inferInstanceAs (Decidable (∃ entry ∈ db.whitelist.rows, _))

/-- With a name or a path, at most one entry answers the query. Without either, the agent has no entry of its own. -/
def Unambiguous (db : Database) (agent_id process_name path : Option String) : Prop :=
  if given process_name = none ∧ given path = none then
    given agent_id = none ∨ ∀ entry ∈ db.whitelist.rows, entry.agent_id ≠ given agent_id
  else
    (db.whitelist.rows.filter fun entry => entry.Applies agent_id ∧ entry.Names process_name path).length ≤ 1

/-- The law of the check: it does not raise, and it finds what is whitelisted. -/
def WhitelistLaw : Prop :=
  ∀ (db : Database) (agent_id process_name path : Option String),
    db.is_whitelisted agent_id (text_argument process_name) (text_argument path) =
      .ok (db.Whitelisted agent_id process_name path)

/-- A query that expects one row at most answers when it finds no second one. -/
theorem whitelist_has_eq_ok_iff (db : Database) (select : WhitelistEntry → Bool) (found : Bool) :
    db.whitelist_has select = .ok found ↔
      (db.whitelist.rows.filter select).length ≤ 1 ∧ (found ↔ ∃ entry ∈ db.whitelist.rows, select entry) := by
  have hexists : (∃ entry ∈ db.whitelist.rows, select entry) ↔ db.whitelist.rows.filter select ≠ [] := by
    rw [ne_eq, List.filter_eq_nil_iff]
    exact ⟨fun ⟨entry, hentry, hselect⟩ hnone => hnone entry hentry hselect, fun h => by
      by_contra hnone
      exact h fun entry hentry hselect => hnone ⟨entry, hentry, hselect⟩⟩
  rw [whitelist_has, hexists]
  rcases db.whitelist.rows.filter select with _ | ⟨first, _ | ⟨second, rest⟩⟩
  · cases found <;> simp
  · cases found <;> simp
  · simp

/-- The query of the check, without the arguments that are missing. -/
theorem is_whitelisted_eq (db : Database) (agent_id process_name path : Option String) :
    db.is_whitelisted agent_id (text_argument process_name) (text_argument path) =
      if given process_name = none ∧ given path = none then
        if given agent_id = none then .ok false else db.whitelist_has fun entry => entry.agent_id = given agent_id
      else db.whitelist_has fun entry => entry.Applies agent_id ∧ entry.Names process_name path := by
  rw [is_whitelisted, text_filter_text_argument, text_filter_text_argument]
  simp only [bind, Except.bind, pure, Except.pure, Option.isNone_iff_eq_none]
  refine if_congr Iff.rfl ?_ rfl
  change (if (given agent_id).isSome then db.whitelist_has fun entry => entry.agent_id = given agent_id
    else .ok false) = _
  by_cases hagent : given agent_id = none
  · rw [if_pos hagent, hagent]
    rfl
  · rw [if_neg hagent, if_pos (Option.isSome_iff_ne_none.mpr hagent)]

theorem not_whitelisted_without_target (db : Database) (agent_id : Option String) {process_name path : Option String}
    (hname : given process_name = none) (hpath : given path = none) : ¬ db.Whitelisted agent_id process_name path := by
  rintro ⟨entry, _, _, ⟨hsome, _⟩ | ⟨hsome, _⟩⟩
  · rw [hname] at hsome
    cases hsome
  · rw [hpath] at hsome
    cases hsome

private theorem is_whitelisted_iff_unambiguous (db : Database) (agent_id process_name path : Option String) :
    db.is_whitelisted agent_id (text_argument process_name) (text_argument path) =
      .ok (decide (db.Whitelisted agent_id process_name path)) ↔ db.Unambiguous agent_id process_name path := by
  rw [is_whitelisted_eq, Unambiguous]
  by_cases htarget : given process_name = none ∧ given path = none
  · have hnone := db.not_whitelisted_without_target agent_id htarget.1 htarget.2
    rw [if_pos htarget, if_pos htarget, decide_eq_false hnone]
    by_cases hagent : given agent_id = none
    · rw [if_pos hagent]
      exact iff_of_true rfl (.inl hagent)
    · rw [if_neg hagent, whitelist_has_eq_ok_iff, or_iff_right hagent]
      constructor
      · rintro ⟨_, hfound⟩ entry hentry hown
        exact Bool.false_ne_true (hfound.mpr ⟨entry, hentry, decide_eq_true hown⟩)
      · intro hown
        have hempty : db.whitelist.rows.filter (fun entry => entry.agent_id = given agent_id) = [] :=
          List.filter_eq_nil_iff.mpr fun entry hentry => by simpa using hown entry hentry
        refine ⟨by rw [hempty]; exact Nat.zero_le 1, iff_of_false Bool.false_ne_true ?_⟩
        rintro ⟨entry, hentry, hselect⟩
        exact hown entry hentry (of_decide_eq_true hselect)
  · rw [if_neg htarget, if_neg htarget, whitelist_has_eq_ok_iff]
    refine and_iff_left ?_
    simp only [decide_eq_true_eq]
    exact Iff.rfl

/-! ## The processes of a message -/

/-- The name and the path that a reported process is looked up with. -/
structure Reported (process : Dict) (process_name path : Option String) : Prop where
  process_name : (process.get "name").getD .null = text_argument process_name
  path : (process.get "path").getD .null = text_argument path

/-- When the table is unambiguous about every reported process, a message is not rejected, and it counts as
whitelisted when one of its processes is. -/
private theorem any_whitelisted_eq_ok (db : Database) (agent_id : String)
    (targets : List (Dict × Option String × Option String))
    (hreported : ∀ target ∈ targets, Reported target.1 target.2.1 target.2.2)
    (hunambiguous : ∀ target ∈ targets, db.Unambiguous (some agent_id) target.2.1 target.2.2) :
    db.any_whitelisted agent_id (targets.map Prod.fst) =
      .ok (decide (∃ target ∈ targets, db.Whitelisted (some agent_id) target.2.1 target.2.2)) := by
  induction targets with
  | nil => simp [any_whitelisted, pure, Except.pure]
  | cons target targets ih =>
    obtain ⟨hname, hpath⟩ := hreported target (List.mem_cons_self ..)
    have hfirst := (db.is_whitelisted_iff_unambiguous _ _ _).mpr (hunambiguous target (List.mem_cons_self ..))
    have hrest := ih (fun other hother => hreported other (List.mem_cons_of_mem _ hother))
      fun other hother => hunambiguous other (List.mem_cons_of_mem _ hother)
    rw [List.map_cons, any_whitelisted, hname, hpath, hfirst]
    simp only [bind, Except.bind, decide_eq_true_eq, List.exists_mem_cons_iff]
    by_cases hwhitelisted : db.Whitelisted (some agent_id) target.2.1 target.2.2
    · rw [if_pos hwhitelisted, decide_eq_true (.inl hwhitelisted)]
      rfl
    · rw [if_neg hwhitelisted, hrest]
      simp only [hwhitelisted, false_or]

/-- A check is right exactly when the table is unambiguous about its arguments; and when it is so about every
process of a message, the message is assessed and counts as whitelisted when one of its processes is. -/
theorem is_whitelisted_iff (db : Database) :
    (∀ agent_id process_name path : Option String,
      db.is_whitelisted agent_id (text_argument process_name) (text_argument path) =
        .ok (decide (db.Whitelisted agent_id process_name path)) ↔ db.Unambiguous agent_id process_name path) ∧
    ∀ (agent_id : String) (targets : List (Dict × Option String × Option String)),
      (∀ target ∈ targets, Reported target.1 target.2.1 target.2.2) →
      (∀ target ∈ targets, db.Unambiguous (some agent_id) target.2.1 target.2.2) →
      db.any_whitelisted agent_id (targets.map Prod.fst) =
        .ok (decide (∃ target ∈ targets, db.Whitelisted (some agent_id) target.2.1 target.2.2)) :=
  ⟨db.is_whitelisted_iff_unambiguous, db.any_whitelisted_eq_ok⟩

private def whitelist_of (rows : List WhitelistEntry) (hkeys : (rows.map WhitelistEntry.id).Nodup) : Database :=
  { whitelist := ⟨rows, hkeys⟩ }

/-- A message with a whitelisted process, and one without a name. -/
theorem is_whitelisted_two_processes :
    (whitelist_of [⟨"wl_1", none, some "backup", none⟩, ⟨"wl_2", some "web-2", none, some "/opt/x"⟩]
      (by decide)).any_whitelisted "web-1" [[("pid", .num 7)], [("name", .str "backup")]] = .ok true := by
  refine ((is_whitelisted_iff _).2 "web-1"
    [([("pid", .num 7)], none, none), ([("name", .str "backup")], some "backup", none)] ?_ ?_).trans ?_
  · simp only [List.forall_mem_cons]
    exact ⟨⟨rfl, rfl⟩, ⟨rfl, rfl⟩, List.forall_mem_nil _⟩
  · simp only [List.forall_mem_cons, Unambiguous]
    exact ⟨by decide, by decide, List.forall_mem_nil _⟩
  · exact congrArg _ (by decide)

/-- A global entry and one of the agent name the same process. -/
theorem not_whitelistLaw_two_entries : ¬ WhitelistLaw := by
  intro h
  have hraises := h (whitelist_of [⟨"wl_1", none, some "backup", none⟩, ⟨"wl_2", some "web-1", some "backup", none⟩]
    (by decide)) (some "web-1") (some "backup") none
  exact absurd hraises (by decide)

/-- A process without a name counts as whitelisted since its agent has an entry. -/
example : (whitelist_of [⟨"wl_1", some "web-1", some "backup", none⟩] (by decide)).is_whitelisted (some "web-1")
    .null .null = .ok true := by decide

end Database

end larp
