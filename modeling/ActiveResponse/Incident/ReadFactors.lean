import ActiveResponse.Incident.Factors

namespace larp

/-! ## Entries -/

/-- What a loader must know of the literals of texts, and whether it may refuse one. -/
structure ReadsLiterals (refuses : Prop) (printable : Char → Bool)
    (literal : List Char → Option (List Char × List Char)) : Prop where
  read : ∀ cs rest, (refuses ∧ literal (repr_str printable cs ++ rest) = none) ∨
    literal (repr_str printable cs ++ rest) = some (cs, rest)
  cut : ∀ quote, quote = '"' ∨ quote = apostrophe → ∀ cs, literal (open_literal printable quote cs) = none
  quoted : ∀ c, c ≠ '"' → c ≠ apostrophe → ∀ cs, literal (c :: cs) = none

theorem reads_json_literal (printable : Char → Bool) : ReadsLiterals True printable json_literal where
  read cs rest := (json_literal_repr_str printable cs rest).imp_left fun hnone => ⟨trivial, hnone⟩
  cut _ hquote := json_literal_open_literal printable hquote
  quoted c hdouble hsingle cs := by
    unfold json_literal
    split
    · rename_i heq
      exact absurd (List.cons.inj heq).1 hdouble
    · rfl

theorem reads_py_literal (printable : Char → Bool) : ReadsLiterals False printable py_literal where
  read cs rest := .inr (py_literal_repr_str printable cs rest)
  cut _ hquote := py_literal_open_literal printable hquote
  quoted _ hdouble hsingle _ := if_neg (not_or.mpr ⟨hdouble, hsingle⟩)

/-- A text without a brace, or a finite number. -/
def Factor.Kept {numbers : PyNumbers} : Factor numbers → Prop
  | .text value => '}' ∉ value
  | .number _ => True
  | .infinite _ | .nan => False

/-- No key and no text has a closing brace in it, and every number is finite. -/
def Factors.Kept {numbers : PyNumbers} (self : Factors numbers) : Prop :=
  ∀ entry ∈ self.entries, '}' ∉ entry.1 ∧ entry.2.Kept

/-- What is left of a text that is cut at its first closing brace. -/
def cut (cs : List Char) : List Char := cs.takeWhile (· ≠ '}') ++ ['}']

theorem cut_append {xs : List Char} (h : '}' ∉ xs) (ys : List Char) : cut (xs ++ ys) = xs ++ cut ys := by
  rw [cut, takeWhile_append_of_brace_not_mem h, List.append_assoc, cut]

theorem cut_cons {c : Char} (h : '}' ≠ c) (cs : List Char) : cut (c :: cs) = c :: cut cs :=
  cut_append (show '}' ∉ [c] by simpa using h) cs

theorem cut_brace (cs : List Char) : cut ('}' :: cs) = ['}'] := by
  rw [cut, List.takeWhile_cons_of_neg (by decide), List.nil_append]

section Entries

variable {refuses : Prop} {numbers : PyNumbers} {printable : Char → Bool}
  {literal : List Char → Option (List Char × List Char)}

theorem exists_quote_cons (printable : Char → Bool) (cs : List Char) : ∃ quote rest,
    (quote = '"' ∨ quote = apostrophe) ∧ repr_str printable cs = quote :: rest :=
  ⟨repr_quote cs, _, repr_quote_cases cs, rfl⟩

theorem skip_blanks_of_ne {c : Char} (h : c ∉ [' ', '\t', '\n', '\r']) (cs : List Char) :
    skip_blanks (c :: cs) = c :: cs :=
  List.dropWhile_cons_of_neg (by simpa using h)

theorem quote_not_blank {quote : Char} (h : quote = '"' ∨ quote = apostrophe) : quote ∉ [' ', '\t', '\n', '\r'] := by
  obtain rfl | rfl := h <;> decide

theorem quote_ne_brace {quote : Char} (h : quote = '"' ∨ quote = apostrophe) : '}' ≠ quote := by
  obtain rfl | rfl := h <;> decide

theorem repr_ne_nil (value : numbers.Number) : numbers.repr value ≠ [] := by
  intro heq
  have hread := numbers.read_repr value
  rw [heq, numbers.read_nil] at hread
  cases hread

theorem brace_not_mem_number (value : numbers.Number) : '}' ∉ numbers.repr value :=
  fun hmem => absurd (numbers.numeral value '}' hmem) (by decide)

/-- A number does not begin with a quote. -/
theorem literal_numeral (h : ReadsLiterals refuses printable literal) {c : Char} (hc : is_numeral c)
    (cs : List Char) : literal (c :: cs) = none := by
  refine h.quoted c ?_ ?_ cs
  · rintro rfl
    exact absurd hc (by decide)
  · rintro rfl
    exact absurd hc (by decide)

/-- A number is read up to the first character that belongs to none. -/
theorem read_value_number (h : ReadsLiterals refuses printable literal) (value : numbers.Number) {c : Char}
    (hc : ¬ is_numeral c) (rest : List Char) :
    read_value numbers literal (numbers.repr value ++ c :: rest) = some (.number value, c :: rest) := by
  obtain ⟨d, ds, hrepr⟩ := List.exists_cons_of_ne_nil (repr_ne_nil value)
  have hnumeral := numbers.numeral value
  have hliteral : literal (numbers.repr value ++ c :: rest) = none := by
    rw [hrepr]
    exact literal_numeral h (hnumeral d (by rw [hrepr]; exact List.mem_cons_self)) _
  rw [read_value, hliteral]
  dsimp only
  rw [List.takeWhile_append_of_pos hnumeral, List.takeWhile_cons_of_neg hc, List.append_nil, numbers.read_repr,
    List.dropWhile_append_of_pos hnumeral, List.dropWhile_cons_of_neg hc]
  rfl

/-- A literal that is refused is no number either. -/
theorem read_value_quote {quote : Char} (hquote : quote = '"' ∨ quote = apostrophe) {cs : List Char}
    (h : literal (quote :: cs) = none) : read_value numbers literal (quote :: cs) = none := by
  have hnumeral : ¬ is_numeral quote := by obtain rfl | rfl := hquote <;> decide
  rw [read_value, h]
  dsimp only
  rw [List.takeWhile_cons_of_neg hnumeral, numbers.read_nil]
  rfl

/-- A value is refused, or read as what it is. -/
theorem read_value_kept (h : ReadsLiterals refuses printable literal) {value : Factor numbers} (hvalue : value.Kept)
    {c : Char} (hc : ¬ is_numeral c) (rest : List Char) :
    (refuses ∧ read_value numbers literal (value.repr printable ++ c :: rest) = none) ∨
      read_value numbers literal (value.repr printable ++ c :: rest) = some (value, c :: rest) := by
  cases value with
  | text value =>
    rw [Factor.repr]
    obtain ⟨hrefuses, hnone⟩ | hsome := h.read value (c :: rest)
    · obtain ⟨quote, cs, hquote, hrepr⟩ := exists_quote_cons printable value
      rw [hrepr] at hnone ⊢
      exact .inl ⟨hrefuses, read_value_quote hquote hnone⟩
    · right
      rw [read_value, hsome]
  | number value => exact .inr (read_value_number h value hc rest)
  | infinite | nan => cases hvalue

/-- A number that is not finite is no literal. -/
theorem read_value_infinite (h : ReadsLiterals refuses printable literal) {value : Factor numbers}
    (hvalue : value = .nan ∨ ∃ negative, value = .infinite negative) (rest : List Char) :
    read_value numbers literal (value.repr printable ++ rest) = none := by
  have hword : ∀ {c : Char} {cs : List Char}, ¬ is_numeral c → c ≠ '"' → c ≠ apostrophe →
      read_value numbers literal (c :: cs) = none := by
    intro c cs hc hdouble hsingle
    rw [read_value, h.quoted c hdouble hsingle]
    dsimp only
    rw [List.takeWhile_cons_of_neg hc, numbers.read_nil]
    rfl
  obtain rfl | ⟨negative, rfl⟩ := hvalue
  · exact hword (by decide) (by decide) (by decide)
  · cases negative with
    | false => exact hword (by decide) (by decide) (by decide)
    | true =>
      change read_value numbers literal ('-' :: 'i' :: ('n' :: 'f' :: rest)) = none
      rw [read_value, h.quoted '-' (by decide) (by decide)]
      dsimp only
      rw [List.takeWhile_cons_of_pos (by decide), List.takeWhile_cons_of_neg (by decide), numbers.read_minus]
      rfl

/-- What follows an entry: a comma or the closing brace. -/
def Follows (c : Char) : Prop := c = ',' ∨ c = '}'

theorem Follows.not_numeral {c : Char} (h : Follows c) : ¬ is_numeral c := by
  obtain rfl | rfl := h <;> decide

theorem Follows.skip_blanks {c : Char} (h : Follows c) (cs : List Char) : skip_blanks (c :: cs) = c :: cs :=
  skip_blanks_of_ne (by obtain rfl | rfl := h <;> decide) cs

/-- Behind a key the value is read. -/
theorem read_entry_eq (numbers : PyNumbers) (h : ReadsLiterals refuses printable literal) (key cs : List Char)
    {c : Char} (hc : c ∉ [' ', '\t', '\n', '\r']) :
    (refuses ∧ read_entry numbers literal (repr_str printable key ++ ':' :: ' ' :: c :: cs) = none) ∨
      read_entry numbers literal (repr_str printable key ++ ':' :: ' ' :: c :: cs) =
        (read_value numbers literal (c :: cs)).map fun value => ((key, value.1), skip_blanks value.2) := by
  obtain ⟨hrefuses, hnone⟩ | hsome := h.read key (':' :: ' ' :: c :: cs)
  · refine .inl ⟨hrefuses, ?_⟩
    rw [read_entry, hnone]
    rfl
  · right
    have hblank : skip_blanks (' ' :: c :: cs) = c :: cs := skip_blanks_of_ne hc cs
    rw [read_entry, hsome, Option.bind_some, skip_blanks_of_ne (by decide)]
    change (read_value numbers literal (skip_blanks (' ' :: c :: cs))).map _ = _
    rw [hblank]

/-- Without a value there is no entry. -/
theorem read_entry_eq_none (h : ReadsLiterals refuses printable literal) (key : List Char) {c : Char} {cs : List Char}
    (hc : c ∉ [' ', '\t', '\n', '\r']) (hvalue : read_value numbers literal (c :: cs) = none) :
    read_entry numbers literal (repr_str printable key ++ ':' :: ' ' :: c :: cs) = none := by
  obtain ⟨-, hnone⟩ | hread := read_entry_eq numbers h key cs hc
  · exact hnone
  · rw [hread, hvalue]
    rfl

theorem repr_head (printable : Char → Bool) (value : Factor numbers) (cs : List Char) : ∃ c rest,
    value.repr printable ++ cs = c :: rest ∧ c ∉ [' ', '\t', '\n', '\r'] := by
  cases value with
  | text value =>
    obtain ⟨quote, rest, hquote, hrepr⟩ := exists_quote_cons printable value
    exact ⟨quote, rest ++ cs, by rw [Factor.repr, hrepr]; rfl, quote_not_blank hquote⟩
  | number value =>
    obtain ⟨c, rest, hrepr⟩ := List.exists_cons_of_ne_nil (repr_ne_nil value)
    have hc : is_numeral c := numbers.numeral value c (by rw [hrepr]; exact List.mem_cons_self)
    refine ⟨c, rest ++ cs, by rw [Factor.repr, hrepr]; rfl, fun hblank => ?_⟩
    simp only [List.mem_cons, List.not_mem_nil, or_false] at hblank
    obtain rfl | rfl | rfl | rfl := hblank <;> exact absurd hc (by decide)
  | infinite negative => cases negative <;> exact ⟨_, _, rfl, by decide⟩
  | nan => exact ⟨_, _, rfl, by decide⟩

/-- An entry is refused, or read as what it is. -/
theorem read_entry_kept (h : ReadsLiterals refuses printable literal) {entry : List Char × Factor numbers}
    (hvalue : entry.2.Kept) {c : Char} (hc : Follows c) (rest : List Char) :
    (refuses ∧ read_entry numbers literal (repr_entry printable entry ++ c :: rest) = none) ∨
      read_entry numbers literal (repr_entry printable entry ++ c :: rest) = some (entry, c :: rest) := by
  obtain ⟨d, ds, hrepr, hd⟩ := repr_head printable entry.2 (c :: rest)
  rw [repr_entry, List.append_assoc, List.cons_append, List.cons_append, hrepr]
  obtain hnone | hread := read_entry_eq numbers h entry.1 ds hd
  · exact .inl hnone
  · rw [hread, ← hrepr]
    obtain ⟨hrefuses, hnone⟩ | hsome := read_value_kept h hvalue hc.not_numeral rest
    · rw [hnone]
      exact .inl ⟨hrefuses, rfl⟩
    · rw [hsome, Option.map_some, hc.skip_blanks]
      exact .inr rfl

theorem brace_not_mem_value (printable : Char → Bool) {value : Factor numbers} (h : value.Kept) :
    '}' ∉ value.repr printable := by
  cases value with
  | text value => exact brace_not_mem_repr_str printable h
  | number value => exact brace_not_mem_number value
  | infinite | nan => cases h

theorem brace_not_mem_infinite {value : Factor numbers}
    (h : value = .nan ∨ ∃ negative, value = .infinite negative) : '}' ∉ value.repr printable := by
  obtain rfl | ⟨negative, rfl⟩ := h
  · change '}' ∉ "nan".toList
    decide
  · cases negative with
    | false =>
      change '}' ∉ "inf".toList
      decide
    | true =>
      change '}' ∉ "-inf".toList
      decide

theorem brace_not_mem_entry {entry : List Char × Factor numbers} (hkey : '}' ∉ entry.1)
    (hvalue : '}' ∉ entry.2.repr printable) : '}' ∉ repr_entry printable entry := by
  rw [repr_entry, List.mem_append, not_or]
  refine ⟨brace_not_mem_repr_str printable hkey, ?_⟩
  simpa using hvalue

/-- A text with a brace is cut off inside its literal. -/
theorem cut_repr_str (printable : Char → Bool) {cs : List Char} (h : '}' ∈ cs) (rest : List Char) : ∃ before,
    cut (repr_str printable cs ++ rest) = open_literal printable (repr_quote cs) before :=
  takeWhile_repr_str printable h rest

/-- An entry that is not kept is refused, whatever follows it. -/
theorem read_entry_not_kept (h : ReadsLiterals refuses printable literal) {entry : List Char × Factor numbers}
    (hentry : ¬ ('}' ∉ entry.1 ∧ entry.2.Kept)) (rest : List Char) :
    read_entry numbers literal (cut (repr_entry printable entry ++ rest)) = none := by
  rw [repr_entry, List.append_assoc, List.cons_append, List.cons_append]
  by_cases hkey : '}' ∈ entry.1
  · obtain ⟨before, hcut⟩ := cut_repr_str printable hkey (':' :: ' ' :: (entry.2.repr printable ++ rest))
    rw [hcut, read_entry, h.cut _ (repr_quote_cases _)]
    rfl
  · have hvalue : ¬ entry.2.Kept := fun hkept => hentry ⟨hkey, hkept⟩
    rw [cut_append (brace_not_mem_repr_str printable hkey), cut_cons (by decide), cut_cons (by decide)]
    have hinfinite : (entry.2 = .nan ∨ ∃ negative, entry.2 = .infinite negative) →
        read_entry numbers literal
          (repr_str printable entry.1 ++ ':' :: ' ' :: cut (entry.2.repr printable ++ rest)) = none := by
      intro hinfinite
      obtain ⟨c, cs, hrepr, hc⟩ := repr_head printable entry.2 (cut rest)
      rw [cut_append (brace_not_mem_infinite hinfinite), hrepr]
      refine read_entry_eq_none h entry.1 hc ?_
      rw [← hrepr]
      exact read_value_infinite h hinfinite (cut rest)
    cases heq : entry.2 with
    | text value =>
      rw [heq] at hvalue
      obtain ⟨before, hcut⟩ := cut_repr_str printable (not_not.mp hvalue) rest
      have hquote := repr_quote_cases value
      rw [Factor.repr, hcut]
      exact read_entry_eq_none h entry.1 (quote_not_blank hquote) (read_value_quote hquote (h.cut _ hquote before))
    | number value =>
      rw [heq] at hvalue
      exact absurd trivial hvalue
    | infinite negative =>
      rw [← heq]
      exact hinfinite (.inr ⟨negative, heq⟩)
    | nan =>
      rw [← heq]
      exact hinfinite (.inl heq)

/-! ## Dictionaries -/

variable {entries : List (List Char × Factor numbers)}

theorem repr_entries_cons (entry next : List Char × Factor numbers) :
    repr_entries printable (entry :: next :: entries) =
      repr_entry printable entry ++ ',' :: ' ' :: repr_entries printable (next :: entries) := rfl

theorem exists_quote_entries (printable : Char → Bool) (entries : List (List Char × Factor numbers))
    (entry : List Char × Factor numbers) : ∃ quote rest,
    (quote = '"' ∨ quote = apostrophe) ∧ repr_entries printable (entry :: entries) = quote :: rest := by
  obtain ⟨quote, rest, hquote, hrepr⟩ := exists_quote_cons printable entry.1
  cases entries with
  | nil => exact ⟨quote, _, hquote, by rw [repr_entries, repr_entry, hrepr]; rfl⟩
  | cons next entries => exact ⟨quote, _, hquote, by rw [repr_entries_cons, repr_entry, hrepr]; rfl⟩

theorem skip_blanks_blank (cs : List Char) : skip_blanks (' ' :: cs) = skip_blanks cs :=
  List.dropWhile_cons_of_pos (by decide)

/-- No blank stands before an entry. -/
theorem skip_blanks_entries (entry : List Char × Factor numbers) (cs : List Char) :
    skip_blanks (repr_entries printable (entry :: entries) ++ cs) =
      repr_entries printable (entry :: entries) ++ cs := by
  obtain ⟨quote, rest, hquote, hrepr⟩ := exists_quote_entries printable entries entry
  rw [hrepr]
  exact skip_blanks_of_ne (quote_not_blank hquote) _

theorem read_entries_eq_none {fuel : ℕ} {cs : List Char} (h : read_entry numbers literal cs = none) :
    read_entries numbers literal fuel cs = none := by
  cases fuel with
  | zero => rfl
  | succ fuel =>
    rw [read_entries, h]
    rfl

theorem read_entries_comma {fuel : ℕ} {cs rest : List Char} {entry : List Char × Factor numbers}
    (h : read_entry numbers literal cs = some (entry, ',' :: rest)) : read_entries numbers literal (fuel + 1) cs =
      (read_entries numbers literal fuel (skip_blanks rest)).map fun entries => (entry :: entries.1, entries.2) := by
  rw [read_entries, h]
  rfl

/-- The entries are refused, or read as what they are. -/
theorem read_entries_kept (h : ReadsLiterals refuses printable literal) (hne : entries ≠ [])
    (hkept : ∀ entry ∈ entries, entry.2.Kept) {fuel : ℕ} (hfuel : entries.length ≤ fuel) :
    (refuses ∧ read_entries numbers literal fuel (repr_entries printable entries ++ ['}']) = none) ∨
      read_entries numbers literal fuel (repr_entries printable entries ++ ['}']) = some (entries, []) := by
  induction entries generalizing fuel with
  | nil => exact absurd rfl hne
  | cons entry entries ih =>
    obtain ⟨hentry, hrest⟩ := List.forall_mem_cons.mp hkept
    obtain ⟨fuel, rfl⟩ := Nat.exists_eq_succ_of_ne_zero (Nat.ne_of_gt (Nat.zero_lt_of_lt hfuel))
    cases entries with
    | nil =>
      rw [repr_entries]
      obtain ⟨hrefuses, hnone⟩ | hsome := read_entry_kept h hentry (.inr rfl) []
      · exact .inl ⟨hrefuses, read_entries_eq_none hnone⟩
      · rw [read_entries, hsome]
        exact .inr rfl
    | cons next entries =>
      rw [repr_entries_cons, List.append_assoc, List.cons_append, List.cons_append]
      obtain ⟨hrefuses, hnone⟩ | hsome := read_entry_kept h hentry (.inl rfl)
        (' ' :: (repr_entries printable (next :: entries) ++ ['}']))
      · exact .inl ⟨hrefuses, read_entries_eq_none hnone⟩
      · rw [read_entries_comma hsome, skip_blanks_blank, skip_blanks_entries]
        obtain ⟨hrefuses, hnone⟩ | hmore := ih (List.cons_ne_nil _ _) hrest (Nat.le_of_succ_le_succ hfuel)
        · rw [hnone]
          exact .inl ⟨hrefuses, rfl⟩
        · rw [hmore]
          exact .inr rfl

/-- Entries one of which is not kept are refused. -/
theorem read_entries_not_kept (h : ReadsLiterals refuses printable literal)
    (hentries : ¬ ∀ entry ∈ entries, '}' ∉ entry.1 ∧ entry.2.Kept) (fuel : ℕ) (rest : List Char) :
    read_entries numbers literal fuel (cut (repr_entries printable entries ++ rest)) = none := by
  induction entries generalizing fuel with
  | nil => exact absurd (fun _ hentry => by cases hentry) hentries
  | cons entry entries ih =>
    by_cases hentry : '}' ∉ entry.1 ∧ entry.2.Kept
    · have hrest : ¬ ∀ entry ∈ entries, '}' ∉ entry.1 ∧ entry.2.Kept :=
        fun hrest => hentries (List.forall_mem_cons.mpr ⟨hentry, hrest⟩)
      cases entries with
      | nil => exact absurd (fun _ hentry => by cases hentry) hrest
      | cons next entries =>
        cases fuel with
        | zero => rfl
        | succ fuel =>
          have hbrace := brace_not_mem_entry hentry.1 (brace_not_mem_value printable hentry.2)
          rw [repr_entries_cons, List.append_assoc, cut_append hbrace, List.cons_append, List.cons_append,
            cut_cons (by decide), cut_cons (by decide)]
          obtain ⟨-, hnone⟩ | hsome := read_entry_kept h hentry.2 (.inl rfl)
            (' ' :: cut (repr_entries printable (next :: entries) ++ rest))
          · exact read_entries_eq_none hnone
          · obtain ⟨quote, cs, hquote, hrepr⟩ := exists_quote_entries printable entries next
            have hblank : skip_blanks (cut (repr_entries printable (next :: entries) ++ rest)) =
                cut (repr_entries printable (next :: entries) ++ rest) := by
              rw [hrepr, List.cons_append, cut_cons (quote_ne_brace hquote)]
              exact skip_blanks_of_ne (quote_not_blank hquote) _
            rw [read_entries_comma hsome, skip_blanks_blank, hblank, ih hrest]
            rfl
    · obtain ⟨tail, htail⟩ : ∃ tail, repr_entries printable (entry :: entries) ++ rest =
          repr_entry printable entry ++ tail := by
        cases entries with
        | nil => exact ⟨rest, rfl⟩
        | cons next entries => exact ⟨_, by rw [repr_entries_cons, List.append_assoc]⟩
      rw [htail]
      exact read_entries_eq_none (read_entry_not_kept h hentry tail)

theorem length_le_repr_entries (printable : Char → Bool) (entries : List (List Char × Factor numbers)) :
    entries.length ≤ (repr_entries printable entries).length := by
  induction entries with
  | nil => exact Nat.le_refl _
  | cons entry entries ih =>
    cases entries with
    | nil =>
      obtain ⟨quote, rest, -, hrepr⟩ := exists_quote_entries printable [] entry
      rw [hrepr]
      simp
    | cons next entries =>
      rw [repr_entries_cons]
      simp only [List.length_append, List.length_cons] at ih ⊢
      omega

theorem brace_not_mem_entries (h : ∀ entry ∈ entries, '}' ∉ entry.1 ∧ entry.2.Kept) :
    '}' ∉ repr_entries printable entries := by
  induction entries with
  | nil => exact List.not_mem_nil
  | cons entry entries ih =>
    obtain ⟨hentry, hrest⟩ := List.forall_mem_cons.mp h
    have hbrace := brace_not_mem_entry hentry.1 (brace_not_mem_value printable hentry.2)
    cases entries with
    | nil => exact hbrace
    | cons next entries =>
      rw [repr_entries_cons, List.mem_append, not_or]
      refine ⟨hbrace, ?_⟩
      simpa using ih hrest

/-- A dictionary with an entry is read entry by entry. -/
theorem read_dict_cons {c : Char} (hc : c ∉ [' ', '\t', '\n', '\r']) (hbrace : '}' ≠ c) (cs : List Char) :
    read_dict numbers literal ('{' :: c :: cs) =
      (read_entries numbers literal (c :: cs).length (c :: cs)).bind fun entries =>
        if (skip_blanks entries.2).isEmpty then
          some (entries.1.foldl (fun dict entry => Assoc.set dict entry.1 entry.2) [])
        else none := by
  rw [read_dict, skip_blanks_of_ne hc]
  split
  · rename_i heq
    exact absurd (List.cons.inj heq).1.symm hbrace
  · rfl

end Entries

section Dictionary

variable {refuses : Prop} {numbers : PyNumbers} {printable : Char → Bool}
  {literal : List Char → Option (List Char × List Char)}

/-- What is found of a dictionary in a longer text. -/
def raw_factors (printable : Char → Bool) (factors : Factors numbers) (later : List Char) : List Char :=
  '{' :: cut (repr_entries printable factors.entries ++ '}' :: later)

/-- A dictionary that is kept is refused, or read as what it is. -/
theorem read_dict_kept (h : ReadsLiterals refuses printable literal) {factors : Factors numbers}
    (hkept : factors.Kept) (later : List Char) :
    (refuses ∧ read_dict numbers literal (raw_factors printable factors later) = none) ∨
      read_dict numbers literal (raw_factors printable factors later) = some factors.entries := by
  obtain ⟨entries, hnodup⟩ := factors
  rw [raw_factors, cut_append (brace_not_mem_entries hkept), cut_brace]
  cases entries with
  | nil => exact .inr rfl
  | cons entry entries =>
    obtain ⟨quote, rest, hquote, hrepr⟩ := exists_quote_entries printable entries entry
    have hlength := length_le_repr_entries printable (entry :: entries)
    have hfuel : (entry :: entries).length ≤ (repr_entries printable (entry :: entries) ++ ['}']).length := by
      rw [List.length_append]
      omega
    have hread := read_entries_kept h (List.cons_ne_nil entry entries) (fun other hother => (hkept other hother).2)
      hfuel
    dsimp only
    rw [hrepr] at hread ⊢
    rw [List.cons_append] at hread ⊢
    rw [read_dict_cons (quote_not_blank hquote) (quote_ne_brace hquote)]
    obtain ⟨hrefuses, hnone⟩ | hsome := hread
    · rw [hnone]
      exact .inl ⟨hrefuses, rfl⟩
    · rw [hsome]
      exact .inr (congrArg some (Assoc.foldl_set [] hnodup))

/-- A dictionary that is not kept is refused. -/
theorem read_dict_not_kept (h : ReadsLiterals refuses printable literal) {factors : Factors numbers}
    (hkept : ¬ factors.Kept) (later : List Char) :
    read_dict numbers literal (raw_factors printable factors later) = none := by
  obtain ⟨entries, hnodup⟩ := factors
  cases entries with
  | nil => exact absurd (fun _ hentry => by cases hentry) hkept
  | cons entry entries =>
    obtain ⟨quote, rest, hquote, hrepr⟩ := exists_quote_entries printable entries entry
    have hread := fun fuel => read_entries_not_kept h hkept fuel ('}' :: later)
    rw [raw_factors]
    dsimp only at hread ⊢
    rw [hrepr, List.cons_append, cut_cons (quote_ne_brace hquote)] at hread ⊢
    rw [read_dict_cons (quote_not_blank hquote) (quote_ne_brace hquote), hread]
    rfl

end Dictionary

end larp
