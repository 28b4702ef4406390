import ActiveResponse.Core.JsonLiterals

namespace larp

open JsonLoads

/-- How a program calls `json.dumps`. -/
structure JsonWriter where
  escape : Char → List Char
  escaped : ∀ c, JsonDumps.Escaped c (escape c)
  /-- The white space behind a comma and a colon. -/
  blank : List Char
  blanks : ∀ c ∈ blank, c = ' '

namespace JsonWriter

variable (self : JsonWriter) (float_repr : ℚ → Decimal)

def escaper : Escaper := JsonDumps.escaper self.escape self.escaped

/-- `float.__repr__`, with the words of `allow_nan=True`. -/
def float_text : PyFloat → List Char
  | .finite q => (float_repr q).text
  | .inf false => "Infinity".toList
  | .inf true => "-Infinity".toList
  | .nan => "NaN".toList

mutual

/-- `json.dumps(value)`: nothing if it raises, which an integer of more than 4300 digits does. -/
def dumps : LoadedJson → Option (List Char)
  | .null => some "null".toList
  | .bool value => some (if value then "true" else "false").toList
  | .int value => if 4300 < (Nat.toDigits 10 value.natAbs).length then none else some (PyJson.int_text value)
  | .float value => some (float_text float_repr value)
  | .str value => some (self.escaper.quoted value)
  | .arr values => (dumps_values values).map fun texts => '[' :: ((',' :: self.blank).intercalate texts ++ [']'])
  | .obj entries => (dumps_entries entries).map fun texts => '{' :: ((',' :: self.blank).intercalate texts ++ ['}'])

def dumps_values : List LoadedJson → Option (List (List Char))
  | [] => some []
  | value :: values => (dumps value).bind fun text => (dumps_values values).map (text :: ·)

def dumps_entries : List (String × LoadedJson) → Option (List (List Char))
  | [] => some []
  | (key, value) :: entries =>
    (dumps value).bind fun text =>
      (dumps_entries entries).map ((self.escaper.quoted key ++ ':' :: (self.blank ++ text)) :: ·)

end

/-- A value of Python: the keys of a dictionary are different, and a float is what its text denotes. Longer integers
are neither written nor read. -/
inductive Value : LoadedJson → Prop
  | null : Value .null
  | bool (value : Bool) : Value (.bool value)
  | int {value : ℤ} (h : (Nat.toDigits 10 value.natAbs).length ≤ 4300) : Value (.int value)
  | float {value : PyFloat} (h : ∀ q, value = .finite q → PyFloat.of_rat (float_repr q).value = .finite q) :
      Value (.float value)
  | str (value : String) : Value (.str value)
  | arr {values : List LoadedJson} (h : ∀ value ∈ values, Value value) : Value (.arr values)
  | obj {entries : List (String × LoadedJson)} (hkeys : (entries.map Prod.fst).Nodup)
      (h : ∀ entry ∈ entries, Value entry.2) : Value (.obj entries)

/-- The text of a value is read as the value. -/
def Reads (value : LoadedJson) : Prop :=
  ∀ text fuel rest, self.dumps float_repr value = some text → text.length ≤ fuel → Stops rest →
    scan_value fuel (text ++ rest) = some (value, rest)

variable {self float_repr}

theorem skip_blank (cs : List Char) : skip_blanks (self.blank ++ cs) = skip_blanks cs := by
  refine List.dropWhile_append_of_pos fun c hc => ?_
  rw [self.blanks c hc]
  rfl

/-- Every text begins with a character that is neither a blank nor closes anything. -/
theorem head_of_dumps {value : LoadedJson} {text : List Char} (h : self.dumps float_repr value = some text) :
    ∃ c cs, text = c :: cs ∧ c ∉ [' ', '\t', '\n', '\r', ']', '}', byte_order_mark] := by
  cases value with
  | null =>
    obtain rfl := Option.some.inj h
    exact ⟨'n', _, rfl, by decide⟩
  | bool value =>
    obtain rfl := Option.some.inj h
    cases value with
    | true => exact ⟨'t', _, rfl, by decide⟩
    | false => exact ⟨'f', _, rfl, by decide⟩
  | int value =>
    rw [dumps] at h
    split at h
    · cases h
    · obtain rfl := Option.some.inj h
      obtain ⟨c, cs, heq, hc⟩ := JsonForm.int_text_eq_cons value
      exact ⟨c, cs, heq, hc _ (by decide)⟩
  | float value =>
    obtain rfl := Option.some.inj h
    cases value with
    | finite q =>
      obtain ⟨c, cs, heq, hc⟩ := (float_repr q).text_eq_cons
      exact ⟨c, cs, heq, hc _ (by decide)⟩
    | inf negative =>
      cases negative with
      | true => exact ⟨'-', _, rfl, by decide⟩
      | false => exact ⟨'I', _, rfl, by decide⟩
    | nan => exact ⟨'N', _, rfl, by decide⟩
  | str value =>
    obtain rfl := Option.some.inj h
    exact ⟨'"', _, rfl, by decide⟩
  | arr values =>
    obtain ⟨texts, -, rfl⟩ := Option.map_eq_some_iff.mp h
    exact ⟨'[', _, rfl, by decide⟩
  | obj entries =>
    obtain ⟨texts, -, rfl⟩ := Option.map_eq_some_iff.mp h
    exact ⟨'{', _, rfl, by decide⟩

/-- A text that does not begin with a blank. -/
theorem skip_blanks_of_head {text : List Char}
    (h : ∃ c cs, text = c :: cs ∧ c ∉ [' ', '\t', '\n', '\r', ']', '}', byte_order_mark]) (rest : List Char) :
    skip_blanks (text ++ rest) = text ++ rest := by
  obtain ⟨c, cs, rfl, hc⟩ := h
  rw [List.cons_append, skip_blanks_cons (JsonForm.not_blank hc)]

/-! ## Scalars -/

theorem reads_null : self.Reads float_repr .null := by
  intro text fuel rest htext hfuel _
  obtain rfl := Option.some.inj htext
  obtain ⟨fuel, rfl⟩ := exists_eq_succ hfuel
  rfl

theorem reads_bool (value : Bool) : self.Reads float_repr (.bool value) := by
  intro text fuel rest htext hfuel _
  obtain rfl := Option.some.inj htext
  cases value with
  | true =>
    obtain ⟨fuel, rfl⟩ := exists_eq_succ hfuel
    rfl
  | false =>
    obtain ⟨fuel, rfl⟩ := exists_eq_succ hfuel
    rfl

theorem reads_int (value : ℤ) : self.Reads float_repr (.int value) := by
  intro text fuel rest htext hfuel hrest
  rw [dumps] at htext
  split at htext
  · cases htext
  · rename_i hshort
    obtain rfl := Option.some.inj htext
    obtain ⟨c, cs, heq, hc⟩ := JsonForm.int_text_eq_cons value
    obtain ⟨fuel, rfl⟩ := exists_eq_succ (heq ▸ hfuel : (c :: cs).length ≤ fuel)
    have hscan : scan_value (fuel + 1) (PyJson.int_text value ++ rest) =
        (scan_word (PyJson.int_text value ++ rest)).or (scan_number (PyJson.int_text value ++ rest)) := by
      rw [heq, List.cons_append]
      exact JsonForm.scan_value_scalar (hc _ (by decide)) fuel _
    rw [hscan, scan_word_int_text, scan_number_int_text (not_lt.mp hshort) hrest, Option.none_or]

theorem scan_value_decimal (decimal : Decimal) {fuel : ℕ} {rest : List Char} (hfuel : decimal.text.length ≤ fuel)
    (hrest : Stops rest) : scan_value fuel (decimal.text ++ rest) = some (.float (.of_rat decimal.value), rest) := by
  obtain ⟨c, cs, heq, hc⟩ := decimal.text_eq_cons
  obtain ⟨fuel, rfl⟩ := exists_eq_succ (heq ▸ hfuel : (c :: cs).length ≤ fuel)
  have hscan : scan_value (fuel + 1) (decimal.text ++ rest) =
      (scan_word (decimal.text ++ rest)).or (scan_number (decimal.text ++ rest)) := by
    rw [heq, List.cons_append]
    exact JsonForm.scan_value_scalar (hc _ (by decide)) fuel _
  rw [hscan, decimal.scan_word_text, decimal.scan_number_text hrest, Option.none_or]

theorem reads_float {value : PyFloat} (h : ∀ q, value = .finite q → PyFloat.of_rat (float_repr q).value = .finite q) :
    self.Reads float_repr (.float value) := by
  intro text fuel rest htext hfuel hrest
  rw [dumps] at htext
  obtain rfl := Option.some.inj htext
  cases value with
  | finite q =>
    have hscan := scan_value_decimal (float_repr q) hfuel hrest
    rwa [h q rfl] at hscan
  | inf negative =>
    cases negative with
    | true =>
      obtain ⟨fuel, rfl⟩ := exists_eq_succ hfuel
      rfl
    | false =>
      obtain ⟨fuel, rfl⟩ := exists_eq_succ hfuel
      rfl
  | nan =>
    obtain ⟨fuel, rfl⟩ := exists_eq_succ hfuel
    rfl

variable (self) in
theorem scan_string_quoted (s : String) (rest : List Char) :
    scan_string (self.escaper.quoted s ++ rest) = some (s, rest) := by
  have hlegible : s.toList.all self.escaper.legible := List.all_eq_true.mpr fun _ _ => rfl
  rw [Escaper.scan_string_quoted, if_pos hlegible]

theorem reads_str (value : String) : self.Reads float_repr (.str value) := by
  intro text fuel rest htext hfuel _
  obtain rfl := Option.some.inj htext
  obtain ⟨fuel, rfl⟩ := exists_eq_succ hfuel
  have hscan := scan_string_quoted self value rest
  rw [Escaper.quoted, List.cons_append] at hscan ⊢
  rw [scan_value, hscan]
  rfl

/-! ## Lists and dictionaries -/

/-- A list of texts begins as its first text does. -/
theorem head_of_intercalate {P : Char → Prop} {text : List Char} (h : ∃ c cs, text = c :: cs ∧ P c)
    (separator : List Char) (texts : List (List Char)) :
    ∃ c cs, separator.intercalate (text :: texts) = c :: cs ∧ P c := by
  obtain ⟨c, cs, rfl, hc⟩ := h
  cases texts with
  | nil => exact ⟨c, cs, List.intercalate_singleton, hc⟩
  | cons next texts => exact ⟨c, _, List.intercalate_cons_cons, hc⟩

theorem dumps_values_cons {value : LoadedJson} {values : List LoadedJson} {texts : List (List Char)}
    (h : self.dumps_values float_repr (value :: values) = some texts) :
    ∃ text more, self.dumps float_repr value = some text ∧ self.dumps_values float_repr values = some more ∧
      texts = text :: more := by
  obtain ⟨text, htext, htexts⟩ := Option.bind_eq_some_iff.mp h
  obtain ⟨more, hmore, heq⟩ := Option.map_eq_some_iff.mp htexts
  exact ⟨text, more, htext, hmore, heq.symm⟩

/-- The values up to the closing bracket are read one after the other. -/
theorem scan_values_dumps (value : LoadedJson) (values : List LoadedJson)
    (hreads : ∀ v ∈ value :: values, self.Reads float_repr v) {texts : List (List Char)}
    (htexts : self.dumps_values float_repr (value :: values) = some texts) {fuel : ℕ} (rest : List Char)
    (hfuel : ((',' :: self.blank).intercalate texts).length < fuel) :
    scan_values fuel ((',' :: self.blank).intercalate texts ++ ']' :: rest) = some (value :: values, rest) := by
  obtain ⟨fuel, rfl⟩ := exists_eq_succ hfuel
  obtain ⟨text, more, htext, hmore, rfl⟩ := dumps_values_cons htexts
  induction values generalizing value text more fuel with
  | nil =>
    obtain rfl := Option.some.inj hmore
    rw [List.intercalate_singleton] at hfuel ⊢
    rw [scan_values, hreads value List.mem_cons_self text fuel _ htext (Nat.le_of_lt_succ hfuel)
      (stops_cons (by simp) _), Option.bind_some, skip_blanks_cons (by decide)]
    rfl
  | cons next values ih =>
    obtain ⟨first, others, hfirst, hothers, rfl⟩ := dumps_values_cons hmore
    rw [List.intercalate_cons_cons] at hfuel ⊢
    simp only [List.length_append, List.length_cons] at hfuel
    obtain ⟨fuel, rfl⟩ := exists_eq_succ (show (0 + 1) ≤ fuel by omega)
    rw [List.append_assoc, List.append_assoc, List.cons_append, scan_values,
      hreads value List.mem_cons_self text _ _ htext (by omega) (stops_cons (by simp) _), Option.bind_some,
      skip_blanks_cons (by decide)]
    have hhead := head_of_intercalate (head_of_dumps hfirst) (',' :: self.blank) others
    have hskip := skip_blanks_of_head hhead (']' :: rest)
    change Option.map _ (scan_values (fuel + 1) (skip_blanks (self.blank ++ _))) = _
    rw [skip_blank, hskip, ih next (fun v hv => hreads v (List.mem_cons_of_mem _ hv)) fuel first others hfirst
      hothers hmore (by omega)]
    rfl

theorem reads_arr {values : List LoadedJson} (hreads : ∀ v ∈ values, self.Reads float_repr v) :
    self.Reads float_repr (.arr values) := by
  intro text fuel rest htext hfuel _
  obtain ⟨texts, htexts, rfl⟩ := Option.map_eq_some_iff.mp htext
  obtain ⟨fuel, rfl⟩ := exists_eq_succ hfuel
  rw [List.length_cons, List.length_append, List.length_singleton] at hfuel
  rw [List.cons_append, List.append_assoc, List.singleton_append, scan_value]
  cases values with
  | nil =>
    obtain rfl := Option.some.inj htexts
    rfl
  | cons value values =>
    obtain ⟨first, more, hfirst, -, rfl⟩ := dumps_values_cons htexts
    obtain ⟨c, cs, heq, hc⟩ := head_of_intercalate (head_of_dumps hfirst) (',' :: self.blank) more
    have hscan := scan_values_dumps value values hreads htexts rest (show _ < fuel by omega)
    rw [heq, List.cons_append] at hscan ⊢
    rw [skip_blanks_cons (JsonForm.not_blank hc)]
    split
    · rename_i hclose
      exact absurd (by simp [(List.cons.inj hclose).1]) hc
    · rw [hscan]
      rfl

theorem dumps_entries_cons {key : String} {value : LoadedJson} {entries : List (String × LoadedJson)}
    {texts : List (List Char)} (h : self.dumps_entries float_repr ((key, value) :: entries) = some texts) :
    ∃ text more, self.dumps float_repr value = some text ∧ self.dumps_entries float_repr entries = some more ∧
      texts = (self.escaper.quoted key ++ ':' :: (self.blank ++ text)) :: more := by
  obtain ⟨text, htext, htexts⟩ := Option.bind_eq_some_iff.mp h
  obtain ⟨more, hmore, heq⟩ := Option.map_eq_some_iff.mp htexts
  exact ⟨text, more, htext, hmore, heq.symm⟩

variable (self) in
theorem head_of_entry (key : String) (text : List Char) :
    ∃ c cs, self.escaper.quoted key ++ text = c :: cs ∧ c ∉ [' ', '\t', '\n', '\r', ']', '}', byte_order_mark] :=
  ⟨'"', _, rfl, by decide⟩

/-- An entry and what comes after it. -/
theorem scan_entries_entry (key : String) {value : LoadedJson} (hreads : self.Reads float_repr value)
    {text : List Char} (htext : self.dumps float_repr value = some text) {fuel : ℕ} (hfuel : text.length ≤ fuel)
    {tail : List Char} (htail : Stops tail) :
    scan_entries (fuel + 1) (self.escaper.quoted key ++ ':' :: (self.blank ++ text) ++ tail) =
      match skip_blanks tail with
      | ',' :: cs => (scan_entries fuel (skip_blanks cs)).map fun more => ((key, value) :: more.1, more.2)
      | '}' :: cs => some ([(key, value)], cs)
      | _ => none := by
  rw [scan_entries, List.append_assoc, scan_string_quoted, Option.bind_some, List.cons_append,
    skip_blanks_cons (by decide)]
  change Option.bind (scan_value fuel (skip_blanks (self.blank ++ text ++ tail))) _ = _
  rw [List.append_assoc, skip_blank, skip_blanks_of_head (head_of_dumps htext),
    hreads text fuel tail htext hfuel htail]
  rfl

theorem scan_entries_dumps (entry : String × LoadedJson) (entries : List (String × LoadedJson))
    (hreads : ∀ e ∈ entry :: entries, self.Reads float_repr e.2) {texts : List (List Char)}
    (htexts : self.dumps_entries float_repr (entry :: entries) = some texts) {fuel : ℕ} (rest : List Char)
    (hfuel : ((',' :: self.blank).intercalate texts).length < fuel) :
    scan_entries fuel ((',' :: self.blank).intercalate texts ++ '}' :: rest) = some (entry :: entries, rest) := by
  obtain ⟨fuel, rfl⟩ := exists_eq_succ hfuel
  obtain ⟨text, more, htext, hmore, rfl⟩ := dumps_entries_cons htexts
  induction entries generalizing entry text more fuel with
  | nil =>
    obtain rfl := Option.some.inj hmore
    rw [List.intercalate_singleton] at hfuel ⊢
    simp only [List.length_append, List.length_cons] at hfuel
    rw [scan_entries_entry entry.1 (hreads entry List.mem_cons_self) htext (by omega) (stops_cons (by simp) _),
      skip_blanks_cons (by decide)]
    rfl
  | cons next entries ih =>
    obtain ⟨first, others, hfirst, hothers, rfl⟩ := dumps_entries_cons hmore
    rw [List.intercalate_cons_cons] at hfuel ⊢
    simp only [List.length_append, List.length_cons] at hfuel
    obtain ⟨fuel, rfl⟩ := exists_eq_succ (show (0 + 1) ≤ fuel by omega)
    have hskip := skip_blanks_of_head
      (head_of_intercalate (head_of_entry self next.1 (':' :: (self.blank ++ first))) (',' :: self.blank) others)
      ('}' :: rest)
    rw [List.append_assoc, List.append_assoc, List.cons_append,
      scan_entries_entry entry.1 (hreads entry List.mem_cons_self) htext (by omega) (stops_cons (by simp) _),
      skip_blanks_cons (by decide)]
    change Option.map _ (scan_entries (fuel + 1) (skip_blanks (self.blank ++ _))) = _
    rw [skip_blank, hskip, ih next (fun e he => hreads e (List.mem_cons_of_mem _ he)) fuel first others hfirst
      hothers hmore (by omega)]
    rfl

theorem reads_obj {entries : List (String × LoadedJson)} (hkeys : (entries.map Prod.fst).Nodup)
    (hreads : ∀ e ∈ entries, self.Reads float_repr e.2) : self.Reads float_repr (.obj entries) := by
  intro text fuel rest htext hfuel _
  obtain ⟨texts, htexts, rfl⟩ := Option.map_eq_some_iff.mp htext
  obtain ⟨fuel, rfl⟩ := exists_eq_succ hfuel
  rw [List.length_cons, List.length_append, List.length_singleton] at hfuel
  rw [List.cons_append, List.append_assoc, List.singleton_append, scan_value]
  cases entries with
  | nil =>
    obtain rfl := Option.some.inj htexts
    rfl
  | cons entry entries =>
    obtain ⟨first, more, -, -, rfl⟩ := dumps_entries_cons htexts
    obtain ⟨c, cs, heq, hc⟩ :=
      head_of_intercalate (head_of_entry self entry.1 (':' :: (self.blank ++ first))) (',' :: self.blank) more
    have hscan := scan_entries_dumps entry entries hreads htexts rest (show _ < fuel by omega)
    have hdict : dict_of (entry :: entries) = entry :: entries := Assoc.foldl_set [] hkeys
    rw [heq, List.cons_append] at hscan ⊢
    rw [skip_blanks_cons (JsonForm.not_blank hc)]
    split
    · rename_i hclose
      exact absurd (by simp [(List.cons.inj hclose).1]) hc
    · rw [hscan, Option.map_some, hdict]

/-! ## Whole texts -/

variable (self) in
/-- The induction is on what makes the value a value of Python. -/
theorem reads_of_value {value : LoadedJson} (h : Value float_repr value) : self.Reads float_repr value := by
  induction h with
  | null => exact reads_null
  | bool value => exact reads_bool value
  | int => exact reads_int _
  | float h => exact reads_float h
  | str value => exact reads_str value
  | arr _ ih => exact reads_arr ih
  | obj hkeys _ ih => exact reads_obj hkeys ih

/-- What is written is read back. -/
theorem loads_dumps {value : LoadedJson} (h : Value float_repr value) {text : List Char}
    (htext : self.dumps float_repr value = some text) : loads text = some value := by
  obtain ⟨c, cs, heq, hc⟩ := head_of_dumps htext
  have hskip : skip_blanks text = text := by rw [heq, skip_blanks_cons (JsonForm.not_blank hc)]
  have hreads := reads_of_value self h text (text.length + 1) [] htext (Nat.le_succ _) stops_nil
  rw [List.append_nil] at hreads
  have hmark : text.head? ≠ some byte_order_mark := by
    rw [heq]
    exact fun hhead => hc (by simp [Option.some.inj hhead])
  rw [loads, if_neg hmark, hskip, hreads]
  rfl

theorem of_mem_intercalate {P : Char → Prop} {separator : List Char} (hseparator : ∀ c ∈ separator, P c)
    {texts : List (List Char)} (htexts : ∀ text ∈ texts, ∀ c ∈ text, P c) :
    ∀ c ∈ separator.intercalate texts, P c := by
  induction texts with
  | nil => simp
  | cons text texts ih =>
    intro c hc
    have hmore := ih fun t ht => htexts t (List.mem_cons_of_mem _ ht)
    cases texts with
    | nil =>
      rw [List.intercalate_singleton] at hc
      exact htexts text List.mem_cons_self c hc
    | cons next texts =>
      rw [List.intercalate_cons_cons, List.mem_append, List.mem_append] at hc
      obtain (hc | hc) | hc := hc
      · exact htexts text List.mem_cons_self c hc
      · exact hseparator c hc
      · exact hmore c hc

theorem of_mem_bracketed {P : Char → Prop} {first last : Char} (hfirst : P first) (hlast : P last) {text : List Char}
    (h : ∀ c ∈ text, P c) : ∀ c ∈ first :: (text ++ [last]), P c := by
  intro c hc
  obtain rfl | hc := List.mem_cons.mp hc
  · exact hfirst
  · obtain htext | hend := List.mem_append.mp hc
    · exact h c htext
    · rwa [List.mem_singleton.mp hend]

theorem dumps_values_of_value {P : Char → Prop} {values : List LoadedJson}
    (h : ∀ v ∈ values, ∃ text, self.dumps float_repr v = some text ∧ ∀ c ∈ text, P c) :
    ∃ texts, self.dumps_values float_repr values = some texts ∧ ∀ text ∈ texts, ∀ c ∈ text, P c := by
  induction values with
  | nil => exact ⟨[], rfl, by simp⟩
  | cons value values ih =>
    obtain ⟨text, htext, hchars⟩ := h value List.mem_cons_self
    obtain ⟨texts, htexts, hmore⟩ := ih fun v hv => h v (List.mem_cons_of_mem _ hv)
    refine ⟨text :: texts, ?_, List.forall_mem_cons.mpr ⟨hchars, hmore⟩⟩
    rw [dumps_values, htext, Option.bind_some, htexts, Option.map_some]

/-- A decimal literal consists of digits and four other characters. -/
theorem forall_mem_decimal {P : Char → Prop} (hdigit : ∀ c : Char, c.isDigit → P c) (hmark : ∀ c ∈ ".e+-".toList, P c)
    (decimal : Decimal) : ∀ c ∈ decimal.text, P c := by
  intro c hc
  simp only [Decimal.text, Decimal.fraction_text, Decimal.power_text, List.mem_append] at hc
  obtain hsign | hwhole | hfraction | hpower := hc
  · split at hsign
    · exact hmark c (List.mem_singleton.mp hsign ▸ by decide)
    · cases hsign
  · exact hdigit c (decimal.whole_digits c hwhole)
  · split at hfraction
    · cases hfraction
    · obtain rfl | hfraction := List.mem_cons.mp hfraction
      · exact hmark _ (by decide)
      · exact hdigit c (decimal.fraction_digits c hfraction)
  · split at hpower
    · rename_i negative digits heq
      obtain rfl | rfl | hdigits := by simpa only [List.mem_cons] using hpower
      · exact hmark _ (by decide)
      · split
        · exact hmark _ (by decide)
        · exact hmark _ (by decide)
      · exact hdigit c ((decimal.power_digits _ heq).2 c hdigits)
    · cases hpower

section Characters

variable {P : Char → Prop} (hascii : ∀ c : Char, 32 ≤ c.toNat → c.toNat ≤ 126 → P c)
include hascii

theorem of_isDigit {c : Char} (h : c.isDigit) : P c := by
  have hdigit : 48 ≤ c.toNat ∧ c.toNat ≤ 57 := Char.isDigit_iff_toNat.mp h
  exact hascii c (by omega) (by omega)

theorem of_mem_literal {literal : List Char} (h : literal.all fun c => 32 ≤ c.toNat ∧ c.toNat ≤ 126) :
    ∀ c ∈ literal, P c := by
  intro c hc
  have hrange := of_decide_eq_true (List.all_eq_true.mp h c hc)
  exact hascii c hrange.1 hrange.2

theorem of_mem_int_text (value : ℤ) : ∀ c ∈ PyJson.int_text value, P c := by
  intro c hc
  unfold PyJson.int_text at hc
  obtain hsign | hdigits := List.mem_append.mp hc
  · split at hsign
    · exact of_mem_literal hascii (by decide) c hsign
    · cases hsign
  · exact of_isDigit hascii (isDigit_toDigits _ c hdigits)

theorem of_mem_decimal (decimal : Decimal) : ∀ c ∈ decimal.text, P c :=
  forall_mem_decimal (fun _ => of_isDigit hascii) (of_mem_literal hascii (by decide)) decimal

theorem of_mem_quoted (hescape : ∀ c, ∀ d ∈ self.escape c, P d) (s : String) : ∀ c ∈ self.escaper.quoted s, P c := by
  have hquote : P '"' := hascii _ (by decide) (by decide)
  intro c hc
  obtain rfl | hc := List.mem_cons.mp hc
  · exact hquote
  · obtain hchars | hlast := List.mem_append.mp hc
    · obtain ⟨d, -, hd⟩ := List.mem_flatMap.mp hchars
      exact hescape d c hd
    · rwa [List.mem_singleton.mp hlast]

variable (self) in
theorem of_mem_blank {separator : Char} (h : P separator) : ∀ c ∈ separator :: self.blank, P c := by
  intro c hc
  obtain rfl | hc := List.mem_cons.mp hc
  · exact h
  · rw [self.blanks c hc]
    exact hascii _ (by decide) (by decide)

theorem dumps_entries_of_value (hescape : ∀ c, ∀ d ∈ self.escape c, P d) {entries : List (String × LoadedJson)}
    (h : ∀ e ∈ entries, ∃ text, self.dumps float_repr e.2 = some text ∧ ∀ c ∈ text, P c) :
    ∃ texts, self.dumps_entries float_repr entries = some texts ∧ ∀ text ∈ texts, ∀ c ∈ text, P c := by
  have hcolon := of_mem_blank self hascii (hascii ':' (by decide) (by decide))
  induction entries with
  | nil => exact ⟨[], rfl, by simp⟩
  | cons entry entries ih =>
    obtain ⟨text, htext, hchars⟩ := h entry List.mem_cons_self
    obtain ⟨texts, htexts, hmore⟩ := ih fun e he => h e (List.mem_cons_of_mem _ he)
    have hentry : ∀ c ∈ self.escaper.quoted entry.1 ++ ':' :: (self.blank ++ text), P c := by
      rw [← List.cons_append]
      exact List.forall_mem_append.mpr ⟨of_mem_quoted hascii hescape entry.1,
        List.forall_mem_append.mpr ⟨hcolon, hchars⟩⟩
    refine ⟨_ :: texts, ?_, List.forall_mem_cons.mpr ⟨hentry, hmore⟩⟩
    rw [dumps_entries, htext, Option.bind_some, htexts, Option.map_some]

variable (self) in
/-- Every value is written, in characters of ASCII but for what the escapes leave. -/
theorem dumps_of_value (hescape : ∀ c, ∀ d ∈ self.escape c, P d) {value : LoadedJson} (h : Value float_repr value) :
    ∃ text, self.dumps float_repr value = some text ∧ ∀ c ∈ text, P c := by
  have hcomma := of_mem_blank self hascii (hascii ',' (by decide) (by decide))
  induction h with
  | null => exact ⟨_, rfl, of_mem_literal hascii (by decide)⟩
  | bool value =>
    refine ⟨_, rfl, of_mem_literal hascii ?_⟩
    cases value <;> decide
  | int h => exact ⟨_, by rw [dumps, if_neg (not_lt.mpr h)], of_mem_int_text hascii _⟩
  | @float value _ =>
    refine ⟨_, rfl, ?_⟩
    cases value with
    | finite q => exact of_mem_decimal hascii _
    | inf negative =>
      cases negative with
      | true => exact of_mem_literal hascii (show "-Infinity".toList.all _ by decide)
      | false => exact of_mem_literal hascii (show "Infinity".toList.all _ by decide)
    | nan => exact of_mem_literal hascii (show "NaN".toList.all _ by decide)
  | str value => exact ⟨_, rfl, of_mem_quoted hascii hescape value⟩
  | arr _ ih =>
    obtain ⟨texts, htexts, hchars⟩ := dumps_values_of_value ih
    refine ⟨_, by rw [dumps, htexts, Option.map_some], ?_⟩
    exact of_mem_bracketed (hascii _ (by decide) (by decide)) (hascii _ (by decide) (by decide))
      (of_mem_intercalate hcomma hchars)
  | obj _ _ ih =>
    obtain ⟨texts, htexts, hchars⟩ := dumps_entries_of_value hascii hescape ih
    refine ⟨_, by rw [dumps, htexts, Option.map_some], ?_⟩
    exact of_mem_bracketed (hascii _ (by decide) (by decide)) (hascii _ (by decide) (by decide))
      (of_mem_intercalate hcomma hchars)

end Characters

end JsonWriter

end larp
