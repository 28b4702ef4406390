import ActiveResponse.Core.JsonLoads
import Mathlib.Tactic.Simps.Basic

namespace larp

namespace JsonLoads

/-! ## Integers -/

/-- What may follow a value in a text without white space. -/
def Stops (rest : List Char) : Prop := ∀ c ∈ rest.head?, c ∈ [',', ']', '}']

theorem Stops.head {c : Char} {cs : List Char} (h : Stops (c :: cs)) : c = ',' ∨ c = ']' ∨ c = '}' := by
  simpa using h c rfl

theorem stops_nil : Stops [] := fun _ h => by cases h

theorem stops_cons {c : Char} (h : c ∈ [',', ']', '}']) (cs : List Char) : Stops (c :: cs) := by
  intro d hd
  rwa [← Option.some.inj hd]

/-- There is fuel for a text that is not empty. -/
theorem exists_eq_succ {n fuel : ℕ} (h : n + 1 ≤ fuel) : ∃ m, fuel = m + 1 := ⟨fuel - 1, by omega⟩

theorem skip_blanks_cons {c : Char} (h : c ∉ [' ', '\t', '\n', '\r']) (cs : List Char) :
    skip_blanks (c :: cs) = c :: cs :=
  List.dropWhile_cons_of_neg (by simpa using h)

section Integers

variable {rest : List Char}

/-- Digits end where the text stops. -/
theorem span_digits {digits : List Char} (hdigits : ∀ c ∈ digits, c.isDigit) (hrest : Stops rest) :
    (digits ++ rest).takeWhile Char.isDigit = digits ∧ (digits ++ rest).dropWhile Char.isDigit = rest := by
  rw [List.takeWhile_append_of_pos hdigits, List.dropWhile_append_of_pos hdigits]
  cases rest with
  | nil => simp
  | cons c cs =>
    have hstop : ¬c.isDigit := by obtain rfl | rfl | rfl := hrest.head <;> decide
    rw [List.takeWhile_cons_of_neg hstop, List.dropWhile_cons_of_neg hstop, List.append_nil]
    exact ⟨rfl, rfl⟩

theorem fraction_digits_of_stops (h : Stops rest) : fraction_digits rest = ([], rest) := by
  cases rest with
  | nil => rfl
  | cons c cs => obtain rfl | rfl | rfl := h.head <;> rfl

theorem exponent_of_stops (h : Stops rest) : exponent rest = (none, rest) := by
  cases rest with
  | nil => rfl
  | cons c cs =>
    have hletter : c ∉ ['e', 'E'] := by obtain rfl | rfl | rfl := h.head <;> decide
    exact if_neg fun hpower => hletter hpower.1

/-- Only 0 is written with a leading zero. -/
theorem toDigits_eq_cons (n : ℕ) : ∃ c cs, Nat.toDigits 10 n = c :: cs ∧ c.isDigit ∧ (c = '0' → n = 0) := by
  induction n using Nat.strong_induction_on with
  | _ n ih =>
    by_cases h : n < 10
    · have hdigit : ∀ n < 10, n.digitChar.isDigit ∧ (n.digitChar = '0' → n = 0) := by decide
      exact ⟨n.digitChar, [], Nat.toDigits_of_lt_base h, hdigit n h⟩
    · obtain ⟨c, cs, heq, hdigit, hzero⟩ := ih (n / 10) (by omega)
      refine ⟨c, cs ++ [(n % 10).digitChar], ?_, hdigit, fun hc => absurd (hzero hc) (by omega)⟩
      rw [Nat.toDigits_of_base_le (by decide) (by omega), heq, List.cons_append]

theorem whole_digits_toDigits (n : ℕ) (h : Stops rest) :
    whole_digits (Nat.toDigits 10 n ++ rest) = some (Nat.toDigits 10 n, rest) := by
  obtain ⟨c, cs, heq, -, hzero⟩ := toDigits_eq_cons n
  obtain ⟨htake, hdrop⟩ := span_digits (isDigit_toDigits n) h
  by_cases hc : c = '0'
  · rw [hzero hc, Nat.toDigits_zero]
    rfl
  · rw [heq] at htake hdrop ⊢
    rw [List.cons_append] at htake hdrop ⊢
    rw [whole_digits, htake, hdrop]
    · rfl
    · intro _ hhead
      exact hc (List.cons.inj hhead).1

/-- An integer is read as it was written. -/
theorem scan_number_int_text {n : ℤ} (hn : (Nat.toDigits 10 n.natAbs).length ≤ 4300) (h : Stops rest) :
    scan_number (PyJson.int_text n ++ rest) = some (.int n, rest) := by
  obtain ⟨c, cs, heq, hdigit, -⟩ := toDigits_eq_cons n.natAbs
  have hminus : minus (PyJson.int_text n ++ rest) = (decide (n < 0), Nat.toDigits 10 n.natAbs ++ rest) := by
    unfold PyJson.int_text
    split
    · rename_i hneg
      rw [decide_eq_true hneg]
      rfl
    · rename_i hneg
      rw [decide_eq_false hneg, List.nil_append, heq, List.cons_append, minus]
      rintro _ hhead
      rw [(List.cons.inj hhead).1] at hdigit
      exact absurd hdigit (by decide)
  have hvalue : (if decide (n < 0) then -(n.natAbs : ℤ) else n.natAbs) = n := by
    by_cases hneg : n < 0
    · rw [if_pos (decide_eq_true hneg)]
      omega
    · rw [if_neg (by simpa using hneg)]
      omega
  rw [scan_number, hminus, whole_digits_toDigits _ h, Option.bind_some]
  simp only [fraction_digits_of_stops h, exponent_of_stops h, and_self, if_true, Nat.ofDigitChars_ten_toDigits, hvalue,
    if_neg (not_lt.mpr hn)]

/-- No word begins like an integer. -/
theorem scan_word_int_text (n : ℤ) : scan_word (PyJson.int_text n ++ rest) = none := by
  obtain ⟨c, cs, heq, hdigit, -⟩ := toDigits_eq_cons n.natAbs
  have hne (d : Char) (hd : d.isDigit = false) : d ≠ c := by
    rintro rfl
    rw [hd] at hdigit
    cases hdigit
  unfold scan_word PyJson.int_text
  rw [heq]
  split
  · simp [words, List.isPrefixOf, hne 'I' rfl]
  · simp [words, List.isPrefixOf, hne 'n' rfl, hne 't' rfl, hne 'f' rfl, hne 'N' rfl, hne 'I' rfl, hne '-' rfl]

end Integers

/-! ## Strings -/

/-- A way to write the characters of a string. The reader takes a character for what it is, or refuses it. -/
structure Escaper where
  write : Char → List Char
  legible : Char → Bool
  head : ∀ c, ∃ d ds, write c = d :: ds ∧ d ≠ '"'
  reads : ∀ c rest, char_unit (write c ++ rest) = if legible c then some (c, rest) else none

namespace Escaper

variable (self : Escaper)

def quoted (s : String) : List Char := '"' :: (s.toList.flatMap self.write ++ ['"'])

theorem reads_units : QuotedText.Reads '"' self.write char_unit where
  head := self.head
  read c rest := by
    rw [self.reads]
    split
    · exact .inr rfl
    · exact .inl rfl

theorem scan_string_quoted (s : String) (rest : List Char) :
    scan_string (self.quoted s ++ rest) = if s.toList.all self.legible then some (s, rest) else none := by
  have hlength : s.toList.length < (s.toList.flatMap self.write ++ '"' :: rest).length := by
    have hle := QuotedText.length_le_flatMap self.reads_units s.toList
    rw [List.length_append, List.length_cons]
    omega
  rw [quoted, List.cons_append, List.append_assoc, List.singleton_append, scan_string,
    QuotedText.read_until_eq_ite self.reads_units self.reads hlength]
  split
  · rw [Option.map_some, String.ofList_toList]
  · rfl

end Escaper

end JsonLoads

open JsonLoads

/-- A text without white space together with the value that it is read as, unless one of its strings is refused. -/
structure JsonForm where
  text : List Char
  value : LoadedJson
  legible : Bool
  head : ∃ c cs, text = c :: cs ∧ c ∉ [' ', '\t', '\n', '\r', ']', '}', byte_order_mark]
  reads : ∀ fuel rest, text.length ≤ fuel → Stops rest →
    scan_value fuel (text ++ rest) = if legible then some (value, rest) else none

namespace JsonForm

/-- What is read of a text that does not begin with a quote or a bracket. -/
theorem scan_value_scalar {c : Char} (h : c ∉ ['"', '{', '[']) (fuel : ℕ) (cs : List Char) :
    scan_value (fuel + 1) (c :: cs) = (scan_word (c :: cs)).or (scan_number (c :: cs)) := by
  have hne {d : Char} (hd : d ∈ ['"', '{', '[']) {ds : List Char} (heq : c :: cs = d :: ds) : False := by
    rw [(List.cons.inj heq).1] at h
    exact h hd
  rw [scan_value]
  · exact fun _ => hne (by decide)
  · exact fun _ => hne (by decide)
  · exact fun _ => hne (by decide)

@[simps] def str (escaper : Escaper) (s : String) : JsonForm where
  text := escaper.quoted s
  value := .str s
  legible := s.toList.all escaper.legible
  head := ⟨'"', _, rfl, by decide⟩
  reads fuel rest hfuel _ := by
    obtain ⟨fuel, rfl⟩ := exists_eq_succ hfuel
    have hscan := escaper.scan_string_quoted s rest
    rw [Escaper.quoted, List.cons_append] at hscan ⊢
    rw [scan_value, hscan]
    split <;> rfl

/-- A minus or a digit is no other character. -/
theorem not_mem_of_number {c : Char} (hc : c = '-' ∨ c.isDigit) (others : List Char)
    (hothers : others.all fun d => d ≠ '-' && !d.isDigit) : c ∉ others := by
  intro hmem
  obtain ⟨hminus, hdigit⟩ := Bool.and_eq_true_iff.mp (List.all_eq_true.mp hothers c hmem)
  obtain rfl | hc := hc
  · exact absurd rfl (of_decide_eq_true hminus)
  · rw [hc] at hdigit
    cases hdigit

theorem int_text_eq_cons (n : ℤ) : ∃ c cs, PyJson.int_text n = c :: cs ∧
    ∀ others : List Char, others.all (fun d => d ≠ '-' && !d.isDigit) → c ∉ others := by
  obtain ⟨c, cs, heq, hdigit, -⟩ := toDigits_eq_cons n.natAbs
  unfold PyJson.int_text
  split
  · exact ⟨'-', _, rfl, not_mem_of_number (.inl rfl)⟩
  · exact ⟨c, cs, heq, not_mem_of_number (.inr hdigit)⟩

/-- An integer of a machine word. -/
@[simps] def int (n : ℤ) (hn : (Nat.toDigits 10 n.natAbs).length ≤ 4300) : JsonForm where
  text := PyJson.int_text n
  value := .int n
  legible := true
  head := by
    obtain ⟨c, cs, heq, hc⟩ := int_text_eq_cons n
    exact ⟨c, cs, heq, hc _ (by decide)⟩
  reads fuel rest hfuel hrest := by
    obtain ⟨c, cs, heq, hc⟩ := int_text_eq_cons n
    obtain ⟨fuel, rfl⟩ := exists_eq_succ (heq ▸ hfuel : (c :: cs).length ≤ fuel)
    have hscan : scan_value (fuel + 1) (PyJson.int_text n ++ rest) =
        (scan_word (PyJson.int_text n ++ rest)).or (scan_number (PyJson.int_text n ++ rest)) := by
      rw [heq, List.cons_append]
      exact scan_value_scalar (hc _ (by decide)) fuel _
    rw [hscan, scan_word_int_text, scan_number_int_text hn hrest]
    rfl

@[simps] def bool_false : JsonForm where
  text := "false".toList
  value := .bool false
  legible := true
  head := ⟨'f', _, rfl, by decide⟩
  reads fuel rest hfuel _ := by
    obtain ⟨fuel, rfl⟩ := exists_eq_succ hfuel
    rfl

/-! ## Arrays and objects -/

theorem not_blank {c : Char} (h : c ∉ [' ', '\t', '\n', '\r', ']', '}', byte_order_mark]) : c ∉ [' ', '\t', '\n', '\r'] :=
  fun hmem => h (List.mem_append_left [']', '}', byte_order_mark] hmem)

section Lists

variable {A : Type} (text : A → List Char)

/-- What is written between the brackets. -/
def listed (items : List A) : List Char := [','].intercalate (items.map text)

@[simp] theorem listed_singleton (a : A) : listed text [a] = text a := List.intercalate_singleton

@[simp] theorem listed_cons_cons (a b : A) (items : List A) :
    listed text (a :: b :: items) = text a ++ ',' :: listed text (b :: items) := by
  rw [listed, List.map_cons, List.map_cons, List.intercalate_cons_cons, List.append_assoc, List.singleton_append]
  rfl

theorem listed_eq_cons {P : Char → Prop} (htext : ∀ a, ∃ c cs, text a = c :: cs ∧ P c) (a : A) (items : List A) :
    ∃ c cs, listed text (a :: items) = c :: cs ∧ P c := by
  obtain ⟨c, cs, heq, hc⟩ := htext a
  cases items with
  | nil => exact ⟨c, cs, (listed_singleton text a).trans heq, hc⟩
  | cons b items => exact ⟨c, cs ++ ',' :: listed text (b :: items), by rw [listed_cons_cons, heq, List.cons_append], hc⟩

end Lists

theorem scan_values_listed (form : JsonForm) (forms : List JsonForm) {fuel : ℕ} (rest : List Char)
    (hfuel : (listed JsonForm.text (form :: forms)).length < fuel) :
    scan_values fuel (listed JsonForm.text (form :: forms) ++ ']' :: rest) =
      if (form :: forms).all JsonForm.legible then some ((form :: forms).map JsonForm.value, rest) else none := by
  induction forms generalizing form fuel with
  | nil =>
    obtain ⟨fuel, rfl⟩ := exists_eq_succ hfuel
    rw [listed_singleton] at hfuel ⊢
    rw [scan_values, form.reads fuel (']' :: rest) (Nat.le_of_lt_succ hfuel) (stops_cons (by simp) _),
      List.all_cons, List.all_nil, Bool.and_true]
    split
    · rw [Option.bind_some, skip_blanks_cons (by decide)]
      rfl
    · rfl
  | cons next forms ih =>
    obtain ⟨fuel, rfl⟩ := exists_eq_succ hfuel
    rw [listed_cons_cons] at hfuel ⊢
    rw [List.length_append, List.length_cons] at hfuel
    rw [List.append_assoc, List.cons_append, scan_values,
      form.reads fuel _ (by omega) (stops_cons (by simp) _), List.all_cons]
    cases form.legible with
    | false => rfl
    | true =>
      obtain ⟨c, cs, heq, hc⟩ := listed_eq_cons JsonForm.text JsonForm.head next forms
      have hskip : skip_blanks (listed JsonForm.text (next :: forms) ++ ']' :: rest) =
          listed JsonForm.text (next :: forms) ++ ']' :: rest := by
        rw [heq, List.cons_append, skip_blanks_cons (not_blank hc)]
      rw [if_pos rfl, Option.bind_some, skip_blanks_cons (by decide)]
      change Option.map _ (scan_values fuel (skip_blanks _)) = _
      rw [hskip, ih next (by omega), Bool.true_and]
      split <;> rfl

@[simps] def arr (forms : List JsonForm) : JsonForm where
  text := '[' :: (listed JsonForm.text forms ++ [']'])
  value := .arr (forms.map JsonForm.value)
  legible := forms.all JsonForm.legible
  head := ⟨'[', _, rfl, by decide⟩
  reads fuel rest hfuel _ := by
    obtain ⟨fuel, rfl⟩ := exists_eq_succ hfuel
    rw [List.length_cons, List.length_append, List.length_singleton] at hfuel
    rw [List.cons_append, List.append_assoc, List.singleton_append, scan_value]
    cases forms with
    | nil => rfl
    | cons form forms =>
      obtain ⟨c, cs, heq, hc⟩ := listed_eq_cons JsonForm.text JsonForm.head form forms
      have hscan := scan_values_listed form forms rest (show _ < fuel by omega)
      rw [heq, List.cons_append] at hscan ⊢
      rw [skip_blanks_cons (not_blank hc)]
      split
      · rename_i hclose
        exact absurd (by simp [(List.cons.inj hclose).1]) hc
      · rw [hscan]
        split <;> rfl

section Objects

variable (escaper : Escaper)

def entry_text (entry : String × JsonForm) : List Char := escaper.quoted entry.1 ++ ':' :: entry.2.text

def entry_legible (entry : String × JsonForm) : Bool := entry.1.toList.all escaper.legible && entry.2.legible

theorem entry_text_eq_cons (entry : String × JsonForm) : ∃ c cs, entry_text escaper entry = c :: cs ∧ c = '"' :=
  ⟨'"', _, rfl, rfl⟩

/-- An entry and what comes after it. -/
theorem scan_entries_entry (entry : String × JsonForm) {fuel : ℕ} {tail : List Char}
    (hfuel : entry.2.text.length ≤ fuel) (htail : Stops tail) :
    scan_entries (fuel + 1) (entry_text escaper entry ++ tail) =
      if entry_legible escaper entry then
        match skip_blanks tail with
        | ',' :: cs =>
          (scan_entries fuel (skip_blanks cs)).map fun more => ((entry.1, entry.2.value) :: more.1, more.2)
        | '}' :: cs => some ([(entry.1, entry.2.value)], cs)
        | _ => none
      else none := by
  rw [scan_entries, entry_text, List.append_assoc, escaper.scan_string_quoted, entry_legible]
  cases entry.1.toList.all escaper.legible with
  | false => rfl
  | true =>
    obtain ⟨c, cs, heq, hc⟩ := entry.2.head
    have hskip : skip_blanks (entry.2.text ++ tail) = entry.2.text ++ tail := by
      rw [heq, List.cons_append, skip_blanks_cons (not_blank hc)]
    rw [if_pos rfl, Option.bind_some, List.cons_append, skip_blanks_cons (by decide)]
    change Option.bind (scan_value fuel (skip_blanks _)) _ = _
    rw [hskip, entry.2.reads fuel tail hfuel htail, Bool.true_and]
    split <;> rfl

theorem scan_entries_listed (entry : String × JsonForm) (entries : List (String × JsonForm)) {fuel : ℕ}
    (rest : List Char) (hfuel : (listed (entry_text escaper) (entry :: entries)).length < fuel) :
    scan_entries fuel (listed (entry_text escaper) (entry :: entries) ++ '}' :: rest) =
      if (entry :: entries).all (entry_legible escaper) then
        some ((entry :: entries).map fun entry => (entry.1, entry.2.value), rest)
      else none := by
  have htext (entry : String × JsonForm) : entry.2.text.length ≤ (entry_text escaper entry).length := by
    rw [entry_text, List.length_append, List.length_cons]
    omega
  induction entries generalizing entry fuel with
  | nil =>
    obtain ⟨fuel, rfl⟩ := exists_eq_succ hfuel
    rw [listed_singleton] at hfuel ⊢
    rw [scan_entries_entry escaper entry ((htext entry).trans (Nat.le_of_lt_succ hfuel))
      (stops_cons (by simp) _), List.all_cons, List.all_nil, Bool.and_true, skip_blanks_cons (by decide)]
    rfl
  | cons next entries ih =>
    obtain ⟨fuel, rfl⟩ := exists_eq_succ hfuel
    rw [listed_cons_cons] at hfuel ⊢
    rw [List.length_append, List.length_cons] at hfuel
    have hentry := htext entry
    rw [List.append_assoc, List.cons_append,
      scan_entries_entry escaper entry (by omega) (stops_cons (by simp) _), List.all_cons]
    cases entry_legible escaper entry with
    | false => rfl
    | true =>
      obtain ⟨c, cs, heq, rfl⟩ := listed_eq_cons _ (entry_text_eq_cons escaper) next entries
      have hskip : skip_blanks (listed (entry_text escaper) (next :: entries) ++ '}' :: rest) =
          listed (entry_text escaper) (next :: entries) ++ '}' :: rest := by
        rw [heq, List.cons_append, skip_blanks_cons (by decide)]
      rw [if_pos rfl, skip_blanks_cons (by decide)]
      change Option.map _ (scan_entries fuel (skip_blanks _)) = _
      rw [hskip, ih next (by omega), Bool.true_and]
      split <;> rfl

/-- An object whose keys are different. -/
@[simps] def obj (entries : List (String × JsonForm)) (hkeys : (entries.map Prod.fst).Nodup) : JsonForm where
  text := '{' :: (listed (entry_text escaper) entries ++ ['}'])
  value := .obj (entries.map fun entry => (entry.1, entry.2.value))
  legible := entries.all (entry_legible escaper)
  head := ⟨'{', _, rfl, by decide⟩
  reads fuel rest hfuel _ := by
    obtain ⟨fuel, rfl⟩ := exists_eq_succ hfuel
    rw [List.length_cons, List.length_append, List.length_singleton] at hfuel
    rw [List.cons_append, List.append_assoc, List.singleton_append, scan_value]
    cases entries with
    | nil => rfl
    | cons entry entries =>
      obtain ⟨c, cs, heq, rfl⟩ := listed_eq_cons _ (entry_text_eq_cons escaper) entry entries
      have hscan := scan_entries_listed escaper entry entries rest (show _ < fuel by omega)
      rw [heq, List.cons_append] at hscan ⊢
      rw [skip_blanks_cons (by decide)]
      change Option.map _ (scan_entries fuel _) = _
      rw [hscan]
      split
      · have hdict : dict_of ((entry :: entries).map fun entry => (entry.1, entry.2.value)) =
            (entry :: entries).map fun entry => (entry.1, entry.2.value) := by
          refine Assoc.foldl_set [] ?_
          rw [List.nil_append, List.map_map]
          exact hkeys
        rw [Option.map_some, hdict]
      · rfl

end Objects

/-- The whole text. -/
theorem loads_text (form : JsonForm) : loads form.text = if form.legible then some form.value else none := by
  obtain ⟨c, cs, heq, hc⟩ := form.head
  have hskip : skip_blanks form.text = form.text := by rw [heq, skip_blanks_cons (not_blank hc)]
  have hreads := form.reads (form.text.length + 1) [] (Nat.le_succ _) stops_nil
  rw [List.append_nil] at hreads
  have hmark : form.text.head? ≠ some byte_order_mark := by
    rw [heq]
    exact fun hhead => hc (by simp [Option.some.inj hhead])
  rw [loads, if_neg hmark, hskip, hreads]
  split <;> rfl

end JsonForm

end larp
