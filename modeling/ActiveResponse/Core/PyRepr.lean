import ActiveResponse.Lib.FixedWidth
import ActiveResponse.Lib.QuotedText

namespace larp

/-! ## `repr` of a text -/

def apostrophe : Char := Char.ofNat 39

/-- Double quotes are taken for a text with an apostrophe and without double quotes. -/
def repr_quote (cs : List Char) : Char := if apostrophe ∈ cs ∧ '"' ∉ cs then '"' else apostrophe

/-- The last hexadecimal digits of a code point. -/
def hex_text (width : ℕ) (c : Char) : List Char := FixedWidth.digits 16 Nat.digitChar width c.toNat

/-- A character as `repr` writes it. Which characters beyond ASCII are printable is Unicode's affair. -/
def repr_char (printable : Char → Bool) (quote c : Char) : List Char :=
  if c = quote ∨ c = '\\' then ['\\', c]
  else if c = '\t' then ['\\', 't']
  else if c = '\n' then ['\\', 'n']
  else if c = '\r' then ['\\', 'r']
  else if c.toNat < 32 ∨ c.toNat = 127 then '\\' :: 'x' :: hex_text 2 c
  else if c.toNat < 127 ∨ printable c then [c]
  else if c.toNat < 0x100 then '\\' :: 'x' :: hex_text 2 c
  else if c.toNat < 0x10000 then '\\' :: 'u' :: hex_text 4 c
  else '\\' :: 'U' :: hex_text 8 c

/-- `repr(s)`. -/
def repr_str (printable : Char → Bool) (cs : List Char) : List Char :=
  repr_quote cs :: (cs.flatMap (repr_char printable (repr_quote cs)) ++ [repr_quote cs])

/-! ## String literals -/

def hex_value (c : Char) : Option ℕ :=
  if c.isDigit then some (c.toNat - 48)
  else if 'a' ≤ c ∧ c ≤ 'f' then some (c.toNat - 87)
  else if 'A' ≤ c ∧ c ≤ 'F' then some (c.toNat - 55)
  else none

/-- A character by its code point. A surrogate is none. -/
def code_escape (width : ℕ) (cs : List Char) : Option (Char × List Char) :=
  (FixedWidth.read 16 hex_value width 0 cs).bind fun code =>
    if code.1.isValidChar then some (Char.ofNat code.1, code.2) else none

def json_escapes : List (Char × Char) :=
  [('"', '"'), ('\\', '\\'), ('/', '/'), ('b', Char.ofNat 8), ('f', Char.ofNat 12), ('n', '\n'), ('r', '\r'),
    ('t', '\t')]

/-- A character of a JSON string: control characters are refused. -/
def json_unit : List Char → Option (Char × List Char)
  | '\\' :: c :: cs => if c = 'u' then code_escape 4 cs else (json_escapes.lookup c).map fun d => (d, cs)
  | c :: cs => if c = '\\' ∨ c.toNat < 32 then none else some (c, cs)
  | [] => none

def py_escapes : List (Char × Char) :=
  [('\\', '\\'), (apostrophe, apostrophe), ('"', '"'), ('a', Char.ofNat 7), ('b', Char.ofNat 8), ('f', Char.ofNat 12),
    ('n', '\n'), ('r', '\r'), ('t', '\t'), ('v', Char.ofNat 11)]

/-- A character of a Python literal. Of the escapes that `repr` never writes, those by number or name are left out. -/
def py_unit : List Char → Option (Char × List Char)
  | '\\' :: c :: cs =>
    if c = 'x' then code_escape 2 cs
    else if c = 'u' then code_escape 4 cs
    else if c = 'U' then code_escape 8 cs
    else (py_escapes.lookup c).map fun d => (d, cs)
  | c :: cs => if c = '\\' ∨ c.toNat ∈ [0, 10, 13] then none else some (c, cs)
  | [] => none

/-- What JSON takes for white space. -/
def skip_blanks (cs : List Char) : List Char := cs.dropWhile fun c => c ∈ [' ', '\t', '\n', '\r']

/-- A string of JSON, with its quotes. -/
def json_literal : List Char → Option (List Char × List Char)
  | '"' :: cs => QuotedText.read_until '"' json_unit cs.length cs
  | _ => none

/-- A string literal of Python on one line, with its quotes. -/
def py_literal : List Char → Option (List Char × List Char)
  | quote :: cs =>
    if quote = '"' ∨ quote = apostrophe then QuotedText.read_until quote py_unit cs.length cs else none
  | [] => none

example : py_literal (repr_str (fun _ => true) "it's\n".toList) = some ("it's\n".toList, []) := by decide +kernel

/-! ## Reading what was written -/

section Units

variable {printable : Char → Bool} {quote : Char}

theorem hex_value_digitChar : ∀ i < 16, hex_value (Nat.digitChar i) = some i := by decide

theorem code_escape_hex_text {width : ℕ} {c : Char} (h : c.toNat < 16 ^ width) (rest : List Char) :
    code_escape width (hex_text width c ++ rest) = some (c, rest) := by
  have hvalid : c.toNat.isValidChar := c.valid
  rw [code_escape, hex_text, FixedWidth.read_digits (by decide) hex_value_digitChar, Option.bind_some, Nat.mul_zero,
    Nat.zero_add, Nat.mod_eq_of_lt h, if_pos hvalid, Char.ofNat_toNat]

/-- The forms in which `repr` writes a character. -/
inductive Written (quote c : Char) : List Char → Prop where
  | escaped (h : c = quote ∨ c = '\\') : Written quote c ['\\', c]
  | letter (letter : Char) (h : (c, letter) ∈ [('\t', 't'), ('\n', 'n'), ('\r', 'r')]) :
      Written quote c ['\\', letter]
  | code2 (h : c.toNat < 16 ^ 2) : Written quote c ('\\' :: 'x' :: hex_text 2 c)
  | code4 (h : c.toNat < 16 ^ 4) : Written quote c ('\\' :: 'u' :: hex_text 4 c)
  | code8 (h : c.toNat < 16 ^ 8) : Written quote c ('\\' :: 'U' :: hex_text 8 c)
  | plain (hquote : c ≠ quote) (hslash : c ≠ '\\') (hcontrol : 32 ≤ c.toNat) : Written quote c [c]

theorem written_repr_char (printable : Char → Bool) (quote c : Char) :
    Written quote c (repr_char printable quote c) := by
  unfold repr_char
  split
  · rename_i h
    exact .escaped h
  · rename_i hnot
    rw [not_or] at hnot
    split
    · rename_i h
      exact .letter 't' (by simp [h])
    · split
      · rename_i h
        exact .letter 'n' (by simp [h])
      · split
        · rename_i h
          exact .letter 'r' (by simp [h])
        · split
          · rename_i h
            exact .code2 (by omega)
          · rename_i hcontrol
            split
            · exact .plain hnot.1 hnot.2 (by omega)
            · split
              · rename_i h
                exact .code2 (by omega)
              · split
                · rename_i h
                  exact .code4 (by omega)
                · have hlast : c.toNat < 0x110000 := by
                    obtain hlow | ⟨-, hhigh⟩ := c.valid
                    · exact hlow.trans (by decide)
                    · exact hhigh
                  exact .code8 (hlast.trans (by decide))

variable {c : Char} {text : List Char}

/-- No character begins like the closing quote. -/
theorem Written.head (h : Written quote c text) (hquote : quote ≠ '\\') : ∃ d cs, text = d :: cs ∧ d ≠ quote := by
  cases h with
  | plain hne => exact ⟨c, [], rfl, hne⟩
  | escaped | letter | code2 | code4 | code8 => exact ⟨'\\', _, rfl, hquote.symm⟩

/-- Python reads what `repr` wrote. -/
theorem py_unit_written (hquote : quote = '"' ∨ quote = apostrophe) (h : Written quote c text) (rest : List Char) :
    py_unit (text ++ rest) = some (c, rest) := by
  cases h with
  | escaped h =>
    have hc : c = '"' ∨ c = apostrophe ∨ c = '\\' := by
      obtain rfl | h := h
      · exact hquote.imp_right .inl
      · exact .inr (.inr h)
    obtain rfl | rfl | rfl := hc <;> rfl
  | letter letter h =>
    simp only [List.mem_cons, Prod.mk.injEq, List.not_mem_nil, or_false] at h
    obtain ⟨rfl, rfl⟩ | ⟨rfl, rfl⟩ | ⟨rfl, rfl⟩ := h <;> rfl
  | code2 h => exact code_escape_hex_text h rest
  | code4 h => exact code_escape_hex_text h rest
  | code8 h => exact code_escape_hex_text h rest
  | plain hne hslash hcontrol =>
    have hline : c.toNat ∉ [0, 10, 13] := by
      simp only [List.mem_cons, List.not_mem_nil, or_false, not_or]
      omega
    rw [List.singleton_append, py_unit, if_neg (not_or.mpr ⟨hslash, hline⟩)]
    exact fun _ _ h _ => hslash h

/-- JSON refuses what `repr` wrote, or reads it. -/
theorem json_unit_written (h : Written '"' c text) (rest : List Char) :
    json_unit (text ++ rest) = none ∨ json_unit (text ++ rest) = some (c, rest) := by
  cases h with
  | escaped h => obtain rfl | rfl := h <;> exact .inr rfl
  | letter letter h =>
    simp only [List.mem_cons, Prod.mk.injEq, List.not_mem_nil, or_false] at h
    obtain ⟨rfl, rfl⟩ | ⟨rfl, rfl⟩ | ⟨rfl, rfl⟩ := h <;> exact .inr rfl
  | code2 h => exact .inl rfl
  | code4 h => exact .inr (code_escape_hex_text h rest)
  | code8 h => exact .inl rfl
  | plain hne hslash hcontrol =>
    rw [List.singleton_append, json_unit, if_neg (not_or.mpr ⟨hslash, not_lt.mpr hcontrol⟩)]
    · exact .inr rfl
    · exact fun _ _ h _ => hslash h

end Units

section Literals

variable (printable : Char → Bool)

theorem repr_quote_cases (cs : List Char) : repr_quote cs = '"' ∨ repr_quote cs = apostrophe := by
  unfold repr_quote
  split
  · exact .inl rfl
  · exact .inr rfl

theorem reads_py_unit {quote : Char} (hquote : quote = '"' ∨ quote = apostrophe) :
    QuotedText.Reads quote (repr_char printable quote) py_unit where
  head c := (written_repr_char printable quote c).head (by obtain rfl | rfl := hquote <;> decide)
  read c rest := .inr (py_unit_written hquote (written_repr_char printable quote c) rest)

theorem reads_json_unit : QuotedText.Reads '"' (repr_char printable '"') json_unit where
  head c := (written_repr_char printable '"' c).head (by decide)
  read c rest := json_unit_written (written_repr_char printable '"' c) rest

/-- Python reads the literal of a text, whatever follows it. -/
theorem py_literal_repr_str (cs rest : List Char) : py_literal (repr_str printable cs ++ rest) = some (cs, rest) := by
  have hquote := repr_quote_cases cs
  have hreads := reads_py_unit printable hquote
  rw [repr_str, List.cons_append, py_literal, if_pos hquote, List.append_assoc, List.singleton_append]
  refine QuotedText.read_until_eq_some hreads
    (fun c rest => py_unit_written hquote (written_repr_char printable _ c) rest) ?_ rest
  have hlength := QuotedText.length_le_flatMap hreads cs
  rw [List.length_append, List.length_cons]
  omega

/-- JSON refuses the literal, or reads the same text. -/
theorem json_literal_repr_str (cs rest : List Char) :
    json_literal (repr_str printable cs ++ rest) = none ∨
      json_literal (repr_str printable cs ++ rest) = some (cs, rest) := by
  obtain hquote | hquote := repr_quote_cases cs
  · rw [repr_str, hquote, List.cons_append, json_literal, List.append_assoc, List.singleton_append]
    exact QuotedText.read_until_eq (reads_json_unit printable) _ cs rest
  · rw [repr_str, hquote]
    exact .inl rfl

/-- A literal without its closing quote. -/
def open_literal (quote : Char) (cs : List Char) : List Char := quote :: cs.flatMap (repr_char printable quote)

theorem py_literal_open_literal {quote : Char} (hquote : quote = '"' ∨ quote = apostrophe) (cs : List Char) :
    py_literal (open_literal printable quote cs) = none := by
  rw [open_literal, py_literal, if_pos hquote]
  exact QuotedText.read_until_eq_none (reads_py_unit printable hquote) _ cs

theorem json_literal_open_literal {quote : Char} (hquote : quote = '"' ∨ quote = apostrophe) (cs : List Char) :
    json_literal (open_literal printable quote cs) = none := by
  obtain rfl | rfl := hquote
  · exact QuotedText.read_until_eq_none (reads_json_unit printable) _ cs
  · rfl

/-! ## Braces -/

theorem brace_not_mem_hex_text (width : ℕ) (c : Char) : '}' ∉ hex_text width c := by
  have hdigit : ∀ i < 16, Nat.digitChar i ≠ '}' := by decide
  intro hmem
  obtain ⟨i, hi, heq⟩ := FixedWidth.exists_of_mem_digits (by decide) hmem
  exact hdigit i hi heq

/-- No escape has a brace in it. -/
theorem brace_mem_repr_char {quote c : Char} (h : '}' ∈ repr_char printable quote c) : c = '}' := by
  have hcases : ∀ {text : List Char}, Written quote c text → '}' ∈ text → c = '}' := by
    intro text hwritten hmem
    cases hwritten with
    | escaped hc =>
      obtain heq | heq : '}' = '\\' ∨ '}' = c := by simpa using hmem
      · exact absurd heq (by decide)
      · exact heq.symm
    | letter letter hletter =>
      simp only [List.mem_cons, Prod.mk.injEq, List.not_mem_nil, or_false] at hletter
      obtain ⟨rfl, rfl⟩ | ⟨rfl, rfl⟩ | ⟨rfl, rfl⟩ := hletter <;> exact absurd hmem (by decide)
    | code2 | code4 | code8 =>
      obtain heq | hmem := List.mem_cons.mp hmem
      · exact absurd heq (by decide)
      · obtain heq | hmem := List.mem_cons.mp hmem
        · exact absurd heq (by decide)
        · exact absurd hmem (brace_not_mem_hex_text _ _)
    | plain => exact (List.mem_singleton.mp hmem).symm
  exact hcases (written_repr_char printable quote c) h

theorem repr_char_brace {quote : Char} (hquote : quote = '"' ∨ quote = apostrophe) :
    repr_char printable quote '}' = ['}'] := by
  obtain rfl | rfl := hquote <;> rfl

theorem brace_not_mem_repr_str {cs : List Char} (h : '}' ∉ cs) : '}' ∉ repr_str printable cs := by
  have hquote := repr_quote_cases cs
  have hne : '}' ≠ repr_quote cs := by obtain heq | heq := hquote <;> rw [heq] <;> decide
  intro hmem
  simp only [repr_str, List.mem_cons, List.mem_append, List.mem_flatMap, List.not_mem_nil, or_false, hne,
    false_or] at hmem
  obtain ⟨c, hc, hbrace⟩ := hmem
  exact h (brace_mem_repr_char printable hbrace ▸ hc)

theorem takeWhile_append_of_brace_not_mem {xs : List Char} (h : '}' ∉ xs) (ys : List Char) :
    (xs ++ ys).takeWhile (· ≠ '}') = xs ++ ys.takeWhile (· ≠ '}') :=
  List.takeWhile_append_of_pos fun _ hc => decide_eq_true fun heq => h (heq ▸ hc)

/-- A text with a brace is cut off inside its literal. -/
theorem takeWhile_repr_str {cs : List Char} (h : '}' ∈ cs) (rest : List Char) : ∃ before,
    (repr_str printable cs ++ rest).takeWhile (· ≠ '}') ++ ['}'] = open_literal printable (repr_quote cs) before := by
  have hquote := repr_quote_cases cs
  have hne : '}' ≠ repr_quote cs := by obtain heq | heq := hquote <;> rw [heq] <;> decide
  obtain ⟨before, after, heq, hfirst⟩ := List.eq_append_cons_of_mem h
  have hbefore : '}' ∉ repr_quote cs :: before.flatMap (repr_char printable (repr_quote cs)) := by
    simp only [List.mem_cons, List.mem_flatMap, hne, false_or]
    rintro ⟨c, hc, hbrace⟩
    exact hfirst (brace_mem_repr_char printable hbrace ▸ hc)
  have hsplit : repr_str printable cs ++ rest =
      (repr_quote cs :: before.flatMap (repr_char printable (repr_quote cs))) ++
        '}' :: (after.flatMap (repr_char printable (repr_quote cs)) ++ repr_quote cs :: rest) := by
    generalize hq : repr_quote cs = quote at hquote
    rw [repr_str, hq, heq, List.flatMap_append, List.flatMap_cons, repr_char_brace printable hquote]
    simp
  refine ⟨before ++ ['}'], ?_⟩
  rw [hsplit, takeWhile_append_of_brace_not_mem hbefore, List.takeWhile_cons_of_neg (by decide), List.append_nil,
    open_literal, List.flatMap_append, List.flatMap_singleton, repr_char_brace printable hquote]
  rfl

end Literals

end larp
