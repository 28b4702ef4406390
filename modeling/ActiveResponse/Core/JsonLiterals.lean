import ActiveResponse.Core.JsonForms

namespace larp

open JsonLoads

/-! ## Float literals -/

/-- A literal with a fraction or an exponent, as `float.__repr__` writes it. -/
structure Decimal where
  negative : Bool
  whole : List Char
  fraction : List Char
  power : Option (Bool × List Char)
  whole_digits : ∀ c ∈ whole, c.isDigit
  whole_head : ∃ c cs, whole = c :: cs ∧ (c = '0' → cs = [])
  fraction_digits : ∀ c ∈ fraction, c.isDigit
  power_digits : ∀ p ∈ power, p.2 ≠ [] ∧ ∀ c ∈ p.2, c.isDigit
  pointed : fraction ≠ [] ∨ power.isSome

namespace Decimal

def fraction_text (self : Decimal) : List Char := if self.fraction = [] then [] else '.' :: self.fraction

/-- The exponent has a sign. -/
def power_text (self : Decimal) : List Char :=
  match self.power with
  | some (negative, digits) => 'e' :: (if negative then '-' else '+') :: digits
  | none => []

def text (self : Decimal) : List Char :=
  (if self.negative then ['-'] else []) ++ (self.whole ++ (self.fraction_text ++ self.power_text))

/-- The power of ten. -/
def exponent (self : Decimal) : Option ℤ :=
  self.power.map fun p => if p.1 then -Nat.ofDigitChars 10 p.2 0 else Nat.ofDigitChars 10 p.2 0

def value (self : Decimal) : ℚ :=
  let q : ℚ := Nat.ofDigitChars 10 (self.whole ++ self.fraction) 0 / 10 ^ self.fraction.length * 10 ^ self.exponent.getD 0
  if self.negative then -q else q

variable (self : Decimal)

/-- What comes before a text without digits at its head is all of the digits. -/
theorem span_isDigit {digits rest : List Char} (hdigits : ∀ c ∈ digits, c.isDigit)
    (hrest : ∀ c ∈ rest.head?, ¬c.isDigit) :
    (digits ++ rest).takeWhile Char.isDigit = digits ∧ (digits ++ rest).dropWhile Char.isDigit = rest := by
  rw [List.takeWhile_append_of_pos hdigits, List.dropWhile_append_of_pos hdigits]
  cases rest with
  | nil => simp
  | cons c cs =>
    have hstop := hrest c rfl
    rw [List.takeWhile_cons_of_neg hstop, List.dropWhile_cons_of_neg hstop, List.append_nil]
    exact ⟨rfl, rfl⟩

theorem not_digit_of_stops {rest : List Char} (h : Stops rest) : ∀ c ∈ rest.head?, ¬c.isDigit := by
  intro c hc
  cases rest with
  | nil => cases hc
  | cons d ds =>
    obtain rfl := Option.some.inj hc
    obtain rfl | rfl | rfl := h.head <;> decide

variable {rest : List Char}

theorem exponent_power_text (hrest : Stops rest) :
    JsonLoads.exponent (self.power_text ++ rest) = (self.exponent, rest) := by
  unfold power_text Decimal.exponent
  cases hpower : self.power with
  | none => exact exponent_of_stops hrest
  | some p =>
    obtain ⟨negative, digits⟩ := p
    obtain ⟨hne, hdigits⟩ := self.power_digits _ hpower
    obtain ⟨htake, hdrop⟩ := span_isDigit hdigits (not_digit_of_stops hrest)
    have hsign : split_sign ((if negative then '-' else '+') :: (digits ++ rest)) = (negative, digits ++ rest) := by
      cases negative <;> rfl
    dsimp only
    rw [List.cons_append, List.cons_append, JsonLoads.exponent, hsign]
    dsimp only
    rw [htake, hdrop, if_pos ⟨by decide, hne⟩]
    rfl

theorem power_text_head (hrest : Stops rest) : ∀ c ∈ (self.power_text ++ rest).head?, ¬c.isDigit ∧ c ≠ '.' := by
  intro c hc
  unfold power_text at hc
  cases hpower : self.power with
  | none =>
    rw [hpower] at hc
    cases rest with
    | nil => cases hc
    | cons d ds =>
      obtain rfl := Option.some.inj hc
      obtain rfl | rfl | rfl := hrest.head <;> decide
  | some p =>
    rw [hpower] at hc
    obtain rfl := Option.some.inj hc
    decide

theorem fraction_digits_text (hrest : Stops rest) :
    JsonLoads.fraction_digits (self.fraction_text ++ (self.power_text ++ rest)) =
      (self.fraction, self.power_text ++ rest) := by
  have hhead := self.power_text_head hrest
  unfold fraction_text
  split
  · rename_i hnil
    rw [hnil, List.nil_append]
    cases htext : self.power_text ++ rest with
    | nil => rfl
    | cons c cs =>
      rw [JsonLoads.fraction_digits]
      rintro _ heq
      exact (hhead c (by rw [htext]; rfl)).2 (List.cons.inj heq).1
  · rename_i hne
    obtain ⟨htake, hdrop⟩ := span_isDigit self.fraction_digits fun c hc => (hhead c hc).1
    rw [List.cons_append, JsonLoads.fraction_digits, htake, hdrop, if_neg (by simpa using hne)]

theorem fraction_text_head (hrest : Stops rest) :
    ∀ c ∈ (self.fraction_text ++ (self.power_text ++ rest)).head?, ¬c.isDigit := by
  intro c hc
  unfold fraction_text at hc
  split at hc
  · exact (self.power_text_head hrest c hc).1
  · obtain rfl := Option.some.inj hc
    decide

theorem whole_digits_text (hrest : Stops rest) :
    JsonLoads.whole_digits (self.whole ++ (self.fraction_text ++ (self.power_text ++ rest))) =
      some (self.whole, self.fraction_text ++ (self.power_text ++ rest)) := by
  obtain ⟨htake, hdrop⟩ := span_isDigit self.whole_digits (self.fraction_text_head hrest)
  obtain ⟨c, cs, heq, hzero⟩ := self.whole_head
  by_cases hc : c = '0'
  · rw [heq, hzero hc, hc]
    rfl
  · rw [heq] at htake hdrop ⊢
    rw [List.cons_append] at htake hdrop ⊢
    rw [JsonLoads.whole_digits, htake, hdrop]
    · rfl
    · intro _ hhead
      exact hc (List.cons.inj hhead).1

/-- A number begins with a minus or a digit, and so with no other character. -/
theorem text_eq_cons : ∃ c cs, self.text = c :: cs ∧
    ∀ others : List Char, others.all (fun d => d ≠ '-' && !d.isDigit) → c ∉ others := by
  obtain ⟨c, cs, heq, -⟩ := self.whole_head
  have hdigit : c.isDigit := self.whole_digits c (heq ▸ List.mem_cons_self)
  unfold text
  rw [heq]
  split
  · exact ⟨'-', _, rfl, JsonForm.not_mem_of_number (.inl rfl)⟩
  · exact ⟨c, _, rfl, JsonForm.not_mem_of_number (.inr hdigit)⟩

/-- A float literal is read as the number that it denotes. -/
theorem scan_number_text (hrest : Stops rest) :
    scan_number (self.text ++ rest) = some (.float (.of_rat self.value), rest) := by
  obtain ⟨c, cs, heq, -⟩ := self.whole_head
  have hdigit : c.isDigit := self.whole_digits c (heq ▸ List.mem_cons_self)
  have hminus : minus (self.text ++ rest) =
      (self.negative, self.whole ++ (self.fraction_text ++ (self.power_text ++ rest))) := by
    rw [text, List.append_assoc, List.append_assoc, List.append_assoc]
    cases self.negative with
    | true => rfl
    | false =>
      rw [heq, if_neg Bool.false_ne_true, List.nil_append, List.cons_append, minus]
      rintro _ hhead
      rw [(List.cons.inj hhead).1] at hdigit
      exact absurd hdigit (by decide)
  have hfloat : ¬(self.fraction = [] ∧ self.exponent = none) := by
    rintro ⟨hfraction, hexponent⟩
    obtain hne | hsome := self.pointed
    · exact hne hfraction
    · rw [Decimal.exponent, Option.map_eq_none_iff] at hexponent
      rw [hexponent] at hsome
      cases hsome
  rw [scan_number, hminus, self.whole_digits_text hrest, Option.bind_some]
  simp only [self.fraction_digits_text hrest, self.exponent_power_text hrest, if_neg hfloat]
  rfl

/-- No word begins like a number. -/
theorem scan_word_text : scan_word (self.text ++ rest) = none := by
  obtain ⟨c, cs, heq, -⟩ := self.whole_head
  have hdigit : c.isDigit := self.whole_digits c (heq ▸ List.mem_cons_self)
  have hne (d : Char) (hd : d.isDigit = false) : d ≠ c := by
    rintro rfl
    rw [hd] at hdigit
    cases hdigit
  unfold scan_word text
  rw [heq]
  split
  · simp [words, List.isPrefixOf, hne 'I' rfl]
  · simp [words, List.isPrefixOf, hne 'n' rfl, hne 't' rfl, hne 'f' rfl, hne 'N' rfl, hne 'I' rfl, hne '-' rfl]

end Decimal

/-! ## Escapes -/

namespace JsonDumps

/-- The last hexadecimal digits of a number behind a backslash. -/
def code_text (n : ℕ) : List Char := '\\' :: 'u' :: FixedWidth.digits 16 Nat.digitChar 4 n

/-- The escapes of `ensure_ascii=True`: beyond ASCII a character is written as one or two numbers of 16 bits. -/
def escape_ascii (c : Char) : List Char :=
  if c = '"' then ['\\', '"']
  else if c = '\\' then ['\\', '\\']
  else if c = '\n' then ['\\', 'n']
  else if c = '\r' then ['\\', 'r']
  else if c = '\t' then ['\\', 't']
  else if c.toNat = 8 then ['\\', 'b']
  else if c.toNat = 12 then ['\\', 'f']
  else if 32 ≤ c.toNat ∧ c.toNat ≤ 126 then [c]
  else if c.toNat < 0x10000 then code_text c.toNat
  else code_text (0xD800 + (c.toNat - 0x10000) / 0x400) ++ code_text (0xDC00 + (c.toNat - 0x10000) % 0x400)

/-- The forms in which a character is written. -/
inductive Escaped (c : Char) : List Char → Prop where
  | letter (letter : Char) (h : (letter, c) ∈ json_escapes) : Escaped c ['\\', letter]
  | code (h : c.toNat < 0x10000) : Escaped c (code_text c.toNat)
  | pair (h : 0x10000 ≤ c.toNat) :
      Escaped c (code_text (0xD800 + (c.toNat - 0x10000) / 0x400) ++ code_text (0xDC00 + (c.toNat - 0x10000) % 0x400))
  | plain (hquote : c ≠ '"') (hslash : c ≠ '\\') (hcontrol : 32 ≤ c.toNat) : Escaped c [c]

theorem char_eq_of_toNat {c d : Char} (h : c.toNat = d.toNat) : c = d := by
  rw [← Char.ofNat_toNat c, h, Char.ofNat_toNat]

theorem escaped_escape_ascii (c : Char) : Escaped c (escape_ascii c) := by
  unfold escape_ascii
  split
  · rename_i h
    exact .letter '"' (by simp [h, json_escapes])
  · rename_i hquote
    split
    · rename_i h
      exact .letter '\\' (by simp [h, json_escapes])
    · rename_i hslash
      split
      · rename_i h
        exact .letter 'n' (by simp [h, json_escapes])
      · split
        · rename_i h
          exact .letter 'r' (by simp [h, json_escapes])
        · split
          · rename_i h
            exact .letter 't' (by simp [h, json_escapes])
          · split
            · rename_i h
              exact .letter 'b' (by simp [char_eq_of_toNat (d := Char.ofNat 8) h, json_escapes])
            · split
              · rename_i h
                exact .letter 'f' (by simp [char_eq_of_toNat (d := Char.ofNat 12) h, json_escapes])
              · split
                · rename_i h
                  exact .plain hquote hslash h.1
                · split
                  · rename_i h
                    exact .code h
                  · rename_i h
                    exact .pair (not_lt.mp h)

theorem escaped_escape_char (c : Char) : Escaped c (PyJson.escape_char c) := by
  have hcode : ∀ n < 32, ['\\', 'u', '0', '0', Nat.digitChar (n / 16), Nat.digitChar (n % 16)] = code_text n := by
    decide
  unfold PyJson.escape_char
  split
  · rename_i h
    exact .letter '"' (by simp [h, json_escapes])
  · rename_i hquote
    split
    · rename_i h
      exact .letter '\\' (by simp [h, json_escapes])
    · rename_i hslash
      split
      · rename_i h
        exact .letter 'n' (by simp [h, json_escapes])
      · split
        · rename_i h
          exact .letter 'r' (by simp [h, json_escapes])
        · split
          · rename_i h
            exact .letter 't' (by simp [h, json_escapes])
          · split
            · rename_i h
              exact .letter 'b' (by simp [char_eq_of_toNat (d := Char.ofNat 8) h, json_escapes])
            · split
              · rename_i h
                exact .letter 'f' (by simp [char_eq_of_toNat (d := Char.ofNat 12) h, json_escapes])
              · split
                · rename_i h
                  rw [hcode _ h]
                  exact .code (h.trans (by decide))
                · rename_i h
                  exact .plain hquote hslash (not_lt.mp h)

variable {c : Char} {text : List Char}

theorem Escaped.head (h : Escaped c text) : ∃ d ds, text = d :: ds ∧ d ≠ '"' := by
  cases h with
  | plain hquote => exact ⟨c, [], rfl, hquote⟩
  | letter | code | pair => exact ⟨'\\', _, rfl, by decide⟩

theorem read_code_text {n : ℕ} (h : n < 16 ^ 4) (rest : List Char) :
    FixedWidth.read 16 hex_value 4 0 (FixedWidth.digits 16 Nat.digitChar 4 n ++ rest) = some (n, rest) := by
  rw [FixedWidth.read_digits (by decide) hex_value_digitChar, Nat.mul_zero, Nat.zero_add, Nat.mod_eq_of_lt h]

/-- A number that is no surrogate is not the first half of a pair. -/
theorem surrogate_pair_code_text {n : ℕ} (h : n < 0x10000) (hhigh : ¬(0xD800 ≤ n ∧ n < 0xDC00)) (rest : List Char) :
    surrogate_pair (code_text n ++ rest) = none := by
  rw [code_text, List.cons_append, List.cons_append, surrogate_pair, read_code_text h, Option.bind_some]
  dsimp only
  split
  · rw [Option.bind_eq_none_iff]
    intro low _
    exact if_neg fun hpair => hhigh hpair.1
  · rfl

theorem surrogate_pair_pair (h : 0x10000 ≤ c.toNat) (rest : List Char) :
    surrogate_pair (code_text (0xD800 + (c.toNat - 0x10000) / 0x400) ++
      code_text (0xDC00 + (c.toNat - 0x10000) % 0x400) ++ rest) = some (c, rest) := by
  have hlast : c.toNat < 0x110000 := by
    obtain hlow | ⟨-, hhigh⟩ := c.valid
    · exact hlow.trans (by decide)
    · exact hhigh
  have hsum : 0x10000 + (0xD800 + (c.toNat - 0x10000) / 0x400 - 0xD800) * 0x400 +
      (0xDC00 + (c.toNat - 0x10000) % 0x400 - 0xDC00) = c.toNat := by omega
  rw [List.append_assoc, code_text, List.cons_append, List.cons_append, surrogate_pair, read_code_text (by omega),
    Option.bind_some]
  change Option.bind (FixedWidth.read 16 hex_value 4 0 (FixedWidth.digits 16 Nat.digitChar 4 _ ++ rest)) _ = _
  rw [read_code_text (by omega), Option.bind_some, if_pos (by dsimp only; omega)]
  dsimp only
  rw [hsum, Char.ofNat_toNat]

/-- A character is read as what it was written for. -/
theorem char_unit_escaped (h : Escaped c text) (rest : List Char) : char_unit (text ++ rest) = some (c, rest) := by
  cases h with
  | letter letter h =>
    simp only [json_escapes, List.mem_cons, Prod.mk.injEq, List.not_mem_nil, or_false] at h
    obtain ⟨rfl, rfl⟩ | ⟨rfl, rfl⟩ | ⟨rfl, rfl⟩ | ⟨rfl, rfl⟩ | ⟨rfl, rfl⟩ | ⟨rfl, rfl⟩ | ⟨rfl, rfl⟩ | ⟨rfl, rfl⟩ := h <;>
      rfl
  | code h =>
    have hsurrogate : ¬(0xD800 ≤ c.toNat ∧ c.toNat < 0xDC00) := by
      obtain hlow | ⟨hhigh, -⟩ := c.valid
      · exact fun hpair => absurd hlow (not_lt.mpr hpair.1)
      · exact fun hpair => absurd hhigh (not_lt.mpr (hpair.2.le.trans (by decide)))
    rw [char_unit, surrogate_pair_code_text h hsurrogate, Option.none_or]
    exact code_escape_hex_text h rest
  | pair h => rw [char_unit, surrogate_pair_pair h, Option.some_or]
  | plain hquote hslash hcontrol =>
    have hpair : surrogate_pair (c :: rest) = none := by
      rw [surrogate_pair]
      rintro _ heq
      exact hslash (List.cons.inj heq).1
    rw [List.singleton_append, char_unit, hpair, Option.none_or, json_unit,
      if_neg (not_or.mpr ⟨hslash, not_lt.mpr hcontrol⟩)]
    exact fun _ _ hhead _ => hslash hhead

/-- An escaper whose texts are all read back. -/
def escaper (write : Char → List Char) (h : ∀ c, Escaped c (write c)) : Escaper where
  write := write
  legible _ := true
  head c := (h c).head
  reads c rest := by rw [char_unit_escaped (h c), if_pos rfl]

end JsonDumps

end larp
