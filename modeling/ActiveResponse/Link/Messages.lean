import ActiveResponse.Agent.CppMessages
import ActiveResponse.Core.JsonDumps

namespace larp

open JsonDumps JsonWriter WinAgent

/-- `json.dumps` as the agents call it. -/
def json_dumps : JsonWriter where
  escape := escape_ascii
  escaped := escaped_escape_ascii
  blank := [' ']
  blanks _ h := List.mem_singleton.mp h

/-- `json.dumps` as the `send_json` of the manager calls it. -/
def send_json : JsonWriter where
  escape := PyJson.escape_char
  escaped := escaped_escape_char
  blank := []
  blanks _ h := nomatch h

section PyJson

variable (float_repr : ℚ → Decimal)

theorem numeral_float_text (value : PyFloat) :
    (∀ c ∈ float_text float_repr value, c ∈ "0123456789.e+-".toList) ∨
      float_text float_repr value ∈ ["NaN".toList, "Infinity".toList, "-Infinity".toList] := by
  have hdigit (c : Char) (h : c.isDigit) : c ∈ "0123456789.e+-".toList := by
    have hrange : 48 ≤ c.toNat ∧ c.toNat ≤ 57 := Char.isDigit_iff_toNat.mp h
    have hall : (List.range' 48 10).all fun n => Char.ofNat n ∈ "0123456789.e+-".toList := by decide +kernel
    rw [← Char.ofNat_toNat c]
    exact of_decide_eq_true (List.all_eq_true.mp hall _ (List.mem_range'_1.mpr ⟨hrange.1, by omega⟩))
  have hmark : ∀ c ∈ ".e+-".toList, c ∈ "0123456789.e+-".toList := by simp
  match value with
  | .finite q => exact .inl (forall_mem_decimal hdigit hmark (float_repr q))
  | .inf false => exact .inr (List.mem_cons_of_mem _ List.mem_cons_self)
  | .inf true => exact .inr (List.mem_cons_of_mem _ (List.mem_cons_of_mem _ List.mem_cons_self))
  | .nan => exact .inr List.mem_cons_self

mutual

/-- A value with the text of its floats, as the Windows service reads it. -/
def py_json : LoadedJson → PyJson
  | .null => .null
  | .bool value => .bool value
  | .int value => .int value
  | .float value => .float ⟨float_text float_repr value, numeral_float_text float_repr value⟩
  | .str value => .str value
  | .arr values => .arr (py_json_values values)
  | .obj entries => .obj (py_json_entries entries)

def py_json_values : List LoadedJson → List PyJson
  | [] => []
  | value :: values => py_json value :: py_json_values values

def py_json_entries : List (String × LoadedJson) → List (String × PyJson)
  | [] => []
  | (key, value) :: entries => (key, py_json value) :: py_json_entries entries

end

variable {float_repr}

theorem dumps_values_py_json {values : List LoadedJson}
    (h : ∀ v ∈ values, send_json.dumps float_repr v = some (py_json float_repr v).dumps) :
    send_json.dumps_values float_repr values = some (PyJson.dumps_values (py_json_values float_repr values)) := by
  induction values with
  | nil => rfl
  | cons value values ih =>
    rw [JsonWriter.dumps_values, h value List.mem_cons_self, Option.bind_some,
      ih fun v hv => h v (List.mem_cons_of_mem _ hv)]
    rfl

theorem dumps_entries_py_json {entries : List (String × LoadedJson)}
    (h : ∀ e ∈ entries, send_json.dumps float_repr e.2 = some (py_json float_repr e.2).dumps) :
    send_json.dumps_entries float_repr entries = some (PyJson.dumps_entries (py_json_entries float_repr entries)) := by
  induction entries with
  | nil => rfl
  | cons entry entries ih =>
    rw [JsonWriter.dumps_entries, h entry List.mem_cons_self, Option.bind_some,
      ih fun e he => h e (List.mem_cons_of_mem _ he)]
    rfl

/-- The manager writes one text for the agents of either kind. -/
theorem dumps_py_json {value : LoadedJson} (h : Value float_repr value) :
    send_json.dumps float_repr value = some (py_json float_repr value).dumps := by
  induction h with
  | null => rfl
  | bool value => rfl
  | int h => rw [JsonWriter.dumps, if_neg (not_lt.mpr h)]; rfl
  | float _ => rfl
  | str value => rfl
  | arr _ ih => rw [JsonWriter.dumps, dumps_values_py_json ih]; rfl
  | obj _ _ ih => rw [JsonWriter.dumps, dumps_entries_py_json ih]; rfl

theorem send_json_py_json {value : LoadedJson} (h : Value float_repr value) :
    (send_json.dumps float_repr value).map utf8 = some (py_json float_repr value).send_json := by
  rw [dumps_py_json h]
  rfl

end PyJson

theorem code_text_printable (n : ℕ) : ∀ c ∈ code_text n, 32 ≤ c.toNat ∧ c.toNat ≤ 126 := by
  have hdigit : ∀ i < 16, 32 ≤ (Nat.digitChar i).toNat ∧ (Nat.digitChar i).toNat ≤ 126 := by decide
  intro c hc
  obtain rfl | rfl | hc := by simpa only [code_text, List.mem_cons] using hc
  · decide
  · decide
  · obtain ⟨i, hi, rfl⟩ := FixedWidth.exists_of_mem_digits (by decide) hc
    exact hdigit i hi

/-- The escapes of a character are printable, and the character itself is written only from 32 on. -/
theorem printable_of_escaped {c : Char} {text : List Char} (h : Escaped c text) :
    (∀ d ∈ text, 32 ≤ d.toNat ∧ d.toNat ≤ 126) ∨ (text = [c] ∧ 32 ≤ c.toNat) := by
  cases h with
  | letter letter h =>
    have hletters : ∀ p ∈ json_escapes, 32 ≤ p.1.toNat ∧ p.1.toNat ≤ 126 := by simp [json_escapes]
    exact .inl (List.forall_mem_cons.mpr ⟨by decide, List.forall_mem_singleton.mpr (hletters _ h)⟩)
  | code h => exact .inl (code_text_printable _)
  | pair h => exact .inl (List.forall_mem_append.mpr ⟨code_text_printable _, code_text_printable _⟩)
  | plain _ _ hcontrol => exact .inr ⟨rfl, hcontrol⟩

theorem escape_ascii_printable (c : Char) : ∀ d ∈ escape_ascii c, 32 ≤ d.toNat ∧ d.toNat ≤ 126 := by
  obtain h | ⟨hplain, -⟩ := printable_of_escaped (escaped_escape_ascii c)
  · exact h
  · -- Only the characters of ASCII are written as they are.
    have hrange : 32 ≤ c.toNat ∧ c.toNat ≤ 126 := by
      by_contra hnot
      unfold escape_ascii at hplain
      rw [if_neg hnot] at hplain
      split_ifs at hplain <;> cases hplain
    rw [hplain]
    exact List.forall_mem_singleton.mpr hrange

theorem escape_char_without_controls (c : Char) : ∀ d ∈ PyJson.escape_char c, 32 ≤ d.toNat := by
  obtain h | ⟨hplain, hcontrol⟩ := printable_of_escaped (escaped_escape_char c)
  · exact fun d hd => (h d hd).1
  · rw [hplain]
    exact List.forall_mem_singleton.mpr hcontrol

variable {float_repr : ℚ → Decimal}

theorem read_message_dumps (self : JsonWriter) {value : LoadedJson} (h : Value float_repr value) {text : List Char}
    (htext : self.dumps float_repr value = some text) : read_message (utf8 text) = some value := by
  rw [read_message, receive_text_utf8, Option.bind_some, loads_dumps h htext]

/-- Every value that one side writes is what the other side reads from the bytes of the message, which hold nothing
but printable ASCII on the way to the manager and no control characters on the way back. -/
theorem message_received {value : LoadedJson} (h : Value float_repr value) :
    (∃ text, json_dumps.dumps float_repr value = some text ∧ read_message (utf8 text) = some value ∧
      ∀ c ∈ text, 32 ≤ c.toNat ∧ c.toNat ≤ 126) ∧
    ∃ text, send_json.dumps float_repr value = some text ∧ read_message (utf8 text) = some value ∧
      ∀ c ∈ text, 32 ≤ c.toNat := by
  constructor
  · have hprintable (c : Char) (hlow : 32 ≤ c.toNat) (hhigh : c.toNat ≤ 126) : 32 ≤ c.toNat ∧ c.toNat ≤ 126 :=
      ⟨hlow, hhigh⟩
    obtain ⟨text, htext, hchars⟩ := dumps_of_value json_dumps hprintable escape_ascii_printable h
    exact ⟨text, htext, read_message_dumps json_dumps h htext, hchars⟩
  · obtain ⟨text, htext, hchars⟩ := dumps_of_value send_json (fun _ hlow _ => hlow) escape_char_without_controls h
    exact ⟨text, htext, read_message_dumps send_json h htext, hchars⟩

def one_half : Decimal where
  negative := false
  whole := ['0']
  fraction := ['5']
  power := none
  whole_digits := List.forall_mem_singleton.mpr rfl
  whole_head := ⟨'0', [], rfl, fun _ => rfl⟩
  fraction_digits := List.forall_mem_singleton.mpr rfl
  power_digits := nofun
  pointed := .inl (by decide)

theorem value_one_half : one_half.value = 1 / 2 := by
  simp [Decimal.value, one_half, Decimal.exponent, Nat.ofDigitChars]
  norm_num

theorem message_received_risk :
    let value : LoadedJson := .obj [("risk", .float (.finite (1 / 2))), ("name", .arr [.str "ü\n😀", .int (-7)])]
    ∃ text, json_dumps.dumps (fun _ => one_half) value = some text ∧ read_message (utf8 text) = some value ∧
      ∀ c ∈ text, 32 ≤ c.toNat ∧ c.toNat ≤ 126 := by
  have hrisk : PyFloat.of_rat one_half.value = .finite (1 / 2) := by
    have hlarge : (1 : ℚ) ≤ 2 ^ 970 := one_le_pow₀ (by norm_num)
    have hpower : (2 : ℚ) * 2 ^ 970 ≤ 2 ^ 1024 := by
      rw [← pow_succ']
      exact pow_le_pow_right₀ (by norm_num) (by norm_num)
    rw [value_one_half, PyFloat.of_rat, if_neg]
    rw [not_le, abs_of_pos (by norm_num)]
    generalize (2 : ℚ) ^ 970 = x, (2 : ℚ) ^ 1024 = y at hlarge hpower ⊢
    linarith only [hlarge, hpower]
  refine (message_received (.obj (by decide) (List.forall_mem_cons.mpr ⟨.float ?_,
    List.forall_mem_singleton.mpr (.arr ?_)⟩))).1
  · rintro q hq
    rw [← hq]
    exact hrisk
  · exact List.forall_mem_cons.mpr ⟨.str _, List.forall_mem_singleton.mpr (.int (by decide))⟩

end larp
