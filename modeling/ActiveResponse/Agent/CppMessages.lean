import ActiveResponse.Core.JsonForms

namespace larp

namespace WinAgent

/-! ## Bytes -/

/-- The bytes of a text. -/
def utf8 (cs : List Char) : List UInt8 := cs.flatMap String.utf8EncodeChar

/-- The bytes of a string literal. -/
def lit (s : String) : List UInt8 := utf8 s.toList

/-- `EscapeJson`. -/
def escape_json (s : List UInt8) : List UInt8 :=
  s.flatMap fun c =>
    if c = '"'.toUInt8 then lit "\\\""
    else if c = '\\'.toUInt8 then lit "\\\\"
    else if c = '\n'.toUInt8 then lit "\\n"
    else if c = '\r'.toUInt8 then lit "\\r"
    else if c = '\t'.toUInt8 then lit "\\t"
    else [c]

/-- `EscapeJson` of a valid text. -/
def escaped (s : String) : List UInt8 := escape_json (utf8 s.toList)

/-- An integer in decimal digits. -/
def decimal (n : ℤ) : List UInt8 := utf8 (PyJson.int_text n)

/-- `websocket.receive_text()`: nothing if the bytes are not valid UTF-8. -/
def receive_text (bytes : List UInt8) : Option (List Char) := bytes.toByteArray.utf8Decode?.map Array.toList

/-- What the endpoint makes of a message. -/
def read_message (bytes : List UInt8) : Option LoadedJson := (receive_text bytes).bind JsonLoads.loads

/-! ## Messages -/

/-- `struct ProcessInfo`. -/
structure ProcessInfo where
  pid : UInt32
  ppid : UInt32
  name : String
  exe : String
  cmdline : String

/-- `struct NetConn`. -/
structure NetConn where
  pid : UInt32
  process_name : String
  src_ip : String
  dst_ip : String
  src_port : Int32
  dst_port : Int32
  protocol : String

def list_entry (p : ProcessInfo) : List UInt8 :=
  lit "\x7b\"pid\":" ++ decimal p.pid.toNat ++
  lit ",\"ppid\":" ++ decimal p.ppid.toNat ++
  lit ",\"name\":\"" ++ escaped p.name ++ lit "\"" ++
  lit ",\"exe\":\"" ++ escaped p.exe ++ lit "\"" ++
  lit ",\"cmdline\":\"" ++ escaped p.cmdline ++ lit "\"" ++
  lit ",\"is_suspicious\":false\x7d"

/-- `BuildProcessList`. -/
def build_process_list (agent_id : String) (procs : List ProcessInfo) (time : Int64) : List UInt8 :=
  lit "\x7b\"type\":\"PROCESS_LIST\",\"payload\":\x7b" ++
  lit "\"agent_id\":\"" ++ escaped agent_id ++ lit "\"," ++
  lit "\"processes\":[" ++
  (lit ",").intercalate (procs.map list_entry) ++
  lit "],\"timestamp\":" ++ decimal time.toInt ++ lit "\x7d\x7d"

def telemetry_entry (p : ProcessInfo) : List UInt8 :=
  lit "\x7b\"pid\":" ++ decimal p.pid.toNat ++ lit ",\"ppid\":" ++ decimal p.ppid.toNat ++
  lit ",\"name\":\"" ++ escaped p.name ++ lit "\"" ++
  lit ",\"exe\":\"" ++ escaped p.exe ++ lit "\"" ++
  lit ",\"cmdline\":\"" ++ escaped p.cmdline ++ lit "\"\x7d"

def connection_entry (conn : NetConn) : List UInt8 :=
  lit "\x7b\"pid\":" ++ decimal conn.pid.toNat ++
  lit ",\"process_name\":\"" ++ escaped conn.process_name ++ lit "\"" ++
  lit ",\"src_ip\":\"" ++ escaped conn.src_ip ++ lit "\"" ++
  lit ",\"src_port\":" ++ decimal conn.src_port.toInt ++
  lit ",\"dst_ip\":\"" ++ escaped conn.dst_ip ++ lit "\"" ++
  lit ",\"dst_port\":" ++ decimal conn.dst_port.toInt ++
  lit ",\"protocol\":\"" ++ escaped conn.protocol ++ lit "\"\x7d"

/-- `BuildTelemetry`. -/
def build_telemetry (agent_id : String) (procs : List ProcessInfo) (conns : List NetConn) (time : Int64) : List UInt8 :=
  lit "\x7b\"type\":\"TELEMETRY_RISK\",\"payload\":\x7b" ++
  lit "\"agent_id\":\"" ++ escaped agent_id ++ lit "\"," ++
  lit "\"platform\":\"windows\",\"process_list\":[" ++
  (lit ",").intercalate (procs.map telemetry_entry) ++
  lit "],\"network_connections\":[" ++
  (lit ",").intercalate (conns.map connection_entry) ++
  lit "],\"timestamp\":" ++ decimal time.toInt ++ lit "\x7d\x7d"

/-! ## Escaped characters -/

/-- The characters that are escaped, and the letters after the backslash. -/
def escapes : List (Char × Char) := [('"', '"'), ('\\', '\\'), ('\n', 'n'), ('\r', 'r'), ('\t', 't')]

/-- What is written for a character. -/
def escape_char (c : Char) : List Char :=
  match escapes.lookup c with
  | some letter => ['\\', letter]
  | none => [c]

theorem escape_char_plain {c : Char} (h : c ∉ ['"', '\\', '\n', '\r', '\t']) : escape_char c = [c] := by
  have hnone : escapes.lookup c = none := by
    rw [List.lookup_eq_none_iff]
    intro entry hentry
    have hkey : entry.1 ∈ ['"', '\\', '\n', '\r', '\t'] := List.mem_map_of_mem (f := Prod.fst) hentry
    rw [bne_iff_ne]
    rintro rfl
    exact h hkey
  rw [escape_char, hnone]

/-- The escapes one by one, and a character that has none. -/
theorem escape_char_cases {P : Char → List Char → Prop} (hquote : P '"' ['\\', '"']) (hslash : P '\\' ['\\', '\\'])
    (hnewline : P '\n' ['\\', 'n']) (hreturn : P '\r' ['\\', 'r']) (htab : P '\t' ['\\', 't'])
    (hplain : ∀ c, c ∉ ['"', '\\', '\n', '\r', '\t'] → P c [c]) (c : Char) : P c (escape_char c) := by
  by_cases h : c ∈ ['"', '\\', '\n', '\r', '\t']
  · simp only [List.mem_cons, List.not_mem_nil, or_false] at h
    obtain rfl | rfl | rfl | rfl | rfl := h
    · exact hquote
    · exact hslash
    · exact hnewline
    · exact hreturn
    · exact htab
  · rw [escape_char_plain h]
    exact hplain c h

theorem utf8_append (cs ds : List Char) : utf8 (cs ++ ds) = utf8 cs ++ utf8 ds := List.flatMap_append

theorem escape_json_append (s t : List UInt8) : escape_json (s ++ t) = escape_json s ++ escape_json t :=
  List.flatMap_append

/-- Beyond ASCII every byte has its highest bit set. -/
theorem high_of_mem_utf8EncodeChar {c : Char} (hc : 128 ≤ c.toNat) : ∀ b ∈ String.utf8EncodeChar c, 128 ≤ b.toNat := by
  have hhigh : ¬c.val.toNat ≤ 0x7f := not_le.mpr hc
  have hvalid : c.val.toNat < 0x110000 := by
    obtain hlow | ⟨-, hvalid⟩ := c.valid
    · exact hlow.trans (by decide)
    · exact hvalid
  intro b hb
  simp only [String.utf8EncodeChar, hhigh, if_false] at hb
  split at hb
  · simp only [List.mem_cons, List.not_mem_nil, or_false] at hb
    obtain rfl | rfl := hb <;> rw [UInt8.toNat_ofNat'] <;> omega
  · split at hb
    · simp only [List.mem_cons, List.not_mem_nil, or_false] at hb
      obtain rfl | rfl | rfl := hb <;> rw [UInt8.toNat_ofNat'] <;> omega
    · simp only [List.mem_cons, List.not_mem_nil, or_false] at hb
      obtain rfl | rfl | rfl | rfl := hb <;> rw [UInt8.toNat_ofNat'] <;> omega

/-- Bytes beyond ASCII stay as they are. -/
theorem escape_json_of_high {s : List UInt8} (h : ∀ b ∈ s, 128 ≤ b.toNat) : escape_json s = s := by
  induction s with
  | nil => rfl
  | cons b s ih =>
    rw [List.forall_mem_cons] at h
    have hne (c : UInt8) (hc : c.toNat < 128) : b ≠ c := by
      rintro rfl
      omega
    have hbyte : escape_json [b] = [b] := by
      rw [escape_json, List.flatMap_singleton, if_neg (hne _ (by decide)), if_neg (hne _ (by decide)),
        if_neg (hne _ (by decide)), if_neg (hne _ (by decide)), if_neg (hne _ (by decide))]
    rw [← List.singleton_append, escape_json_append, hbyte, ih h.2]

theorem escape_json_utf8EncodeChar (c : Char) : escape_json (String.utf8EncodeChar c) = utf8 (escape_char c) := by
  have hascii : ∀ n < 128, escape_json (String.utf8EncodeChar (Char.ofNat n)) = utf8 (escape_char (Char.ofNat n)) := by
    decide +kernel
  by_cases hc : c.toNat < 128
  · have h := hascii c.toNat hc
    rwa [Char.ofNat_toNat] at h
  · have hne (d : Char) (hd : d.toNat < 128) : c ≠ d := by
      rintro rfl
      exact hc hd
    have hplain : escape_char c = [c] :=
      escape_char_plain (by simp [hne '"' (by decide), hne '\\' (by decide), hne '\n' (by decide),
        hne '\r' (by decide), hne '\t' (by decide)])
    rw [escape_json_of_high (high_of_mem_utf8EncodeChar (not_lt.mp hc)), hplain, utf8, List.flatMap_singleton]

/-- Escaping the bytes of a text is escaping its characters. -/
theorem escape_json_utf8 (cs : List Char) : escape_json (utf8 cs) = utf8 (cs.flatMap escape_char) := by
  induction cs with
  | nil => rfl
  | cons c cs ih =>
    rw [List.flatMap_cons, utf8_append, ← ih, ← escape_json_utf8EncodeChar, ← escape_json_append]
    rfl

theorem receive_text_utf8 (cs : List Char) : receive_text (utf8 cs) = some cs := by
  have hbytes : (utf8 cs).toByteArray = cs.utf8Encode := rfl
  rw [receive_text, hbytes, List.utf8Decode?_utf8Encode]
  rfl

/-! ## What the endpoint reads -/

/-- A character that stands for itself, or is escaped. -/
def legible_char (c : Char) : Bool := 32 ≤ c.toNat ∨ c ∈ ['\n', '\r', '\t']

/-- A text without control characters, other than line ends and tabs. -/
def Legible (s : String) : Prop := ∀ c ∈ s.toList, 32 ≤ c.toNat ∨ c ∈ ['\n', '\r', '\t']

theorem char_unit_escape_char (c : Char) (rest : List Char) :
    JsonLoads.char_unit (escape_char c ++ rest) = if legible_char c then some (c, rest) else none := by
  refine escape_char_cases (P := fun c text => JsonLoads.char_unit (text ++ rest) =
    if legible_char c then some (c, rest) else none) rfl rfl rfl rfl rfl (fun c hc => ?_) c
  simp only [List.mem_cons, List.not_mem_nil, or_false, not_or] at hc
  obtain ⟨-, hslash, hnewline, hreturn, htab⟩ := hc
  have hpair : JsonLoads.surrogate_pair (c :: rest) = none := by
    rw [JsonLoads.surrogate_pair]
    rintro cs heq
    exact hslash (List.cons.inj heq).1
  have hlegible : legible_char c = decide (32 ≤ c.toNat) := by
    simp [legible_char, hnewline, hreturn, htab]
  rw [List.singleton_append, JsonLoads.char_unit, hpair, Option.none_or, json_unit, hlegible]
  · by_cases hcontrol : c.toNat < 32
    · rw [if_pos (.inr hcontrol), if_neg (by simpa using hcontrol)]
    · rw [if_neg (not_or.mpr ⟨hslash, hcontrol⟩), if_pos (decide_eq_true (not_lt.mp hcontrol))]
  · rintro _ _ hhead
    exact absurd hhead hslash

def escaper : JsonLoads.Escaper where
  write := escape_char
  legible := legible_char
  head := by
    refine escape_char_cases (P := fun _ text => ∃ d ds, text = d :: ds ∧ d ≠ '"') ⟨_, _, rfl, by decide⟩
      ⟨_, _, rfl, by decide⟩ ⟨_, _, rfl, by decide⟩ ⟨_, _, rfl, by decide⟩ ⟨_, _, rfl, by decide⟩ fun c hc => ?_
    exact ⟨c, [], rfl, fun heq => hc (by simp [heq])⟩
  reads := char_unit_escape_char

theorem length_toDigits_le {n : ℕ} (h : n < 10 ^ 20) : (Nat.toDigits 10 n).length ≤ 4300 :=
  ((Nat.length_toDigits_le_iff (by decide) (by decide)).mpr h).trans (by decide)

theorem length_digits_dword (n : UInt32) : (Nat.toDigits 10 (n.toNat : ℤ).natAbs).length ≤ 4300 := by
  refine length_toDigits_le ?_
  have hlt := n.toNat_lt
  omega

theorem length_digits_int32 (n : Int32) : (Nat.toDigits 10 n.toInt.natAbs).length ≤ 4300 := by
  refine length_toDigits_le ?_
  have hlt := n.toInt_lt
  have hle := n.le_toInt
  omega

theorem length_digits_int64 (n : Int64) : (Nat.toDigits 10 n.toInt.natAbs).length ≤ 4300 := by
  refine length_toDigits_le ?_
  have hlt := n.toInt_lt
  have hle := n.le_toInt
  omega

def dword (n : UInt32) : JsonForm := .int n.toNat (length_digits_dword n)

def int32 (n : Int32) : JsonForm := .int n.toInt (length_digits_int32 n)

def int64 (n : Int64) : JsonForm := .int n.toInt (length_digits_int64 n)

def text (s : String) : JsonForm := .str escaper s

def list_entry_form (p : ProcessInfo) : JsonForm :=
  .obj escaper [("pid", dword p.pid), ("ppid", dword p.ppid), ("name", text p.name), ("exe", text p.exe),
    ("cmdline", text p.cmdline), ("is_suspicious", .bool_false)]
    (show ["pid", "ppid", "name", "exe", "cmdline", "is_suspicious"].Nodup by decide)

def process_list_form (agent_id : String) (procs : List ProcessInfo) (time : Int64) : JsonForm :=
  .obj escaper [("type", text "PROCESS_LIST"), ("payload", .obj escaper [("agent_id", text agent_id),
    ("processes", .arr (procs.map list_entry_form)), ("timestamp", int64 time)]
    (show ["agent_id", "processes", "timestamp"].Nodup by decide))]
    (show ["type", "payload"].Nodup by decide)

def telemetry_entry_form (p : ProcessInfo) : JsonForm :=
  .obj escaper [("pid", dword p.pid), ("ppid", dword p.ppid), ("name", text p.name), ("exe", text p.exe),
    ("cmdline", text p.cmdline)]
    (show ["pid", "ppid", "name", "exe", "cmdline"].Nodup by decide)

def connection_entry_form (conn : NetConn) : JsonForm :=
  .obj escaper [("pid", dword conn.pid), ("process_name", text conn.process_name), ("src_ip", text conn.src_ip),
    ("src_port", int32 conn.src_port), ("dst_ip", text conn.dst_ip), ("dst_port", int32 conn.dst_port),
    ("protocol", text conn.protocol)]
    (show ["pid", "process_name", "src_ip", "src_port", "dst_ip", "dst_port", "protocol"].Nodup by decide)

def telemetry_form (agent_id : String) (procs : List ProcessInfo) (conns : List NetConn) (time : Int64) : JsonForm :=
  .obj escaper [("type", text "TELEMETRY_RISK"), ("payload", .obj escaper [("agent_id", text agent_id),
    ("platform", text "windows"), ("process_list", .arr (procs.map telemetry_entry_form)),
    ("network_connections", .arr (conns.map connection_entry_form)), ("timestamp", int64 time)]
    (show ["agent_id", "platform", "process_list", "network_connections", "timestamp"].Nodup by decide))]
    (show ["type", "payload"].Nodup by decide)

/-! ## The messages as texts -/

theorem utf8_listed {A : Type} (text : A → List Char) (items : List A) :
    utf8 (JsonForm.listed text items) = (lit ",").intercalate (items.map fun a => utf8 (text a)) := by
  induction items with
  | nil => rfl
  | cons a items ih =>
    cases items with
    | nil => rw [JsonForm.listed_singleton, List.map_singleton, List.intercalate_singleton]
    | cons b items =>
      rw [List.map_cons] at ih
      rw [JsonForm.listed_cons_cons, List.map_cons, List.map_cons, List.intercalate_cons_cons, ← ih, lit,
        List.append_assoc, ← utf8_append, ← utf8_append]
      rfl

theorem list_entry_eq (p : ProcessInfo) : list_entry p = utf8 (list_entry_form p).text := by
  delta list_entry
  simp only [lit, escaped, decimal, escape_json_utf8, ← utf8_append]
  refine congrArg utf8 ?_
  simp [list_entry_form, JsonForm.entry_text, JsonLoads.Escaper.quoted, escaper, escape_char, escapes,
    List.lookup_cons, dword, text]

theorem telemetry_entry_eq (p : ProcessInfo) : telemetry_entry p = utf8 (telemetry_entry_form p).text := by
  delta telemetry_entry
  simp only [lit, escaped, decimal, escape_json_utf8, ← utf8_append]
  refine congrArg utf8 ?_
  simp [telemetry_entry_form, JsonForm.entry_text, JsonLoads.Escaper.quoted, escaper, escape_char, escapes,
    List.lookup_cons, dword, text]

theorem connection_entry_eq (conn : NetConn) : connection_entry conn = utf8 (connection_entry_form conn).text := by
  delta connection_entry
  simp only [lit, escaped, decimal, escape_json_utf8, ← utf8_append]
  refine congrArg utf8 ?_
  simp [connection_entry_form, JsonForm.entry_text, JsonLoads.Escaper.quoted, escaper, escape_char, escapes,
    List.lookup_cons, dword, int32, text]

/-- What stands between the brackets of an array. -/
theorem intercalate_eq {A : Type} {entry : A → List UInt8} {form : A → JsonForm}
    (h : ∀ a, entry a = utf8 (form a).text) (items : List A) :
    (lit ",").intercalate (items.map entry) = utf8 (JsonForm.listed JsonForm.text (items.map form)) := by
  rw [utf8_listed, List.map_map]
  exact congrArg _ (List.map_congr_left fun a _ => h a)

theorem build_process_list_eq (agent_id : String) (procs : List ProcessInfo) (time : Int64) :
    build_process_list agent_id procs time = utf8 (process_list_form agent_id procs time).text := by
  delta build_process_list
  rw [intercalate_eq list_entry_eq]
  simp only [lit, escaped, decimal, escape_json_utf8, ← utf8_append]
  refine congrArg utf8 ?_
  simp [process_list_form, JsonForm.entry_text, JsonLoads.Escaper.quoted, escaper, escape_char, escapes,
    List.lookup_cons, int64, text]

theorem build_telemetry_eq (agent_id : String) (procs : List ProcessInfo) (conns : List NetConn) (time : Int64) :
    build_telemetry agent_id procs conns time = utf8 (telemetry_form agent_id procs conns time).text := by
  delta build_telemetry
  rw [intercalate_eq telemetry_entry_eq, intercalate_eq connection_entry_eq]
  simp only [lit, escaped, decimal, escape_json_utf8, ← utf8_append]
  refine congrArg utf8 ?_
  simp [telemetry_form, JsonForm.entry_text, JsonLoads.Escaper.quoted, escaper, escape_char, escapes,
    List.lookup_cons, int64, text]

/-- A message is read as its value, unless one of its strings is refused. -/
theorem read_message_form (form : JsonForm) :
    read_message (utf8 form.text) = if form.legible then some form.value else none := by
  rw [read_message, receive_text_utf8, Option.bind_some, form.loads_text]

/-! ## The round trip -/

namespace ProcessInfo

def Legible (self : ProcessInfo) : Prop :=
  WinAgent.Legible self.name ∧ WinAgent.Legible self.exe ∧ WinAgent.Legible self.cmdline

/-- The process as the manager is to read it in a list of processes. -/
def in_list (self : ProcessInfo) : LoadedJson :=
  .obj [("pid", .int self.pid.toNat), ("ppid", .int self.ppid.toNat), ("name", .str self.name), ("exe", .str self.exe),
    ("cmdline", .str self.cmdline), ("is_suspicious", .bool false)]

def in_telemetry (self : ProcessInfo) : LoadedJson :=
  .obj [("pid", .int self.pid.toNat), ("ppid", .int self.ppid.toNat), ("name", .str self.name), ("exe", .str self.exe),
    ("cmdline", .str self.cmdline)]

end ProcessInfo

namespace NetConn

def Legible (self : NetConn) : Prop :=
  WinAgent.Legible self.process_name ∧ WinAgent.Legible self.src_ip ∧ WinAgent.Legible self.dst_ip ∧
    WinAgent.Legible self.protocol

def in_telemetry (self : NetConn) : LoadedJson :=
  .obj [("pid", .int self.pid.toNat), ("process_name", .str self.process_name), ("src_ip", .str self.src_ip),
    ("src_port", .int self.src_port.toInt), ("dst_ip", .str self.dst_ip), ("dst_port", .int self.dst_port.toInt),
    ("protocol", .str self.protocol)]

end NetConn

/-- The list of processes with all its texts unchanged. -/
def process_list (agent_id : String) (procs : List ProcessInfo) (time : Int64) : LoadedJson :=
  .obj [("type", .str "PROCESS_LIST"), ("payload", .obj [("agent_id", .str agent_id),
    ("processes", .arr (procs.map ProcessInfo.in_list)), ("timestamp", .int time.toInt)])]

/-- The telemetry with all its texts unchanged. -/
def telemetry (agent_id : String) (procs : List ProcessInfo) (conns : List NetConn) (time : Int64) : LoadedJson :=
  .obj [("type", .str "TELEMETRY_RISK"), ("payload", .obj [("agent_id", .str agent_id), ("platform", .str "windows"),
    ("process_list", .arr (procs.map ProcessInfo.in_telemetry)),
    ("network_connections", .arr (conns.map NetConn.in_telemetry)), ("timestamp", .int time.toInt)])]

theorem legible_text (s : String) : (text s).legible ↔ Legible s := by
  simp [text, escaper, legible_char, Legible]

theorem legible_list_entry (p : ProcessInfo) : (list_entry_form p).legible ↔ p.Legible := by
  rw [ProcessInfo.Legible, ← legible_text, ← legible_text, ← legible_text]
  simp [list_entry_form, JsonForm.entry_legible, dword, escaper, legible_char]

theorem legible_telemetry_entry (p : ProcessInfo) : (telemetry_entry_form p).legible ↔ p.Legible := by
  rw [ProcessInfo.Legible, ← legible_text, ← legible_text, ← legible_text]
  simp [telemetry_entry_form, JsonForm.entry_legible, dword, escaper, legible_char]

theorem legible_connection_entry (conn : NetConn) : (connection_entry_form conn).legible ↔ conn.Legible := by
  rw [NetConn.Legible, ← legible_text, ← legible_text, ← legible_text, ← legible_text]
  simp [connection_entry_form, JsonForm.entry_legible, dword, int32, escaper, legible_char]

theorem legible_process_list (agent_id : String) (procs : List ProcessInfo) (time : Int64) :
    (process_list_form agent_id procs time).legible ↔ Legible agent_id ∧ ∀ p ∈ procs, p.Legible := by
  have htype : (text "PROCESS_LIST").legible := by decide +kernel
  rw [← legible_text]
  simp only [← legible_list_entry]
  simp [process_list_form, JsonForm.entry_legible, int64, escaper, legible_char, htype]

theorem legible_telemetry (agent_id : String) (procs : List ProcessInfo) (conns : List NetConn) (time : Int64) :
    (telemetry_form agent_id procs conns time).legible ↔
      Legible agent_id ∧ (∀ p ∈ procs, p.Legible) ∧ ∀ conn ∈ conns, conn.Legible := by
  have htype : (text "TELEMETRY_RISK").legible := by decide +kernel
  have hplatform : (text "windows").legible := by decide +kernel
  rw [← legible_text]
  simp only [← legible_telemetry_entry, ← legible_connection_entry]
  simp [telemetry_form, JsonForm.entry_legible, int64, escaper, legible_char, htype, hplatform]

theorem value_process_list (agent_id : String) (procs : List ProcessInfo) (time : Int64) :
    (process_list_form agent_id procs time).value = process_list agent_id procs time := by
  have hprocs : (procs.map list_entry_form).map JsonForm.value = procs.map ProcessInfo.in_list := List.map_map
  simp only [process_list_form, process_list, JsonForm.obj_value, JsonForm.arr_value, List.map_cons, hprocs]
  rfl

theorem value_telemetry (agent_id : String) (procs : List ProcessInfo) (conns : List NetConn) (time : Int64) :
    (telemetry_form agent_id procs conns time).value = telemetry agent_id procs conns time := by
  have hprocs : (procs.map telemetry_entry_form).map JsonForm.value = procs.map ProcessInfo.in_telemetry := List.map_map
  have hconns : (conns.map connection_entry_form).map JsonForm.value = conns.map NetConn.in_telemetry := List.map_map
  simp only [telemetry_form, telemetry, JsonForm.obj_value, JsonForm.arr_value, List.map_cons, hprocs, hconns]
  rfl

/-- A message gives its value back exactly if it is legible. -/
theorem read_eq_some_iff (form : JsonForm) : read_message (utf8 form.text) = some form.value ↔ form.legible := by
  rw [read_message_form]
  cases form.legible <;> simp

theorem quoted_eq (s : String) : lit "\"" ++ escaped s ++ lit "\"" = utf8 (text s).text := by
  simp only [lit, escaped, escape_json_utf8, ← utf8_append]
  rfl

/-- The manager reads a text, a list of processes and telemetry as they were written exactly if no text has a control
character other than line ends and tabs. -/
theorem messages_read_iff (s agent_id : String) (procs : List ProcessInfo) (conns : List NetConn) (time : Int64) :
    (read_message (lit "\"" ++ escaped s ++ lit "\"") = some (.str s) ↔ Legible s) ∧
      (read_message (build_process_list agent_id procs time) = some (process_list agent_id procs time) ↔
        Legible agent_id ∧ ∀ p ∈ procs, p.Legible) ∧
      (read_message (build_telemetry agent_id procs conns time) = some (telemetry agent_id procs conns time) ↔
        Legible agent_id ∧ (∀ p ∈ procs, p.Legible) ∧ ∀ conn ∈ conns, conn.Legible) := by
  refine ⟨?_, ?_, ?_⟩
  · rw [quoted_eq, ← legible_text]
    exact read_eq_some_iff (text s)
  · rw [build_process_list_eq, ← value_process_list, ← legible_process_list, read_eq_some_iff]
  · rw [build_telemetry_eq, ← value_telemetry, ← legible_telemetry, read_eq_some_iff]

/-- A process whose command line has the control character 1 in it. -/
def control_in_cmdline : ProcessInfo where
  pid := 7
  ppid := 1
  name := "sh"
  exe := ""
  cmdline := String.ofList [Char.ofNat 1]

/-- Its text is no string of JSON, and the manager refuses the whole list. -/
theorem not_read_control :
    read_message (lit "\"" ++ escaped control_in_cmdline.cmdline ++ lit "\"") = none ∧
      read_message (build_process_list "web-1" [control_in_cmdline] 0) = none := by
  have hcmdline : (text control_in_cmdline.cmdline).legible = false := by decide +kernel
  have hlist : (process_list_form "web-1" [control_in_cmdline] 0).legible = false := by decide +kernel
  rw [quoted_eq, build_process_list_eq, read_message_form, read_message_form, hcmdline, hlist]
  exact ⟨rfl, rfl⟩

end WinAgent

end larp
