import ActiveResponse.Core.Values

namespace larp

def TYPE_MAP : List (ℕ × String) :=
  [(1, "A"), (2, "NS"), (5, "CNAME"), (6, "SOA"), (10, "NULL"), (12, "PTR"), (15, "MX"), (16, "TXT"), (28, "AAAA"),
    (255, "ANY")]

/-- What `parse_dns_question` returns. -/
structure DnsItem where
  query : String
  query_type : String
  length : ℕ
  timestamp : String

/-- `label.decode("ascii", errors="ignore")`. -/
def decode_ascii (label : List UInt8) : String :=
  String.ofList ((label.filter fun byte => byte < 128).map fun byte => Char.ofNat byte.toNat)

/-- `struct.unpack("!H", payload[offset:offset + 2])`. -/
def unpack_u16 (payload : List UInt8) (offset : ℕ) : ℕ :=
  256 * (payload.getD offset 0).toNat + (payload.getD (offset + 1) 0).toNat

/-- The loop over the labels, from the offset on: the labels, and the offset at which it ends. -/
def read_labels (payload : List UInt8) (offset : ℕ) : List String × ℕ :=
  if h : offset < payload.length then
    let length := payload[offset].toNat
    if length = 0 then ([], offset + 1)
    -- A compression pointer, or invalid: the offset stays on it.
    else if 63 < length then ([], offset)
    else
      let (labels, last) := read_labels payload (offset + 1 + length)
      (decode_ascii ((payload.drop (offset + 1)).take length) :: labels, last)
  else ([], offset)
termination_by payload.length - offset

def type_name (qtype_id : ℕ) : String := (TYPE_MAP.lookup qtype_id).getD ("TYPE_" ++ toString qtype_id)

/-- `parse_dns_question`. -/
def parse_dns_question (now : Time) (payload : List UInt8) : Option DnsItem :=
  if payload.length < 12 then none
  else if unpack_u16 payload 4 < 1 then none
  else
    let (labels, offset) := read_labels payload 12
    let qname := ".".intercalate labels
    some {
      query := qname
      query_type := if offset + 4 ≤ payload.length then type_name (unpack_u16 payload offset) else "A"
      length := qname.length
      timestamp := isoformat now }

/-! ## Complete questions -/

/-- The two bytes of a 16-bit field. -/
def pack_u16 (value : UInt16) : List UInt8 := [UInt8.ofNat (value.toNat / 256), UInt8.ofNat value.toNat]

/-- Labels on the wire, with their lengths before them and a zero byte at the end. -/
def wire_name : List (List UInt8) → List UInt8
  | [] => [0]
  | label :: labels => UInt8.ofNat label.length :: label ++ wire_name labels

/-- A message with a complete question. -/
structure WireQuestion where
  header : List UInt8
  labels : List (List UInt8)
  qtype : UInt16
  qclass : UInt16
  trailer : List UInt8
  header_length : header.length = 12
  qdcount : 1 ≤ unpack_u16 header 4
  label_length : ∀ label ∈ labels, 1 ≤ label.length ∧ label.length ≤ 63

namespace WireQuestion

def encode (self : WireQuestion) : List UInt8 :=
  self.header ++ (wire_name self.labels ++ (pack_u16 self.qtype ++ (pack_u16 self.qclass ++ self.trailer)))

/-- What the question asks for. -/
def item (self : WireQuestion) (now : Time) : DnsItem where
  query := ".".intercalate (self.labels.map decode_ascii)
  query_type := type_name self.qtype.toNat
  length := (".".intercalate (self.labels.map decode_ascii)).length
  timestamp := isoformat now

end WireQuestion

/-- A pass of the loop on a byte of the payload. -/
theorem read_labels_step {payload : List UInt8} {offset : ℕ} {byte : UInt8} (h : payload[offset]? = some byte) :
    read_labels payload offset =
      if byte.toNat = 0 then ([], offset + 1)
      else if 63 < byte.toNat then ([], offset)
      else
        (decode_ascii ((payload.drop (offset + 1)).take byte.toNat) ::
            (read_labels payload (offset + 1 + byte.toNat)).1,
          (read_labels payload (offset + 1 + byte.toNat)).2) := by
  obtain ⟨hlt, rfl⟩ := List.getElem?_eq_some_iff.mp h
  rw [read_labels, dif_pos hlt]

/-- The loop reads a name of the wire, and ends behind its zero byte. -/
theorem read_labels_wire_name {labels : List (List UInt8)}
    (hlabels : ∀ label ∈ labels, 1 ≤ label.length ∧ label.length ≤ 63) (before rest : List UInt8) :
    read_labels (before ++ (wire_name labels ++ rest)) before.length =
      (labels.map decode_ascii, before.length + (wire_name labels).length) := by
  induction labels generalizing before with
  | nil =>
    have hzero : (before ++ (wire_name [] ++ rest))[before.length]? = some 0 := by simp [wire_name]
    rw [read_labels_step hzero]
    simp [wire_name]
  | cons label labels ih =>
    obtain ⟨hpos, hmax⟩ := hlabels label List.mem_cons_self
    have hbyte : (UInt8.ofNat label.length).toNat = label.length := by
      rw [UInt8.toNat_ofNat']
      omega
    have hget : (before ++ (wire_name (label :: labels) ++ rest))[before.length]? =
        some (UInt8.ofNat label.length) := by simp [wire_name]
    have hlabel : ((before ++ (wire_name (label :: labels) ++ rest)).drop (before.length + 1)).take label.length =
        label := by
      rw [← List.drop_drop, List.drop_left]
      simp [wire_name]
    have hsplit : before ++ (wire_name (label :: labels) ++ rest) =
        (before ++ UInt8.ofNat label.length :: label) ++ (wire_name labels ++ rest) := by simp [wire_name]
    have hoffset : before.length + 1 + label.length = (before ++ UInt8.ofNat label.length :: label).length := by
      simp only [List.length_append, List.length_cons]
      omega
    rw [read_labels_step hget, hbyte, if_neg (by omega), if_neg (by omega), hlabel, hoffset, hsplit,
      ih fun other hother => hlabels other (List.mem_cons_of_mem _ hother)]
    simp only [List.map_cons, wire_name, List.length_append, List.length_cons, Prod.mk.injEq, true_and]
    omega

/-- A 16-bit field is read as it has been written. -/
theorem unpack_u16_pack (value : UInt16) (before rest : List UInt8) :
    unpack_u16 (before ++ (pack_u16 value ++ rest)) before.length = value.toNat := by
  have hvalue : value.toNat < 65536 := value.toNat_lt
  have hsecond : before.length.succ - before.length = 1 := by omega
  simp only [unpack_u16, pack_u16, List.getD_eq_getElem?_getD, List.getElem?_append_right (Nat.le_refl _),
    List.getElem?_append_right (Nat.le_succ _), Nat.sub_self, hsecond, List.cons_append, List.nil_append,
    List.getElem?_cons_zero, List.getElem?_cons_succ, Option.getD_some, UInt8.toNat_ofNat']
  omega

theorem unpack_u16_append {before : List UInt8} {offset : ℕ} (h : offset + 1 < before.length) (rest : List UInt8) :
    unpack_u16 (before ++ rest) offset = unpack_u16 before offset := by
  simp only [unpack_u16, List.getD_eq_getElem?_getD, List.getElem?_append_left h,
    List.getElem?_append_left (Nat.lt_of_succ_lt h)]

/-- Any two bytes are a 16-bit field. -/
theorem exists_pack_u16 (first second : UInt8) : ∃ value, pack_u16 value = [first, second] := by
  have hfirst : first.toNat < 256 := first.toNat_lt
  have hsecond : second.toNat < 256 := second.toNat_lt
  refine ⟨UInt16.ofNat (256 * first.toNat + second.toNat), ?_⟩
  have hvalue : (UInt16.ofNat (256 * first.toNat + second.toNat)).toNat = 256 * first.toNat + second.toNat := by
    rw [UInt16.toNat_ofNat']
    omega
  have hhigh : UInt8.ofNat ((256 * first.toNat + second.toNat) / 256) = first := by
    rw [← UInt8.toNat_inj, UInt8.toNat_ofNat']
    omega
  have hlow : UInt8.ofNat (256 * first.toNat + second.toNat) = second := by
    rw [← UInt8.toNat_inj, UInt8.toNat_ofNat']
    omega
  rw [pack_u16, hvalue, hhigh, hlow]

/-- A message with a header whose count of questions is positive is never refused. -/
theorem isSome_parse_dns_question_iff (now : Time) (payload : List UInt8) :
    (parse_dns_question now payload).isSome ↔ 12 ≤ payload.length ∧ 1 ≤ unpack_u16 payload 4 := by
  unfold parse_dns_question
  split
  · simp
    omega
  · split
    · simp
      omega
    · simp
      omega

/-- A complete question is read as what it asks for. -/
theorem parse_encode (self : WireQuestion) (now : Time) :
    parse_dns_question now self.encode = some (self.item now) := by
  have hheader := self.header_length
  have hcount : unpack_u16 self.encode 4 = unpack_u16 self.header 4 :=
    unpack_u16_append (by omega) _
  have hread := read_labels_wire_name self.label_length self.header
    (pack_u16 self.qtype ++ (pack_u16 self.qclass ++ self.trailer))
  have htype : unpack_u16 self.encode (self.header.length + (wire_name self.labels).length) = self.qtype.toNat := by
    rw [WireQuestion.encode, ← List.append_assoc, ← List.length_append]
    exact unpack_u16_pack self.qtype (self.header ++ wire_name self.labels) (pack_u16 self.qclass ++ self.trailer)
  have hlength : self.encode.length =
      self.header.length + (wire_name self.labels).length + 4 + self.trailer.length := by
    simp only [WireQuestion.encode, pack_u16, List.length_append, List.length_cons, List.length_nil]
    omega
  have hroom : self.header.length + (wire_name self.labels).length + 4 ≤ self.encode.length := by omega
  have hqdcount := self.qdcount
  rw [parse_dns_question, if_neg (by omega), if_neg (by omega), ← hheader]
  rw [WireQuestion.encode] at htype hroom ⊢
  simp only [hread, htype, hroom, if_true, WireQuestion.item]

/-- A header with a positive count of questions, labels of 1 to 63 bytes with a zero byte behind them, and at least
four more bytes. -/
def Complete (payload : List UInt8) : Prop :=
  ∃ header labels rest, payload = header ++ (wire_name labels ++ rest) ∧ header.length = 12 ∧
    1 ≤ unpack_u16 header 4 ∧ (∀ label ∈ labels, 1 ≤ label.length ∧ label.length ≤ 63) ∧ 4 ≤ rest.length

theorem complete_iff {payload : List UInt8} :
    Complete payload ↔ ∃ question : WireQuestion, payload = question.encode := by
  constructor
  · rintro ⟨header, labels, rest, rfl, hheader, hcount, hlabels, hrest⟩
    match rest with
    | first :: second :: third :: fourth :: trailer =>
      obtain ⟨qtype, hqtype⟩ := exists_pack_u16 first second
      obtain ⟨qclass, hqclass⟩ := exists_pack_u16 third fourth
      refine ⟨⟨header, labels, qtype, qclass, trailer, hheader, hcount, hlabels⟩, ?_⟩
      simp only [WireQuestion.encode, hqtype, hqclass, List.cons_append, List.nil_append]
    | [] | [_] | [_, _] | [_, _, _] => simp at hrest
  · rintro ⟨question, rfl⟩
    refine ⟨_, _, _, rfl, question.header_length, question.qdcount, question.label_length, ?_⟩
    simp only [pack_u16, List.length_append, List.length_cons, List.length_nil]
    omega

/-- The parser accepts the payload if it has a complete question, and returns nothing but what that asks for. -/
def AcceptsComplete (now : Time) (payload : List UInt8) : Prop :=
  ((parse_dns_question now payload).isSome ↔ Complete payload) ∧
    ∀ item, parse_dns_question now payload = some item →
      ∃ question : WireQuestion, payload = question.encode ∧ item = question.item now

theorem Complete.header {payload : List UInt8} (h : Complete payload) :
    12 ≤ payload.length ∧ 1 ≤ unpack_u16 payload 4 := by
  obtain ⟨question, rfl⟩ := complete_iff.mp h
  rw [← isSome_parse_dns_question_iff 0, parse_encode]
  rfl

/-- The name of a complete question begins with the length of a label, or with the zero byte. -/
theorem Complete.first_byte {payload : List UInt8} (h : Complete payload) :
    ∃ byte, payload[12]? = some byte ∧ byte.toNat ≤ 63 := by
  obtain ⟨header, labels, rest, rfl, hheader, -, hlabels, -⟩ := h
  rw [List.getElem?_append_right (by omega), hheader]
  cases labels with
  | nil => exact ⟨0, rfl, by decide⟩
  | cons label labels =>
    refine ⟨UInt8.ofNat label.length, rfl, ?_⟩
    have hmax := (hlabels label List.mem_cons_self).2
    rw [UInt8.toNat_ofNat']
    omega

/-- A header that announces a question is all that the parser checks. -/
theorem acceptsComplete_iff (now : Time) (payload : List UInt8) :
    AcceptsComplete now payload ↔ payload.length < 12 ∨ unpack_u16 payload 4 = 0 ∨ Complete payload := by
  unfold AcceptsComplete
  rw [isSome_parse_dns_question_iff]
  constructor
  · intro h
    by_cases hshort : payload.length < 12
    · exact .inl hshort
    · by_cases hnone : unpack_u16 payload 4 = 0
      · exact .inr (.inl hnone)
      · exact .inr (.inr (h.1.mp (by omega)))
  · intro h
    have hcomplete (hheader : 12 ≤ payload.length ∧ 1 ≤ unpack_u16 payload 4) : Complete payload := by
      obtain hshort | hnone | hcomplete := h
      · omega
      · omega
      · exact hcomplete
    refine ⟨⟨hcomplete, Complete.header⟩, fun item hitem => ?_⟩
    have hheader := (isSome_parse_dns_question_iff now payload).mp (by rw [hitem]; rfl)
    obtain ⟨question, rfl⟩ := complete_iff.mp (hcomplete hheader)
    rw [parse_encode, Option.some.injEq] at hitem
    exact ⟨question, rfl, hitem.symm⟩

/-- A question whose name is a compression pointer. -/
def pointer_question : List UInt8 := [0, 1, 1, 0, 0, 1, 0, 0, 0, 0, 0, 0, 0xC0, 0x0C, 0, 1, 0, 1]

/-- The parser takes the pointer for the type of a question with an empty name. -/
theorem not_acceptsComplete_pointer_question : ¬ ∀ now, AcceptsComplete now pointer_question := by
  intro h
  have haccepted : (parse_dns_question 0 pointer_question).isSome :=
    (isSome_parse_dns_question_iff 0 pointer_question).mpr (by decide)
  obtain ⟨byte, hbyte, hmax⟩ := ((h 0).1.mp haccepted).first_byte
  have hpointer : byte = 0xC0 := (Option.some.inj hbyte).symm
  rw [hpointer] at hmax
  exact absurd hmax (by decide)

/-! ## The round trip -/

/-- `label.encode("ascii")`. -/
def encode_ascii (label : String) : List UInt8 := label.toList.map fun c => UInt8.ofNat c.toNat

/-- A question whose labels are ASCII texts, with the header before it and what follows it in the message. -/
structure DnsQuestion where
  header : List UInt8
  labels : List String
  qtype : UInt16
  qclass : UInt16
  trailer : List UInt8 := []
  header_length : header.length = 12
  qdcount : 1 ≤ unpack_u16 header 4
  ascii : ∀ label ∈ labels, ∀ c ∈ label.toList, c.toNat < 128
  label_length : ∀ label ∈ labels, 1 ≤ label.length ∧ label.length ≤ 63

/-- An ASCII text is read back from its bytes. -/
theorem decode_encode_ascii {label : String} (h : ∀ c ∈ label.toList, c.toNat < 128) :
    decode_ascii (encode_ascii label) = label := by
  have hbyte : ∀ c ∈ label.toList, (UInt8.ofNat c.toNat).toNat = c.toNat := by
    intro c hc
    have hsmall := h c hc
    rw [UInt8.toNat_ofNat']
    omega
  have hkept : (encode_ascii label).filter (fun byte => byte < 128) = encode_ascii label := by
    refine List.filter_eq_self.mpr fun byte hmem => ?_
    obtain ⟨c, hc, rfl⟩ := List.mem_map.mp hmem
    rw [decide_eq_true_eq, UInt8.lt_iff_toNat_lt, hbyte c hc]
    exact h c hc
  have hchars : (encode_ascii label).map (fun byte => Char.ofNat byte.toNat) = label.toList := by
    rw [encode_ascii, List.map_map]
    refine (List.map_congr_left fun c hc => ?_).trans (List.map_id _)
    rw [Function.comp_apply, hbyte c hc, Char.ofNat_toNat, id]
  rw [decode_ascii, hkept, hchars, String.ofList_toList]

namespace DnsQuestion

/-- The question on the wire. -/
def wire (self : DnsQuestion) : WireQuestion where
  header := self.header
  labels := self.labels.map encode_ascii
  qtype := self.qtype
  qclass := self.qclass
  trailer := self.trailer
  header_length := self.header_length
  qdcount := self.qdcount
  label_length label hlabel := by
    obtain ⟨text, htext, rfl⟩ := List.mem_map.mp hlabel
    rw [encode_ascii, List.length_map, String.length_toList]
    exact self.label_length text htext

/-- The item of a question: its labels joined by dots, the length of that, and the name of its type. -/
def answer (self : DnsQuestion) (now : Time) : DnsItem where
  query := ".".intercalate self.labels
  query_type := (TYPE_MAP.lookup self.qtype.toNat).getD ("TYPE_" ++ toString self.qtype.toNat)
  length := (".".intercalate self.labels).length
  timestamp := isoformat now

/-- The labels of a question come back from the wire, whatever stands behind it in the message. -/
theorem parse_dns_question_wire (self : DnsQuestion) (now : Time) :
    parse_dns_question now self.wire.encode = some (self.answer now) := by
  have hlabels : (self.labels.map encode_ascii).map decode_ascii = self.labels := by
    rw [List.map_map]
    exact (List.map_congr_left fun label hlabel => decode_encode_ascii (self.ascii label hlabel)).trans (List.map_id _)
  rw [parse_encode, WireQuestion.item, answer, wire, hlabels]
  rfl

end DnsQuestion

/-- A question for the addresses of `a.example`, with two bytes behind it. -/
def example_question : DnsQuestion where
  header := [0, 1, 1, 0, 0, 1, 0, 0, 0, 0, 0, 0]
  labels := ["a", "example"]
  qtype := 28
  qclass := 1
  trailer := [0xC0, 0x0C]
  header_length := rfl
  qdcount := by decide
  ascii label hlabel c hc := by
    have hall : (["a", "example"].all fun label => label.toList.all fun c => c.toNat < 128) = true := by decide
    exact of_decide_eq_true (List.all_eq_true.mp (List.all_eq_true.mp hall label hlabel) c hc)
  label_length := by decide

example : example_question.wire.encode =
    [0, 1, 1, 0, 0, 1, 0, 0, 0, 0, 0, 0, 1, 97, 7, 101, 120, 97, 109, 112, 108, 101, 0, 0, 28, 0, 1, 0xC0, 0x0C] := by
  decide +kernel

end larp
