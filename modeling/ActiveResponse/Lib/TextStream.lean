import Mathlib.Algebra.Order.Ring.Nat
import Mathlib.Data.List.Basic

universe u v

namespace TextStream

/-! ## Pieces between separators, across a concatenation -/

section Pieces

variable {α : Type u} {β : Type v} {p : α → Bool}

/-- What follows the last separator. -/
def last_piece (p : α → Bool) (xs : List α) : List α := (xs.splitOnP p).getLastD []

/-- What precedes the first separator. -/
def first_piece (p : α → Bool) (xs : List α) : List α := (xs.splitOnP p).headD []

theorem splitOnP_eq_first (xs : List α) : xs.splitOnP p = first_piece p xs :: (xs.splitOnP p).tail := by
  obtain ⟨piece, pieces, hsplit⟩ := List.exists_cons_of_ne_nil (List.splitOnP_ne_nil p xs)
  rw [first_piece, hsplit]
  rfl

theorem splitOnP_eq_last (xs : List α) : xs.splitOnP p = (xs.splitOnP p).dropLast ++ [last_piece p xs] := by
  have hne := List.splitOnP_ne_nil p xs
  rw [last_piece, List.getLastD_eq_getLast?, List.getLast?_eq_some_getLast hne, Option.getD_some,
    List.dropLast_concat_getLast]

/-- Where two texts meet, the last piece of the one and the first piece of the other are one piece. -/
theorem splitOnP_append (xs ys : List α) :
    (xs ++ ys).splitOnP p =
      (xs.splitOnP p).dropLast ++ (last_piece p xs ++ first_piece p ys) :: (ys.splitOnP p).tail := by
  induction xs with
  | nil => exact splitOnP_eq_first ys
  | cons x xs ih =>
    obtain ⟨piece, pieces, hsplit⟩ := List.exists_cons_of_ne_nil (List.splitOnP_ne_nil p xs)
    simp only [List.cons_append, List.splitOnP_cons_eq_if_modifyHead, ih, last_piece, hsplit]
    by_cases hx : p x
    · simp [hx]
    · cases pieces <;> simp [hx]

/-- What is found piece by piece in a text that was cut is found in its two parts if and only if the cut has changed
nothing in the piece that it went through. -/
theorem flatMap_splitOnP_append {f : List α → List β} (xs ys : List α) :
    ((xs ++ ys).splitOnP p).flatMap f = (xs.splitOnP p).flatMap f ++ (ys.splitOnP p).flatMap f ↔
      f (last_piece p xs ++ first_piece p ys) = f (last_piece p xs) ++ f (first_piece p ys) := by
  rw [splitOnP_append]
  conv_lhs => rhs; rw [splitOnP_eq_last xs, splitOnP_eq_first ys]
  simp only [List.flatMap_append, List.flatMap_cons, List.flatMap_nil, List.append_nil, List.append_assoc,
    List.append_cancel_left_eq]
  rw [← List.append_assoc, List.append_cancel_right_eq]

end Pieces

/-! ## UTF-8, with errors ignored -/

/-- A UTF-8 sequence that has begun: how many bytes follow the next one, the range of the next one, and the value of
the bits so far. It is not the sequence of an ASCII character. -/
structure Utf8Begun where
  rest : ℕ
  low : ℕ
  high : ℕ
  value : ℕ
  continuation : 0x80 ≤ low
  not_ascii : 0x80 ≤ (value * 64 + (low - 0x80)) * 64 ^ rest

/-- The first byte of a sequence. -/
def utf8_lead (b : UInt8) : Option Utf8Begun × List Char :=
  let n := b.toNat
  if n < 0x80 then (none, [Char.ofNat n])
  else if h : 0xc2 ≤ n ∧ n ≤ 0xdf then (some ⟨0, 0x80, 0xbf, n - 0xc0, Nat.le_refl _, by omega⟩, [])
  else if h : 0xe0 ≤ n ∧ n ≤ 0xef then
    (some ⟨1, if n = 0xe0 then 0xa0 else 0x80, if n = 0xed then 0x9f else 0xbf, n - 0xe0,
      by split <;> omega, by split <;> omega⟩, [])
  else if h : 0xf0 ≤ n ∧ n ≤ 0xf4 then
    (some ⟨2, if n = 0xf0 then 0x90 else 0x80, if n = 0xf4 then 0x8f else 0xbf, n - 0xf0,
      by split <;> omega, by split <;> omega⟩, [])
  else (none, [])

/-- A continuation byte of a sequence. -/
def Utf8Begun.next (s : Utf8Begun) (b : UInt8) (h : s.low ≤ b.toNat) : Option Utf8Begun × List Char :=
  let value := s.value * 64 + (b.toNat - 0x80)
  match hrest : s.rest with
  | 0 => (none, [Char.ofNat value])
  | rest + 1 => (some ⟨rest, 0x80, 0xbf, value, Nat.le_refl _, by
      have hvalue : s.value * 64 + (s.low - 0x80) ≤ value := Nat.add_le_add_left (Nat.sub_le_sub_right h _) _
      calc 0x80 ≤ (s.value * 64 + (s.low - 0x80)) * 64 ^ s.rest := s.not_ascii
        _ ≤ value * 64 ^ s.rest := Nat.mul_le_mul_right _ hvalue
        _ = (value * 64 + (0x80 - 0x80)) * 64 ^ rest := by
          rw [hrest, Nat.sub_self, Nat.add_zero, Nat.pow_succ', Nat.mul_assoc]⟩, [])

/-- A byte, after a sequence that has begun or at the start of one. A byte that does not continue the sequence is the
first byte of another. -/
def utf8_step (s : Option Utf8Begun) (b : UInt8) : Option Utf8Begun × List Char :=
  match s with
  | none => utf8_lead b
  | some s => if h : s.low ≤ b.toNat ∧ b.toNat ≤ s.high then s.next b h.1 else utf8_lead b

/-- A sequence that is not complete at the end is ignored. -/
def utf8_decode_from (s : Option Utf8Begun) : List UInt8 → List Char
  | [] => []
  | b :: bs => (utf8_step s b).2 ++ utf8_decode_from (utf8_step s b).1 bs

def utf8_after (s : Option Utf8Begun) (bs : List UInt8) : Option Utf8Begun :=
  bs.foldl (fun s b => (utf8_step s b).1) s

/-- `bytes.decode("utf-8", errors="ignore")`. -/
def utf8_decode (bs : List UInt8) : List Char := utf8_decode_from none bs

theorem utf8_decode_from_append (s : Option Utf8Begun) (bs cs : List UInt8) :
    utf8_decode_from s (bs ++ cs) = utf8_decode_from s bs ++ utf8_decode_from (utf8_after s bs) cs := by
  induction bs generalizing s with
  | nil => rfl
  | cons b bs ih => simp [utf8_decode_from, utf8_after, ih]

/-- An ASCII byte is a character of its own, whatever has begun before it. -/
theorem utf8_step_ascii (s : Option Utf8Begun) {b : UInt8} (h : b.toNat < 0x80) :
    utf8_step s b = (none, [Char.ofNat b.toNat]) := by
  have hlead : utf8_lead b = (none, [Char.ofNat b.toNat]) := if_pos h
  cases s with
  | none => exact hlead
  | some s =>
    have hlow := s.continuation
    rw [utf8_step, dif_neg (by omega), hlead]

theorem utf8_decode_append_ascii (bs cs : List UInt8) {b : UInt8} (h : b.toNat < 0x80) :
    utf8_decode (bs ++ b :: cs) = utf8_decode bs ++ Char.ofNat b.toNat :: utf8_decode cs := by
  rw [utf8_decode, utf8_decode_from_append, utf8_decode_from, utf8_step_ascii _ h]
  rfl

/-! ## Lines -/

def is_newline (c : Char) : Bool := c = '\n' ∨ c = '\r'

def is_newline_byte (b : UInt8) : Bool := b = 10 ∨ b = 13

theorem is_newline_ofNat {n : ℕ} (hlf : n ≠ 10) (hcr : n ≠ 13) : is_newline (Char.ofNat n) = false := by
  have hval : (Char.ofNat n).toNat ≠ 10 ∧ (Char.ofNat n).toNat ≠ 13 := by
    by_cases hvalid : n.isValidChar
    · have hn : (Char.ofNat n).toNat = n := by
        rw [Char.ofNat, dif_pos hvalid]
        rfl
      rw [hn]
      exact ⟨hlf, hcr⟩
    · have hn : (Char.ofNat n).toNat = 0 := by
        rw [Char.ofNat, dif_neg hvalid]
        rfl
      rw [hn]
      decide
  refine decide_eq_false ?_
  rintro (h | h)
  · exact hval.1 (congrArg Char.toNat h)
  · exact hval.2 (congrArg Char.toNat h)

theorem utf8_lead_no_newline {b : UInt8} (h : is_newline_byte b = false) :
    ∀ c ∈ (utf8_lead b).2, is_newline c = false := by
  intro c hc
  unfold utf8_lead at hc
  dsimp only at hc
  split at hc
  · simp only [is_newline_byte, ← UInt8.toNat_inj, decide_eq_false_iff_not, not_or] at h
    rw [List.mem_singleton.mp hc]
    exact is_newline_ofNat h.1 h.2
  · split at hc
    · cases hc
    · split at hc
      · cases hc
      · split at hc <;> cases hc

/-- What is decoded from bytes without a newline has none. -/
theorem utf8_step_no_newline (s : Option Utf8Begun) {b : UInt8} (h : is_newline_byte b = false) :
    ∀ c ∈ (utf8_step s b).2, is_newline c = false := by
  intro c hc
  unfold utf8_step at hc
  split at hc
  · exact utf8_lead_no_newline h c hc
  · split at hc
    · rename_i s hrange
      unfold Utf8Begun.next at hc
      dsimp only at hc
      split at hc
      · rename_i hrest
        have hleast := s.not_ascii
        rw [hrest, Nat.pow_zero, Nat.mul_one] at hleast
        have hlow := hrange.1
        rw [List.mem_singleton.mp hc]
        exact is_newline_ofNat (by omega) (by omega)
      · cases hc
    · exact utf8_lead_no_newline h c hc

theorem utf8_decode_from_no_newline (s : Option Utf8Begun) {bs : List UInt8}
    (h : ∀ b ∈ bs, is_newline_byte b = false) : ∀ c ∈ utf8_decode_from s bs, is_newline c = false := by
  induction bs generalizing s with
  | nil => exact fun c hc => (by cases hc)
  | cons b bs ih =>
    rw [List.forall_mem_cons] at h
    intro c hc
    rcases List.mem_append.mp hc with hc | hc
    · exact utf8_step_no_newline s h.1 c hc
    · exact ih _ h.2 c hc

theorem utf8_decode_no_newline {bs : List UInt8} (h : ∀ b ∈ bs, is_newline_byte b = false) :
    ∀ c ∈ utf8_decode bs, is_newline c = false :=
  utf8_decode_from_no_newline none h

/-- The lines of the text are the decoded lines of the bytes. -/
theorem splitOnP_utf8_decode (bs : List UInt8) :
    (utf8_decode bs).splitOnP is_newline = (bs.splitOnP is_newline_byte).map utf8_decode := by
  suffices hbegun : ∀ begun : List UInt8, (∀ b ∈ begun, is_newline_byte b = false) →
      (utf8_decode (begun ++ bs)).splitOnP is_newline =
        (List.splitOnPPrepend is_newline_byte bs begun.reverse).map utf8_decode from
    hbegun [] fun b hb => (by cases hb)
  induction bs with
  | nil =>
    intro begun hbegun
    rw [List.append_nil, List.splitOnP_eq_singleton (utf8_decode_no_newline hbegun), List.splitOnPPrepend_nil, List.reverse_reverse]
    rfl
  | cons b bs ih =>
    intro begun hbegun
    cases hb : is_newline_byte b with
    | true =>
      have hascii : b.toNat < 0x80 ∧ is_newline (Char.ofNat b.toNat) := by
        simp only [is_newline_byte, decide_eq_true_eq] at hb
        rcases hb with rfl | rfl <;> decide
      rw [utf8_decode_append_ascii _ _ hascii.1, List.splitOnPPrepend_cons_pos hb, List.reverse_reverse,
        List.splitOnP_append_cons_of_forall_mem (utf8_decode_no_newline hbegun) _ hascii.2]
      have hrest := ih [] fun b hb => (by cases hb)
      rw [List.nil_append, List.reverse_nil, List.splitOnPPrepend_nil_right] at hrest
      rw [hrest, List.map_cons]
    | false =>
      rw [List.splitOnPPrepend_cons_neg hb, List.append_cons]
      have hbegun' : ∀ c ∈ begun ++ [b], is_newline_byte c = false := by
        intro c hc
        rcases List.mem_append.mp hc with hc | hc
        · exact hbegun c hc
        · rwa [List.mem_singleton.mp hc]
      rw [ih _ hbegun', List.reverse_append]
      rfl

/-- The newline translation of a text file. -/
def translate_newlines : List Char → List Char
  | [] => []
  | '\r' :: '\n' :: cs => '\n' :: translate_newlines cs
  | c :: cs => (if c = '\r' then '\n' else c) :: translate_newlines cs

/-- `f.readlines()`, with the line that has begun in reverse. -/
def readlines (begun : List Char) : List Char → List (List Char)
  | [] => if begun.isEmpty then [] else [begun.reverse]
  | c :: cs => if c = '\n' then (c :: begun).reverse :: readlines [] cs else readlines (c :: begun) cs

section Lines

variable {β : Type v} {f : List Char → List β}

theorem flatMap_readlines (hempty : f [] = []) (hend : ∀ line, f (line ++ ['\n']) = f line) (begun cs : List Char) :
    (readlines begun cs).flatMap f = (List.splitOnPPrepend (fun c => decide (c = '\n')) cs begun).flatMap f := by
  induction cs generalizing begun with
  | nil =>
    cases begun with
    | nil => simp [readlines, hempty]
    | cons c begun => simp [readlines]
  | cons c cs ih =>
    by_cases hc : c = '\n'
    · rw [readlines, if_pos hc, List.splitOnPPrepend_cons_pos (by simpa using hc), List.flatMap_cons, List.flatMap_cons,
        ih, hc, List.reverse_cons, hend]
      rfl
    · rw [readlines, if_neg hc, List.splitOnPPrepend_cons_neg (by simpa using hc), ih]

theorem flatMap_translate_newlines (hempty : f [] = []) (begun cs : List Char) :
    (List.splitOnPPrepend (fun c => decide (c = '\n')) (translate_newlines cs) begun).flatMap f =
      (List.splitOnPPrepend is_newline cs begun).flatMap f := by
  induction cs using translate_newlines.induct generalizing begun with
  | case1 => rfl
  | case2 cs ih =>
    -- the bytes hold an empty line between the two characters
    have hrest := ih []
    simp only [List.splitOnPPrepend_nil_right] at hrest
    have hline : List.splitOnP is_newline ('\n' :: cs) = [] :: List.splitOnP is_newline cs :=
      List.splitOnPPrepend_cons_pos rfl
    rw [translate_newlines, List.splitOnPPrepend_cons_pos rfl, List.splitOnPPrepend_cons_pos rfl, hline]
    simp only [List.flatMap_cons, hempty, hrest, List.nil_append]
  | case3 c cs hcrlf ih =>
    rw [translate_newlines]
    · by_cases hcr : c = '\r'
      · rw [if_pos hcr, List.splitOnPPrepend_cons_pos rfl, List.splitOnPPrepend_cons_pos (by simp [is_newline, hcr])]
        simpa using ih []
      · rw [if_neg hcr]
        by_cases hlf : c = '\n'
        · rw [List.splitOnPPrepend_cons_pos (by simpa using hlf),
            List.splitOnPPrepend_cons_pos (by simp [is_newline, hlf])]
          simpa using ih []
        · rw [List.splitOnPPrepend_cons_neg (by simpa using hlf),
            List.splitOnPPrepend_cons_neg (by simp [is_newline, hlf, hcr]), ih]
    · exact hcrlf

/-- What is found line by line in a file is found piece by piece in its bytes. -/
theorem flatMap_lines (hempty : f [] = []) (hend : ∀ line, f (line ++ ['\n']) = f line) (bs : List UInt8) :
    (readlines [] (translate_newlines (utf8_decode bs))).flatMap f =
      (bs.splitOnP is_newline_byte).flatMap fun piece => f (utf8_decode piece) := by
  rw [flatMap_readlines hempty hend, flatMap_translate_newlines hempty, List.splitOnPPrepend_nil_right,
    splitOnP_utf8_decode, List.flatMap_map]

end Lines

example : readlines [] (translate_newlines (utf8_decode [97, 13, 10, 0xc3, 0xa9, 10, 0xe2, 0x82])) =
    ["a\n".toList, "é\n".toList] := by decide

end TextStream
