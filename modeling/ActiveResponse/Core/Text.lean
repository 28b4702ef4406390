import ActiveResponse.Core.Values

namespace larp

/-- The characters whose decimal value is 0; each is followed by the nine other digits of its script. -/
def decimal_zeros : List ℕ :=
  [0x30, 0x660, 0x6f0, 0x7c0, 0x966, 0x9e6, 0xa66, 0xae6, 0xb66, 0xbe6, 0xc66, 0xce6, 0xd66, 0xde6, 0xe50, 0xed0,
    0xf20, 0x1040, 0x1090, 0x17e0, 0x1810, 0x1946, 0x19d0, 0x1a80, 0x1a90, 0x1b50, 0x1bb0, 0x1c40, 0x1c50, 0xa620,
    0xa8d0, 0xa900, 0xa9d0, 0xa9f0, 0xaa50, 0xabf0, 0xff10, 0x104a0, 0x10d30, 0x11066, 0x110f0, 0x11136, 0x111d0,
    0x112f0, 0x11450, 0x114d0, 0x11650, 0x116c0, 0x11730, 0x118e0, 0x11950, 0x11c50, 0x11d50, 0x11da0, 0x11f50,
    0x16a60, 0x16ac0, 0x16b50, 0x1d7ce, 0x1d7d8, 0x1d7e2, 0x1d7ec, 0x1d7f6, 0x1e140, 0x1e2f0, 0x1e4f0, 0x1e950,
    0x1fbf0]

/-- The characters that `\d` matches. -/
def py_isdecimal (c : Char) : Bool :=
  decimal_zeros.any fun first => first ≤ c.toNat ∧ c.toNat < first + 10

/-- The line boundaries of `str.splitlines`. -/
def is_line_boundary (c : Char) : Bool :=
  c.toNat ∈ [0xa, 0xb, 0xc, 0xd, 0x1c, 0x1d, 0x1e, 0x85, 0x2028, 0x2029]

/-- `s.splitlines()`, with the line that has been begun in reverse. -/
def py_splitlines (begun : List Char) : List Char → List (List Char)
  | [] => if begun.isEmpty then [] else [begun.reverse]
  | '\r' :: '\n' :: cs => begun.reverse :: py_splitlines [] cs
  | c :: cs => if is_line_boundary c then begun.reverse :: py_splitlines [] cs else py_splitlines (c :: begun) cs

/-- `cs.strip(c)`. -/
def strip_char (c : Char) (cs : List Char) : List Char := (cs.dropWhile (· = c)).rdropWhile (· = c)

/-- `s.lower()` of ASCII text. -/
def ascii_lower (cs : List Char) : List Char := cs.map Char.toLower

private theorem val_toLower_of_upper {c : Char} (h : c.val ≥ 'A'.val ∧ c.val ≤ 'Z'.val) :
    c.toLower.val = c.val + ('a'.val - 'A'.val) :=
  congrArg Char.val (dif_pos h)

private theorem toLower_of_not_upper {c : Char} (h : ¬ (c.val ≥ 'A'.val ∧ c.val ≤ 'Z'.val)) : c.toLower = c :=
  dif_neg h

theorem toLower_toLower (c : Char) : c.toLower.toLower = c.toLower := by
  by_cases h : c.val ≥ 'A'.val ∧ c.val ≤ 'Z'.val
  · refine toLower_of_not_upper ?_
    rw [val_toLower_of_upper h]
    simp only [ge_iff_le, UInt32.le_iff_toNat_le] at h ⊢
    simp at h ⊢
    omega
  · rw [toLower_of_not_upper h, toLower_of_not_upper h]

theorem eq_colon_of_toLower {c : Char} (h : c.toLower = ':') : c = ':' := by
  by_cases hupper : c.val ≥ 'A'.val ∧ c.val ≤ 'Z'.val
  · have hval := congrArg UInt32.toNat (val_toLower_of_upper hupper)
    rw [h] at hval
    simp only [ge_iff_le, UInt32.le_iff_toNat_le] at hupper
    simp at hupper hval
    omega
  · rwa [toLower_of_not_upper hupper] at h

@[simp] theorem ascii_lower_ascii_lower (cs : List Char) : ascii_lower (ascii_lower cs) = ascii_lower cs := by
  rw [ascii_lower, ascii_lower, List.map_map]
  exact List.map_congr_left fun c _ => toLower_toLower c

example : py_splitlines [] "a\r\nb\n\nc".toList = ["a".toList, "b".toList, [], "c".toList] := by decide

end larp
