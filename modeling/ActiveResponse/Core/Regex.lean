import ActiveResponse.Core.Text

namespace larp

/-- The regular expressions of the `re` module, with groups that have names and greedy repetitions of a character. -/
inductive Regex where
  | empty
  | char (set : Char → Bool)
  | many (set : Char → Bool)
  | seq (r s : Regex)
  | alt (r s : Regex)
  | group (name : String) (r : Regex)

namespace Regex

instance : Append Regex := ⟨seq⟩

/-- What the groups have matched. -/
abbrev Groups := List (String × List Char)

/-- As many characters of the set as there are, fewer if `k` does not go on from there. -/
def many_then {α : Type} (set : Char → Bool) (k : List Char → Option α) : List Char → Option α
  | [] => k []
  | c :: cs => if set c then (many_then set k cs).or (k (c :: cs)) else k (c :: cs)

/-- A match at the start of the text, `k` being the match of what follows. -/
def match_then {α : Type} : Regex → Groups → List Char → (Groups → List Char → Option α) → Option α
  | empty, groups, cs, k => k groups cs
  | char _, _, [], _ => none
  | char set, groups, c :: cs, k => if set c then k groups cs else none
  | many set, groups, cs, k => many_then set (k groups) cs
  | seq r s, groups, cs, k => r.match_then groups cs fun groups rest => s.match_then groups rest k
  | alt r s, groups, cs, k => (r.match_then groups cs k).or (s.match_then groups cs k)
  | group name r, groups, cs, k =>
    r.match_then groups cs fun groups rest => k ((name, cs.take (cs.length - rest.length)) :: groups) rest

/-- `pattern.search(cs)`. -/
def search (r : Regex) : List Char → Option Groups
  | [] => r.match_then [] [] fun groups _ => some groups
  | c :: cs => (r.match_then [] (c :: cs) fun groups _ => some groups).or (r.search cs)

/-- `m.group(name)`. -/
def group_text (groups : Groups) (name : String) : String := String.ofList ((groups.lookup name).getD [])

/-- The characters that a character of the pattern matches under `re.IGNORECASE`. -/
def ignore_case (pattern c : Char) : Bool :=
  c.toLower = pattern.toLower ∨
    (pattern.toLower, c.toNat) ∈ [('i', 0x130), ('i', 0x131), ('s', 0x17f), ('k', 0x212a)]

def literal (text : String) : Regex := text.toList.foldr (fun pattern r => .seq (.char (ignore_case pattern)) r) .empty

def many1 (set : Char → Bool) : Regex := .char set ++ .many set

def optional (r : Regex) : Regex := r.alt .empty

/-- `\S`. -/
def non_space (c : Char) : Bool := !py_isspace c

/-- `.`. -/
def any_char (c : Char) : Bool := c ≠ '\n'

end Regex

end larp
