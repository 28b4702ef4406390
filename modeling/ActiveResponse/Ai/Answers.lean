import ActiveResponse.Core.Regex
import ActiveResponse.Incident.Notes
import ActiveResponse.Lib.Backtracking
import ActiveResponse.Link.Messages

namespace larp

open Pattern JsonLoads

/-- `cs.strip()`. -/
def strip_chars (cs : List Char) : List Char := py_lstrip (py_rstrip cs)

/-! ## What the model replies -/

/-- What `generate` returns. -/
structure AiReply where
  reasoning : List Char
  answer : List Char
  raw : List Char

namespace AIClient

/-- `<think>(.*?)</think>`: the block and its group. -/
def think_block : Pattern Char (List Char × List Char) := do
  let opening ← text "<think>".toList
  let reasoning ← many_lazy fun _ => true
  let closing ← text "</think>".toList
  return (opening ++ reasoning ++ closing, reasoning)

/-- `\n\n\n+`. -/
def blank_lines : Pattern Char (List Char) := text "\n\n\n".toList ++ many (· = '\n')

/-- `cs.replace(old, "")`. -/
def remove_all (old : List Char) : ℕ → List Char → List Char
  | 0, cs => cs
  | fuel + 1, cs =>
    match search (text old) cs with
    | none => cs
    | some (before, _, rest) => before ++ remove_all old fuel rest

/-- The letters of a word under `re.IGNORECASE`. -/
def letters (word : String) : Pattern Char (List Char) :=
  word.toList.foldr (fun c p => one (Regex.ignore_case c) ++ p) (pure [])

/-- `^(ANSWER|Final Answer|Answer)\s*:\s*`. -/
def answer_word : Pattern Char (List Char) :=
  or_else (letters "ANSWER") (or_else (letters "Final Answer") (letters "Answer")) ++ many py_isspace ++
    one (· = ':') ++ many py_isspace

def without_header (answer : List Char) : List Char :=
  if answer.head? = some '#' then
    match answer.dropWhile (· ≠ '\n') with
    | [] => []
    | _ :: rest => rest.dropWhile (· = '\n')
  else answer

def without_answer_word (answer : List Char) : List Char :=
  match (answer_word answer).head? with
  | some (_, rest) => rest
  | none => answer

/-- The reasoning and the answer, which stand in one of three formats. -/
def split_reasoning (raw : List Char) : List Char × List Char :=
  match search think_block raw with
  | some (_, (block, reasoning), _) => (strip_chars reasoning, strip_chars (remove_all block raw.length raw))
  | none =>
    match search blank_lines raw with
    | some (reasoning, _, answer) =>
      if 100 < reasoning.length then (strip_chars reasoning, strip_chars answer) else ([], raw)
    | none => ([], raw)

def parse_response (raw : List Char) : AiReply where
  reasoning := (split_reasoning raw).1
  answer :=
    let answer := (split_reasoning raw).2
    if answer.isEmpty then answer else strip_chars (without_answer_word (without_header answer))
  raw := raw

end AIClient

/-! ## What is read from the answer -/

/-- The fence of markdown around an object, and its group. -/
def fenced_object : Pattern Char (List Char) := do
  let _ ← text "```".toList
  let _ ← optional (text "json".toList)
  let _ ← many py_isspace
  let opened ← one (· = '{')
  let body ← many_lazy fun _ => true
  let closed ← one (· = '}')
  let _ ← many py_isspace
  let _ ← text "```".toList
  return opened ++ body ++ closed

def no_brace (c : Char) : Bool := c ≠ '{' ∧ c ≠ '}'

/-- A block with blocks in it that have none. -/
def balanced : Pattern Char (List Char) :=
  one (· = '{') ++ many no_brace ++ star (one (· = '{') ++ many no_brace ++ one (· = '}') ++ many no_brace) ++
    one (· = '}')

/-- The texts from an opening brace to the last closing one. -/
def candidates (answer : List Char) : List (List Char) :=
  (answer.rdropWhile (· ≠ '}')).tails.filter fun candidate => candidate.head? = some '{'

/-- `data`, if it is a dictionary with the key. -/
def with_key (key : String) : LoadedJson → Option LoadedJson
  | .obj entries => if key ∈ entries.map Prod.fst then some (.obj entries) else none
  | _ => none

/-- `if "</think>" in answer: answer = answer.split("</think>", 1)[1].strip()`. -/
def after_thinking (answer : List Char) : List Char :=
  match search (text "</think>".toList) answer with
  | some (_, _, rest) => strip_chars rest
  | none => answer

/-- `_parse_json_answer` of the triage and of the suggestions, which look for a key of their own. -/
def parse_json_answer (key : String) (answer : List Char) : Option LoadedJson :=
  if answer.isEmpty then none
  else
    let answer := after_thinking answer
    ((search fenced_object answer).bind fun found => loads (strip_chars found.2.1)).or
      (((candidates answer).findSome? fun candidate => (loads (strip_chars candidate)).bind (with_key key)).or
        (((find_all balanced (answer.length + 1) answer).findSome? fun block => (loads block).bind (with_key key)).or
          (loads answer)))

/-! ## Nothing is made up -/

theorem strip_chars_inside (cs : List Char) : strip_chars cs <:+: cs :=
  (List.dropWhile_suffix _).isInfix.trans (List.rdropWhile_prefix _ _).isInfix

theorem eq_of_with_key {key : String} {data value : LoadedJson} (h : with_key key data = some value) :
    data = value := by
  unfold with_key at h
  split at h
  · split at h
    · exact Option.some.inj h
    · cases h
  · cases h

theorem spells_balanced : Spells balanced := by
  have hround := (((spells_one (· = '{')).append (spells_many no_brace)).append (spells_one (· = '}'))).append
    (spells_many no_brace)
  exact (((spells_one _).append (spells_many no_brace)).append hround.star).append (spells_one _)

/-- The group of the fence stands in the text. -/
theorem group_in_text {cs : List Char} {found : List Char × List Char} (h : found ∈ fenced_object cs) :
    found.1 <:+: cs := by
  simp only [fenced_object, mem_bind] at h
  obtain ⟨ticks, hticks, tag, htag, blanks, hblanks, opened, hopened, body, hbody, closed, hclosed, _, -, _, -,
    hfound⟩ := h
  obtain rfl := List.mem_singleton.mp hfound
  have hgroup : opened.1 ++ body.1 ++ closed.1 <+: blanks.2 := by
    rw [← spells_one _ _ _ hopened, ← spells_many_lazy _ _ _ hbody, ← spells_one _ _ _ hclosed]
    exact ⟨closed.2, by simp⟩
  have hblanks' : blanks.2 <:+ cs := by
    rw [← spells_text _ _ _ hticks, ← ((spells_text "json".toList).or_else spells_pure) _ _ htag,
      ← spells_many _ _ _ hblanks]
    exact ⟨ticks.1 ++ tag.1 ++ blanks.1, by simp⟩
  exact hgroup.isInfix.trans hblanks'.isInfix

theorem after_thinking_inside (answer : List Char) : after_thinking answer <:+: answer := by
  unfold after_thinking
  split
  · rename_i before found rest hsearch
    obtain ⟨ys, rfl, hmem⟩ := mem_of_search hsearch
    rw [← spells_text _ _ _ hmem]
    exact (strip_chars_inside rest).trans ⟨before ++ found, [], by simp⟩
  · exact List.infix_rfl

/-- Whatever is returned, `json.loads` has read in a piece of the answer. -/
theorem read_in_answer {key : String} {answer : List Char} {value : LoadedJson}
    (h : parse_json_answer key answer = some value) : ∃ piece, piece <:+: answer ∧ loads piece = some value := by
  unfold parse_json_answer at h
  split at h
  · cases h
  · suffices hpiece : ∃ piece, piece <:+: after_thinking answer ∧ loads piece = some value by
      obtain ⟨piece, hpiece, hloads⟩ := hpiece
      exact ⟨piece, hpiece.trans (after_thinking_inside answer), hloads⟩
    generalize after_thinking answer = cs at h
    obtain hfence | ⟨-, h⟩ := Option.or_eq_some_iff.mp h
    · obtain ⟨⟨before, group, rest⟩, hsearch, hloads⟩ := Option.bind_eq_some_iff.mp hfence
      obtain ⟨ys, rfl, hmem⟩ := mem_of_search hsearch
      exact ⟨strip_chars group, (strip_chars_inside group).trans
        ((group_in_text hmem).trans (List.suffix_append before ys).isInfix), hloads⟩
    obtain hfound | ⟨-, h⟩ := Option.or_eq_some_iff.mp h
    · obtain ⟨candidate, hcandidate, hread⟩ := List.exists_of_findSome?_eq_some hfound
      obtain ⟨data, hloads, hkey⟩ := Option.bind_eq_some_iff.mp hread
      obtain rfl := eq_of_with_key hkey
      have hsuffix := (List.mem_tails _ _).mp (List.mem_filter.mp hcandidate).1
      exact ⟨strip_chars candidate, (strip_chars_inside candidate).trans
        (hsuffix.isInfix.trans (List.rdropWhile_prefix _ _).isInfix), hloads⟩
    obtain hfound | ⟨-, h⟩ := Option.or_eq_some_iff.mp h
    · obtain ⟨block, hblock, hread⟩ := List.exists_of_findSome?_eq_some hfound
      obtain ⟨data, hloads, hkey⟩ := Option.bind_eq_some_iff.mp hread
      obtain rfl := eq_of_with_key hkey
      exact ⟨block, find_all_in_text spells_balanced hblock, hloads⟩
    · exact ⟨cs, List.infix_rfl, h⟩

theorem read_in_answer_verdict :
    ∃ value piece, piece <:+: "So: \x7b\"summary\": 1\x7d.".toList ∧ loads piece = some value := by
  obtain ⟨value, hvalue⟩ := Option.isSome_iff_exists.mp (by decide +kernel :
    (parse_json_answer "summary" "So: \x7b\"summary\": 1\x7d.".toList).isSome)
  exact ⟨value, read_in_answer hvalue⟩

/-! ## Replies with an object in them -/

def backtick : Char := Char.ofNat 96

/-- A fence, which may name the language, with the blanks inside. -/
structure Fence where
  tag : Bool
  blanks : List Char
  blanks' : List Char
  are_blanks : ∀ c ∈ blanks, py_isspace c
  are_blanks' : ∀ c ∈ blanks', py_isspace c

def Fence.opening (self : Fence) : List Char :=
  "```".toList ++ ((if self.tag then "json".toList else []) ++ self.blanks)

def Fence.closing (self : Fence) : List Char := self.blanks' ++ "```".toList

/-- Thoughts, and an object among prose. -/
structure ObjectReply where
  thoughts : Option (List Char)
  before : List Char
  fence : Option Fence
  inner : List Char
  after : List Char

namespace ObjectReply

variable (self : ObjectReply)

def object : List Char := '{' :: (self.inner ++ ['}'])

def body : List Char :=
  match self.fence with
  | none => self.object
  | some fence => fence.opening ++ self.object ++ fence.closing

def rest : List Char := self.before ++ self.body ++ self.after

def raw : List Char :=
  match self.thoughts with
  | none => self.rest
  | some thoughts => "<think>".toList ++ (thoughts ++ ("</think>".toList ++ self.rest))

/-- What a reply has to avoid for its object to be read. -/
structure Readable (s : ObjectReply) (key : String) (entries : List (String × LoadedJson)) : Prop where
  loads_object : loads s.object = some (.obj entries)
  bare : s.fence = none →
    key ∈ entries.map Prod.fst ∧ '{' ∉ s.before ∧ '}' ∉ s.after ∧ ¬ "```".toList <:+: s.rest
  fenced : s.fence.isSome → ¬ "```".toList <:+: s.before ∧ ¬ "```".toList <:+: s.object
  thoughts : ∀ thoughts ∈ s.thoughts, ¬ "</think>".toList <:+: thoughts
  not_thinking : ¬ "<think>".toList <:+: s.rest ∧ ¬ "</think>".toList <:+: s.rest
  blank_lines : s.thoughts = none → ¬ "\n\n\n".toList <:+: s.body ++ s.after
  header : ((s.before.rtakeWhile (· ≠ '\n')).dropWhile py_isspace).head? ≠ some '#'

/-- An answer that still has the object, with an end of what stands before and a beginning of what stands after it. -/
def Carries (answer : List Char) : Prop :=
  ∃ lead trail, lead <:+ self.before ∧ trail <+: self.after ∧ answer = lead ++ (self.body ++ trail)

/-- An answer that carries the object and begins at the beginning of the prose or of a line, up to blanks. -/
def BeginsLine (answer : List Char) : Prop :=
  ∃ cut lead trail, self.before = cut ++ lead ∧ trail <+: self.after ∧ answer = lead ++ (self.body ++ trail) ∧
    ∀ c ∈ cut.rtakeWhile (· ≠ '\n'), py_isspace c

variable {self}

theorem BeginsLine.carries {answer : List Char} (h : self.BeginsLine answer) : self.Carries answer := by
  obtain ⟨cut, lead, trail, hbefore, htrail, rfl, -⟩ := h
  exact ⟨lead, trail, ⟨cut, hbefore.symm⟩, htrail, rfl⟩

def opens (c : Char) : Bool := c = '{' ∨ c = backtick

theorem body_ends (self : ObjectReply) :
    ∃ c middle d, self.body = c :: (middle ++ [d]) ∧ opens c ∧ py_isspace d = false := by
  unfold body
  split
  · exact ⟨'{', self.inner, '}', rfl, by decide, by decide⟩
  · rename_i fence _
    refine ⟨backtick, "``".toList ++ ((if fence.tag then "json".toList else []) ++ fence.blanks) ++ self.object ++
      fence.blanks' ++ "``".toList, backtick, ?_, by decide, by decide⟩
    simp [Fence.opening, Fence.closing, backtick]

theorem dropWhile_append_cons {p : Char → Bool} {c : Char} (h : p c = false) (xs ys : List Char) :
    (xs ++ c :: ys).dropWhile p = xs.dropWhile p ++ c :: ys := by
  induction xs with
  | nil => simp [h]
  | cons x xs ih =>
    by_cases hx : p x
    · simpa [hx] using ih
    · simp [hx]

theorem rdropWhile_append_cons {p : Char → Bool} {c : Char} (h : p c = false) (xs ys : List Char) :
    (xs ++ c :: ys).rdropWhile p = xs ++ c :: ys.rdropWhile p := by
  have hreverse : (xs ++ c :: ys).reverse = ys.reverse ++ c :: xs.reverse := by simp
  rw [List.rdropWhile, List.rdropWhile, hreverse, dropWhile_append_cons h]
  simp

theorem opens_iff {c : Char} : opens c ↔ c = '{' ∨ c = backtick := by simp [opens]

theorem not_space_of_opens {c : Char} (h : opens c) : py_isspace c = false := by
  obtain rfl | rfl := opens_iff.mp h <;> decide

theorem Carries.dropWhile {p : Char → Bool} (hp : ∀ c, opens c → p c = false) {lead trail : List Char}
    (hlead : lead <:+ self.before) (htrail : trail <+: self.after) :
    self.Carries ((lead ++ (self.body ++ trail)).dropWhile p) := by
  obtain ⟨c, middle, d, hbody, hc, -⟩ := self.body_ends
  refine ⟨lead.dropWhile p, trail, (List.dropWhile_suffix p).trans hlead, htrail, ?_⟩
  rw [hbody, List.cons_append, dropWhile_append_cons (hp c hc)]

/-- Blanks are stripped from both sides, and the object stays. -/
theorem strip_append_body (lead trail : List Char) :
    ∃ trail', trail' <+: trail ∧ strip_chars (lead ++ (self.body ++ trail)) = lead.dropWhile py_isspace ++ (self.body ++ trail') := by
  obtain ⟨c, middle, d, hbody, hc, hd⟩ := self.body_ends
  have hstripped : py_rstrip (lead ++ (self.body ++ trail)) = lead ++ (self.body ++ py_rstrip trail) := by
    have hleft : lead ++ (self.body ++ trail) = (lead ++ c :: middle) ++ d :: trail := by simp [hbody]
    have hright : lead ++ (self.body ++ py_rstrip trail) = (lead ++ c :: middle) ++ d :: py_rstrip trail := by
      simp [hbody]
    rw [hleft, hright, py_rstrip, rdropWhile_append_cons hd]
    rfl
  refine ⟨py_rstrip trail, List.rdropWhile_prefix _ _, ?_⟩
  rw [strip_chars, hstripped, py_lstrip, hbody, List.cons_append, dropWhile_append_cons (not_space_of_opens hc)]

theorem Carries.strip {answer : List Char} (h : self.Carries answer) : self.Carries (strip_chars answer) := by
  obtain ⟨lead, trail, hlead, htrail, rfl⟩ := h
  obtain ⟨trail', htrail', hstripped⟩ := @strip_append_body self lead trail
  exact ⟨_, trail', (List.dropWhile_suffix _).trans hlead, htrail'.trans htrail, hstripped⟩

theorem mem_rtakeWhile_append {p : Char → Bool} {xs ys : List Char} {c : Char} (h : c ∈ (xs ++ ys).rtakeWhile p) :
    c ∈ xs.rtakeWhile p ∨ c ∈ ys := by
  rw [List.rtakeWhile, List.reverse_append, List.takeWhile_append, List.mem_reverse] at h
  split at h
  · obtain hys | hxs := List.mem_append.mp h
    · exact .inr (List.mem_reverse.mp hys)
    · exact .inl (List.mem_reverse.mpr hxs)
  · exact .inr (List.mem_reverse.mp ((List.takeWhile_prefix _).subset h))

theorem BeginsLine.strip {answer : List Char} (h : self.BeginsLine answer) : self.BeginsLine (strip_chars answer) := by
  obtain ⟨cut, lead, trail, hbefore, htrail, rfl, hcut⟩ := h
  obtain ⟨trail', htrail', hstripped⟩ := @strip_append_body self lead trail
  refine ⟨cut ++ lead.takeWhile py_isspace, _, trail', ?_, htrail'.trans htrail, hstripped, fun c hc => ?_⟩
  · rw [hbefore, List.append_assoc, List.takeWhile_append_dropWhile]
  · obtain hcut' | hblank := mem_rtakeWhile_append hc
    · exact hcut c hcut'
    · exact List.mem_takeWhile_imp hblank

theorem newline_of_opens (c : Char) (h : opens c) : decide (c = '\n') = false := by
  obtain rfl | rfl := opens_iff.mp h <;> decide

/-- A heading that begins the answer ends before the object does. -/
theorem newline_mem_of_header (hheader : ((self.before.rtakeWhile (· ≠ '\n')).dropWhile py_isspace).head? ≠ some '#')
    {cut lead : List Char} (hbefore : self.before = cut ++ '#' :: lead)
    (hcut : ∀ c ∈ cut.rtakeWhile (· ≠ '\n'), py_isspace c) : '\n' ∈ '#' :: lead := by
  by_contra hnewline
  have hall : ∀ c ∈ ('#' :: lead).reverse, decide (c ≠ '\n') = true := by
    intro c hc
    rw [decide_eq_true_eq]
    rintro rfl
    exact hnewline (List.mem_reverse.mp hc)
  have hline : self.before.rtakeWhile (· ≠ '\n') = cut.rtakeWhile (· ≠ '\n') ++ '#' :: lead := by
    rw [hbefore, List.rtakeWhile, List.reverse_append, List.takeWhile_append_of_pos hall, List.reverse_append,
      List.reverse_reverse]
    rfl
  rw [hline, dropWhile_append_cons (by decide), List.dropWhile_eq_nil_iff.mpr hcut] at hheader
  exact hheader rfl

theorem BeginsLine.without_header {answer : List Char}
    (hheader : ((self.before.rtakeWhile (· ≠ '\n')).dropWhile py_isspace).head? ≠ some '#')
    (h : self.BeginsLine answer) : self.Carries (AIClient.without_header answer) := by
  obtain ⟨cut, lead, trail, hbefore, htrail, rfl, hcut⟩ := h
  have hlead : lead <:+ self.before := ⟨cut, hbefore.symm⟩
  unfold AIClient.without_header
  split
  · rename_i hhead
    have hmem : '\n' ∈ lead := by
      cases lead with
      | nil =>
        obtain ⟨c, middle, d, hbody, hc, -⟩ := self.body_ends
        rw [hbody] at hhead
        obtain rfl := Option.some.inj hhead
        exact absurd hc (by decide)
      | cons c lead =>
        obtain rfl := Option.some.inj hhead
        exact newline_mem_of_header hheader hbefore hcut
    cases hdrop : lead.dropWhile (· ≠ '\n') with
    | nil =>
      have hnewline := List.dropWhile_eq_nil_iff.mp hdrop _ hmem
      cases hnewline
    | cons c others =>
      have hothers : others <:+ lead :=
        (List.suffix_cons c others).trans (hdrop ▸ List.dropWhile_suffix fun c => decide (c ≠ '\n'))
      rw [List.dropWhile_append, hdrop]
      exact Carries.dropWhile newline_of_opens (hothers.trans hlead) htrail
  · exact ⟨lead, trail, hlead, htrail, rfl⟩

theorem letters_stops {word : String}
    (h : word.toList.all fun c => !Regex.ignore_case c '{' && !Regex.ignore_case c backtick) :
    Spells (AIClient.letters word) ∧ StopsAt opens (AIClient.letters word) := by
  unfold AIClient.letters
  generalize word.toList = cs at h ⊢
  induction cs with
  | nil => exact ⟨spells_pure, stopsAt_pure _⟩
  | cons c cs ih =>
    rw [List.all_cons, Bool.and_eq_true, Bool.and_eq_true, Bool.not_eq_true', Bool.not_eq_true'] at h
    obtain ⟨hspells, hstops⟩ := ih h.2
    refine ⟨(spells_one _).append hspells, (stopsAt_one fun x hx => ?_).append hstops⟩
    obtain rfl | rfl := opens_iff.mp hx
    · exact h.1.1
    · exact h.1.2

theorem answer_word_stops : Spells AIClient.answer_word ∧ StopsAt opens AIClient.answer_word := by
  obtain ⟨hupper, hupper'⟩ := @letters_stops "ANSWER" (by decide +kernel)
  obtain ⟨hfinal, hfinal'⟩ := @letters_stops "Final Answer" (by decide +kernel)
  obtain ⟨hanswer, hanswer'⟩ := @letters_stops "Answer" (by decide +kernel)
  have hspace : StopsAt opens (many py_isspace) := stopsAt_many fun c hc => not_space_of_opens hc
  have hcolon : StopsAt opens (one fun c => decide (c = ':')) := stopsAt_one fun c hc => by
    obtain rfl | rfl := opens_iff.mp hc <;> decide
  exact ⟨(((hupper.or_else (hfinal.or_else hanswer)).append (spells_many _)).append (spells_one _)).append
      (spells_many _),
    (((hupper'.or_else (hfinal'.or_else hanswer')).append hspace).append hcolon).append hspace⟩

theorem Carries.without_answer_word {answer : List Char} (h : self.Carries answer) :
    self.Carries (AIClient.without_answer_word answer) := by
  obtain ⟨lead, trail, hlead, htrail, rfl⟩ := h
  unfold AIClient.without_answer_word
  split
  · rename_i found rest hhead
    obtain ⟨c, middle, d, hbody, hc, -⟩ := self.body_ends
    have hstop : ∀ y ∈ (self.body ++ trail).head?, opens y := by
      rw [hbody]
      rintro y hy
      obtain rfl := Option.some.inj hy
      exact hc
    obtain ⟨lead', hlead', hrest⟩ :=
      answer_word_stops.2.rest answer_word_stops.1 hstop (List.mem_of_head? hhead)
    exact ⟨lead', trail, hlead'.trans hlead, htrail, hrest⟩
  · exact ⟨lead, trail, hlead, htrail, rfl⟩

theorem beginsLine_rest (self : ObjectReply) : self.BeginsLine self.rest :=
  ⟨[], self.before, self.after, rfl, List.prefix_rfl, by rw [rest, List.append_assoc], fun _ hc => by cases hc⟩

theorem Carries.ne_nil {answer : List Char} (h : self.Carries answer) : answer.isEmpty = false := by
  obtain ⟨lead, trail, -, -, rfl⟩ := h
  obtain ⟨c, middle, d, hbody, -⟩ := self.body_ends
  simp [hbody]

theorem Carries.inside {answer : List Char} (h : self.Carries answer) : answer <:+: self.rest := by
  obtain ⟨lead, trail, ⟨earlier, hearlier⟩, ⟨later, hlater⟩, rfl⟩ := h
  rw [rest, ← hearlier, ← hlater]
  exact ⟨earlier, later, by simp⟩

/-- The search finds the thoughts that the reply begins with. -/
theorem search_think_block {thoughts rest : List Char} (h : ¬ "</think>".toList <:+: thoughts) :
    search AIClient.think_block ("<think>".toList ++ (thoughts ++ ("</think>".toList ++ rest))) =
      some ([], ("<think>".toList ++ thoughts ++ "</think>".toList, thoughts), rest) := by
  refine search_of_head ?_
  unfold AIClient.think_block
  refine head_bind (congrArg List.head? (text_append _ _)) (head_bind_many_lazy (fun _ _ => rfl) ?_ ?_)
  · intro begun remaining hsplit hne
    exact bind_text_eq_nil (not_prefix_before (by decide) h ⟨begun, hsplit.symm⟩ hne) _
  · exact head_bind (congrArg List.head? (text_append _ _)) rfl

theorem remove_think_block {thoughts rest : List Char} (h : ¬ "<think>".toList <:+: rest) (fuel : ℕ) :
    AIClient.remove_all ("<think>".toList ++ thoughts ++ "</think>".toList) (fuel + 1)
      ("<think>".toList ++ (thoughts ++ ("</think>".toList ++ rest))) = rest := by
  have hblock : search (text ("<think>".toList ++ thoughts ++ "</think>".toList))
      ("<think>".toList ++ (thoughts ++ ("</think>".toList ++ rest))) =
      some ([], "<think>".toList ++ thoughts ++ "</think>".toList, rest) := by
    have hsame : "<think>".toList ++ (thoughts ++ ("</think>".toList ++ rest)) =
        ("<think>".toList ++ thoughts ++ "</think>".toList) ++ rest := by simp only [List.append_assoc]
    rw [hsame]
    exact search_of_head (congrArg List.head? (text_append _ _))
  have hnone : search (text ("<think>".toList ++ thoughts ++ "</think>".toList)) rest = none := by
    refine search_text_eq_none fun hpiece => h (List.IsInfix.trans ?_ hpiece)
    rw [List.append_assoc]
    exact (List.prefix_append _ _).isInfix
  rw [AIClient.remove_all, hblock]
  cases fuel with
  | zero => rfl
  | succ fuel =>
    simp only [List.nil_append]
    rw [AIClient.remove_all, hnone]

theorem search_think_block_eq_none {cs : List Char} (h : ¬ "<think>".toList <:+: cs) :
    search AIClient.think_block cs = none :=
  search_eq_none fun _ hys => bind_text_eq_nil (fun hbegins => h (hbegins.isInfix.trans hys.isInfix)) _

/-- Blank lines come before the object, and so does what they are taken for the end of. -/
theorem beginsLine_of_blank_lines (h : ¬ "\n\n\n".toList <:+: self.body ++ self.after)
    {reasoning blanks answer : List Char}
    (hsearch : search AIClient.blank_lines self.rest = some (reasoning, blanks, answer)) : self.BeginsLine answer := by
  obtain ⟨ys, hys, hmem⟩ := mem_of_search hsearch
  obtain ⟨first, hfirst, second, hsecond, hfound⟩ := mem_append.mp hmem
  have hbegins : "\n\n\n".toList <+: ys := by
    by_contra hnot
    rw [text_eq_nil hnot] at hfirst
    cases hfirst
  rw [rest, List.append_assoc] at hys
  obtain ⟨more, -, hmore⟩ | ⟨more, hbefore, hmore⟩ := List.append_eq_append_iff.mp hys
  · -- The blank lines would begin at the object or after it.
    exact absurd (hbegins.isInfix.trans ⟨more, [], by rw [List.append_nil, hmore]⟩) h
  · obtain ⟨c, middle, d, hbody, hc, -⟩ := self.body_ends
    have hstop : ∀ y ∈ (self.body ++ self.after).head?, opens y := by
      rw [hbody]
      rintro y hy
      obtain rfl := Option.some.inj hy
      exact hc
    have hspells : Spells AIClient.blank_lines := (spells_text _).append (spells_many _)
    have hstops : StopsAt opens AIClient.blank_lines :=
      (stopsAt_text (by decide)).append (stopsAt_many fun c hc => newline_of_opens c hc)
    rw [hmore] at hmem
    obtain ⟨lead, -, hanswer⟩ := hstops.rest hspells hstop hmem
    have hlead : blanks ++ lead = more := by
      have hread := hspells _ _ hmem
      rw [hanswer, ← List.append_assoc] at hread
      exact List.append_cancel_right hread
    have hnewlines : ∀ c ∈ blanks, c = '\n' := by
      obtain ⟨rfl, -⟩ := Prod.mk.inj hfound
      intro c hc
      obtain hc | hc := List.mem_append.mp hc
      · rw [mem_text hfirst] at hc
        simpa using hc
      · simpa using mem_many hsecond c hc
    have hsome : blanks ≠ [] := by
      obtain ⟨rfl, -⟩ := Prod.mk.inj hfound
      rw [mem_text hfirst]
      exact fun hnil => absurd (List.append_eq_nil_iff.mp hnil).1 (by decide)
    refine ⟨reasoning ++ blanks, lead, self.after, ?_, List.prefix_rfl, hanswer, fun c hc => ?_⟩
    · rw [hbefore, ← hlead, List.append_assoc]
    · -- What is cut off ends with a line.
      have hcut : reasoning ++ blanks = (reasoning ++ blanks.dropLast) ++ ['\n'] := by
        have hlast := hnewlines _ (List.getLast_mem hsome)
        rw [List.append_assoc, ← hlast, List.dropLast_append_getLast hsome]
      rw [hcut, List.rtakeWhile_concat_neg _ _ _ (by decide)] at hc
      cases hc

theorem Readable.beginsLine_split {key : String} {entries : List (String × LoadedJson)} (h : self.Readable key entries) :
    self.BeginsLine (AIClient.split_reasoning self.raw).2 := by
  unfold raw AIClient.split_reasoning
  cases hthoughts : self.thoughts with
  | some thoughts =>
    dsimp only
    rw [search_think_block (h.thoughts thoughts hthoughts)]
    obtain ⟨fuel, hfuel⟩ : ∃ fuel, ("<think>".toList ++ (thoughts ++ ("</think>".toList ++ self.rest))).length =
        fuel + 1 := Nat.exists_eq_add_one_of_ne_zero (by simp)
    dsimp only
    rw [hfuel, remove_think_block h.not_thinking.1]
    exact self.beginsLine_rest.strip
  | none =>
    dsimp only
    rw [search_think_block_eq_none h.not_thinking.1]
    split
    · cases ‹_ = some _›
    · split
      · rename_i hsearch
        split
        · exact (beginsLine_of_blank_lines (h.blank_lines hthoughts) hsearch).strip
        · exact self.beginsLine_rest
      · exact self.beginsLine_rest

theorem Readable.carries_answer {key : String} {entries : List (String × LoadedJson)}
    (h : self.Readable key entries) : self.Carries (AIClient.parse_response self.raw).answer := by
  have hsplit := h.beginsLine_split
  simp only [AIClient.parse_response, hsplit.carries.ne_nil, Bool.false_eq_true, if_false]
  exact (hsplit.without_header h.header).without_answer_word.strip

/-! ## The object of a reply is read -/

theorem strip_object (self : ObjectReply) : strip_chars self.object = self.object := by
  have hright : py_rstrip self.object = self.object :=
    List.rdropWhile_concat_neg _ ('{' :: self.inner) '}' (by decide)
  rw [strip_chars, hright]
  rfl

theorem candidates_head {lead : List Char} (hlead : '{' ∉ lead) (cs : List Char) :
    ∃ more, ((lead ++ '{' :: cs).tails.filter fun candidate => candidate.head? = some '{') = ('{' :: cs) :: more := by
  induction lead with
  | nil => exact ⟨cs.tails.filter fun candidate => candidate.head? = some '{', by simp⟩
  | cons c lead ih =>
    rw [List.mem_cons, not_or] at hlead
    obtain ⟨more, hmore⟩ := ih hlead.2
    have hc : c ≠ '{' := fun h => hlead.1 h.symm
    exact ⟨more, by simpa [List.tails_cons, hc] using hmore⟩

theorem not_mem_of_suffix {c : Char} {xs ys : List Char} (h : c ∉ ys) (hsuffix : xs <:+ ys) : c ∉ xs :=
  fun hmem => h (hsuffix.subset hmem)

/-- Without a fence the object is the first text that is tried. -/
theorem read_bare {key : String} {entries : List (String × LoadedJson)} (h : self.Readable key entries)
    (hfence : self.fence = none) {answer : List Char} (hcarries : self.Carries answer) :
    parse_json_answer key answer = some (.obj entries) := by
  obtain ⟨hkey, hbefore, hafter, hticks⟩ := h.bare hfence
  have hpiece := hcarries.inside
  have hthinking : after_thinking answer = answer := by
    rw [after_thinking, search_text_eq_none fun hword => h.not_thinking.2 (hword.trans hpiece)]
  have hnofence : search fenced_object answer = none := search_eq_none fun ys hys =>
    bind_text_eq_nil (fun hbegins => hticks (hbegins.isInfix.trans (hys.isInfix.trans hpiece))) _
  unfold parse_json_answer
  simp only [hcarries.ne_nil, Bool.false_eq_true, if_false, hthinking, hnofence, Option.bind_none, Option.none_or]
  obtain ⟨lead, trail, hlead, htrail, rfl⟩ := hcarries
  have hcut : (lead ++ (self.body ++ trail)).rdropWhile (· ≠ '}') = lead ++ self.object := by
    have hbody : lead ++ (self.body ++ trail) = (lead ++ '{' :: self.inner) ++ '}' :: trail := by
      simp [body, hfence, object]
    have htrail' : trail.rdropWhile (· ≠ '}') = [] := by
      rw [List.rdropWhile_eq_nil_iff]
      intro c hc
      rw [decide_eq_true_eq]
      rintro rfl
      exact hafter (htrail.subset hc)
    rw [hbody, rdropWhile_append_cons (by decide), htrail']
    simp [object]
  obtain ⟨more, hmore⟩ := candidates_head (not_mem_of_suffix hbefore hlead) (self.inner ++ ['}'])
  have hread : (loads (strip_chars ('{' :: (self.inner ++ ['}'])))).bind (with_key key) = some (.obj entries) := by
    change (loads (strip_chars self.object)).bind (with_key key) = some (.obj entries)
    rw [self.strip_object, h.loads_object, Option.bind_some, with_key, if_pos hkey]
  rw [candidates, hcut, object, hmore, List.findSome?_cons, hread]
  rfl

/-- The fence is not closed inside the object. -/
theorem close_fence_eq_nil {remaining rest : List Char} (hticks : ¬ "```".toList <:+: remaining)
    (hne : remaining ≠ []) {f : List Char → Pattern Char (List Char)} :
    (do let closed ← one (· = '}')
        let _ ← many py_isspace
        let _ ← text "```".toList
        f closed) (remaining ++ '}' :: rest) = [] := by
  rw [List.eq_nil_iff_forall_not_mem]
  intro found hfound
  simp only [mem_bind] at hfound
  obtain ⟨closed, hclosed, blanks, hblanks, ticks, hfound, -⟩ := hfound
  cases remaining with
  | nil => exact hne rfl
  | cons c remaining =>
    obtain ⟨d, later, -, hsplit, rfl⟩ := mem_one hclosed
    obtain ⟨-, rfl⟩ := List.cons.inj hsplit
    have hbrace : ∀ y ∈ ('}' :: rest).head?, decide (y = '}') = true := by simp
    have hspace (x : Char) (hx : decide (x = '}') = true) : py_isspace x = false := by
      rw [of_decide_eq_true hx]
      decide
    obtain ⟨remaining', hsuffix, hrest⟩ := (stopsAt_many hspace).rest (spells_many _) hbrace hblanks
    have hbegins : "```".toList <+: remaining' := by
      by_contra hnot
      rw [hrest, stopsAt_text (by decide) remaining' _ hbrace, text_eq_nil hnot] at hfound
      cases hfound
    exact hticks (hbegins.isInfix.trans (hsuffix.isInfix.trans (List.suffix_cons c remaining).isInfix))

theorem head_closing (f : Fence) (rest : List Char) (group : List Char) :
    ((do let _ ← many py_isspace
         let _ ← text "```".toList
         return group : Pattern Char (List Char)) (f.closing ++ rest)).head? = some (group, rest) := by
  have hspaces : (many py_isspace (f.blanks' ++ ("```".toList ++ rest))).head? =
      some (f.blanks', "```".toList ++ rest) := head_many f.are_blanks' (by simp; decide)
  rw [Fence.closing, List.append_assoc]
  exact head_bind hspaces (head_bind (congrArg List.head? (text_append _ _)) rfl)

theorem head_tag (f : Fence) {rest : List Char} (hrest : rest.head? = some '{') :
    (optional (text "json".toList) ((if f.tag then "json".toList else []) ++ (f.blanks ++ rest))).head? =
      some ((if f.tag then "json".toList else []), f.blanks ++ rest) := by
  cases f.tag with
  | true => exact head_optional (congrArg List.head? (text_append _ _))
  | false =>
    -- The blanks and the brace do not begin with the name.
    have hname : ¬ "json".toList <+: f.blanks ++ rest := by
      rintro ⟨more, hmore⟩
      have hhead := congrArg List.head? hmore
      have hblanks := f.are_blanks
      cases hcases : f.blanks with
      | nil =>
        rw [hcases, List.nil_append, hrest] at hhead
        exact absurd (Option.some.inj hhead) (by decide)
      | cons c blanks =>
        rw [hcases] at hhead hblanks
        have hspace := hblanks c List.mem_cons_self
        rw [← Option.some.inj hhead] at hspace
        exact absurd hspace (by decide)
    simp only [Bool.false_eq_true, if_false, List.nil_append]
    rw [optional_of_nil (text_eq_nil hname)]
    rfl

/-- The fence is found, whatever stands around it. -/
theorem head_fenced_object {f : Fence} (hticks : ¬ "```".toList <:+: self.inner) (rest : List Char) :
    (fenced_object (f.opening ++ (self.object ++ (f.closing ++ rest)))).head? = some (self.object, rest) := by
  have hspaces : (many py_isspace (f.blanks ++ (self.object ++ (f.closing ++ rest)))).head? =
      some (f.blanks, self.object ++ (f.closing ++ rest)) := by
    refine head_many f.are_blanks fun c hc => ?_
    obtain rfl := Option.some.inj hc
    decide
  have hobject : self.object ++ (f.closing ++ rest) = '{' :: (self.inner ++ ('}' :: (f.closing ++ rest))) := by
    simp [object]
  unfold fenced_object
  rw [Fence.opening, List.append_assoc, List.append_assoc]
  refine head_bind (congrArg List.head? (text_append _ _)) (head_bind (head_tag f rfl) (head_bind hspaces ?_))
  rw [hobject]
  refine head_bind (congrArg List.head? (one_cons (by decide) _)) (head_bind_many_lazy (fun _ _ => rfl) ?_ ?_)
  · intro begun remaining hsplit hne
    exact close_fence_eq_nil (fun hpiece => hticks (hpiece.trans ⟨begun, [], by simp [hsplit]⟩)) hne
  · exact head_bind (congrArg List.head? (one_cons (by decide) _)) (head_closing f rest _)

/-- No fence begins with more than three backticks. -/
theorem fenced_object_backtick (rest : List Char) : fenced_object ("```".toList ++ backtick :: rest) = [] := by
  have htag : optional (text "json".toList) (backtick :: rest) = [([], backtick :: rest)] :=
    optional_of_nil (text_eq_nil fun ⟨_, hmore⟩ => absurd (List.cons.inj hmore).1 (by decide))
  have hspaces : many py_isspace (backtick :: rest) = [([], backtick :: rest)] := if_neg (by decide)
  unfold fenced_object
  simp only [bind_apply, text_append, htag, hspaces, List.flatMap_cons, List.flatMap_nil, List.append_nil]
  rfl

/-- No fence begins in prose without one. -/
theorem fenced_object_before {f : Fence} {remaining : List Char} (hticks : ¬ "```".toList <:+: remaining)
    (hne : remaining ≠ []) (rest : List Char) : fenced_object (remaining ++ (f.opening ++ rest)) = [] := by
  by_cases hbegins : "```".toList <+: remaining ++ (f.opening ++ rest)
  · obtain ⟨more, hmore⟩ := hbegins
    have hword : "```".toList ++ more = backtick :: backtick :: backtick :: more := rfl
    rw [hword] at hmore
    rcases remaining with _ | ⟨c, _ | ⟨d, _ | ⟨e, remaining⟩⟩⟩
    · exact absurd rfl hne
    · obtain ⟨hc, -⟩ := List.cons.inj hmore
      subst hc
      exact fenced_object_backtick _
    · obtain ⟨hc, hrest⟩ := List.cons.inj hmore
      obtain ⟨hd, -⟩ := List.cons.inj hrest
      subst hc hd
      exact fenced_object_backtick (backtick :: _)
    · obtain ⟨hc, hrest⟩ := List.cons.inj hmore
      obtain ⟨hd, hrest⟩ := List.cons.inj hrest
      obtain ⟨he, -⟩ := List.cons.inj hrest
      subst hc hd he
      exact absurd (List.prefix_append "```".toList remaining).isInfix hticks
  · exact bind_text_eq_nil hbegins _

theorem read_fenced {key : String} {entries : List (String × LoadedJson)} (h : self.Readable key entries) {f : Fence}
    (hfence : self.fence = some f) {answer : List Char} (hcarries : self.Carries answer) :
    parse_json_answer key answer = some (.obj entries) := by
  obtain ⟨hbefore, hticks⟩ := h.fenced (by rw [hfence]; rfl)
  have hthinking : after_thinking answer = answer := by
    rw [after_thinking, search_text_eq_none fun hword => h.not_thinking.2 (hword.trans hcarries.inside)]
  have hinner : ¬ "```".toList <:+: self.inner := fun hpiece => hticks (hpiece.trans ⟨['{'], ['}'], by simp [object]⟩)
  have hsearch : ∃ found, search fenced_object answer = some found ∧ found.2.1 = self.object := by
    obtain ⟨lead, trail, hlead, -, rfl⟩ := hcarries
    have hbody : self.body ++ trail = f.opening ++ (self.object ++ (f.closing ++ trail)) := by
      simp [body, hfence]
    rw [hbody]
    refine ⟨_, search_append (fun remaining hremaining hne => ?_) (head_fenced_object hinner trail), rfl⟩
    exact fenced_object_before (fun hpiece => hbefore (hpiece.trans (hremaining.trans hlead).isInfix)) hne _
  obtain ⟨found, hfound, hgroup⟩ := hsearch
  unfold parse_json_answer
  simp only [hcarries.ne_nil, Bool.false_eq_true, if_false, hthinking, hfound, Option.bind_some]
  rw [hgroup, self.strip_object, h.loads_object]
  rfl

/-- A verdict after thoughts and a heading. -/
def headed_verdict : ObjectReply where
  thoughts := some "Is it a < b?".toList
  before := "# Verdict\n\nAnswer: ".toList
  fence := none
  inner := "\"summary\": \"Beacon\", \"mitre\": \x7b\x7d".toList
  after := "\n\n\nStay safe.".toList

end ObjectReply

end larp
