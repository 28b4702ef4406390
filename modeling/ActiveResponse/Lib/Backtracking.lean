import Mathlib.Data.List.Infix
import Mathlib.Tactic.Common

universe u

/-! Patterns that are matched with backtracking. -/

/-- What a pattern matches at the beginning of a text, each match with what follows it. The engine goes through the
matches in their order. -/
def Pattern (α A : Type u) := List α → List (A × List α)

namespace Pattern

variable {α A B : Type u}

instance : Monad (Pattern α) where
  pure a := fun xs => [(a, xs)]
  bind p f := fun xs => (p xs).flatMap fun found => f found.1 found.2

theorem bind_apply (p : Pattern α A) (f : A → Pattern α B) (xs : List α) :
    (p >>= f) xs = (p xs).flatMap fun found => f found.1 found.2 := rfl

def one (p : α → Bool) : Pattern α (List α)
  | [] => []
  | x :: xs => if p x then [([x], xs)] else []

def text [BEq α] (ys : List α) : Pattern α (List α) := fun xs =>
  if ys.isPrefixOf xs then [(ys, xs.drop ys.length)] else []

/-- As many as there are, then fewer. -/
def many (p : α → Bool) : Pattern α (List α)
  | [] => [([], [])]
  | x :: xs => if p x then (many p xs).map (fun found => (x :: found.1, found.2)) ++ [([], x :: xs)] else [([], x :: xs)]

/-- As few as possible, then more. -/
def many_lazy (p : α → Bool) : Pattern α (List α)
  | [] => [([], [])]
  | x :: xs => ([], x :: xs) :: if p x then (many_lazy p xs).map (fun found => (x :: found.1, found.2)) else []

instance : Append (Pattern α (List α)) where
  append p q := do return (← p) ++ (← q)

theorem append_apply (p q : Pattern α (List α)) (xs : List α) :
    (p ++ q) xs = (p xs).flatMap fun first => (q first.2).flatMap fun second => [(first.1 ++ second.1, second.2)] := rfl

/-- Of two patterns the first is tried before the second. -/
def or_else (p q : Pattern α A) : Pattern α A := fun xs => p xs ++ q xs

def optional (p : Pattern α (List α)) : Pattern α (List α) := or_else p (pure [])

/-- As many rounds as there are, then fewer, with a bound on the rounds. -/
def rounds (p : Pattern α (List α)) : ℕ → Pattern α (List α)
  | 0 => pure []
  | fuel + 1 => optional (p ++ rounds p fuel)

/-- No more rounds than there are tokens, for a pattern that reads something in every round. -/
def star (p : Pattern α (List α)) : Pattern α (List α) := fun xs => rounds p xs.length xs

/-- The first match in a text, with what precedes it and what follows it. -/
def search (p : Pattern α A) : List α → Option (List α × A × List α)
  | [] => (p []).head?.map fun found => ([], found)
  | x :: xs =>
    ((p (x :: xs)).head?.map fun found => ([], found)).or ((search p xs).map fun found => (x :: found.1, found.2))

/-- The matches one after the other. -/
def find_all (p : Pattern α A) : ℕ → List α → List A
  | 0, _ => []
  | fuel + 1, xs =>
    match search p xs with
    | none => []
    | some (_, value, rest) => value :: find_all p fuel rest

/-- A match of a sequence is a match of the first pattern and, in what follows it, one of the second. -/
theorem mem_bind {p : Pattern α A} {f : A → Pattern α B} {xs : List α} {found : B × List α} :
    found ∈ (p >>= f) xs ↔ ∃ first ∈ p xs, found ∈ f first.1 first.2 := List.mem_flatMap

theorem mem_append {p q : Pattern α (List α)} {xs : List α} {found : List α × List α} :
    found ∈ (p ++ q) xs ↔ ∃ first ∈ p xs, ∃ second ∈ q first.2, found = (first.1 ++ second.1, second.2) := by
  simp only [append_apply, List.mem_flatMap, List.mem_singleton]

theorem mem_one {p : α → Bool} {xs : List α} {found : List α × List α} (h : found ∈ one p xs) :
    ∃ x rest, p x ∧ xs = x :: rest ∧ found = ([x], rest) := by
  cases xs with
  | nil => cases h
  | cons x xs =>
    by_cases hx : p x
    · rw [one, if_pos hx] at h
      exact ⟨x, xs, hx, rfl, List.mem_singleton.mp h⟩
    · rw [one, if_neg hx] at h
      cases h

theorem mem_text [BEq α] {ys xs : List α} {found : List α × List α} (h : found ∈ text ys xs) : found.1 = ys := by
  unfold text at h
  split at h
  · rw [List.mem_singleton.mp h]
  · cases h

theorem mem_many {p : α → Bool} {xs : List α} {found : List α × List α} (h : found ∈ many p xs) :
    ∀ x ∈ found.1, p x := by
  induction xs generalizing found with
  | nil =>
    rw [List.mem_singleton.mp h]
    exact fun _ hx => by cases hx
  | cons x xs ih =>
    have hnone : ∀ y ∈ ([] : List α), p y := fun _ hy => by cases hy
    unfold many at h
    split at h
    · rename_i hx
      obtain h | h := List.mem_append.mp h
      · obtain ⟨shorter, hshorter, rfl⟩ := List.mem_map.mp h
        exact List.forall_mem_cons.mpr ⟨hx, ih hshorter⟩
      · rw [List.mem_singleton.mp h]
        exact hnone
    · rw [List.mem_singleton.mp h]
      exact hnone

/-! ## What a pattern reads -/

/-- The values of a pattern are what it reads. -/
def Spells (p : Pattern α (List α)) : Prop := ∀ xs, ∀ found ∈ p xs, found.1 ++ found.2 = xs

theorem spells_pure : Spells (pure [] : Pattern α (List α)) := fun _ _ hfound => by
  rw [List.mem_singleton.mp hfound]
  rfl

theorem spells_one (p : α → Bool) : Spells (one p) := by
  intro xs found hfound
  obtain ⟨x, rest, -, rfl, rfl⟩ := mem_one hfound
  rfl

theorem spells_text [BEq α] [LawfulBEq α] (ys : List α) : Spells (text ys) := by
  intro xs found hfound
  unfold text at hfound
  split at hfound
  · rename_i hbegins
    obtain ⟨zs, rfl⟩ := List.isPrefixOf_iff_prefix.mp hbegins
    rw [List.mem_singleton.mp hfound]
    simp
  · cases hfound

theorem spells_many (p : α → Bool) : Spells (many p) := by
  intro xs
  induction xs with
  | nil => simp [many]
  | cons x xs ih =>
    intro found hfound
    unfold many at hfound
    split at hfound
    · obtain hfound | hfound := List.mem_append.mp hfound
      · obtain ⟨shorter, hshorter, rfl⟩ := List.mem_map.mp hfound
        exact congrArg (x :: ·) (ih shorter hshorter)
      · rw [List.mem_singleton.mp hfound]
        rfl
    · rw [List.mem_singleton.mp hfound]
      rfl

theorem spells_many_lazy (p : α → Bool) : Spells (many_lazy p) := by
  intro xs
  induction xs with
  | nil => simp [many_lazy]
  | cons x xs ih =>
    intro found hfound
    unfold many_lazy at hfound
    obtain rfl | hfound := List.mem_cons.mp hfound
    · rfl
    · split at hfound
      · obtain ⟨shorter, hshorter, rfl⟩ := List.mem_map.mp hfound
        exact congrArg (x :: ·) (ih shorter hshorter)
      · cases hfound

theorem Spells.append {p q : Pattern α (List α)} (hp : Spells p) (hq : Spells q) : Spells (p ++ q) := by
  intro xs found hfound
  obtain ⟨first, hfirst, second, hsecond, rfl⟩ := mem_append.mp hfound
  rw [List.append_assoc, hq first.2 second hsecond, hp xs first hfirst]

theorem Spells.or_else {p q : Pattern α (List α)} (hp : Spells p) (hq : Spells q) : Spells (or_else p q) := by
  intro xs found hfound
  obtain hfound | hfound := List.mem_append.mp hfound
  · exact hp xs found hfound
  · exact hq xs found hfound

theorem Spells.star {p : Pattern α (List α)} (hp : Spells p) : Spells (star p) := by
  have hrounds (fuel : ℕ) : Spells (rounds p fuel) := by
    induction fuel with
    | zero => exact spells_pure
    | succ fuel ih => exact (hp.append ih).or_else spells_pure
  exact fun xs => hrounds xs.length xs

/-- A pattern that never reads a token of `stop`: what comes from such a token on makes no difference. -/
def StopsAt (stop : α → Bool) (p : Pattern α A) : Prop :=
  ∀ xs ys, (∀ y ∈ ys.head?, stop y) → p (xs ++ ys) = (p xs).map fun found => (found.1, found.2 ++ ys)

section Stops

variable {stop : α → Bool}

theorem stopsAt_pure (a : A) : StopsAt stop (pure a : Pattern α A) := fun _ _ _ => rfl

theorem stopsAt_one {p : α → Bool} (h : ∀ x, stop x → p x = false) : StopsAt stop (one p) := by
  intro xs ys hys
  cases xs with
  | nil =>
    cases ys with
    | nil => rfl
    | cons y ys => simp [one, h y (hys y rfl)]
  | cons x xs =>
    by_cases hx : p x <;> simp [one, hx]

theorem stopsAt_many {p : α → Bool} (h : ∀ x, stop x → p x = false) : StopsAt stop (many p) := by
  intro xs ys hys
  induction xs with
  | nil =>
    cases ys with
    | nil => rfl
    | cons y ys => simp [many, h y (hys y rfl)]
  | cons x xs ih =>
    by_cases hx : p x <;> simp [many, hx, ih]

theorem stopsAt_text [BEq α] [LawfulBEq α] {word : List α} (h : word.all fun x => !stop x) :
    StopsAt stop (text word) := by
  intro xs ys hys
  have hbegins : word <+: xs ++ ys ↔ word <+: xs := by
    refine ⟨fun hwhole => ?_, fun hwhole => hwhole.trans (List.prefix_append xs ys)⟩
    obtain hbegun | ⟨more, rfl⟩ := List.prefix_or_prefix_of_prefix hwhole (List.prefix_append xs ys)
    · exact hbegun
    · rw [List.prefix_append_right_inj] at hwhole
      cases more with
      | nil => simp
      | cons x more =>
        have hhead : ys.head? = some x := by
          obtain ⟨zs, rfl⟩ := hwhole
          rfl
        have hpassed := List.all_eq_true.mp h x (List.mem_append_right xs List.mem_cons_self)
        rw [hys x hhead] at hpassed
        cases hpassed
  by_cases hword : word <+: xs
  · obtain ⟨zs, rfl⟩ := hword
    simp [text]
  · rw [text, text, if_neg (mt List.isPrefixOf_iff_prefix.mp (mt hbegins.mp hword)),
      if_neg (mt List.isPrefixOf_iff_prefix.mp hword)]
    rfl

theorem StopsAt.bind {p : Pattern α A} {f : A → Pattern α B} (hp : StopsAt stop p) (hf : ∀ a, StopsAt stop (f a)) :
    StopsAt stop (p >>= f) := by
  intro xs ys hys
  rw [bind_apply, bind_apply, hp xs ys hys, List.flatMap_map, List.map_flatMap]
  exact List.flatMap_congr fun found _ => hf found.1 found.2 ys hys

theorem StopsAt.append {p q : Pattern α (List α)} (hp : StopsAt stop p) (hq : StopsAt stop q) :
    StopsAt stop (p ++ q) := hp.bind fun _ => hq.bind fun _ => stopsAt_pure _

theorem StopsAt.or_else {p q : Pattern α A} (hp : StopsAt stop p) (hq : StopsAt stop q) :
    StopsAt stop (or_else p q) := by
  intro xs ys hys
  rw [Pattern.or_else, Pattern.or_else, hp xs ys hys, hq xs ys hys, List.map_append]

/-- What a match leaves of a text goes up to the end of it. -/
theorem StopsAt.rest {p : Pattern α (List α)} (hp : StopsAt stop p) (hspells : Spells p) {xs ys : List α}
    (hys : ∀ y ∈ ys.head?, stop y) {found : List α × List α} (hfound : found ∈ p (xs ++ ys)) :
    ∃ rest, rest <:+ xs ∧ found.2 = rest ++ ys := by
  rw [hp xs ys hys] at hfound
  obtain ⟨inner, hinner, rfl⟩ := List.mem_map.mp hfound
  exact ⟨inner.2, ⟨inner.1, hspells xs inner hinner⟩, rfl⟩

end Stops

/-! ## The search -/

/-- A search finds a match of the pattern between what precedes it and what follows it. -/
theorem mem_of_search {p : Pattern α A} {xs before rest : List α} {value : A}
    (h : search p xs = some (before, value, rest)) : ∃ ys, xs = before ++ ys ∧ (value, rest) ∈ p ys := by
  induction xs generalizing before with
  | nil =>
    obtain ⟨found, hfound, heq⟩ := Option.map_eq_some_iff.mp h
    cases heq
    exact ⟨[], rfl, List.mem_of_head? hfound⟩
  | cons x xs ih =>
    obtain hhere | ⟨-, hlater⟩ := Option.or_eq_some_iff.mp h
    · obtain ⟨found, hfound, heq⟩ := Option.map_eq_some_iff.mp hhere
      cases heq
      exact ⟨x :: xs, rfl, List.mem_of_head? hfound⟩
    · obtain ⟨⟨before', found⟩, hfound, heq⟩ := Option.map_eq_some_iff.mp hlater
      cases heq
      obtain ⟨ys, rfl, hmem⟩ := ih hfound
      exact ⟨ys, rfl, hmem⟩

/-- What is found by a pattern that spells stands in the text. -/
theorem find_all_in_text {p : Pattern α (List α)} (hp : Spells p) {fuel : ℕ} {xs value : List α}
    (h : value ∈ find_all p fuel xs) : value <:+: xs := by
  induction fuel generalizing xs with
  | zero => cases h
  | succ fuel ih =>
    unfold find_all at h
    split at h
    · cases h
    · rename_i before first rest hsearch
      obtain ⟨ys, rfl, hmem⟩ := mem_of_search hsearch
      have hys : first ++ rest = ys := hp ys _ hmem
      rw [← hys]
      obtain rfl | hlater := List.mem_cons.mp h
      · exact ⟨before, rest, by simp⟩
      · exact (ih hlater).trans ⟨before ++ first, [], by simp⟩

theorem search_eq_none {p : Pattern α A} {xs : List α} (h : ∀ ys, ys <:+ xs → p ys = []) : search p xs = none := by
  induction xs with
  | nil => simp [search, h [] List.suffix_rfl]
  | cons x xs ih =>
    have hlater := ih fun ys hys => h ys (hys.trans (List.suffix_cons x xs))
    simp [search, h (x :: xs) List.suffix_rfl, hlater]

/-- Where nothing matches any earlier, the search stops at the match. -/
theorem search_append {p : Pattern α A} {before xs : List α} {found : A × List α}
    (hbefore : ∀ remaining, remaining <:+ before → remaining ≠ [] → p (remaining ++ xs) = [])
    (h : (p xs).head? = some found) : search p (before ++ xs) = some (before, found) := by
  induction before with
  | nil => cases xs <;> simp [search, h]
  | cons x before ih =>
    have hnone : p (x :: (before ++ xs)) = [] := hbefore (x :: before) List.suffix_rfl (List.cons_ne_nil x before)
    have hlater := ih fun remaining hremaining => hbefore remaining (hremaining.trans (List.suffix_cons x before))
    simp [search, hnone, hlater]

theorem search_of_head {p : Pattern α A} {xs : List α} {found : A × List α} (h : (p xs).head? = some found) :
    search p xs = some ([], found) :=
  search_append (fun _ hsuffix hne => absurd (List.suffix_nil.mp hsuffix) hne) h

/-! ## Which match is the first -/

theorem text_append [BEq α] [LawfulBEq α] (ys xs : List α) : text ys (ys ++ xs) = [(ys, xs)] := by
  have hbegins : ys.isPrefixOf (ys ++ xs) = true := List.isPrefixOf_iff_prefix.mpr (List.prefix_append ys xs)
  rw [text, if_pos hbegins, List.drop_left]

theorem text_eq_nil [BEq α] [LawfulBEq α] {ys xs : List α} (h : ¬ ys <+: xs) : text ys xs = [] :=
  if_neg (mt List.isPrefixOf_iff_prefix.mp h)

/-- A word that is not in the text is not found. -/
theorem search_text_eq_none [BEq α] [LawfulBEq α] {ys xs : List α} (h : ¬ ys <:+: xs) : search (text ys) xs = none :=
  search_eq_none fun _ hzs => text_eq_nil fun hbegins => h (hbegins.isInfix.trans hzs.isInfix)

theorem bind_text_eq_nil [BEq α] [LawfulBEq α] {ys xs : List α} (h : ¬ ys <+: xs) (f : List α → Pattern α A) :
    (text ys >>= f) xs = [] := by
  rw [bind_apply, text_eq_nil h, List.flatMap_nil]

theorem one_cons {p : α → Bool} {x : α} (h : p x) (xs : List α) : one p (x :: xs) = [([x], xs)] := if_pos h

theorem head_bind {p : Pattern α A} {f : A → Pattern α B} {xs rest : List α} {value : A} {found : B × List α}
    (hp : (p xs).head? = some (value, rest)) (hf : (f value rest).head? = some found) :
    ((p >>= f) xs).head? = some found := by
  obtain ⟨more, hmore⟩ := List.head?_eq_some_iff.mp hp
  rw [bind_apply, hmore, List.flatMap_cons, List.head?_append, hf]
  rfl

/-- A run up to what ends it is matched as a whole at first. -/
theorem head_many {p : α → Bool} {run rest : List α} (hrun : ∀ x ∈ run, p x) (hrest : ∀ x ∈ rest.head?, p x = false) :
    (many p (run ++ rest)).head? = some (run, rest) := by
  induction run with
  | nil =>
    cases rest with
    | nil => rfl
    | cons x rest =>
      have hx : p x = false := hrest x rfl
      simp [many, hx]
  | cons x run ih =>
    rw [List.forall_mem_cons] at hrun
    have hlater := ih hrun.2
    simp [many, hrun.1, List.head?_append, List.head?_map, hlater]

/-- Of the runs that begin a text, the shortest one that can be continued is taken. -/
theorem head_bind_many_lazy {p : α → Bool} {f : List α → Pattern α B} {run rest : List α} {found : B × List α}
    (hrun : ∀ x ∈ run, p x)
    (hshorter : ∀ begun remaining, run = begun ++ remaining → remaining ≠ [] → f begun (remaining ++ rest) = [])
    (hf : (f run rest).head? = some found) : ((many_lazy p >>= f) (run ++ rest)).head? = some found := by
  induction run generalizing f with
  | nil =>
    cases rest with
    | nil => simpa [bind_apply, many_lazy] using hf
    | cons x rest => simp [bind_apply, many_lazy, List.head?_append, hf]
  | cons x run ih =>
    rw [List.forall_mem_cons] at hrun
    have hnone : f [] (x :: (run ++ rest)) = [] := hshorter [] (x :: run) rfl (List.cons_ne_nil x run)
    have hlater := ih (f := fun begun => f (x :: begun)) hrun.2
      (fun begun remaining hsplit => hshorter (x :: begun) remaining (congrArg (x :: ·) hsplit)) hf
    rw [bind_apply] at hlater ⊢
    simpa [many_lazy, hrun.1, hnone, List.flatMap_map] using hlater

theorem head_optional {p : Pattern α (List α)} {xs : List α} {found : List α × List α}
    (h : (p xs).head? = some found) : (optional p xs).head? = some found := by
  rw [optional, or_else, List.head?_append, h]
  rfl

theorem optional_of_nil {p : Pattern α (List α)} {xs : List α} (h : p xs = []) : optional p xs = [([], xs)] := by
  rw [optional, or_else, h]
  rfl

/-- A word whose first letter comes only once does not begin inside a text before itself. -/
theorem not_prefix_before {a : α} {word text remaining rest : List α} (ha : a ∉ word) (hword : ¬ a :: word <:+: text)
    (hremaining : remaining <:+ text) (hne : remaining ≠ []) : ¬ a :: word <+: remaining ++ (a :: word ++ rest) := by
  intro hbegins
  obtain hwhole | ⟨later, hlater⟩ :=
    List.prefix_or_prefix_of_prefix hbegins (List.prefix_append remaining (a :: word ++ rest))
  · exact hword (hwhole.isInfix.trans hremaining.isInfix)
  · rw [← hlater, List.prefix_append_right_inj] at hbegins
    cases remaining with
    | nil => exact hne rfl
    | cons b remaining =>
      obtain ⟨hhead, hsplit⟩ := List.cons.inj hlater
      cases later with
      | nil =>
        -- The word ends where the text does.
        rw [List.append_nil] at hlater
        exact hword (hlater ▸ hremaining.isInfix)
      | cons c later =>
        have hfirst : c = a := (List.cons_prefix_cons.mp hbegins).1.trans hhead
        rw [← hsplit, hfirst] at ha
        exact ha (List.mem_append_right remaining List.mem_cons_self)

end Pattern
