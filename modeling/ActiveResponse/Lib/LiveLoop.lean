import Mathlib.Data.List.Nodup
import Mathlib.Logic.Function.Basic
import ActiveResponse.Lib.Run

universe u

/-- A loop over a shared collection `C` whose body waits and ends with a result `R`, so that the collection may be
changed by events `V` while the loop is under way. An iterator has a cursor `K`; `next` is its next element, if
there is one, or `none` if it raises. `ahead` and `Valid` say what an iterator that does not raise has still to
yield. -/
structure LiveLoop (C E K R V : Type u) where
  elements : C → List E
  apply : C → V → C
  start : C → K
  next : C → K → Option (Option (E × K))
  aborts : R → Bool
  finish : C → List (E × R) → C
  known : C → E → Prop
  ahead : C → K → List E
  Valid : C → K → Prop
  start_valid : ∀ c, Valid c (start c)
  start_ahead : ∀ c, ahead c (start c) = elements c
  elements_nodup : ∀ c, (elements c).Nodup
  ahead_known : ∀ c k, ∀ e ∈ ahead c k, known c e
  next_valid : ∀ c k, Valid c k → (next c k = some none ∧ ahead c k = []) ∨
    ∃ e k', next c k = some (some (e, k')) ∧ ahead c k = e :: ahead c k' ∧ Valid c k'

namespace LiveLoop

variable {C E K R V : Type u}

/-- A loop that waits in its body: the element whose turn it is, those that had their turn, and those that have
been in the collection since the loop began. -/
structure Waiting (E K R : Type u) where
  cursor : K
  current : E
  visited : List (E × R)
  throughout : List E

structure Outcome (E R : Type u) where
  raised : Bool
  visited : List (E × R)
  throughout : List E

/-- The collection, the loops under way, and the one that has ended in the last step. -/
structure State (C E K R : Type u) where
  coll : C
  loops : ℕ → Option (Waiting E K R) := fun _ => none
  ended : Option (Outcome E R) := none

inductive Step (R V : Type u) where
  | begin (id : ℕ)
  | served (id : ℕ) (result : R)
  | change (event : V)

/-- The loop that a step belongs to. -/
def Step.loop : Step R V → Option ℕ
  | .begin id | .served id _ => some id
  | .change _ => none

def Waiting.seen (self : Waiting E K R) : List E := self.visited.map Prod.fst ++ [self.current]

variable [DecidableEq E] (self : LiveLoop C E K R V)

/-- Note which elements are still there after the collection has changed. -/
def settle (coll : C) (loops : ℕ → Option (Waiting E K R)) (ended : Option (Outcome E R)) : State C E K R where
  coll := coll
  loops id := (loops id).map fun loop =>
    { loop with throughout := loop.throughout.filter fun e => decide (e ∈ self.elements coll) }
  ended := ended

/-- The head of the loop. -/
def advance (s : State C E K R) (id : ℕ) (cursor : K) (visited : List (E × R)) (throughout : List E) :
    State C E K R :=
  match self.next s.coll cursor with
  | none =>
    { s with loops := Function.update s.loops id none, ended := some { raised := true, visited, throughout } }
  | some none =>
    self.settle (self.finish s.coll visited) (Function.update s.loops id none)
      (some { raised := false, visited, throughout })
  | some (some (current, cursor)) =>
    { s with
      loops := Function.update s.loops id (some { cursor, current, visited, throughout })
      ended := none }

/-- The steps between two points at which a loop waits. The end of a loop that is not under way, and the start
of one that is, have no effect. -/
def step (s : State C E K R) : Step R V → State C E K R
  | .begin id =>
    if (s.loops id).isSome then { s with ended := none }
    else self.advance s id (self.start s.coll) [] (self.elements s.coll)
  | .served id result =>
    match s.loops id with
    | none => { s with ended := none }
    | some loop =>
      if self.aborts result then
        { s with
          loops := Function.update s.loops id none
          ended := some { raised := true, visited := loop.visited, throughout := loop.throughout } }
      else self.advance s id loop.cursor (loop.visited ++ [(loop.current, result)]) loop.throughout
  | .change event => self.settle (self.apply s.coll event) s.loops none

/-- The loop has not raised, and each element that was there all the time had its turn exactly once. -/
structure Outcome.Complete (outcome : Outcome E R) : Prop where
  returned : outcome.raised = false
  once : ∀ e ∈ outcome.throughout, (outcome.visited.map Prod.fst).count e = 1

/-- A change of the collection that an iterator survives. -/
structure Stable (L : LiveLoop C E K R V) (before after : C) (cursor : K) : Prop where
  valid : L.Valid before cursor → L.Valid after cursor
  nodup : (L.ahead before cursor).Nodup → (L.ahead after cursor).Nodup
  kept : ∀ e ∈ L.ahead before cursor, e ∈ L.elements after → e ∈ L.ahead after cursor
  fresh : ∀ e ∈ L.ahead after cursor, e ∈ L.ahead before cursor ∨ ¬ L.known before e
  known : ∀ e, L.known before e → L.known after e

/-- The condition on a step: the body does not abort its loop, and the other loops survive what the step does to
the collection. -/
structure Calm (L : LiveLoop C E K R V) (s : State C E K R) (next : Step R V) : Prop where
  body : ∀ id result, next = .served id result → L.aborts result = false
  others : ∀ id loop, s.loops id = some loop → next.loop ≠ some id →
    L.Stable s.coll (L.step s next).coll loop.cursor

/-- What a loop has seen and what it has still to yield. -/
structure Fair (L : LiveLoop C E K R V) (coll : C) (cursor : K) (seen throughout : List E) : Prop where
  valid : L.Valid coll cursor
  nodup : (seen ++ L.ahead coll cursor).Nodup
  covered : ∀ e ∈ throughout, e ∈ seen ∨ e ∈ L.ahead coll cursor
  known : ∀ e ∈ seen, L.known coll e

variable {self} {coll after : C} {cursor : K} {seen throughout : List E}

omit [DecidableEq E] in
theorem Stable.of_eq (h : after = coll) : self.Stable coll after cursor where
  valid hvalid := by rwa [h]
  nodup hnodup := by rwa [h]
  kept _ hahead _ := by rwa [h]
  fresh _ hahead := Or.inl (by rwa [← h])
  known _ hknown := by rwa [h]

omit [DecidableEq E] in
theorem Fair.start (coll : C) : self.Fair coll (self.start coll) [] (self.elements coll) where
  valid := self.start_valid coll
  nodup := by
    rw [List.nil_append, self.start_ahead]
    exact self.elements_nodup coll
  covered e he := Or.inr (by rwa [self.start_ahead])
  known := nofun

omit [DecidableEq E] in
/-- A fair loop yields an element, after which it is still fair, or it ends with nothing left ahead. -/
theorem Fair.next (h : self.Fair coll cursor seen throughout) :
    (self.next coll cursor = some none ∧ self.ahead coll cursor = []) ∨
      ∃ e cursor', self.next coll cursor = some (some (e, cursor')) ∧
        self.Fair coll cursor' (seen ++ [e]) throughout := by
  obtain hdone | ⟨e, cursor', hnext, hahead, hvalid⟩ := self.next_valid coll cursor h.valid
  · exact Or.inl hdone
  · refine Or.inr ⟨e, cursor', hnext, ⟨hvalid, ?_, ?_, ?_⟩⟩
    · have hnodup := h.nodup
      rw [hahead, List.append_cons] at hnodup
      exact hnodup
    · intro x hx
      have hcovered := h.covered x hx
      rw [hahead, List.mem_cons] at hcovered
      rw [List.mem_append, List.mem_singleton, or_assoc]
      exact hcovered
    · intro x hx
      rcases List.mem_append.mp hx with hseen | hnew
      · exact h.known x hseen
      · rw [List.mem_singleton.mp hnew]
        exact self.ahead_known coll cursor e (by rw [hahead]; exact List.mem_cons_self)

/-- A fair loop with nothing left ahead has seen each element that was there all the time exactly once. -/
theorem Fair.count_eq_one (h : self.Fair coll cursor seen throughout) (hdone : self.ahead coll cursor = []) :
    ∀ e ∈ throughout, seen.count e = 1 := by
  intro e he
  have hnodup := h.nodup
  have hcovered := h.covered e he
  rw [hdone, List.append_nil] at hnodup
  rw [hdone, or_iff_left List.not_mem_nil] at hcovered
  exact List.count_eq_one_of_mem hnodup hcovered

/-- A loop survives a change of the collection that is stable for its iterator. -/
theorem Fair.settle (h : self.Fair coll cursor seen throughout) (hstable : self.Stable coll after cursor) :
    self.Fair after cursor seen (throughout.filter fun e => decide (e ∈ self.elements after)) where
  valid := hstable.valid h.valid
  nodup := by
    obtain ⟨hseen, hahead, hdisjoint⟩ := List.nodup_append.mp h.nodup
    refine List.nodup_append.mpr ⟨hseen, hstable.nodup hahead, ?_⟩
    rintro e he _ hafter rfl
    rcases hstable.fresh e hafter with hbefore | hnew
    · exact hdisjoint e he e hbefore rfl
    · exact hnew (h.known e he)
  covered e he := by
    obtain ⟨hthroughout, hpresent⟩ := List.mem_filter.mp he
    rcases h.covered e hthroughout with hseen | hahead
    · exact Or.inl hseen
    · exact Or.inr (hstable.kept e hahead (of_decide_eq_true hpresent))
  known e he := hstable.known e (h.known e he)

/-- All loops under way are fair. -/
def AllFair (L : LiveLoop C E K R V) (s : State C E K R) : Prop :=
  ∀ id loop, s.loops id = some loop → L.Fair s.coll loop.cursor loop.seen loop.throughout

variable {s : State C E K R}

theorem AllFair.settle (coll : C) {loops : ℕ → Option (Waiting E K R)} {ended : Option (Outcome E R)}
    (h : ∀ id loop, loops id = some loop → self.Fair coll loop.cursor loop.seen loop.throughout ∧
      self.Stable coll after loop.cursor) : self.AllFair (self.settle after loops ended) := by
  intro id loop hloop
  obtain ⟨loop, hbefore, rfl⟩ := Option.map_eq_some_iff.mp hloop
  obtain ⟨hfair, hstable⟩ := h id loop hbefore
  exact hfair.settle hstable

/-- The head of a fair loop keeps the others fair if they survive what it does to the collection, and it does not
raise. -/
theorem AllFair.advance (h : self.AllFair s) {id : ℕ} {visited : List (E × R)}
    (hfair : self.Fair s.coll cursor (visited.map Prod.fst) throughout)
    (hothers : ∀ other loop, s.loops other = some loop → other ≠ id →
      self.Stable s.coll (self.advance s id cursor visited throughout).coll loop.cursor) :
    self.AllFair (self.advance s id cursor visited throughout) ∧
      ∀ outcome, (self.advance s id cursor visited throughout).ended = some outcome → outcome.Complete := by
  obtain ⟨hnext, hahead⟩ | ⟨e, cursor', hnext, hfair'⟩ := hfair.next
  · have hend : self.advance s id cursor visited throughout =
        self.settle (self.finish s.coll visited) (Function.update s.loops id none)
          (some { raised := false, visited, throughout }) := by
      rw [LiveLoop.advance, hnext]
    rw [hend] at hothers ⊢
    refine ⟨AllFair.settle s.coll fun other loop hloop => ?_, ?_⟩
    · by_cases hother : other = id
      · rw [hother, Function.update_self] at hloop
        cases hloop
      · rw [Function.update_of_ne hother] at hloop
        exact ⟨h other loop hloop, hothers other loop hloop hother⟩
    · rintro _ ⟨⟩
      exact ⟨rfl, hfair.count_eq_one hahead⟩
  · have hgo : self.advance s id cursor visited throughout =
        { s with
          loops := Function.update s.loops id (some { cursor := cursor', current := e, visited, throughout })
          ended := none } := by
      rw [LiveLoop.advance, hnext]
    rw [hgo]
    refine ⟨fun other loop hloop => ?_, nofun⟩
    dsimp only at hloop ⊢
    by_cases hother : other = id
    · rw [hother, Function.update_self] at hloop
      cases hloop
      exact hfair'
    · rw [Function.update_of_ne hother] at hloop
      exact h other loop hloop

/-- A calm step keeps the loops fair, and a loop that ends in it has been complete. -/
theorem AllFair.step (h : self.AllFair s) {next : Step R V} (hcalm : self.Calm s next) :
    self.AllFair (self.step s next) ∧ ∀ outcome, (self.step s next).ended = some outcome → outcome.Complete := by
  have hothers := hcalm.others
  cases next with
  | begin id =>
    rw [LiveLoop.step] at hothers ⊢
    split at hothers
    · rename_i hbusy
      rw [if_pos hbusy]
      exact ⟨h, nofun⟩
    · rename_i hfree
      rw [if_neg hfree]
      refine h.advance (Fair.start s.coll) fun other loop hloop hother => hothers other loop hloop ?_
      exact fun heq => hother (Option.some.inj heq).symm
  | served id result =>
    have hbody : self.aborts result = false := hcalm.body id result rfl
    rw [LiveLoop.step] at hothers ⊢
    cases hloop : s.loops id with
    | none => exact ⟨h, nofun⟩
    | some loop =>
      simp only [hloop, hbody, Bool.false_eq_true, if_false] at hothers ⊢
      have hfair := h id loop hloop
      refine h.advance (by simpa [Waiting.seen] using hfair) fun other loop hloop hother => ?_
      exact hothers other loop hloop fun heq => hother (Option.some.inj heq).symm
  | change event =>
    exact ⟨AllFair.settle s.coll fun id loop hloop => ⟨h id loop hloop, hothers id loop hloop nofun⟩, nofun⟩

theorem advance_coll (id : ℕ) (cursor : K) (visited : List (E × R)) (throughout : List E) :
    (self.advance s id cursor visited throughout).coll = s.coll ∨
      self.next s.coll cursor = some none ∧
        (self.advance s id cursor visited throughout).coll = self.finish s.coll visited := by
  unfold LiveLoop.advance
  split
  · exact Or.inl rfl
  · rename_i hnext
    exact Or.inr ⟨hnext, rfl⟩
  · exact Or.inl rfl

/-- What a step can do to the collection. -/
theorem step_coll (s : State C E K R) (next : Step R V) : (self.step s next).coll = s.coll ∨
    (∃ event, next = .change event ∧ (self.step s next).coll = self.apply s.coll event) ∨
    (∃ id, next = .begin id ∧ (self.step s next).coll = self.finish s.coll []) ∨
    ∃ id result loop, next = .served id result ∧ s.loops id = some loop ∧
      self.next s.coll loop.cursor = some none ∧
      (self.step s next).coll = self.finish s.coll (loop.visited ++ [(loop.current, result)]) := by
  cases next with
  | begin id =>
    rw [LiveLoop.step]
    split
    · exact Or.inl rfl
    · refine (advance_coll id _ _ _).imp_right fun hfinish => ?_
      exact Or.inr (Or.inl ⟨id, rfl, hfinish.2⟩)
  | served id result =>
    rw [LiveLoop.step]
    split
    · exact Or.inl rfl
    · rename_i loop hloop
      split
      · exact Or.inl rfl
      · refine (advance_coll id _ _ _).imp_right fun hfinish => ?_
        exact Or.inr (Or.inr ⟨id, result, loop, rfl, hloop, hfinish⟩)
  | change event => exact Or.inr (Or.inl ⟨event, rfl, rfl⟩)

/-- In a run of calm steps every loop that ends has been complete. -/
theorem complete_along (coll : C) (steps : List (Step R V))
    (hcalm : transition.Along self.step self.Calm { coll := coll } steps) :
    transition.Along self.step (fun s next => ∀ outcome, (self.step s next).ended = some outcome → outcome.Complete)
      { coll := coll } steps :=
  transition.along_of_invariant (I := self.AllFair) (fun _ _ h hnext => (h.step hnext).1)
    (fun _ _ h hnext => (h.step hnext).2) hcalm nofun

end LiveLoop
