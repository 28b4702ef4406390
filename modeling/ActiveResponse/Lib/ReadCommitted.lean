import Mathlib.Logic.Function.Basic

universe u v w

/-- A store that transactions share under READ COMMITTED. The writes of an open transaction are
kept by its session: only that session sees them before they are committed. -/
structure ReadCommitted (S : Type u) (D : Type v) (W : Type w) where
  store : D
  writes : S → List W := fun _ => []

namespace ReadCommitted

variable {S : Type u} {D : Type v} {W : Type w} (apply : D → W → Option D)

/-- What a statement of the session reads: the committed store with the session's own writes. -/
def view (self : ReadCommitted S D W) (sid : S) : Option D :=
  (self.writes sid).foldlM apply self.store

variable [DecidableEq S]

def write (self : ReadCommitted S D W) (sid : S) (w : W) : ReadCommitted S D W :=
  { self with writes := Function.update self.writes sid (self.writes sid ++ [w]) }

/-- The end of a transaction without effect. -/
def rollback (self : ReadCommitted S D W) (sid : S) : ReadCommitted S D W :=
  { self with writes := Function.update self.writes sid [] }

/-- The end of a transaction. Writes that the store refuses by now are rolled back. -/
def commit (self : ReadCommitted S D W) (sid : S) : ReadCommitted S D W :=
  match self.view apply sid with
  | some store => { store, writes := Function.update self.writes sid [] }
  | none => self.rollback sid

variable {apply} {self : ReadCommitted S D W} {sid other : S}

omit [DecidableEq S] in
theorem view_of_idle (h : self.writes sid = []) : self.view apply sid = some self.store := by
  rw [view, h]
  rfl

@[simp] theorem store_write (w : W) : (self.write sid w).store = self.store := rfl

@[simp] theorem store_rollback : (self.rollback sid).store = self.store := rfl

@[simp] theorem writes_write_self (w : W) : (self.write sid w).writes sid = self.writes sid ++ [w] :=
  Function.update_self ..

theorem writes_write_of_ne (w : W) (h : other ≠ sid) : (self.write sid w).writes other = self.writes other :=
  Function.update_of_ne h ..

@[simp] theorem writes_rollback_self : (self.rollback sid).writes sid = [] := Function.update_self ..

theorem writes_rollback_of_ne (h : other ≠ sid) : (self.rollback sid).writes other = self.writes other :=
  Function.update_of_ne h ..

theorem commit_of_view {store : D} (h : self.view apply sid = some store) :
    self.commit apply sid = { store, writes := Function.update self.writes sid [] } := by
  rw [commit, h]

@[simp] theorem writes_commit_self : (self.commit apply sid).writes sid = [] := by
  unfold commit
  split
  · exact Function.update_self ..
  · exact writes_rollback_self

private theorem foldlM_iff {Q : D → Prop} {P : W → Prop} {ws : List W}
    (hwrites : ∀ w ∈ ws, ∀ d d', apply d w = some d' → (Q d' ↔ Q d ∨ P w)) {start d : D}
    (hfold : ws.foldlM apply start = some d) : Q d ↔ Q start ∨ ∃ w ∈ ws, P w := by
  induction ws generalizing start with
  | nil =>
    cases hfold
    simp
  | cons w ws ih =>
    rw [List.foldlM_cons] at hfold
    obtain ⟨next, hnext, hrest⟩ := Option.bind_eq_some_iff.mp hfold
    rw [ih (fun w' hw' => hwrites w' (List.mem_cons_of_mem _ hw')) hrest,
      hwrites w List.mem_cons_self _ _ hnext]
    simp only [List.mem_cons, exists_eq_or_imp, or_assoc]

omit [DecidableEq S] in
/-- A fact that only certain writes establish holds of what a session reads exactly if it holds of
the committed store or the session has made such a write. -/
theorem view_iff {Q : D → Prop} {P : W → Prop}
    (hwrites : ∀ w ∈ self.writes sid, ∀ d d', apply d w = some d' → (Q d' ↔ Q d ∨ P w)) {d : D}
    (hview : self.view apply sid = some d) : Q d ↔ Q self.store ∨ ∃ w ∈ self.writes sid, P w :=
  foldlM_iff hwrites hview

end ReadCommitted
