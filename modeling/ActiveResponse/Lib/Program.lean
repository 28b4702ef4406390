import Mathlib.Order.Defs.Unbundled

/-- Programs that change a state and may raise. What was done before an exception stays done. -/
abbrev Program (E W : Type) : Type → Type := ExceptT E (StateM W)

namespace Program

variable {E W A B : Type}

/-- The outcome of a program and the state it leaves behind. -/
def exec (x : Program E W A) (w : W) : Except E A × W := (ExceptT.run x).run w

/-- A single step given by its outcome. -/
def of_step (f : W → Except E A × W) : Program E W A := f

/-- `try` around a program whose exception is noted rather than handled. -/
def outcome (x : Program E W A) : Program E W (Except E A) :=
  tryCatch (Except.ok <$> x) fun e => pure (.error e)

@[simp] theorem exec_pure (a : A) (w : W) : (pure a : Program E W A).exec w = (.ok a, w) := rfl

@[simp] theorem exec_get (w : W) : (get : Program E W W).exec w = (.ok w, w) := rfl

@[simp] theorem exec_of_step (f : W → Except E A × W) (w : W) : (of_step f).exec w = f w := rfl

/-- A result that was computed without looking at the state. -/
@[simp] theorem exec_lift (result : Except E A) (w : W) :
    (liftM result : Program E W A).exec w = (result, w) := by
  cases result <;> rfl

theorem exec_lift_ok {result : Except E A} {a : A} (h : result = .ok a) (w : W) :
    (liftM result : Program E W A).exec w = (.ok a, w) := by
  rw [exec_lift, h]

theorem exec_lift_eq_ok {result : Except E A} {a : A} {w w' : W}
    (h : (liftM result : Program E W A).exec w = (.ok a, w')) : result = .ok a ∧ w = w' := by
  rw [exec_lift] at h
  exact Prod.mk.inj h

theorem exec_bind (x : Program E W A) (f : A → Program E W B) (w : W) :
    (x >>= f).exec w =
      match x.exec w with
      | (.ok a, w) => (f a).exec w
      | (.error e, w) => (.error e, w) := by
  simp only [exec, ExceptT.run_bind, StateT.run_bind]
  rcases StateT.run (ExceptT.run x) w with ⟨_ | a, w⟩ <;> rfl

theorem exec_catch (x : Program E W A) (handler : E → Program E W A) (w : W) :
    (tryCatch x handler).exec w =
      match x.exec w with
      | (.ok a, w) => (.ok a, w)
      | (.error e, w) => (handler e).exec w := by
  simp only [exec, tryCatch, tryCatchThe, MonadExceptOf.tryCatch, ExceptT.tryCatch, ExceptT.run, ExceptT.mk]
  rcases hx : StateT.run x w with ⟨_ | a, w⟩ <;> rw [StateT.run_bind, hx] <;> rfl

@[simp] theorem exec_outcome (x : Program E W A) (w : W) :
    x.outcome.exec w = (.ok (x.exec w).1, (x.exec w).2) := by
  rw [outcome, exec_catch, map_eq_pure_bind, exec_bind]
  rcases x.exec w with ⟨_ | a, w⟩ <;> rfl

theorem exec_of_isOk {x : Program E W A} {w : W} (h : (x.exec w).1.isOk) :
    ∃ a, x.exec w = (.ok a, (x.exec w).2) := by
  rcases hrun : x.exec w with ⟨_ | a, w'⟩
  · simp [hrun, Except.isOk, Except.toBool] at h
  · exact ⟨a, rfl⟩

/-- A program that goes on after its first step. -/
theorem exec_bind_ok {x : Program E W A} {f : A → Program E W B} {w w₁ : W} {a : A}
    (h : x.exec w = (.ok a, w₁)) : (x >>= f).exec w = (f a).exec w₁ := by
  rw [exec_bind, h]

/-- A program that ends with a step which leaves the state. -/
theorem exec_bind_snd {x : Program E W A} {f : A → Program E W B} (hf : ∀ a w, ((f a).exec w).2 = w) (w : W) :
    ((x >>= f).exec w).2 = (x.exec w).2 := by
  rw [exec_bind]
  split
  · rename_i hx
    rw [hf, hx]
  · rename_i hx
    rw [hx]

/-- A program returns when each of its steps does. -/
theorem exec_bind_eq_ok_iff {x : Program E W A} {f : A → Program E W B} {w w' : W} {b : B} :
    (x >>= f).exec w = (.ok b, w') ↔ ∃ a w₁, x.exec w = (.ok a, w₁) ∧ (f a).exec w₁ = (.ok b, w') := by
  rw [exec_bind]
  rcases x.exec w with ⟨_ | a, w₁⟩
  · simp
  · simp only [Prod.mk.injEq, Except.ok.injEq]
    exact ⟨fun h => ⟨a, w₁, ⟨rfl, rfl⟩, h⟩, fun ⟨_, _, ⟨ha, hw⟩, h⟩ => ha ▸ hw ▸ h⟩

/-! ## Programs that return -/

/-- From `w` the program returns, with a value and in a state that meet `Q`. -/
def Returns (x : Program E W A) (w : W) (Q : A → W → Prop) : Prop :=
  ∃ a w', x.exec w = (.ok a, w') ∧ Q a w'

section Returns

variable {w : W} {P : A → W → Prop} {Q : B → W → Prop}

theorem returns_pure {a : A} (h : P a w) : (pure a : Program E W A).Returns w P := ⟨a, w, rfl, h⟩

theorem Returns.bind {x : Program E W A} {f : A → Program E W B} (hx : x.Returns w P)
    (hf : ∀ a w', P a w' → (f a).Returns w' Q) : (x >>= f).Returns w Q := by
  obtain ⟨a, w', hexec, hP⟩ := hx
  obtain ⟨b, w'', hrest, hQ⟩ := hf a w' hP
  exact ⟨b, w'', (exec_bind_ok hexec).trans hrest, hQ⟩

/-- A first step whose outcome is known. -/
theorem returns_step {x : Program E W A} {f : A → Program E W B} {a : A} {w' : W}
    (hx : x.exec w = (.ok a, w')) (hf : (f a).Returns w' Q) : (x >>= f).Returns w Q := by
  obtain ⟨b, w'', hrest, hQ⟩ := hf
  exact ⟨b, w'', (exec_bind_ok hx).trans hrest, hQ⟩

theorem Returns.catch {x : Program E W A} (hx : x.Returns w P) (handler : E → Program E W A) :
    (tryCatch x handler).Returns w P := by
  obtain ⟨a, w', hexec, hP⟩ := hx
  exact ⟨a, w', by rw [exec_catch, hexec], hP⟩

end Returns

/-! ## Programs that return or raise -/

/-- From `w` the program returns, with a value and in a state that meet `Q`, or it raises in a state that meets `R`. -/
def Ends (x : Program E W A) (w : W) (Q : A → W → Prop) (R : W → Prop) : Prop :=
  match x.exec w with
  | (.ok a, w') => Q a w'
  | (.error _, w') => R w'

section Ends

variable {w : W} {P : A → W → Prop} {Q : B → W → Prop} {R : W → Prop}

theorem ends_pure {a : A} (h : P a w) : (pure a : Program E W A).Ends w P R := h

theorem Returns.ends {x : Program E W A} (hx : x.Returns w P) : x.Ends w P R := by
  obtain ⟨a, w', hexec, hP⟩ := hx
  rw [Ends, hexec]
  exact hP

theorem Ends.bind {x : Program E W A} {f : A → Program E W B} (hx : x.Ends w P R)
    (hf : ∀ a w', P a w' → (f a).Ends w' Q R) : (x >>= f).Ends w Q R := by
  unfold Ends at hx ⊢
  rw [exec_bind]
  rcases hexec : x.exec w with ⟨e | a, w'⟩ <;> rw [hexec] at hx
  · exact hx
  · exact hf a w' hx

/-- A first step whose outcome is known. -/
theorem ends_step {x : Program E W A} {f : A → Program E W B} {a : A} {w' : W} (hx : x.exec w = (.ok a, w'))
    (hf : (f a).Ends w' Q R) : (x >>= f).Ends w Q R := by
  rw [Ends, exec_bind_ok hx]
  exact hf

/-- A first step that computes a result without looking at the state. -/
theorem ends_lift {result : Except E A} {f : A → Program E W B} (hraise : (∃ e, result = .error e) → R w)
    (hf : ∀ a, result = .ok a → (f a).Ends w Q R) : ((liftM result : Program E W A) >>= f).Ends w Q R := by
  unfold Ends
  rw [exec_bind, exec_lift]
  cases result with
  | ok a => exact hf a rfl
  | error e => exact hraise ⟨e, rfl⟩

/-- A handler that returns where the program raises. -/
theorem Ends.catch {x : Program E W A} (hx : x.Ends w P R) {handler : E → Program E W A}
    (hhandler : ∀ e w', R w' → (handler e).Returns w' P) : (tryCatch x handler).Returns w P := by
  unfold Ends at hx
  unfold Returns
  rw [exec_catch]
  rcases hexec : x.exec w with ⟨e | a, w'⟩ <;> rw [hexec] at hx
  · exact hhandler e w' hx
  · exact ⟨a, w', rfl, hx⟩

end Ends

/-! ## What a program can do to the state -/

/-- Whatever the outcome, the last state of the program is related to the first one. -/
def Within (R : W → W → Prop) (x : Program E W A) : Prop :=
  ∀ w, R w (x.exec w).2

theorem Within.of_exec {R : W → W → Prop} {x : Program E W A} (hx : x.Within R) {w w' : W} {result : Except E A}
    (h : x.exec w = (result, w')) : R w w' := by
  have hw := hx w
  rwa [h] at hw

theorem Within.outcome {R : W → W → Prop} {x : Program E W A} (hx : x.Within R) : x.outcome.Within R := by
  intro w
  rw [exec_outcome]
  exact hx w

section Within

variable {R : W → W → Prop} [IsPreorder W R]

theorem within_pure (a : A) : (pure a : Program E W A).Within R := fun w => refl w

theorem within_lift (result : Except E A) : (liftM result : Program E W A).Within R := by
  intro w
  rw [exec_lift]
  exact refl w

theorem Within.bind {x : Program E W A} {f : A → Program E W B} (hx : x.Within R) (hf : ∀ a, (f a).Within R) :
    (x >>= f).Within R := by
  intro w
  have hfirst := hx w
  rw [exec_bind]
  rcases hrun : x.exec w with ⟨_ | a, w₁⟩ <;> rw [hrun] at hfirst
  · exact hfirst
  · exact IsTrans.trans _ _ _ hfirst (hf a w₁)

theorem Within.catch {x : Program E W A} {handler : E → Program E W A} (hx : x.Within R)
    (hhandler : ∀ e, (handler e).Within R) : (tryCatch x handler).Within R := by
  intro w
  have hfirst := hx w
  rw [exec_catch]
  rcases hrun : x.exec w with ⟨e | a, w₁⟩ <;> rw [hrun] at hfirst
  · exact IsTrans.trans _ _ _ hfirst (hhandler e w₁)
  · exact hfirst

end Within

end Program
