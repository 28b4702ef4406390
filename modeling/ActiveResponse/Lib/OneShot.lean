import ActiveResponse.Lib.Run
import Mathlib.Data.List.Nodup
import Mathlib.Logic.Function.Basic

universe u v

/-- Sessions that use up tokens. A token is one episode of a key: it may be used once, until the key
is renewed. A session claims tokens that the store shows as unspent, uses them, and settles them,
which is when the store shows them as spent. -/
structure OneShot (S : Type u) (K : Type v) where
  episode : K → ℕ
  spent : K → Prop
  claims : S → List (K × ℕ)
  owed : S → List (K × ℕ)
  used : List (K × ℕ)

namespace OneShot

variable {S : Type u} {K : Type v}

/-- The steps. The last one stands for everything else that happens to the store: it starts a new
episode of the keys in `fresh` and shows the keys in `spent` as spent. -/
inductive Op (S : Type u) (K : Type v) where
  | claim (s : S) (keys : List K)
  | use (s : S)
  | settle (s : S)
  | release (s : S)
  | renew (fresh : K → Bool) (spent : K → Prop)

def token (self : OneShot S K) (k : K) : K × ℕ := (k, self.episode k)

variable [DecidableEq S]

def step (self : OneShot S K) : Op S K → OneShot S K
  | .claim s keys => { self with claims := Function.update self.claims s (keys.map self.token) }
  | .use s =>
    { self with
      used := self.used ++ self.claims s
      owed := Function.update self.owed s (self.claims s)
      claims := Function.update self.claims s [] }
  | .settle s =>
    { self with
      spent := fun k => self.spent k ∨ ∃ n, (k, n) ∈ self.owed s
      owed := Function.update self.owed s [] }
  | .release s =>
    { self with
      claims := Function.update self.claims s []
      owed := Function.update self.owed s [] }
  | .renew fresh spent =>
    { self with
      episode := fun k => if fresh k then self.episode k + 1 else self.episode k
      spent }

/-- A claim is on unspent tokens that no other session has claimed or owes, what a session owes is not
forgotten before its keys are spent or renewed, and a spent key stays spent until it is renewed. -/
def Allowed (self : OneShot S K) : Op S K → Prop
  | .claim s keys => keys.Nodup ∧ ∀ k ∈ keys, ¬ self.spent k ∧ self.token k ∉ self.owed s ∧
      ∀ other ≠ s, self.token k ∉ self.claims other ∧ self.token k ∉ self.owed other
  | .use s => self.owed s = []
  | .release s => ∀ t ∈ self.owed s, t = self.token t.1 → self.spent t.1
  | .renew fresh spent => ∀ k, self.spent k → fresh k ∨ spent k
  | .settle _ => True

/-- A token that is in use by a session has not been used, and a used token of the current episode
is spent or owed. -/
structure Sound (state : OneShot S K) : Prop where
  used_nodup : state.used.Nodup
  claims_nodup : ∀ s, (state.claims s).Nodup
  unused : ∀ s, ∀ t ∈ state.claims s, t ∉ state.used
  apart : ∀ s other, ∀ t ∈ state.claims s, t ∈ state.claims other → s = other
  used_past : ∀ t ∈ state.used, t.2 ≤ state.episode t.1
  claims_past : ∀ s, ∀ t ∈ state.claims s, t.2 ≤ state.episode t.1
  covered : ∀ k, state.token k ∈ state.used → state.spent k ∨ ∃ s, state.token k ∈ state.owed s

variable {self : OneShot S K}

private theorem mem_update_nil {lists : S → List (K × ℕ)} {s other : S} {t : K × ℕ}
    (h : t ∈ Function.update lists s [] other) : other ≠ s ∧ t ∈ lists other := by
  by_cases hne : other = s
  · subst hne
    simp at h
  · exact ⟨hne, by rwa [Function.update_of_ne hne] at h⟩

private theorem mem_update_of_ne {lists : S → List (K × ℕ)} {s other : S} {t : K × ℕ} {ts : List (K × ℕ)}
    (hne : other ≠ s) (h : t ∈ lists other) : t ∈ Function.update lists s ts other := by
  rwa [Function.update_of_ne hne]

private theorem nodup_update_nil {lists : S → List (K × ℕ)} (h : ∀ s, (lists s).Nodup) (s other : S) :
    (Function.update lists s [] other).Nodup := by
  by_cases hne : other = s
  · subst hne
    simp
  · rw [Function.update_of_ne hne]
    exact h other

omit [DecidableEq S] in
private theorem token_injective (self : OneShot S K) : Function.Injective self.token :=
  fun _ _ h => (Prod.mk.inj h).1

omit [DecidableEq S] in
/-- A token that is not spent, and that no session owes, has not been used. -/
theorem Sound.not_mem_used (h : self.Sound) {k : K} (hspent : ¬ self.spent k)
    (howed : ∀ s, self.token k ∉ self.owed s) : self.token k ∉ self.used := by
  intro hused
  rcases h.covered k hused with hk | ⟨s, hs⟩
  · exact hspent hk
  · exact howed s hs

private theorem Sound.claim (h : self.Sound) {s : S} {keys : List K} (hallowed : self.Allowed (.claim s keys)) :
    (self.step (.claim s keys)).Sound := by
  obtain ⟨hnodup, hkeys⟩ := hallowed
  have hmem : ∀ {other t}, t ∈ Function.update self.claims s (keys.map self.token) other →
      (other = s ∧ ∃ k ∈ keys, self.token k = t) ∨ (other ≠ s ∧ t ∈ self.claims other) := by
    intro other t ht
    by_cases hne : other = s
    · subst hne
      exact Or.inl ⟨rfl, by simpa using ht⟩
    · exact Or.inr ⟨hne, by rwa [Function.update_of_ne hne] at ht⟩
  refine ⟨h.used_nodup, fun other => ?_, fun other t ht => ?_, fun first second t hfirst hsecond => ?_,
    h.used_past, fun other t ht => ?_, h.covered⟩
  · by_cases hne : other = s
    · subst hne
      simpa [step] using hnodup.map self.token_injective
    · simpa [step, Function.update_of_ne hne] using h.claims_nodup other
  · rcases hmem ht with ⟨_, k, hk, rfl⟩ | ⟨_, ht⟩
    · obtain ⟨hspent, howed, hothers⟩ := hkeys k hk
      refine h.not_mem_used hspent fun owner => ?_
      by_cases hne : owner = s
      · rwa [hne]
      · exact (hothers owner hne).2
    · exact h.unused other t ht
  · rcases hmem hfirst with ⟨rfl, k, hk, rfl⟩ | ⟨hne, hclaim⟩
    · rcases hmem hsecond with ⟨rfl, _⟩ | ⟨hne, hsecond⟩
      · rfl
      · exact absurd hsecond ((hkeys k hk).2.2 second hne).1
    · rcases hmem hsecond with ⟨rfl, k, hk, rfl⟩ | ⟨_, hsecond⟩
      · exact absurd hclaim ((hkeys k hk).2.2 first hne).1
      · exact h.apart first second t hclaim hsecond
  · rcases hmem ht with ⟨_, k, _, rfl⟩ | ⟨_, ht⟩
    · exact Nat.le_refl _
    · exact h.claims_past other t ht

private theorem Sound.use (h : self.Sound) {s : S} (hallowed : self.Allowed (.use s)) :
    (self.step (.use s)).Sound := by
  refine ⟨?_, nodup_update_nil h.claims_nodup s, fun other t ht => ?_, fun first second t hfirst hsecond => ?_,
    fun t ht => ?_, fun other t ht => h.claims_past other t (mem_update_nil ht).2, fun k hk => ?_⟩
  · exact List.nodup_append.mpr ⟨h.used_nodup, h.claims_nodup s, fun t hused t' hclaim heq =>
      h.unused s t' hclaim (heq ▸ hused)⟩
  · obtain ⟨hne, ht⟩ := mem_update_nil ht
    rw [step, List.mem_append, not_or]
    exact ⟨h.unused other t ht, fun hclaim => hne (h.apart other s t ht hclaim)⟩
  · exact h.apart first second t (mem_update_nil hfirst).2 (mem_update_nil hsecond).2
  · rcases List.mem_append.mp ht with ht | ht
    · exact h.used_past t ht
    · exact h.claims_past s t ht
  · rcases List.mem_append.mp hk with hk | hk
    · refine (h.covered k hk).imp_right fun ⟨owner, howner⟩ => ⟨owner, ?_⟩
      have hne : owner ≠ s := by
        rintro rfl
        rw [hallowed] at howner
        cases howner
      exact mem_update_of_ne hne howner
    · exact Or.inr ⟨s, by simpa [step] using hk⟩

private theorem Sound.settle (h : self.Sound) (s : S) : (self.step (.settle s)).Sound := by
  refine ⟨h.used_nodup, h.claims_nodup, h.unused, h.apart, h.used_past, h.claims_past, fun k hk => ?_⟩
  rcases h.covered k hk with hspent | ⟨owner, howner⟩
  · exact Or.inl (Or.inl hspent)
  · by_cases hne : owner = s
    · subst hne
      exact Or.inl (Or.inr ⟨_, howner⟩)
    · exact Or.inr ⟨owner, mem_update_of_ne hne howner⟩

private theorem Sound.release (h : self.Sound) {s : S} (hallowed : self.Allowed (.release s)) :
    (self.step (.release s)).Sound := by
  refine ⟨h.used_nodup, nodup_update_nil h.claims_nodup s,
    fun other t ht => h.unused other t (mem_update_nil ht).2, fun first second t hfirst hsecond => ?_,
    h.used_past, fun other t ht => h.claims_past other t (mem_update_nil ht).2, fun k hk => ?_⟩
  · exact h.apart first second t (mem_update_nil hfirst).2 (mem_update_nil hsecond).2
  · rcases h.covered k hk with hspent | ⟨owner, howner⟩
    · exact Or.inl hspent
    · by_cases hne : owner = s
      · subst hne
        exact Or.inl (hallowed _ howner rfl)
      · exact Or.inr ⟨owner, mem_update_of_ne hne howner⟩

private theorem episode_renew_le (self : OneShot S K) (fresh : K → Bool) (spent : K → Prop) (k : K) :
    self.episode k ≤ (self.step (.renew fresh spent)).episode k := by
  simp only [step]
  split <;> omega

private theorem Sound.renew (h : self.Sound) {fresh : K → Bool} {spent : K → Prop}
    (hallowed : self.Allowed (.renew fresh spent)) : (self.step (.renew fresh spent)).Sound := by
  refine ⟨h.used_nodup, h.claims_nodup, h.unused, h.apart,
    fun t ht => Nat.le_trans (h.used_past t ht) (self.episode_renew_le fresh spent t.1),
    fun s t ht => Nat.le_trans (h.claims_past s t ht) (self.episode_renew_le fresh spent t.1), fun k hk => ?_⟩
  cases hfresh : fresh k with
  | true =>
    -- No token of the new episode has been used.
    have hpast := h.used_past _ hk
    simp only [token, step, hfresh, if_true] at hpast
    omega
  | false =>
    have htoken : (self.step (.renew fresh spent)).token k = self.token k := by
      simp [token, step, hfresh]
    rw [htoken] at hk ⊢
    refine (h.covered k hk).imp_left fun hspent => ?_
    have hspent' : spent k := by simpa [hfresh] using hallowed k hspent
    exact hspent'

/-- An allowed step keeps the tokens sound. -/
theorem Sound.step (h : self.Sound) {op : Op S K} (hallowed : self.Allowed op) : (self.step op).Sound := by
  cases op with
  | claim s keys => exact h.claim hallowed
  | use s => exact h.use hallowed
  | settle s => exact h.settle s
  | release s => exact h.release hallowed
  | renew fresh spent => exact h.renew hallowed

/-- By allowed steps no state is reached in which a token is used twice. -/
theorem Sound.reaches (h : self.Sound) {next : OneShot S K}
    (hreaches : transition.Reaches OneShot.step OneShot.Allowed self next) : next.Sound :=
  hreaches.invariant (fun _ _ hsound hop => hsound.step hop) h

end OneShot
