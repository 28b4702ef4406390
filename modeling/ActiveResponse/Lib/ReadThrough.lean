import Mathlib.Logic.Function.Basic
import Mathlib.Order.Lattice
import Mathlib.Data.Nat.Basic
import ActiveResponse.Lib.Run

universe u

/-- A store `D` with a cache of what has been loaded from it. Readers that do not find a fresh value in the cache
load one from the store and leave it in the cache; writers clear the cache after their commit. -/
structure ReadThrough (D R W T : Type u) where
  apply : D → W → Option D
  load : D → R
  cacheable : R → Bool
  fresh : T → T → Bool

namespace ReadThrough

variable {D R W T : Type u}

/-- What was loaded from a version of the store. -/
structure Snapshot (R : Type u) where
  value : R
  version : ℕ

structure Entry (R T : Type u) extends Snapshot R where
  stamp : T

/-- A reader that waits for the store; `floor` is the newest version whose writer had returned when the reader
began. -/
structure Reader (R T : Type u) where
  stamp : T
  floor : ℕ
  loaded : Option (Snapshot R) := none

/-- A writer after its commit. -/
inductive Writer where
  | committed (version : ℕ)
  | cleared (version : ℕ)

/-- A reader that has ended; one without a value has failed. -/
structure Served (R : Type u) where
  floor : ℕ
  value : Option R

/-- `history` has all versions of the store up to the present one. -/
structure State (D R T : Type u) where
  history : ℕ → D
  version : ℕ := 0
  cache : Option (Entry R T) := none
  readers : ℕ → Option (Reader R T) := fun _ => none
  writers : ℕ → Option Writer := fun _ => none
  cleared : ℕ := 0
  returned : ℕ := 0
  served : Option (Served R) := none

inductive Step (W T : Type u) where
  | begin (reader : ℕ) (now : T)
  | load (reader : ℕ)
  | finish (reader : ℕ)
  | fail (reader : ℕ)
  | commit (writer : ℕ) (w : W)
  | clear (writer : ℕ)
  | complete (writer : ℕ)
  | abandon (writer : ℕ)

variable (self : ReadThrough D R W T)

/-- A reader that is under way cannot begin. -/
def begin (s : State D R T) (reader : ℕ) (now : T) : State D R T :=
  if (s.readers reader).isSome then { s with served := none }
  else
    match s.cache.filter fun entry => self.fresh entry.stamp now with
    | some entry => { s with served := some { floor := s.returned, value := some entry.value } }
    | none =>
      { s with
        readers := Function.update s.readers reader (some { stamp := now, floor := s.returned })
        served := none }

/-- The store answers with its present version. -/
def answer (s : State D R T) (reader : ℕ) : State D R T :=
  { s with
    readers := Function.update s.readers reader ((s.readers reader).map fun r =>
      { r with loaded := some (r.loaded.getD { value := self.load (s.history s.version), version := s.version }) })
    served := none }

/-- The reader goes on with what it has loaded. -/
def finish (s : State D R T) (reader : ℕ) : State D R T :=
  match s.readers reader with
  | some { stamp, floor, loaded := some snapshot } =>
    { s with
      cache := if self.cacheable snapshot.value then some { snapshot with stamp } else s.cache
      readers := Function.update s.readers reader none
      served := some { floor, value := some snapshot.value } }
  | _ => { s with served := none }

def fail (s : State D R T) (reader : ℕ) : State D R T :=
  { s with
    readers := Function.update s.readers reader none
    served := (s.readers reader).map fun r => { floor := r.floor, value := none } }

/-- A commit that the store refuses has no effect. -/
def commit (s : State D R T) (writer : ℕ) (w : W) : State D R T :=
  match self.apply (s.history s.version) w with
  | none => { s with served := none }
  | some d =>
    { s with
      history := Function.update s.history (s.version + 1) d
      version := s.version + 1
      writers := Function.update s.writers writer (some (.committed (s.version + 1)))
      served := none }

def clear (s : State D R T) (writer : ℕ) : State D R T :=
  match s.writers writer with
  | some (.committed version) =>
    { s with
      cache := none
      writers := Function.update s.writers writer (some (.cleared version))
      cleared := max s.cleared version
      served := none }
  | _ => { s with served := none }

def complete (s : State D R T) (writer : ℕ) : State D R T :=
  match s.writers writer with
  | some (.cleared version) =>
    { s with
      writers := Function.update s.writers writer none
      returned := max s.returned version
      served := none }
  | _ => { s with served := none }

def abandon (s : State D R T) (writer : ℕ) : State D R T :=
  { s with writers := Function.update s.writers writer none, served := none }

def step (s : State D R T) : Step W T → State D R T
  | .begin reader now => self.begin s reader now
  | .load reader => self.answer s reader
  | .finish reader => self.finish s reader
  | .fail reader => fail s reader
  | .commit writer w => self.commit s writer w
  | .clear writer => clear s writer
  | .complete writer => complete s writer
  | .abandon writer => abandon s writer

/-- A value that is served was loaded from a version of the store that is at least as new as every write whose
writer had returned when the reader began. -/
def Current (s : State D R T) : Prop :=
  ∀ served value, s.served = some served → served.value = some value →
    ∃ version, served.floor ≤ version ∧ version ≤ s.version ∧ value = self.load (s.history version)

/-- The condition on a step. A reader does not leave a value in the cache that is older than a write after which
the cache has been cleared. -/
def settled (s : State D R T) : Step W T → Prop
  | .finish reader => ∀ r snapshot, s.readers reader = some r → r.loaded = some snapshot →
    self.cacheable snapshot.value = true → s.cleared ≤ snapshot.version
  | _ => True

/-- A snapshot is what was loaded from a version of the store between two others. -/
structure Dated (L : ReadThrough D R W T) (history : ℕ → D) (oldest newest : ℕ) (snapshot : Snapshot R) : Prop where
  recent : oldest ≤ snapshot.version
  past : snapshot.version ≤ newest
  loaded : snapshot.value = L.load (history snapshot.version)

/-- What a reader under way knows is recent enough. -/
structure Reader.Fair (L : ReadThrough D R W T) (history : ℕ → D) (newest : ℕ) (r : Reader R T) : Prop where
  floor : r.floor ≤ newest
  loaded : ∀ snapshot, r.loaded = some snapshot → L.Dated history r.floor newest snapshot

def Writer.Known (newest cleared : ℕ) : Writer → Prop
  | .committed version => version ≤ newest
  | .cleared version => version ≤ cleared

/-- The cache is not older than the last time it was cleared. -/
structure Coherent (L : ReadThrough D R W T) (s : State D R T) : Prop where
  returned : s.returned ≤ s.cleared
  cleared : s.cleared ≤ s.version
  cache : ∀ entry, s.cache = some entry → L.Dated s.history s.cleared s.version entry.toSnapshot
  readers : ∀ reader r, s.readers reader = some r → Reader.Fair L s.history s.version r
  writers : ∀ writer w, s.writers writer = some w → Writer.Known s.version s.cleared w

variable {self} {s : State D R T}

/-- A snapshot keeps its date when a version is added. -/
theorem Dated.commit {history : ℕ → D} {oldest newest : ℕ} {snapshot : Snapshot R}
    (h : self.Dated history oldest newest snapshot) (d : D) :
    self.Dated (Function.update history (newest + 1) d) oldest (newest + 1) snapshot where
  recent := h.recent
  past := Nat.le_succ_of_le h.past
  loaded := by
    have hpast := h.past
    rw [Function.update_of_ne (by omega)]
    exact h.loaded

/-- What is served from a recent snapshot is current. -/
theorem Dated.current {floor : ℕ} {snapshot : Snapshot R} (h : self.Dated s.history floor s.version snapshot)
    (hserved : s.served = some { floor := floor, value := some snapshot.value }) : self.Current s := by
  intro served value hs hvalue
  rw [hserved] at hs
  cases hs
  cases hvalue
  exact ⟨snapshot.version, h.recent, h.past, h.loaded⟩

theorem Coherent.begin (h : self.Coherent s) (reader : ℕ) (now : T) :
    self.Coherent (self.begin s reader now) ∧ self.Current (self.begin s reader now) := by
  unfold ReadThrough.begin
  split
  · exact ⟨⟨h.returned, h.cleared, h.cache, h.readers, h.writers⟩, nofun⟩
  · split
    · rename_i entry hentry
      obtain ⟨hcache, -⟩ := Option.filter_eq_some_iff.mp hentry
      have hdated := h.cache entry hcache
      refine ⟨⟨h.returned, h.cleared, h.cache, h.readers, h.writers⟩, ?_⟩
      exact Dated.current ⟨h.returned.trans hdated.recent, hdated.past, hdated.loaded⟩ rfl
    · refine ⟨⟨h.returned, h.cleared, h.cache, transition.forall_update h.readers reader ?_, h.writers⟩, nofun⟩
      rintro _ ⟨⟩
      exact ⟨h.returned.trans h.cleared, nofun⟩

theorem Coherent.answer (h : self.Coherent s) (reader : ℕ) :
    self.Coherent (self.answer s reader) ∧ self.Current (self.answer s reader) := by
  refine ⟨⟨h.returned, h.cleared, h.cache, transition.forall_update h.readers reader ?_, h.writers⟩, nofun⟩
  intro _ hr
  obtain ⟨r, hbefore, rfl⟩ := Option.map_eq_some_iff.mp hr
  have hfair := h.readers reader r hbefore
  refine ⟨hfair.floor, ?_⟩
  rintro _ ⟨⟩
  cases hloaded : r.loaded with
  | none => exact ⟨hfair.floor, le_rfl, rfl⟩
  | some snapshot => exact hfair.loaded snapshot hloaded

theorem Coherent.finish (h : self.Coherent s) {reader : ℕ} (hsettled : self.settled s (.finish reader)) :
    self.Coherent (self.finish s reader) ∧ self.Current (self.finish s reader) := by
  unfold ReadThrough.finish
  split
  · rename_i stamp floor snapshot hr
    have hdated := (h.readers reader _ hr).loaded snapshot rfl
    refine ⟨⟨h.returned, h.cleared, ?_, transition.forall_update h.readers reader nofun, h.writers⟩, ?_⟩
    · dsimp only
      split
      · rename_i hcacheable
        rintro _ ⟨⟩
        exact ⟨hsettled _ snapshot hr rfl hcacheable, hdated.past, hdated.loaded⟩
      · exact h.cache
    · refine Dated.current ?_ rfl
      exact hdated
  · exact ⟨⟨h.returned, h.cleared, h.cache, h.readers, h.writers⟩, nofun⟩

theorem Coherent.fail (h : self.Coherent s) (reader : ℕ) :
    self.Coherent (fail s reader) ∧ self.Current (fail s reader) := by
  refine ⟨⟨h.returned, h.cleared, h.cache, transition.forall_update h.readers reader nofun, h.writers⟩, ?_⟩
  intro served value hserved hvalue
  obtain ⟨r, -, rfl⟩ := Option.map_eq_some_iff.mp hserved
  cases hvalue

theorem Coherent.commit (h : self.Coherent s) (writer : ℕ) (w : W) :
    self.Coherent (self.commit s writer w) ∧ self.Current (self.commit s writer w) := by
  unfold ReadThrough.commit
  split
  · exact ⟨⟨h.returned, h.cleared, h.cache, h.readers, h.writers⟩, nofun⟩
  · rename_i d _
    refine ⟨⟨h.returned, Nat.le_succ_of_le h.cleared, ?_, ?_, transition.forall_update ?_ writer ?_⟩, nofun⟩
    · exact fun entry hentry => (h.cache entry hentry).commit d
    · intro reader r hr
      have hfair := h.readers reader r hr
      exact ⟨Nat.le_succ_of_le hfair.floor, fun snapshot hloaded => (hfair.loaded snapshot hloaded).commit d⟩
    · intro other w' hw'
      have hknown := h.writers other w' hw'
      cases w' with
      | committed version => exact Nat.le_succ_of_le hknown
      | cleared version => exact hknown
    · rintro _ ⟨⟩
      exact le_refl (s.version + 1)

theorem Coherent.clear (h : self.Coherent s) (writer : ℕ) :
    self.Coherent (clear s writer) ∧ self.Current (clear s writer) := by
  unfold ReadThrough.clear
  split
  · rename_i version hw
    have hversion : version ≤ s.version := h.writers writer _ hw
    refine ⟨⟨?_, max_le h.cleared hversion, nofun, h.readers, transition.forall_update ?_ writer ?_⟩, nofun⟩
    · exact h.returned.trans (le_max_left _ _)
    · intro other w' hw'
      have hknown := h.writers other w' hw'
      cases w' with
      | committed version => exact hknown
      | cleared version => exact hknown.trans (le_max_left _ _)
    · rintro _ ⟨⟩
      exact le_max_right s.cleared version
  · exact ⟨⟨h.returned, h.cleared, h.cache, h.readers, h.writers⟩, nofun⟩

theorem Coherent.complete (h : self.Coherent s) (writer : ℕ) :
    self.Coherent (complete s writer) ∧ self.Current (complete s writer) := by
  unfold ReadThrough.complete
  split
  · rename_i version hw
    have hversion : version ≤ s.cleared := h.writers writer _ hw
    have hreturned : max s.returned version ≤ s.cleared := max_le h.returned hversion
    exact ⟨⟨hreturned, h.cleared, h.cache, h.readers, transition.forall_update h.writers writer nofun⟩, nofun⟩
  · exact ⟨⟨h.returned, h.cleared, h.cache, h.readers, h.writers⟩, nofun⟩

theorem Coherent.abandon (h : self.Coherent s) (writer : ℕ) :
    self.Coherent (abandon s writer) ∧ self.Current (abandon s writer) :=
  ⟨⟨h.returned, h.cleared, h.cache, h.readers, transition.forall_update h.writers writer nofun⟩, nofun⟩

/-- A settled step keeps the cache coherent, and what it serves is current. -/
theorem Coherent.step (h : self.Coherent s) {op : Step W T} (hsettled : self.settled s op) :
    self.Coherent (self.step s op) ∧ self.Current (self.step s op) := by
  cases op with
  | begin reader now => exact h.begin reader now
  | load reader => exact h.answer reader
  | finish reader => exact h.finish hsettled
  | fail reader => exact h.fail reader
  | commit writer w => exact h.commit writer w
  | clear writer => exact h.clear writer
  | complete writer => exact h.complete writer
  | abandon writer => exact h.abandon writer

theorem coherent_init (self : ReadThrough D R W T) (d : D) : self.Coherent { history := fun _ => d } :=
  ⟨le_rfl, le_rfl, nofun, nofun, nofun⟩

/-- In a settled run everything that is served is current. -/
theorem current_along (self : ReadThrough D R W T) (d : D) (steps : List (Step W T))
    (h : transition.Along self.step self.settled { history := fun _ => d } steps) :
    transition.Along self.step (fun s op => self.Current (self.step s op)) { history := fun _ => d } steps :=
  transition.along_of_invariant (I := self.Coherent) (fun _ _ h hop => (h.step hop).1)
    (fun _ _ h hop => (h.step hop).2) h (self.coherent_init d)

end ReadThrough
