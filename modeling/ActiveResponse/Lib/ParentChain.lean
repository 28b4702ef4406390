import Mathlib.Data.List.Chain
import Mathlib.Data.List.Infix
import Mathlib.Data.List.Nodup
import Mathlib.Data.Set.Function
import Mathlib.Logic.Relation

universe u v

/-! # Chains of parents, and what of them is left when repetitions are cut -/

namespace ParentChain

variable {A : Type u} {K : Type v} [DecidableEq K] (key : A → K) (parent : A → Option A)

/-- An element and its ancestors, up to `limit` of them, ending before a key that is in `seen` or was met on the way. -/
def lineage : ℕ → List K → A → List A
  | 0, _, _ => []
  | limit + 1, seen, a =>
    a :: match parent a with
      | none => []
      | some b => if key b ∈ key a :: seen then [] else lineage limit (key a :: seen) b

/-- A list that goes from an element to its parent, without a key twice and without one that is in `seen`. -/
structure Climb (seen : List K) (climb : List A) : Prop where
  chain : climb.IsChain fun a b => parent a = some b
  nodup : (climb.map key).Nodup
  fresh : ∀ a ∈ climb, key a ∉ seen

variable {key parent}

theorem head_of_isPrefix_lineage {limit : ℕ} {seen : List K} {a b : A} {rest : List A}
    (h : a :: rest <+: lineage key parent limit seen b) : a = b := by
  cases limit with
  | zero => simp [lineage] at h
  | succ limit =>
    rw [lineage, List.cons_prefix_cons] at h
    exact h.1

omit [DecidableEq K] in
/-- A climb from `a` goes on with a climb from the parent of `a` that does not come back to `a`. -/
theorem climb_cons_iff {seen : List K} {a b : A} {rest : List A} (ha : key a ∉ seen) :
    Climb key parent seen (a :: b :: rest) ↔ parent a = some b ∧ Climb key parent (key a :: seen) (b :: rest) := by
  constructor
  · rintro ⟨hchain, hnodup, hfresh⟩
    obtain ⟨hparent, hchain⟩ := List.isChain_cons_cons.mp hchain
    rw [List.map_cons, List.nodup_cons] at hnodup
    refine ⟨hparent, hchain, hnodup.2, fun c hc hseen => ?_⟩
    rcases List.mem_cons.mp hseen with heq | hseen
    · exact hnodup.1 (heq ▸ List.mem_map_of_mem hc)
    · exact hfresh c (List.mem_cons_of_mem _ hc) hseen
  · rintro ⟨hparent, hchain, hnodup, hfresh⟩
    refine ⟨List.isChain_cons_cons.mpr ⟨hparent, hchain⟩, ?_, ?_⟩
    · rw [List.map_cons, List.nodup_cons]
      refine ⟨fun hmem => ?_, hnodup⟩
      obtain ⟨c, hc, heq⟩ := List.mem_map.mp hmem
      exact hfresh c hc (heq ▸ List.mem_cons_self)
    · intro c hc
      rcases List.mem_cons.mp hc with rfl | hc
      · exact ha
      · exact fun hseen => hfresh c hc (List.mem_cons_of_mem _ hseen)

/-- The climbs from an element are what its lineage starts with. -/
theorem isPrefix_lineage_iff {limit : ℕ} {seen : List K} {a : A} {rest : List A} (ha : key a ∉ seen) :
    a :: rest <+: lineage key parent limit seen a ↔ rest.length < limit ∧ Climb key parent seen (a :: rest) := by
  induction limit generalizing seen a rest with
  | zero => simp [lineage]
  | succ limit ih =>
    rw [lineage, List.cons_prefix_cons]
    cases rest with
    | nil =>
      refine iff_of_true ⟨rfl, List.nil_prefix⟩ ⟨Nat.succ_pos _, List.isChain_singleton a, List.nodup_singleton _, ?_⟩
      simpa using ha
    | cons b rest =>
      rw [climb_cons_iff ha, List.length_cons, Nat.add_lt_add_iff_right]
      constructor
      · rintro ⟨-, hbegins⟩
        cases hparent : parent a with
        | none => simp [hparent] at hbegins
        | some c =>
          rw [hparent] at hbegins
          dsimp only at hbegins
          split at hbegins
          · simp at hbegins
          · rename_i hfresh
            obtain rfl := head_of_isPrefix_lineage hbegins
            obtain ⟨hlength, hclimb⟩ := (ih hfresh).mp hbegins
            exact ⟨hlength, rfl, hclimb⟩
      · rintro ⟨hlength, hparent, hclimb⟩
        have hfresh := hclimb.fresh b List.mem_cons_self
        rw [hparent]
        dsimp only
        rw [if_neg hfresh]
        exact ⟨rfl, (ih hfresh).mpr ⟨hlength, hclimb⟩⟩

/-- Among the beginnings of a list, one ends in each of its elements. -/
theorem length_filter_inits (P : A → Bool) (l : List A) :
    (l.inits.filter fun start => start.getLast?.any P).length = l.countP P := by
  rw [← List.countP_eq_length_filter]
  induction l with
  | nil => rfl
  | cons a l ih =>
    cases l with
    | nil => cases hP : P a <;> simp [List.inits, hP]
    | cons b l =>
      have hlast : (fun start : List A => start.getLast?.any P) ∘ (fun t => a :: t) ∘ (fun t => b :: t) =
          (fun start : List A => start.getLast?.any P) ∘ fun t => b :: t := by
        funext t
        simp
      rw [List.inits_cons, List.countP_cons, List.countP_map] at ih
      rw [List.inits_cons, List.countP_cons, List.countP_map, List.inits_cons, List.countP_cons, List.countP_map,
        Function.comp_assoc, hlast]
      cases hP : P a <;> simp_all [List.countP_cons]

theorem nodup_inits (l : List A) : l.inits.Nodup := by
  induction l with
  | nil => exact List.nodup_singleton _
  | cons a l ih =>
    rw [List.inits_cons, List.nodup_cons]
    exact ⟨by simp, ih.map (List.cons_injective)⟩

/-- Two beginnings of a list that are equal after a map are equal. -/
theorem map_injOn_inits {B : Type v} (f : A → B) {l start start' : List A} (h : start <+: l) (h' : start' <+: l)
    (heq : start.map f = start'.map f) : start = start' := by
  have hlength : start.length = start'.length := by simpa using congrArg List.length heq
  exact (List.prefix_of_prefix_length_le h h' hlength.le).eq_of_length hlength

/-! ## All proper ancestors -/

section Ancestry

omit [DecidableEq K]

/-- The proper ancestors of an element, the nearest first: none twice, not the element itself, and all of them unless
the list is cut at `limit`. -/
structure Ancestry (key : A → K) (parent : A → Option A) (limit : ℕ) (a : A) (chain : List A) : Prop where
  climb : Climb key parent [] (a :: chain)
  cut : chain.length ≤ limit
  all : chain.length < limit → ∀ b, Relation.TransGen (fun x y => parent x = some y) a b → b = a ∨ b ∈ chain

/-- What is closed under parents holds all ancestors. -/
theorem mem_of_transGen {l : List A} (hclosed : ∀ x ∈ l, ∀ y, parent x = some y → y ∈ l) {a b : A} (ha : a ∈ l)
    (h : Relation.TransGen (fun x y => parent x = some y) a b) : b ∈ l := by
  induction h with
  | single hparent => exact hclosed a ha _ hparent
  | tail _ hparent ih => exact hclosed _ ih _ hparent

/-- The elements of a chain are ancestors of its first. -/
theorem transGen_of_isChain {a : A} {chain : List A} (h : (a :: chain).IsChain fun x y => parent x = some y) :
    ∀ b ∈ chain, Relation.TransGen (fun x y => parent x = some y) a b := by
  induction chain generalizing a with
  | nil => exact fun b hb => absurd hb List.not_mem_nil
  | cons first rest ih =>
    obtain ⟨hparent, hrest⟩ := List.isChain_cons_cons.mp h
    intro b hb
    obtain rfl | hb := List.mem_cons.mp hb
    · exact .single hparent
    · exact .head hparent (ih hrest b hb)

/-- A climb can go on with a parent that has not been met. -/
theorem Climb.concat {climb : List A} {q r : A} (h : Climb key parent [] climb) (hlast : climb.getLast? = some q)
    (hparent : parent q = some r) (hnew : key r ∉ climb.map key) : Climb key parent [] (climb ++ [r]) where
  chain := by
    refine List.isChain_append.mpr ⟨h.chain, List.isChain_singleton r, fun x hx y hy => ?_⟩
    rw [hlast, Option.mem_some_iff] at hx
    rw [List.head?_cons, Option.mem_some_iff] at hy
    rw [← hx, ← hy]
    exact hparent
  nodup := by
    rw [List.map_append, List.nodup_append]
    refine ⟨h.nodup, List.nodup_singleton _, ?_⟩
    rintro k hk k' hk' rfl
    exact hnew (List.mem_singleton.mp hk' ▸ hk)
  fresh _ _ := List.not_mem_nil

end Ancestry

/-- A lineage that is shorter than it could be ends since the parents go back to it. -/
theorem key_mem_of_lineage {limit : ℕ} {a : A} {chain : List A}
    (h : a :: chain = lineage key parent (limit + 1) [] a) (hshort : chain.length < limit) {x y : A}
    (hx : x ∈ a :: chain) (hy : parent x = some y) : key y ∈ (a :: chain).map key := by
  have hprefix : a :: chain <+: lineage key parent (limit + 1) [] a := h ▸ List.prefix_rfl
  obtain ⟨-, hclimb⟩ := (isPrefix_lineage_iff List.not_mem_nil).mp hprefix
  obtain ⟨before, after, hsplit⟩ := List.append_of_mem hx
  cases after with
  | cons z after =>
    have hchain := hclimb.chain
    rw [hsplit, List.isChain_append_cons_cons] at hchain
    have hz : y = z := Option.some.inj (hy.symm.trans hchain.2.1)
    rw [hz, hsplit]
    simp
  | nil =>
    by_contra hnew
    have hlast : (a :: chain).getLast? = some x := by rw [hsplit, List.getLast?_concat]
    have hlonger : a :: (chain ++ [y]) <+: lineage key parent (limit + 1) [] a :=
      (isPrefix_lineage_iff List.not_mem_nil).mpr ⟨by simpa using hshort, hclimb.concat hlast hy hnew⟩
    have hle := hlonger.length_le
    rw [← h, List.length_cons, List.length_cons, List.length_append, List.length_singleton] at hle
    omega

/-- A chain is the ancestry of an element exactly if it is its lineage. -/
theorem ancestry_iff {S : Set A} (hkey : Set.InjOn key S) (hparent : ∀ x y, parent x = some y → y ∈ S) {limit : ℕ}
    {a : A} (ha : a ∈ S) {chain : List A} :
    Ancestry key parent limit a chain ↔ a :: chain = lineage key parent (limit + 1) [] a := by
  constructor
  · intro h
    have hprefix : a :: chain <+: lineage key parent (limit + 1) [] a :=
      (isPrefix_lineage_iff List.not_mem_nil).mpr ⟨Nat.lt_succ_of_le h.cut, h.climb⟩
    obtain ⟨more, hmore⟩ := hprefix
    cases more with
    | nil => rwa [List.append_nil] at hmore
    | cons b more =>
      exfalso
      have hlonger : a :: (chain ++ [b]) <+: lineage key parent (limit + 1) [] a := ⟨more, by simpa using hmore⟩
      obtain ⟨hlength, hclimb⟩ := (isPrefix_lineage_iff List.not_mem_nil).mp hlonger
      rw [List.length_append, List.length_singleton] at hlength
      have hmem : b ∈ a :: chain := by
        rw [List.mem_cons]
        exact h.all (by omega) b (transGen_of_isChain hclimb.chain b (by simp))
      have hnodup : ((a :: chain) ++ [b]).Nodup := List.Nodup.of_map key hclimb.nodup
      exact (List.nodup_append.mp hnodup).2.2 b hmem b (List.mem_singleton_self b) rfl
  · intro h
    have hprefix : a :: chain <+: lineage key parent (limit + 1) [] a := h ▸ List.prefix_rfl
    obtain ⟨hlength, hclimb⟩ := (isPrefix_lineage_iff List.not_mem_nil).mp hprefix
    have hmem : ∀ x ∈ a :: chain, x ∈ S := by
      intro x hx
      obtain rfl | hx := List.mem_cons.mp hx
      · exact ha
      · obtain ⟨y, -, hy⟩ := Relation.TransGen.tail'_iff.mp (transGen_of_isChain hclimb.chain x hx)
        exact hparent y x hy
    refine ⟨hclimb, Nat.le_of_lt_succ hlength, fun hshort b hb => ?_⟩
    refine List.mem_cons.mp (mem_of_transGen (fun x hx y hy => ?_) List.mem_cons_self hb)
    obtain ⟨z, hz, heq⟩ := List.mem_map.mp (key_mem_of_lineage h hshort hx hy)
    exact hkey (hmem z hz) (hparent x y hy) heq ▸ hz

/-! ## A walk that does not look back -/

/-- Up to `limit` steps. -/
def walk (step : A → Option A) : ℕ → A → List A
  | 0, _ => []
  | limit + 1, a =>
    match step a with
    | none => []
    | some b => b :: walk step limit b

omit [DecidableEq K] in
theorem mem_of_mem_walk {S : Set A} {step : A → Option A} (hstep : ∀ x y, step x = some y → y ∈ S) {limit : ℕ} {a : A} :
    ∀ b ∈ walk step limit a, b ∈ S := by
  induction limit generalizing a with
  | zero => exact fun b hb => absurd hb List.not_mem_nil
  | succ limit ih =>
    intro b hb
    rw [walk] at hb
    split at hb
    · cases hb
    · rename_i c hc
      obtain rfl | hb := List.mem_cons.mp hb
      · exact hstep a b hc
      · exact ih b hb

/-- The lineage goes on with the parent, if it is new. -/
theorem lineage_succ {limit : ℕ} {seen : List K} {a : A} : lineage key parent (limit + 1) seen a =
    a :: match (parent a).filter fun b => key b ∉ key a :: seen with
      | none => []
      | some b => lineage key parent limit (key a :: seen) b := by
  rw [lineage]
  cases parent a with
  | none => rfl
  | some b =>
    dsimp only
    by_cases hseen : key b ∈ key a :: seen
    · simp only [Option.filter, hseen, not_true_eq_false, decide_false, if_true]
      rfl
    · simp only [Option.filter, hseen, not_false_eq_true, decide_true, if_true, if_false]

private theorem walk_eq_lineage_iff {step : A → Option A} {limit : ℕ} {seen : List K} {next : A → List A}
    (hnext : ∀ b, next b = lineage key parent (limit + 1) seen b) {found expected : Option A} :
    (match found with | none => [] | some b => b :: walk step limit b) =
        (match expected with | none => [] | some b => next b) ↔
      found = expected ∧ ∀ b, expected = some b → b :: walk step limit b = lineage key parent (limit + 1) seen b := by
  cases found with
  | none =>
    cases expected with
    | none => simp
    | some c =>
      dsimp only
      rw [hnext, lineage_succ]
      simp
  | some b =>
    cases expected with
    | none => simp
    | some c =>
      dsimp only
      rw [hnext]
      constructor
      · intro h
        have hhead := h
        rw [lineage_succ] at hhead
        obtain rfl := (List.cons.inj hhead).1
        exact ⟨rfl, fun d hd => Option.some.inj hd ▸ h⟩
      · rintro ⟨hfound, h⟩
        rw [Option.some.inj hfound]
        exact h c rfl

/-- The walk meets the lineage exactly if each of its steps goes to the parent while that is new, and to nothing when it
is not. -/
theorem cons_walk_eq_lineage_iff {step : A → Option A} {limit : ℕ} {seen : List K} {a : A} (ha : key a ∉ seen) :
    a :: walk step limit a = lineage key parent (limit + 1) seen a ↔
      ∀ climb q, climb.head? = some a → climb.getLast? = some q → climb.length ≤ limit →
        Climb key parent seen climb → step q = (parent q).filter fun b => key b ∉ climb.map key ++ seen := by
  induction limit generalizing seen a with
  | zero =>
    refine iff_of_true ?_ ?_
    · rw [lineage_succ, walk]
      split <;> rfl
    · intro climb q hhead _ hlength
      rw [List.length_eq_zero_iff.mp (Nat.le_zero.mp hlength)] at hhead
      cases hhead
  | succ limit ih =>
    rw [lineage_succ, walk, List.cons_inj_right, walk_eq_lineage_iff fun _ => rfl]
    have hmove (rest : List A) : (fun b => decide (key b ∉ (a :: rest).map key ++ seen)) =
        fun b => decide (key b ∉ rest.map key ++ key a :: seen) := by
      funext b
      simp only [List.map_cons, List.cons_append, List.mem_cons, List.mem_append, or_left_comm]
    have hnew {b : A} (hb : ((parent a).filter fun b => key b ∉ key a :: seen) = some b) :
        parent a = some b ∧ key b ∉ key a :: seen := by
      rw [Option.filter_eq_some_iff] at hb
      exact ⟨hb.1, of_decide_eq_true hb.2⟩
    constructor
    · rintro ⟨hfirst, hrest⟩ climb q hhead hlast hlength hclimb
      obtain ⟨rest, rfl⟩ : ∃ rest, climb = a :: rest := by
        cases climb with
        | nil => cases hhead
        | cons c rest => exact ⟨rest, by rw [Option.some.inj hhead]⟩
      cases rest with
      | nil =>
        obtain rfl := Option.some.inj hlast
        exact hfirst
      | cons b rest =>
        obtain ⟨hparent, hclimb⟩ := (climb_cons_iff ha).mp hclimb
        have hfresh := hclimb.fresh b List.mem_cons_self
        have hb : ((parent a).filter fun b => key b ∉ key a :: seen) = some b := by
          rw [hparent, Option.filter_some, if_pos (decide_eq_true hfresh)]
        rw [hmove]
        exact (ih hfresh).mp (hrest b hb) (b :: rest) q rfl (by simpa using hlast) (Nat.le_of_succ_le_succ hlength) hclimb
    · intro h
      refine ⟨h [a] a rfl rfl (by simp) ⟨List.isChain_singleton a, List.nodup_singleton _, by simpa using ha⟩, ?_⟩
      intro b hb
      obtain ⟨hparent, hfresh⟩ := hnew hb
      refine (ih hfresh).mpr fun climb q hhead hlast hlength hclimb => ?_
      obtain ⟨rest, rfl⟩ : ∃ rest, climb = b :: rest := by
        cases climb with
        | nil => cases hhead
        | cons c rest => exact ⟨rest, by rw [Option.some.inj hhead]⟩
      rw [← hmove]
      exact h (a :: b :: rest) q rfl (by simpa using hlast) (Nat.succ_le_succ hlength)
        ((climb_cons_iff ha).mpr ⟨hparent, hclimb⟩)

end ParentChain
