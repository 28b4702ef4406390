import Mathlib.Data.Fintype.EquivFin
import Mathlib.Data.Set.Finite.Basic
import Mathlib.Logic.Relation
import Mathlib.Order.WellFounded

universe u

/-! # A stack of open nodes that is worked off without a record of the closed ones -/

namespace Worklist

variable {K : Type u} (children : K → List K)

/-- The loop that pops the last node of the stack and appends its children to the stack and to the nodes it has met,
for at most the given number of rounds. -/
def drain : ℕ → List K → List K → Option (List K)
  | 0, frontier, met => if frontier.isEmpty then some met else none
  | rounds + 1, frontier, met =>
    match frontier.getLast? with
    | none => some met
    | some node => drain rounds (frontier.dropLast ++ children node) (met ++ children node)

def Edge (parent child : K) : Prop := child ∈ children parent

/-- Every path that starts at the node ends. -/
def Ends (node : K) : Prop := Acc (Function.swap (Edge children)) node

/-- After some rounds the nodes on top of the stack and all below them are gone, whatever lies under them. -/
def Clears (top : List K) : Prop :=
  ∃ rounds, ∀ rest met, ∃ met', ∀ more,
    drain children (rounds + more) (rest ++ top) met = drain children more rest met'

variable {children}

@[simp] theorem drain_nil (rounds : ℕ) (met : List K) : drain children rounds [] met = some met := by
  cases rounds <;> rfl

theorem drain_concat (rounds : ℕ) (rest : List K) (node : K) (met : List K) :
    drain children (rounds + 1) (rest ++ [node]) met =
      drain children rounds (rest ++ children node) (met ++ children node) := by
  simp [drain]

theorem drain_zero_concat (rest : List K) (node : K) (met : List K) :
    drain children 0 (rest ++ [node]) met = none := by
  simp [drain]

/-- More rounds do not change the result. -/
theorem drain_mono {rounds rounds' : ℕ} {frontier met out : List K}
    (h : drain children rounds frontier met = some out) (hle : rounds ≤ rounds') :
    drain children rounds' frontier met = some out := by
  induction rounds generalizing frontier met rounds' with
  | zero =>
    rcases List.eq_nil_or_concat' frontier with rfl | ⟨rest, node, rfl⟩
    · rwa [drain_nil] at h ⊢
    · simp [drain_zero_concat] at h
  | succ rounds ih =>
    rcases List.eq_nil_or_concat' frontier with rfl | ⟨rest, node, rfl⟩
    · rwa [drain_nil] at h ⊢
    · obtain ⟨rounds', rfl⟩ := Nat.exists_eq_add_of_le' (Nat.one_le_of_lt hle)
      rw [drain_concat] at h ⊢
      exact ih h (Nat.le_of_succ_le_succ hle)

theorem transGen_edge_iff {start node : K} :
    Relation.TransGen (Edge children) start node ↔
      node ∈ children start ∨ ∃ child ∈ children start, Relation.TransGen (Edge children) child node := by
  rw [Relation.TransGen.head'_iff]
  simp only [Relation.reflTransGen_iff_eq_or_transGen, and_or_left, exists_or, exists_eq_right']
  rfl

/-- The loop meets the nodes below those that were open at its start. -/
theorem mem_of_drain {rounds : ℕ} {frontier met out : List K} (h : drain children rounds frontier met = some out)
    {node : K} : node ∈ out ↔ node ∈ met ∨ ∃ start ∈ frontier, Relation.TransGen (Edge children) start node := by
  induction rounds generalizing frontier met with
  | zero =>
    rcases List.eq_nil_or_concat' frontier with rfl | ⟨rest, last, rfl⟩
    · obtain rfl := Option.some.inj ((drain_nil 0 met).symm.trans h)
      simp
    · simp [drain_zero_concat] at h
  | succ rounds ih =>
    rcases List.eq_nil_or_concat' frontier with rfl | ⟨rest, last, rfl⟩
    · obtain rfl := Option.some.inj ((drain_nil _ met).symm.trans h)
      simp
    · rw [drain_concat] at h
      rw [ih h, List.mem_append, or_assoc]
      refine or_congr_right ?_
      simp only [List.mem_append, List.mem_singleton, or_and_right, exists_or, exists_eq_left]
      rw [@transGen_edge_iff K children last]
      exact or_left_comm

theorem clears_append {top top' : List K} (h : Clears children top) (h' : Clears children top') :
    Clears children (top ++ top') := by
  obtain ⟨rounds, hrounds⟩ := h
  obtain ⟨rounds', hrounds'⟩ := h'
  refine ⟨rounds' + rounds, fun rest met => ?_⟩
  obtain ⟨met', hmet'⟩ := hrounds' (rest ++ top) met
  obtain ⟨met'', hmet''⟩ := hrounds rest met'
  refine ⟨met'', fun more => ?_⟩
  rw [← List.append_assoc, Nat.add_assoc, hmet', hmet'']

theorem clears_of_forall {top : List K} (h : ∀ node ∈ top, Clears children [node]) : Clears children top := by
  induction top with
  | nil => exact ⟨0, fun rest met => ⟨met, fun more => by rw [List.append_nil, Nat.zero_add]⟩⟩
  | cons node top ih =>
    exact clears_append (h node List.mem_cons_self) (ih fun other hother => h other (List.mem_cons_of_mem _ hother))

/-- A node is cleared after its children are. -/
theorem clears_node {node : K} (h : Clears children (children node)) : Clears children [node] := by
  obtain ⟨rounds, hrounds⟩ := h
  refine ⟨rounds + 1, fun rest met => ?_⟩
  obtain ⟨met', hmet'⟩ := hrounds rest (met ++ children node)
  refine ⟨met', fun more => ?_⟩
  rw [Nat.add_right_comm, drain_concat, hmet']

theorem Ends.clears {node : K} (h : Ends children node) : Clears children [node] := by
  induction h with
  | intro node _ ih => exact clears_node (clears_of_forall ih)

theorem ends_of_drain {rounds : ℕ} {frontier met out : List K} (h : drain children rounds frontier met = some out) :
    ∀ node ∈ frontier, Ends children node := by
  induction rounds generalizing frontier met with
  | zero =>
    rcases List.eq_nil_or_concat' frontier with rfl | ⟨rest, last, rfl⟩
    · simp
    · simp [drain_zero_concat] at h
  | succ rounds ih =>
    rcases List.eq_nil_or_concat' frontier with rfl | ⟨rest, last, rfl⟩
    · simp
    · rw [drain_concat] at h
      have hends := ih h
      intro node hnode
      rcases List.mem_append.mp hnode with hrest | hlast
      · exact hends node (List.mem_append_left _ hrest)
      · obtain rfl := List.mem_singleton.mp hlast
        exact Acc.intro _ fun child hchild => hends child (List.mem_append_right _ hchild)

/-- The loop comes to an end exactly when every path from an open node does. -/
theorem exists_drain_iff {frontier met : List K} :
    (∃ rounds out, drain children rounds frontier met = some out) ↔ ∀ node ∈ frontier, Ends children node := by
  constructor
  · rintro ⟨rounds, out, h⟩
    exact ends_of_drain h
  · intro hends
    obtain ⟨rounds, hrounds⟩ := clears_of_forall fun node hnode => (hends node hnode).clears
    obtain ⟨met', hmet'⟩ := hrounds [] met
    exact ⟨rounds, met', by simpa using hmet' 0⟩

section Forest

variable {r : K → K → Prop}

/-- With one parent at most for each node, a cycle is only entered from its own nodes. -/
theorem cycle_of_reachable (hparent : ∀ {a b c}, r a c → r b c → a = b) {start node : K}
    (hreach : Relation.ReflTransGen r start node) (hcycle : Relation.TransGen r node node) :
    Relation.TransGen r start start := by
  induction hreach using Relation.ReflTransGen.head_induction_on with
  | refl => exact hcycle
  | head hedge _ ih =>
    obtain ⟨b, hback, hedge'⟩ := Relation.TransGen.tail'_iff.mp ih
    obtain rfl := hparent hedge hedge'
    exact Relation.TransGen.head' hedge hback

theorem not_cycle_of_acc {node : K} (h : Acc (Function.swap r) node) : ¬ Relation.TransGen r node node := by
  have hacc := h.transGen
  clear h
  intro hcycle
  rw [← Relation.transGen_swap] at hcycle
  induction hacc with
  | intro node _ ih => exact ih node hcycle hcycle

theorem reflTransGen_path {path : ℕ → K} (hpath : ∀ n, r (path n) (path (n + 1))) {m n : ℕ} (hle : m ≤ n) :
    Relation.ReflTransGen r (path m) (path n) := by
  induction hle with
  | refl => exact Relation.ReflTransGen.refl
  | step _ ih => exact ih.tail (hpath _)

/-- In a finite forest with cycles, the paths from a node end unless it lies on a cycle. -/
theorem acc_iff_not_cycle (hparent : ∀ {a b c}, r a c → r b c → a = b) (hfinite : {c | ∃ a, r a c}.Finite)
    {node : K} : Acc (Function.swap r) node ↔ ¬ Relation.TransGen r node node := by
  refine ⟨not_cycle_of_acc, fun hcycle => ?_⟩
  by_contra hacc
  obtain ⟨path, rfl, hpath⟩ := not_acc_iff_exists_descending_chain.mp hacc
  have hmaps : Set.MapsTo (fun n => path (n + 1)) Set.univ {c | ∃ a, r a c} := fun n _ => ⟨path n, hpath n⟩
  obtain ⟨m, -, n, -, hne, heq⟩ := Set.infinite_univ.exists_ne_map_eq_of_mapsTo hmaps hfinite
  wlog hlt : m < n generalizing m n
  · exact this n m hne.symm heq.symm (by omega)
  have hreach : Relation.ReflTransGen r (path 0) (path (m + 1)) := reflTransGen_path hpath (Nat.zero_le _)
  have hloop : Relation.TransGen r (path (m + 1)) (path (n + 1)) :=
    Relation.TransGen.tail' (reflTransGen_path hpath hlt) (hpath n)
  rw [← show path (m + 1) = path (n + 1) from heq] at hloop
  exact hcycle (cycle_of_reachable (r := r) hparent hreach hloop)

end Forest

end Worklist
