import Mathlib.Data.List.Forall2

universe u v

/-- A tree with a list of subtrees at every node. -/
inductive RoseTree (A : Type u) where
  | node (label : A) (children : List (RoseTree A))

namespace RoseTree

variable {A : Type u}

def label : RoseTree A → A
  | node label _ => label

mutual

/-- The labels of a tree, a node before its subtrees. -/
def labels : RoseTree A → List A
  | node label children => label :: forest_labels children

def forest_labels : List (RoseTree A) → List A
  | [] => []
  | tree :: trees => labels tree ++ forest_labels trees

end

mutual

/-- For every node the labels from it up to the root, and then those `above`. -/
def branches (above : List A) : RoseTree A → List (List A)
  | node label children => (label :: above) :: forest_branches (label :: above) children

def forest_branches (above : List A) : List (RoseTree A) → List (List A)
  | [] => []
  | tree :: trees => branches above tree ++ forest_branches above trees

end

theorem forest_labels_eq (trees : List (RoseTree A)) : forest_labels trees = trees.flatMap labels := by
  induction trees with
  | nil => rfl
  | cons tree trees ih => rw [forest_labels, ih, List.flatMap_cons]

theorem forest_branches_eq (above : List A) (trees : List (RoseTree A)) :
    forest_branches above trees = trees.flatMap (branches above) := by
  induction trees with
  | nil => rfl
  | cons tree trees ih => rw [forest_branches, ih, List.flatMap_cons]

mutual

/-- A branch starts at its own node. -/
theorem map_head_branches (above : List A) :
    ∀ tree : RoseTree A, (tree.branches above).map List.head? = tree.labels.map some
  | node label children => by
    rw [branches, labels, List.map_cons, List.map_cons, map_head_forest_branches (label :: above) children,
      List.head?_cons]

theorem map_head_forest_branches (above : List A) :
    ∀ trees : List (RoseTree A), (forest_branches above trees).map List.head? = (forest_labels trees).map some
  | [] => rfl
  | tree :: trees => by
    rw [forest_branches, forest_labels, List.map_append, List.map_append, map_head_branches above tree,
      map_head_forest_branches above trees]

end

/-! ## Growing a list of trees -/

section Grow

variable {B : Type v}

theorem mapM_eq_some_iff {f : A → Option B} {xs : List A} {ys : List B} :
    xs.mapM f = some ys ↔ List.Forall₂ (fun x y => f x = some y) xs ys := by
  induction xs generalizing ys with
  | nil =>
    rw [List.mapM_nil, List.forall₂_nil_left_iff]
    exact Option.some_inj.trans eq_comm
  | cons x xs ih =>
    rw [List.mapM_cons, List.forall₂_cons_left_iff]
    constructor
    · intro h
      obtain ⟨y, hy, h⟩ := Option.bind_eq_some_iff.mp h
      obtain ⟨ys, hys, h⟩ := Option.bind_eq_some_iff.mp h
      exact ⟨y, ys, hy, ih.mp hys, (Option.some.inj h).symm⟩
    · rintro ⟨y, ys, hy, hys, rfl⟩
      rw [hy, ih.mpr hys]
      rfl

theorem mem_of_mapM_eq_some {f : A → Option B} {xs : List A} {ys : List B} (h : xs.mapM f = some ys) {y : B} :
    y ∈ ys ↔ ∃ x ∈ xs, f x = some y := by
  induction xs generalizing ys with
  | nil =>
    obtain rfl := List.forall₂_nil_left_iff.mp (mapM_eq_some_iff.mp h)
    simp
  | cons x xs ih =>
    obtain ⟨z, zs, hz, hzs, rfl⟩ := List.forall₂_cons_left_iff.mp (mapM_eq_some_iff.mp h)
    rw [List.mem_cons, ih (mapM_eq_some_iff.mpr hzs), List.exists_mem_cons_iff, hz, Option.some_inj, eq_comm]

theorem exists_of_mapM_eq_some {f : A → Option B} {xs : List A} {ys : List B} (h : xs.mapM f = some ys) {x : A}
    (hx : x ∈ xs) : ∃ y ∈ ys, f x = some y := by
  induction xs generalizing ys with
  | nil => cases hx
  | cons a xs ih =>
    obtain ⟨z, zs, hz, hzs, rfl⟩ := List.forall₂_cons_left_iff.mp (mapM_eq_some_iff.mp h)
    rcases List.mem_cons.mp hx with rfl | hx
    · exact ⟨z, List.mem_cons_self, hz⟩
    · obtain ⟨y, hy, heq⟩ := ih (mapM_eq_some_iff.mpr hzs) hx
      exact ⟨y, List.mem_cons_of_mem _ hy, heq⟩

/-- Partial functions that agree from some point on agree on a list as well. -/
theorem exists_mapM_eq_some {f : ℕ → A → Option B} {n : ℕ} {xs : List A}
    (h : ∀ x ∈ xs, ∃ y, ∀ s, n < s → f s x = some y) : ∃ ys, ∀ s, n < s → xs.mapM (f s) = some ys := by
  induction xs with
  | nil => exact ⟨[], fun _ _ => rfl⟩
  | cons x xs ih =>
    obtain ⟨⟨y, hy⟩, hxs⟩ := List.forall_mem_cons.mp h
    obtain ⟨ys, hys⟩ := ih hxs
    exact ⟨y :: ys, fun s hs => by rw [List.mapM_cons, hy s hs, hys s hs]; rfl⟩

/-- What holds between any two arguments holds between their values. -/
theorem pairwise_of_mapM_eq_some {f : A → Option B} {xs : List A} {ys : List B} {R : B → B → Prop}
    (h : xs.mapM f = some ys) (hxs : xs.Pairwise fun x x' => ∀ y y', f x = some y → f x' = some y' → R y y') :
    ys.Pairwise R := by
  induction xs generalizing ys with
  | nil =>
    obtain rfl := List.forall₂_nil_left_iff.mp (mapM_eq_some_iff.mp h)
    exact List.Pairwise.nil
  | cons x xs ih =>
    obtain ⟨y, ys, hy, hys, rfl⟩ := List.forall₂_cons_left_iff.mp (mapM_eq_some_iff.mp h)
    obtain ⟨hfirst, hrest⟩ := List.pairwise_cons.mp hxs
    refine List.pairwise_cons.mpr ⟨fun y' hy' => ?_, ih (mapM_eq_some_iff.mpr hys) hrest⟩
    obtain ⟨x', hx', heq⟩ := (mem_of_mapM_eq_some (mapM_eq_some_iff.mpr hys)).mp hy'
    exact hfirst x' hx' y y' hy heq

end Grow

end RoseTree
