/-
# The walk is the preorder

The walk of a type works on a stack that grows while it is emptied, so its order cannot be read off
its definition. This module states the order by recursion on the type, a node before its arguments
and the arguments from left to right, and proves that the walk yields just this order. What is said
elsewhere about walks is said about the recursive order, for instance that it does not depend on the
labels.
-/

import QuietSource.TypeTree

namespace QuietSource.TypeTree

variable {α : Type}

mutual

/-- A type and all types in it: the type itself, then those in its arguments from left to right. -/
def preorder : TypeTree α → List (TypeTree α)
  | .node label args => .node label args :: preorderAll args

/-- The preorders of several types, one after the other. -/
def preorderAll : List (TypeTree α) → List (TypeTree α)
  | [] => []
  | tree :: rest => tree.preorder ++ preorderAll rest

end

theorem preorderAll_append (first second : List (TypeTree α)) :
    preorderAll (first ++ second) = preorderAll first ++ preorderAll second := by
  induction first with
  | nil => rfl
  | cons tree rest ih => simp only [List.cons_append, preorderAll, ih, List.append_assoc]

theorem preorderAll_eq_flatMap (trees : List (TypeTree α)) :
    preorderAll trees = trees.flatMap preorder := by
  induction trees with
  | nil => rfl
  | cons tree rest ih => rw [preorderAll, ih, List.flatMap_cons]

/-- Whatever is on the stack, the trees still to be visited are those in its preorder. Taking a tree
off puts its arguments in front, where the preorder has them too. -/
theorem visit_eq_preorderAll (pending : List (TypeTree α)) :
    visit pending = preorderAll pending := by
  induction pending using visit.induct with
  | case1 => simp [visit, preorderAll]
  | case2 label args pending ih =>
    rw [visit, ih, preorderAll_append, preorderAll, preorder, List.cons_append]

/-- The walk of a type meets its subtrees in preorder. -/
theorem walk_eq_preorder (tree : TypeTree α) : tree.walk = tree.preorder := by
  rw [walk, visit_eq_preorderAll, preorderAll, preorderAll, List.append_nil]

/-- The walk of a type begins with the type itself and goes on with the walks of its arguments. -/
theorem walk_node (label : α) (args : List (TypeTree α)) :
    walk (.node label args) = .node label args :: args.flatMap walk := by
  have everywhere : (walk : TypeTree α → List (TypeTree α)) = preorder := funext walk_eq_preorder
  rw [everywhere, preorder, preorderAll_eq_flatMap]

theorem labels_eq_map_preorder (tree : TypeTree α) : tree.labels = tree.preorder.map label := by
  rw [labels, walk_eq_preorder]

mutual

/-- The type with other labels in the same places. -/
def map {β : Type} (relabel : α → β) : TypeTree α → TypeTree β
  | .node label args => .node (relabel label) (mapAll relabel args)

/-- Types with other labels in the same places. -/
def mapAll {β : Type} (relabel : α → β) : List (TypeTree α) → List (TypeTree β)
  | [] => []
  | tree :: rest => tree.map relabel :: mapAll relabel rest

end

@[simp] theorem label_map {β : Type} (relabel : α → β) (tree : TypeTree α) :
    (tree.map relabel).label = relabel tree.label := by
  cases tree
  rfl

mutual

/-- Other labels leave the order as it is. -/
theorem preorder_map {β : Type} (relabel : α → β) : (tree : TypeTree α) →
    (tree.map relabel).preorder = tree.preorder.map (map relabel)
  | .node label args => by
    rw [map, preorder, preorder, List.map_cons, map, preorderAll_mapAll relabel args]

theorem preorderAll_mapAll {β : Type} (relabel : α → β) : (trees : List (TypeTree α)) →
    preorderAll (mapAll relabel trees) = (preorderAll trees).map (map relabel)
  | [] => rfl
  | tree :: rest => by
    rw [mapAll, preorderAll, preorderAll, List.map_append, preorder_map relabel tree,
      preorderAll_mapAll relabel rest]

end

end QuietSource.TypeTree
