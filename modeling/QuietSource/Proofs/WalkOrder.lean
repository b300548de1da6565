/-
# Every place once

A type can name the same class several times, so its nodes are told apart by their places: a place
says which argument to go to at each step on the way down. This module lists the places of a type
in ascending order and proves that the walk meets the subtree at each of them, one place after the
other. It also runs the walk step by step, on a stack that has the next tree at its end and takes
the arguments of a tree from right to left: every step leaves one node fewer on the stack, and when
the stack is empty, the walk is what was taken off.
-/

import QuietSource.Proofs.Preorder

namespace QuietSource.TypeTree

variable {α : Type}

/-- The subtree at a place, if the type has that place. -/
def at? (tree : TypeTree α) : (place : List Nat) → Option (TypeTree α)
  | [] => some tree
  | index :: below => tree.args[index]?.bind fun arg => arg.at? below

mutual

/-- The places of a type: the root, then those in its arguments from left to right. -/
def places : TypeTree α → List (List Nat)
  | .node _ args => [] :: placesFrom 0 args

/-- The places in arguments of a type, of which the first has the given index. -/
def placesFrom : (index : Nat) → List (TypeTree α) → List (List Nat)
  | _, [] => []
  | index, arg :: rest => arg.places.map (index :: ·) ++ placesFrom (index + 1) rest

end

theorem mem_placesFrom {index : Nat} {args : List (TypeTree α)} {place : List Nat} :
    place ∈ placesFrom index args ↔ ∃ offset arg below,
      args[offset]? = some arg ∧ below ∈ arg.places ∧ place = (index + offset) :: below := by
  induction args generalizing index with
  | nil => simp [placesFrom]
  | cons first rest ih =>
    rw [placesFrom, List.mem_append, List.mem_map, ih]
    constructor
    · rintro (⟨below, listed, rfl⟩ | ⟨offset, arg, below, found, listed, rfl⟩)
      · exact ⟨0, first, below, rfl, listed, rfl⟩
      · exact ⟨offset + 1, arg, below, found, listed, by rw [Nat.add_right_comm, Nat.add_assoc]⟩
    · rintro ⟨offset, arg, below, found, listed, rfl⟩
      cases offset with
      | zero =>
        obtain rfl := Option.some.inj found
        exact Or.inl ⟨below, listed, rfl⟩
      | succ offset =>
        exact Or.inr ⟨offset, arg, below, found, listed, by
          rw [Nat.add_right_comm, Nat.add_assoc]⟩

/-- The list of places is complete, and each of them leads somewhere. -/
theorem mem_places_iff {tree : TypeTree α} {place : List Nat} :
    place ∈ tree.places ↔ (tree.at? place).isSome = true := by
  -- A subtree is looked up along its place, so the induction is on the place and not on the tree.
  induction place generalizing tree with
  | nil =>
    obtain ⟨label, args⟩ := tree
    simp [places, at?]
  | cons index below ih =>
    obtain ⟨label, args⟩ := tree
    have inArgs : index :: below ∈ places (.node label args) ↔
        index :: below ∈ placesFrom 0 args := by
      simp [places]
    rw [inArgs, mem_placesFrom, at?, TypeTree.args]
    constructor
    · rintro ⟨offset, arg, further, found, listed, same⟩
      obtain ⟨rfl, rfl⟩ : index = offset ∧ below = further := by simpa using same
      simpa [found] using ih.mp listed
    · intro reached
      cases found : args[index]? with
      | none => simp [found] at reached
      | some arg =>
        rw [found, Option.bind_some] at reached
        exact ⟨index, arg, below, found, ih.mpr reached, by rw [Nat.zero_add]⟩

mutual

/-- The places ascend, as words over the indices do in a dictionary. -/
theorem places_ascending : (tree : TypeTree α) → tree.places.Pairwise (· < ·)
  | .node label args => by
    rw [places, List.pairwise_cons]
    refine ⟨?_, placesFrom_ascending 0 args⟩
    intro place listed
    obtain ⟨offset, arg, below, -, -, rfl⟩ := mem_placesFrom.mp listed
    exact List.nil_lt_cons _ _

theorem placesFrom_ascending : (index : Nat) → (args : List (TypeTree α)) →
    (placesFrom index args).Pairwise (· < ·)
  | _, [] => List.Pairwise.nil
  | index, arg :: rest => by
    rw [placesFrom, List.pairwise_append, List.pairwise_map]
    refine ⟨?_, placesFrom_ascending (index + 1) rest, ?_⟩
    · exact (places_ascending arg).imp fun before =>
        List.cons_lt_cons_iff.mpr (Or.inr ⟨rfl, before⟩)
    · intro first inFirst second inRest
      obtain ⟨below, -, rfl⟩ := List.mem_map.mp inFirst
      obtain ⟨offset, other, further, -, -, rfl⟩ := mem_placesFrom.mp inRest
      exact List.cons_lt_cons_iff.mpr (Or.inl (by omega))

end

mutual

/-- The preorder is what stands at the places. -/
theorem map_at?_places : (tree : TypeTree α) → tree.places.map tree.at? = tree.preorder.map some
  | .node label args => by
    rw [places, preorder, List.map_cons, List.map_cons, map_at?_placesFrom label args 0 args rfl]
    rfl

/-- Going on from an index, the arguments that are left have their places in the whole type. -/
theorem map_at?_placesFrom (label : α) (all : List (TypeTree α)) : (index : Nat) →
    (args : List (TypeTree α)) → all.drop index = args →
    (placesFrom index args).map (at? (.node label all)) = (preorderAll args).map some
  | _, [], _ => rfl
  | index, arg :: rest, left => by
    -- What is left of the arguments begins with the one that the index points to.
    have found : all[index]? = some arg := by
      rw [← List.head?_drop, left, List.head?_cons]
    have further : all.drop (index + 1) = rest := by
      rw [← List.tail_drop, left, List.tail_cons]
    have below : (at? (.node label all) ∘ fun place => index :: place) = arg.at? := by
      funext place
      simp [at?, TypeTree.args, found]
    rw [placesFrom, preorderAll, List.map_append, List.map_append, List.map_map, below,
      map_at?_places arg, map_at?_placesFrom label all (index + 1) rest further]

end

example : (node 1 [node 2 [leaf 3], leaf 3]).places = [[], [0], [0, 0], [1]] := by decide

/-- One step of a walk whose stack has the next tree at its end. That tree is taken off, and its
arguments are put on from right to left. -/
def next? (stack : List (TypeTree α)) : Option (TypeTree α × List (TypeTree α)) :=
  stack.getLast?.map fun tree => (tree, stack.dropLast ++ tree.args.reverse)

/-- From a stack, the steps of a walk take these trees one by one, and then there is no further
step. -/
inductive Drains : (stack met : List (TypeTree α)) → Prop
  | done {stack : List (TypeTree α)} (ended : next? stack = none) : Drains stack []
  | step {stack rest met : List (TypeTree α)} {tree : TypeTree α}
      (taken : next? stack = some (tree, rest)) (further : Drains rest met) :
      Drains stack (tree :: met)

theorem next?_reverse_cons (tree : TypeTree α) (pending : List (TypeTree α)) :
    next? (tree :: pending).reverse = some (tree, (tree.args ++ pending).reverse) := by
  rw [List.reverse_cons, next?, List.getLast?_concat, List.dropLast_concat, List.reverse_append]
  rfl

/-- Steps on a stack take what a walk meets when the same trees are to be visited, the last one
first. In particular they come to an end. -/
theorem drains_reverse_iff (pending met : List (TypeTree α)) :
    Drains pending.reverse met ↔ met = visit pending := by
  induction pending using visit.induct generalizing met with
  | case1 =>
    rw [visit]
    constructor
    · intro drained
      cases drained with
      | done => rfl
      | step taken => exact absurd taken (by simp [next?])
    · rintro rfl
      exact .done rfl
  | case2 label args pending ih =>
    -- The next tree to visit is at the end of the stack, and so are its arguments after this step.
    have taken := next?_reverse_cons (.node label args) pending
    rw [visit]
    constructor
    · intro drained
      cases drained with
      | done ended => exact absurd (taken.symm.trans ended) (Option.some_ne_none _)
      | step other further =>
        obtain ⟨rfl, rfl⟩ := Prod.mk.inj (Option.some.inj (taken.symm.trans other))
        rw [(ih _).mp further]
    · rintro rfl
      exact .step taken ((ih _).mpr rfl)

theorem sizeAll_reverse (trees : List (TypeTree α)) : sizeAll trees.reverse = sizeAll trees := by
  induction trees with
  | nil => rfl
  | cons tree rest ih =>
    rw [List.reverse_cons, sizeAll_append, ih]
    simp only [sizeAll]
    omega

/-- Every step takes one node off the stack. -/
theorem sizeAll_of_next? {stack rest : List (TypeTree α)} {tree : TypeTree α}
    (taken : next? stack = some (tree, rest)) : sizeAll stack = sizeAll rest + 1 := by
  obtain ⟨last, isLast, same⟩ := Option.map_eq_some_iff.mp taken
  obtain ⟨rfl, rfl⟩ := Prod.mk.inj same
  obtain ⟨before, rfl⟩ := List.getLast?_eq_some_iff.mp isLast
  obtain ⟨label, args⟩ := last
  simp only [List.dropLast_concat, sizeAll_append, sizeAll_reverse, sizeAll, size, TypeTree.args]
  omega

/-- There are as many steps as there are nodes on the stack. -/
theorem Drains.length_eq {stack met : List (TypeTree α)} (drained : Drains stack met) :
    met.length = sizeAll stack := by
  induction drained with
  | done ended =>
    rw [List.getLast?_eq_none_iff.mp (Option.map_eq_none_iff.mp ended)]
    rfl
  | step taken further ih => rw [List.length_cons, ih, sizeAll_of_next? taken]

theorem drains_walk (tree : TypeTree α) : Drains [tree] tree.walk :=
  (drains_reverse_iff [tree] tree.walk).mpr rfl

/-- The stepwise walk of a type comes to an end, and what it takes off its stack until then is the
walk: the type itself, then the walks of its arguments from left to right. These are the subtrees at
the places of the type, where the places ascend, so that none is met twice, and none is missing. So
there are as many of them as the type has nodes. -/
theorem walk_meets_each_place_once (tree : TypeTree α) :
    (∀ met, Drains [tree] met ↔ met = tree.walk) ∧
    tree.walk = tree.preorder ∧
    tree.walk = tree :: tree.args.flatMap walk ∧
    tree.walk.map some = tree.places.map tree.at? ∧
    (∀ place, place ∈ tree.places ↔ (tree.at? place).isSome = true) ∧
    tree.places.Pairwise (· < ·) ∧
    tree.walk.length = tree.size := by
  refine ⟨drains_reverse_iff [tree], walk_eq_preorder tree, ?_, ?_, fun _ => mem_places_iff,
    places_ascending tree, ?_⟩
  · obtain ⟨label, args⟩ := tree
    exact walk_node label args
  · rw [walk_eq_preorder, map_at?_places]
  · rw [(drains_walk tree).length_eq]
    rfl

end QuietSource.TypeTree
