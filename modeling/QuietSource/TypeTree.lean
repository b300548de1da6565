/-
# Type trees

A type as it is written in source code: a name with type arguments, which are types again. The
label of a node carries the name, and for some languages more than that. This module supplies the
text of a type and the walk over all its nodes. The text is either put together from the texts of
the arguments or printed piece by piece behind other text. The walk keeps the trees still to be
visited on a stack; a node comes before its arguments, and the arguments come from left to right.
-/

namespace QuietSource

/-- A label with the trees of its type arguments. -/
inductive TypeTree (α : Type)
  | node (label : α) (args : List (TypeTree α))

namespace TypeTree

variable {α : Type}

/-- The label at the root. -/
def label : TypeTree α → α
  | .node label _ => label

/-- The type arguments of the root. -/
def args : TypeTree α → List (TypeTree α)
  | .node _ args => args

/-- A type without arguments. -/
def leaf (label : α) : TypeTree α :=
  .node label []

mutual

/-- Equality of trees is decided node by node. -/
def decideEq [DecidableEq α] : (first second : TypeTree α) → Decidable (first = second)
  | .node firstLabel firstArgs, .node secondLabel secondArgs =>
    if sameLabel : firstLabel = secondLabel then
      match decideEqAll firstArgs secondArgs with
      | isTrue sameArgs => isTrue (by rw [sameLabel, sameArgs])
      | isFalse differ => isFalse fun same => differ (by injection same)
    else isFalse fun same => sameLabel (by injection same)

/-- Equality of lists of trees is decided tree by tree. -/
def decideEqAll [DecidableEq α] : (first second : List (TypeTree α)) → Decidable (first = second)
  | [], [] => isTrue rfl
  | [], _ :: _ => isFalse nofun
  | _ :: _, [] => isFalse nofun
  | firstTree :: firstRest, secondTree :: secondRest =>
    match decideEq firstTree secondTree with
    | isFalse differ => isFalse fun same => differ (by injection same)
    | isTrue sameTree =>
      match decideEqAll firstRest secondRest with
      | isTrue sameRest => isTrue (by rw [sameTree, sameRest])
      | isFalse differ => isFalse fun same => differ (by injection same)

end

instance [DecidableEq α] : DecidableEq (TypeTree α) := decideEq

mutual

/-- The number of nodes. -/
def size : TypeTree α → Nat
  | .node _ args => 1 + sizeAll args

/-- The number of nodes of several trees. -/
def sizeAll : List (TypeTree α) → Nat
  | [] => 0
  | tree :: rest => tree.size + sizeAll rest

end

/-- Putting trees together adds up their nodes. -/
theorem sizeAll_append (first second : List (TypeTree α)) :
    sizeAll (first ++ second) = sizeAll first + sizeAll second := by
  induction first with
  | nil => simp [sizeAll]
  | cons tree rest ih => simp only [List.cons_append, sizeAll, ih]; omega

/-- The subtrees that a walk meets when these trees are still to be visited, the next one first.
Visiting a tree replaces it on the stack by its arguments, so the number of nodes on the stack
goes down by one. -/
def visit : List (TypeTree α) → List (TypeTree α)
  | [] => []
  | .node label args :: pending => .node label args :: visit (args ++ pending)
termination_by pending => sizeAll pending
decreasing_by
  simp only [sizeAll_append, sizeAll, size]
  omega

/-- All subtrees of a tree, each node with everything below it, in the order of the walk. -/
def walk (tree : TypeTree α) : List (TypeTree α) :=
  visit [tree]

/-- The labels of a tree in the order of the walk. -/
def labels (tree : TypeTree α) : List α :=
  tree.walk.map label

mutual

/-- A type as text: its name, and its arguments between angle brackets if it has any. -/
def text (name : α → String) : TypeTree α → String
  | .node label [] => name label
  | .node label (first :: rest) =>
    name label ++ "<" ++ String.intercalate ", " (texts name (first :: rest)) ++ ">"

/-- Several types as texts. -/
def texts (name : α → String) : List (TypeTree α) → List String
  | [] => []
  | tree :: rest => tree.text name :: texts name rest

end

mutual

/-- Print a type behind what has been printed, piece by piece from left to right. -/
def printTo (name : α → String) (printed : String) : TypeTree α → String
  | .node label args =>
    if args.isEmpty then printed ++ name label
    else printArgs name 0 (printed ++ name label ++ "<") args ++ ">"

/-- Print arguments of a type, of which the first has the given index. A separator goes before each
argument but the one with index zero. -/
def printArgs (name : α → String) (index : Nat) (printed : String) : List (TypeTree α) → String
  | [] => printed
  | arg :: rest =>
    printArgs name (index + 1) (arg.printTo name (if 0 < index then printed ++ ", " else printed))
      rest

end

/-- A type printed by itself. -/
def print (name : α → String) (tree : TypeTree α) : String :=
  tree.printTo name ""

end TypeTree

end QuietSource
