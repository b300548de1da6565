/-
# The changes that decide a part

Every change to a declaration is about one of its parts. Some parts are replaced by a change, so
that only the last change about them counts; to the others a change adds, and all that are about the
part count in their order. Being made private is of the first kind, where the last change tells no
more than that there was one.

What a history of changes leaves in a part can be read off the changes that decide it. So histories
with the same decisive changes leave the same, and a change can trade places with changes about
other parts, which it neither overtakes nor hides.
-/

import QuietSource.Proofs.EditHistory

namespace QuietSource

/-- The parts of declarations that changes are about. -/
inductive Part
  | doc
  | visibility
  | traitName
  | modifiers
  | returns
  /-- Attributes or annotations, among them those that silence warnings. -/
  | attributes
  | derives
  | parameters
  | fields
  /-- The functions of a block or the methods of a class. -/
  | functions
  | body
  deriving DecidableEq

/-- Whether a change about the part puts something in the place of what was there. -/
def Part.isReplaced : Part → Bool
  | .doc | .visibility | .traitName | .modifiers | .returns => true
  | .attributes | .derives | .parameters | .fields | .functions | .body => false

section Decisive

variable {ε α : Type} {partOf : ε → Part} {changes changes' : List ε}

/-- The changes about a part, in order. -/
def changesAbout (partOf : ε → Part) (part : Part) (changes : List ε) : List ε :=
  changes.filter fun change => partOf change = part

/-- The changes that decide a part: the last about it if each of them replaces what was there, and
all about it if each of them adds to what was there. -/
def decisive (partOf : ε → Part) (part : Part) (changes : List ε) : List ε :=
  if part.isReplaced then (changesAbout partOf part changes).getLast?.toList
  else changesAbout partOf part changes

/-- The same changes decide each part. -/
def AgreeOnParts (partOf : ε → Part) (changes changes' : List ε) : Prop :=
  ∀ part, decisive partOf part changes = decisive partOf part changes'

/-- What is set last is what the last change about the part sets. -/
theorem lastSet?_eq_bind_getLast? {sets : ε → Option α} {part : Part}
    (setting : ∀ change, (sets change).isSome = decide (partOf change = part)) :
    lastSet? sets changes = (changesAbout partOf part changes).getLast?.bind sets := by
  rw [lastSet?, changesAbout, List.getLast?_filter]
  induction changes.reverse with
  | nil => rfl
  | cons change rest ih =>
    rw [List.findSome?_cons, List.find?_cons, ← setting change, ih]
    cases what : sets change with
    | none => rfl
    | some value => exact what.symm

theorem changesAbout_append (part : Part) (earlier later : List ε) :
    changesAbout partOf part (earlier ++ later) =
      changesAbout partOf part earlier ++ changesAbout partOf part later :=
  List.filter_append earlier later

theorem changesAbout_cons_of_eq {part : Part} {change : ε} (about : partOf change = part)
    (rest : List ε) :
    changesAbout partOf part (change :: rest) = change :: changesAbout partOf part rest :=
  List.filter_cons_of_pos (decide_eq_true about)

theorem changesAbout_cons_of_ne {part : Part} {change : ε} (other : partOf change ≠ part)
    (rest : List ε) : changesAbout partOf part (change :: rest) = changesAbout partOf part rest :=
  List.filter_cons_of_neg fun about => other (of_decide_eq_true about)

theorem changesAbout_eq_nil {part : Part} (others : ∀ change ∈ changes, partOf change ≠ part) :
    changesAbout partOf part changes = [] :=
  List.filter_eq_nil_iff.mpr fun change among about =>
    others change among (of_decide_eq_true about)

/-- What is added in all is what the changes about the part add. -/
theorem flatMap_changesAbout {adds : ε → List α} {part : Part}
    (adding : ∀ change, partOf change ≠ part → adds change = []) :
    (changesAbout partOf part changes).flatMap adds = changes.flatMap adds := by
  induction changes with
  | nil => rfl
  | cons change rest ih =>
    rw [List.flatMap_cons]
    by_cases about : partOf change = part
    · rw [changesAbout_cons_of_eq about, List.flatMap_cons, ih]
    · rw [changesAbout_cons_of_ne about, ih, adding change about, List.nil_append]

/-- A change can be made before or after changes about other parts. -/
theorem changesAbout_moved {change : ε} {others : List ε}
    (apart : ∀ other ∈ others, partOf other ≠ partOf change) (part : Part) :
    changesAbout partOf part (change :: others) =
      changesAbout partOf part (others ++ [change]) := by
  rw [changesAbout_append]
  by_cases about : partOf change = part
  · subst about
    rw [changesAbout_cons_of_eq rfl, changesAbout_eq_nil apart, changesAbout_cons_of_eq rfl]
    rfl
  · rw [changesAbout_cons_of_ne about, changesAbout_cons_of_ne about]
    exact (List.append_nil _).symm

namespace AgreeOnParts

theorem lastSet?_eq (agree : AgreeOnParts partOf changes changes') (part : Part)
    (replaced : part.isReplaced = true) {sets : ε → Option α}
    (setting : ∀ change, (sets change).isSome = decide (partOf change = part)) :
    lastSet? sets changes = lastSet? sets changes' := by
  have same := congrArg List.head? (agree part)
  rw [decisive, decisive, if_pos replaced, if_pos replaced, Option.head?_toList,
    Option.head?_toList] at same
  rw [lastSet?_eq_bind_getLast? setting, same, lastSet?_eq_bind_getLast? setting]

theorem flatMap_eq (agree : AgreeOnParts partOf changes changes') (part : Part)
    (added : part.isReplaced = false) {adds : ε → List α}
    (adding : ∀ change, partOf change ≠ part → adds change = []) :
    changes.flatMap adds = changes'.flatMap adds := by
  have same := agree part
  rw [decisive, decisive, added] at same
  exact (flatMap_changesAbout adding).symm.trans <|
    (congrArg (List.flatMap adds) same).trans (flatMap_changesAbout adding)

theorem of_moved {change : ε} {others : List ε}
    (apart : ∀ other ∈ others, partOf other ≠ partOf change) (earlier later : List ε) :
    AgreeOnParts partOf (earlier ++ change :: others ++ later)
      (earlier ++ others ++ change :: later) := by
  intro part
  have about : changesAbout partOf part (earlier ++ change :: others ++ later) =
      changesAbout partOf part (earlier ++ others ++ change :: later) := by
    rw [changesAbout_append, changesAbout_append, changesAbout_moved apart, ← changesAbout_append,
      ← changesAbout_append, ← List.append_assoc, List.append_assoc (earlier ++ others)]
    rfl
  rw [decisive, decisive, about]

end AgreeOnParts

/-- What is built depends on no more than the changes that decide the single parts. -/
structure PartsDecide (partOf : ε → Part) (build : List ε → String) : Prop where
  determined : ∀ changes changes', AgreeOnParts partOf changes changes' →
    build changes = build changes'
  moved : ∀ (earlier : List ε) (change : ε) (others later : List ε),
    (∀ other ∈ others, partOf other ≠ partOf change) →
    build (earlier ++ change :: others ++ later) = build (earlier ++ others ++ change :: later)

theorem PartsDecide.of_determined {build : List ε → String}
    (determined : ∀ {changes changes'}, AgreeOnParts partOf changes changes' →
      build changes = build changes') : PartsDecide partOf build where
  determined _ _ := determined
  moved earlier _ _ later apart := determined (.of_moved apart earlier later)

end Decisive

end QuietSource
