/-
# Ledgers of warnings

While a unit of code is generated, a ledger collects the categories of warning that the code will
cause: each category once, in the order of first mention, and never a blank one. Noting a blank
category fails and leaves the ledger as it was. At the end the ledger turns into one directive,
or into none if it is empty.

Two ledgers are equal under `==` when they hold the same categories, whatever their order.
-/

import QuietSource.Ordered.Set
import QuietSource.Warning.Deprecation
import QuietSource.Warning.Directive

namespace QuietSource.Warning

/-- The categories that have been noted. -/
structure Ledger where
  /-- The categories, each once, first mention first. -/
  categories : OrderedSet String
  /-- None of them is blank. -/
  notBlank : ∀ category ∈ categories.toList, Text.isBlank category = false

/-- Why a category cannot be noted. -/
inductive NoteError
  | blankCategory
  deriving DecidableEq

/-- The wording of a refusal. -/
def NoteError.message : NoteError → String
  | .blankCategory => "warning category must not be empty"

namespace Ledger

/-- The ledger before anything was noted. -/
def empty : Ledger := ⟨.empty, by simp⟩

instance : EmptyCollection Ledger := ⟨empty⟩

instance : Inhabited Ledger := ⟨empty⟩

instance : BEq Ledger where
  beq first second := first.categories == second.categories

/-- The ledger with a category added at the end, unless it is there already. -/
def insert (ledger : Ledger) (category : String) (h : Text.isBlank category = false) : Ledger where
  categories := ledger.categories.insert category
  notBlank := by
    intro other hother
    rcases OrderedSet.mem_toList_insert.mp hother with hold | rfl
    · exact ledger.notBlank other hold
    · exact h

/-- Note a category. A blank one is refused. -/
def note (ledger : Ledger) (category : String) : Except NoteError Ledger :=
  if h : Text.isBlank category = false then .ok (ledger.insert category h)
  else .error .blankCategory

/-- Note categories one after the other. The first refusal ends this, and the ledger keeps what
was noted before it. -/
def noteAll (ledger : Ledger) : List String → Ledger × Option NoteError
  | [] => (ledger, none)
  | category :: rest =>
    match ledger.note category with
    | .ok noted => noted.noteAll rest
    | .error refusal => (ledger, some refusal)

/-- Note the warning that using an element of this deprecation causes. -/
def observe (ledger : Ledger) (status : Deprecation) : Ledger :=
  match h : status.category? with
  | none => ledger
  | some category => ledger.insert category (Deprecation.isBlank_of_category? h)

/-- Note the warnings that using several elements causes. -/
def observeAll (ledger : Ledger) (statuses : List Deprecation) : Ledger :=
  statuses.foldl observe ledger

/-- Whether a category has been noted. -/
def contains (ledger : Ledger) (category : String) : Bool :=
  ledger.categories.contains category

/-- The number of categories. -/
def size (ledger : Ledger) : Nat :=
  ledger.categories.size

/-- Whether nothing has been noted. -/
def isEmpty (ledger : Ledger) : Bool :=
  ledger.categories.isEmpty

/-- The directive that silences everything noted, in the order of first mention. -/
def directive? (ledger : Ledger) : Option Directive :=
  Directive.ofCategories? ledger.categories.toList

/-- Attach the ledger's directive, if it has one. -/
def silence {τ : Type} [Silenceable τ] (ledger : Ledger) (target : τ) : τ :=
  match ledger.directive? with
  | none => target
  | some directive => Silenceable.attach directive target

/-- The ledger as it is shown to people, with the bare names of its categories. -/
def text (ledger : Ledger) : String :=
  "WarningTracker[" ++ String.intercalate ", " ledger.categories.toList ++ "]"

end Ledger

end QuietSource.Warning
