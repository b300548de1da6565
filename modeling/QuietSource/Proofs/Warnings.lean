/-
# What ledgers take in

Every operation that adds to a ledger inserts a list of categories into its set, and the list does
not depend on what the ledger holds. This module states the list for each operation in its own
terms: the names before the first blank one, the warning of a status, and for types the warnings of
their nodes in preorder. Everything about order and repetition then follows from the set alone.
-/

import QuietSource.Crate.Catalogue
import QuietSource.Package.ClassType
import QuietSource.Proofs.Preorder

namespace QuietSource.Warning

open Text

namespace Deprecation

/-- The categories of warning that using an element of a status causes. -/
def warnings : Deprecation → List String
  | .current => []
  | .deprecated => ["deprecation"]
  | .forRemoval => ["removal"]

/-- The categories of warning that using an element with these marks causes. A removal mark counts
only beside a deprecation mark. -/
def Flags.warnings (marks : Flags) : List String :=
  if marks.isDeprecated then
    if marks.isForRemoval then ["removal"] else ["deprecation"]
  else []

theorem toList_category? (status : Deprecation) : status.category?.toList = status.warnings := by
  cases status <;> rfl

/-- The status that marks stand for causes the warnings that the marks announce. -/
theorem warnings_deprecation (marks : Flags) : marks.deprecation.warnings = marks.warnings := by
  obtain ⟨isDeprecated, isForRemoval⟩ := marks
  cases isDeprecated <;> cases isForRemoval <;> rfl

theorem isBlank_of_mem_warnings {status : Deprecation} {category : String}
    (h : category ∈ status.warnings) : isBlank category = false := by
  rw [← toList_category?, Option.mem_toList] at h
  exact isBlank_of_category? h

end Deprecation

namespace Ledger

/-- Ledgers differ in nothing but their categories. -/
theorem eq_of_categories {first second : Ledger} (same : first.categories = second.categories) :
    first = second := by
  cases first
  cases second
  cases same
  rfl

theorem note_of_not_blank (ledger : Ledger) {category : String} (h : isBlank category = false) :
    ledger.note category = .ok (ledger.insert category h) := by
  rw [note, dif_pos h]

theorem note_of_blank (ledger : Ledger) {category : String} (h : isBlank category = true) :
    ledger.note category = .error .blankCategory := by
  rw [note, dif_neg (by simp [h])]

/-- Exactly the blank categories are refused. -/
theorem note_eq_error_iff (ledger : Ledger) (category : String) :
    ledger.note category = .error .blankCategory ↔ isBlank category = true := by
  cases blank : isBlank category with
  | true => simp [ledger.note_of_blank blank]
  | false => simp [ledger.note_of_not_blank blank]

/-- Noting names inserts those before the first blank one, which is where it stops. -/
theorem categories_noteAll (ledger : Ledger) (names : List String) :
    (ledger.noteAll names).1.categories =
      ledger.categories.insertMany (names.takeWhile fun name => !isBlank name) := by
  induction names generalizing ledger with
  | nil => rfl
  | cons name rest ih =>
    cases blank : isBlank name with
    | true => simp [noteAll, ledger.note_of_blank blank, blank]
    | false =>
      simp only [noteAll, ledger.note_of_not_blank blank, ih, blank, List.takeWhile_cons]
      rfl

/-- Noting names is refused exactly if one of them is blank. -/
theorem refusal_noteAll (ledger : Ledger) (names : List String) :
    (ledger.noteAll names).2 = some .blankCategory ↔ ∃ name ∈ names, isBlank name = true := by
  induction names generalizing ledger with
  | nil => simp [noteAll]
  | cons name rest ih =>
    cases blank : isBlank name with
    | true => simp [noteAll, ledger.note_of_blank blank, blank]
    | false => simp [noteAll, ledger.note_of_not_blank blank, ih, blank]

theorem categories_observe (ledger : Ledger) (status : Deprecation) :
    (ledger.observe status).categories = ledger.categories.insertMany status.warnings := by
  cases status <;> rfl

/-- Observing statuses one after the other inserts all their warnings. -/
theorem categories_observeAll (ledger : Ledger) (statuses : List Deprecation) :
    (ledger.observeAll statuses).categories =
      ledger.categories.insertMany (statuses.flatMap Deprecation.warnings) := by
  induction statuses generalizing ledger with
  | nil => rfl
  | cons status rest ih =>
    rw [List.flatMap_cons, OrderedSet.insertMany_append, ← categories_observe]
    exact ih (ledger.observe status)

end Ledger

end QuietSource.Warning

namespace QuietSource.Package.ClassType

open Warning

/-- A class type brings in the warnings of the classes it mentions, in preorder. -/
theorem categories_observeIn (type : ClassType) (ledger : Ledger) :
    (type.observeIn ledger).categories =
      ledger.categories.insertMany
        (type.preorder.flatMap fun node => node.label.status.warnings) := by
  rw [observeIn, Ledger.categories_observeAll, TypeTree.labels_eq_map_preorder, List.map_map,
    List.flatMap_map]
  rfl

end QuietSource.Package.ClassType

namespace QuietSource.Crate.Catalogue

open Warning

/-- The categories of warning that naming a path causes. -/
def warnings (catalogue : Catalogue) (path : String) : List String :=
  match catalogue.items.get? path with
  | some status => status.warnings
  | none => []

theorem isBlank_of_mem_warnings {catalogue : Catalogue} {path category : String}
    (h : category ∈ catalogue.warnings path) : Text.isBlank category = false := by
  unfold warnings at h
  split at h
  · exact Deprecation.isBlank_of_mem_warnings h
  · exact absurd h List.not_mem_nil

theorem categories_observePath (catalogue : Catalogue) (ledger : Ledger) (path : String) :
    (catalogue.observePath ledger path).categories =
      ledger.categories.insertMany (catalogue.warnings path) := by
  unfold observePath lookup? warnings
  cases catalogue.items.get? path with
  | none => rfl
  | some status =>
    have known : deprecationOf (⟨path, status⟩ : KnownItem) = status :=
      Deprecation.deprecation_flags status
    simp only [Option.map_some, known, Ledger.categories_observe]

/-- A type brings in the warnings of the paths it is written with, in preorder. -/
theorem categories_observeIn (catalogue : Catalogue) (type : PathType) (ledger : Ledger) :
    (catalogue.observeIn type ledger).categories =
      ledger.categories.insertMany
        (type.preorder.flatMap fun node => catalogue.warnings node.label) := by
  rw [observeIn, TypeTree.labels_eq_map_preorder]
  induction type.preorder generalizing ledger with
  | nil => rfl
  | cons node rest ih =>
    rw [List.flatMap_cons, OrderedSet.insertMany_append, ← categories_observePath]
    exact ih (catalogue.observePath ledger node.label)

end QuietSource.Crate.Catalogue
