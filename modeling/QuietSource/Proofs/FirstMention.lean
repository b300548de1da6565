/-
# The ledger of a run

What an observation contributes to a ledger depends on the observation alone: the names before the
first blank one, or the warnings of the elements and types that it is about. A run of observations
inserts these contributions one after the other, so at every point of it the ledger holds the first
mentions among them in their order. The ledger of a longer run continues that of a shorter one, and
no refusal takes back or reorders what is there.
-/

import QuietSource.Observation
import QuietSource.Proofs.Warnings

namespace QuietSource.Observation

open Warning Text

/-- The categories that an observation contributes, whatever has been noted before. -/
def contribution : Observation → List String
  | .named names => names.takeWhile fun name => !isBlank name
  | .element marks => marks.warnings
  | .elements marks => marks.flatMap Deprecation.Flags.warnings
  | .statuses known => known.flatMap Deprecation.warnings
  | .classType type => type.preorder.flatMap fun node => node.label.status.warnings
  | .pathType catalogue type => type.preorder.flatMap fun node => catalogue.warnings node.label

/-- Entering an observation inserts its contribution, also if it stops early. -/
theorem categories_enter (ledger : Ledger) (observation : Observation) :
    (observation.enter ledger).1.categories =
      ledger.categories.insertMany observation.contribution := by
  cases observation with
  | named names => exact ledger.categories_noteAll names
  | element marks =>
    rw [enter, Ledger.categories_observe, Deprecation.warnings_deprecation, contribution]
  | elements marks =>
    rw [enter, Ledger.categories_observeAll, List.flatMap_map, contribution]
    simp only [Deprecation.warnings_deprecation]
  | statuses known => exact ledger.categories_observeAll known
  | classType type => exact type.categories_observeIn ledger
  | pathType catalogue type => exact catalogue.categories_observeIn type ledger

/-- A run inserts the contributions of its observations one after the other. -/
theorem categories_run (ledger : Ledger) (observations : List Observation) :
    (run ledger observations).categories =
      ledger.categories.insertMany (observations.flatMap contribution) := by
  induction observations generalizing ledger with
  | nil => rfl
  | cons observation rest ih =>
    rw [List.flatMap_cons, OrderedSet.insertMany_append, ← categories_enter]
    exact ih (observation.enter ledger).1

/-- What is listed after a run from nothing noted. -/
theorem toList_run (observations : List Observation) :
    (run ∅ observations).categories.toList = (observations.flatMap contribution).eraseDups := by
  rw [categories_run]
  exact OrderedSet.toList_ofList _

/-- Only observations by name can stop early, and they do so exactly at a blank name. -/
theorem refusal_enter (ledger : Ledger) (observation : Observation) :
    (observation.enter ledger).2 = some .blankCategory ↔
      ∃ names, observation = .named names ∧ ∃ name ∈ names, isBlank name = true := by
  cases observation with
  | named names => simp [enter, Ledger.refusal_noteAll]
  | element | elements | statuses | classType | pathType => simp [enter]

theorem isBlank_of_mem_contribution {observation : Observation} {category : String}
    (h : category ∈ observation.contribution) : isBlank category = false := by
  cases observation with
  | named names =>
    have passed := List.all_eq_true.mp List.all_takeWhile category h
    simpa using passed
  | element marks =>
    rw [contribution, ← Deprecation.warnings_deprecation] at h
    exact Deprecation.isBlank_of_mem_warnings h
  | elements marks =>
    obtain ⟨mark, -, caused⟩ := List.mem_flatMap.mp h
    rw [← Deprecation.warnings_deprecation] at caused
    exact Deprecation.isBlank_of_mem_warnings caused
  | statuses known =>
    obtain ⟨status, -, caused⟩ := List.mem_flatMap.mp h
    exact Deprecation.isBlank_of_mem_warnings caused
  | classType type =>
    obtain ⟨node, -, caused⟩ := List.mem_flatMap.mp h
    exact Deprecation.isBlank_of_mem_warnings caused
  | pathType catalogue type =>
    obtain ⟨node, -, caused⟩ := List.mem_flatMap.mp h
    exact Crate.Catalogue.isBlank_of_mem_warnings caused

/-- The ledger after the first `count` of some observations, from nothing noted. -/
def ledgerAfter (observations : List Observation) (count : Nat) : Ledger :=
  run ∅ (observations.take count)

/-- At every point of a run the ledger lists the first mentions so far. -/
theorem toList_ledgerAfter (observations : List Observation) (count : Nat) :
    (ledgerAfter observations count).categories.toList =
      ((observations.take count).flatMap contribution).eraseDups := by
  rw [ledgerAfter, toList_run]

theorem toList_prefix_run (ledger : Ledger) (observations : List Observation) :
    ledger.categories.toList <+: (run ledger observations).categories.toList := by
  rw [categories_run, OrderedSet.toList_insertMany]
  exact List.prefix_append _ _

theorem toList_prefix_ledgerAfter (observations : List Observation) {earlier later : Nat}
    (h : earlier ≤ later) :
    (ledgerAfter observations earlier).categories.toList <+:
      (ledgerAfter observations later).categories.toList := by
  obtain ⟨between, parts⟩ : observations.take earlier <+: observations.take later :=
    List.take_prefix_take_left h
  -- The longer run goes on from where the shorter one ended.
  have continued : ledgerAfter observations later =
      run (ledgerAfter observations earlier) between := by
    rw [ledgerAfter, ← parts, run, List.foldl_append]
    rfl
  rw [continued]
  exact toList_prefix_run _ between

/-- At every point of every run the ledger lists exactly the first mentions among the contributions
so far, in their order, where a refused observation has contributed what it named before the blank.
So no category is blank or listed twice, each list continues all earlier ones, the ledger contains
what it lists, and to name a blank category first changes nothing. -/
theorem ledgerAfter_lists_first_mentions (observations : List Observation) :
    (∀ count, (ledgerAfter observations count).categories.toList =
      ((observations.take count).flatMap contribution).eraseDups) ∧
    (∀ count, ∀ category ∈ (ledgerAfter observations count).categories.toList,
      isBlank category = false) ∧
    (∀ count, (ledgerAfter observations count).categories.toList.Nodup) ∧
    (∀ earlier later, earlier ≤ later →
      (ledgerAfter observations earlier).categories.toList <+:
        (ledgerAfter observations later).categories.toList) ∧
    (∀ count category, (ledgerAfter observations count).contains category = true ↔
      category ∈ (ledgerAfter observations count).categories.toList) ∧
    (∀ (ledger : Ledger) (observation : Observation),
      (observation.enter ledger).2 = some .blankCategory ↔
        ∃ names, observation = .named names ∧ ∃ name ∈ names, isBlank name = true) ∧
    (∀ (ledger : Ledger) (name : String) (rest : List String), isBlank name = true →
      enter ledger (.named (name :: rest)) = (ledger, some .blankCategory)) := by
  refine ⟨toList_ledgerAfter observations, ?_, ?_, ?_, ?_, refusal_enter, ?_⟩
  · intro count category listed
    rw [toList_ledgerAfter, List.mem_eraseDups] at listed
    obtain ⟨observation, -, contributed⟩ := List.mem_flatMap.mp listed
    exact isBlank_of_mem_contribution contributed
  · intro count
    exact (ledgerAfter observations count).categories.nodup
  · intro earlier later h
    exact toList_prefix_ledgerAfter observations h
  · intro count category
    exact decide_eq_true_iff
  · intro ledger name rest blank
    simp only [enter, Ledger.noteAll, ledger.note_of_blank blank]

/-- A run with observations of every kind. The first one stops at an em space, and the catalogue of
the fourth has had its record for the type taken back. -/
def mixedRun : List Observation :=
  [.named ["serial", "\u2003", "lost"], .element ⟨true, true⟩,
    .classType (.node { name := "p.Box", status := .deprecated }
      [.leaf { name := "p.Old", status := .forRemoval }]),
    .pathType (.ofRecords [("q", .forRemoval), ("q", .current)]) (.leaf "q"),
    .statuses [.deprecated, .current], .elements [⟨false, true⟩, ⟨true, false⟩],
    .named ["cast", "serial"]]

theorem ledgerAfter_mixedRun :
    (ledgerAfter mixedRun 7).categories.toList = ["serial", "removal", "deprecation", "cast"] ∧
      ("cast" ∈ (ledgerAfter mixedRun 7).categories.toList ∧ isBlank "cast" = false) ∧
      (3 ≤ 7 ∧ (ledgerAfter mixedRun 3).categories.toList <+:
        (ledgerAfter mixedRun 7).categories.toList) ∧
      (isBlank "\u2003" = true ∧
        enter ∅ (.named ["\u2003", "lost"]) = (∅, some .blankCategory)) := by
  obtain ⟨mentions, notBlank, -, continues, -, -, refused⟩ :=
    ledgerAfter_lists_first_mentions mixedRun
  have listed : (ledgerAfter mixedRun 7).categories.toList =
      ["serial", "removal", "deprecation", "cast"] := (mentions 7).trans (by decide)
  have member : "cast" ∈ (ledgerAfter mixedRun 7).categories.toList := by simp [listed]
  exact ⟨listed, ⟨member, notBlank 7 "cast" member⟩, ⟨by decide, continues 3 7 (by decide)⟩,
    ⟨by decide, refused ∅ "\u2003" ["lost"] (by decide)⟩⟩

end QuietSource.Observation
