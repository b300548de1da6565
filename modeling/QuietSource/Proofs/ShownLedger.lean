/-
# Ledgers as they are shown

A ledger is shown as the bare names of its categories between brackets. The names are not quoted, so
in general the text does not tell where one ends. It does tell as long as no category holds the
separator, a comma and a space: the leftmost separator then stands where the first name ends, also
where that name ends in a comma or the next one begins with a space. That nothing between the
brackets means no category at all rests on blank categories being refused.
-/

import QuietSource.Proofs.ObservationOrder
import QuietSource.Proofs.Separator

namespace QuietSource.Warning

open Text

/-- Categories and the directive for them determine each other. -/
theorem Directive.ofCategories?_inj {first second : List String} :
    ofCategories? first = ofCategories? second ↔ first = second := by
  refine ⟨?_, congrArg ofCategories?⟩
  intro same
  cases made : ofCategories? first with
  | none =>
    rw [made] at same
    rw [(ofCategories?_eq_none_iff first).mp made, (ofCategories?_eq_none_iff second).mp same.symm]
  | some directive =>
    rw [made] at same
    rw [← categories_of_ofCategories? made, categories_of_ofCategories? same.symm]

/-- The names that stand between the brackets of a ledger as it is shown. -/
def namesBetween (inside : String) : List String :=
  if inside = "" then [] else splitAtPair ',' ' ' inside

theorem intercalate_eq_empty {names : List String} (notEmpty : "" ∉ names)
    (nothing : String.intercalate ", " names = "") : names = [] := by
  cases names with
  | nil => rfl
  | cons name rest =>
    rw [List.mem_cons, not_or] at notEmpty
    cases rest with
    | nil =>
      rw [String.intercalate_singleton] at nothing
      exact absurd nothing.symm notEmpty.1
    | cons next rest =>
      rw [String.intercalate_cons_cons, String.append_eq_empty_iff,
        String.append_eq_empty_iff] at nothing
      exact absurd nothing.1.1.symm notEmpty.1

/-- Names that are not empty and do not hold the separator are found again between the brackets. -/
theorem namesBetween_intercalate {names : List String} (notEmpty : "" ∉ names)
    (separable : ∀ name ∈ names, ¬ [',', ' '] <:+: name.toList) :
    namesBetween (String.intercalate ", " names) = names := by
  rw [namesBetween]
  split
  · next nothing => exact (intercalate_eq_empty notEmpty nothing).symm
  · next something =>
    have nonempty : names ≠ [] := by
      rintro rfl
      exact something String.intercalate_nil
    apply splitAtPair_intercalate_of_isFree nonempty
    intro name listed
    exact (isFree_iff_of_ne (by decide)).mpr (separable name listed)

namespace Ledger

/-- No category holds the separator that stands between two of them when they are shown. -/
def IsSeparable (ledger : Ledger) : Prop :=
  ∀ category ∈ ledger.categories.toList, ¬ [',', ' '] <:+: category.toList

theorem empty_not_mem (ledger : Ledger) : "" ∉ ledger.categories.toList := by
  intro listed
  exact absurd (ledger.notBlank "" listed) (by decide)

/-- A ledger is its categories in their order. -/
theorem eq_of_toList {first second : Ledger}
    (same : first.categories.toList = second.categories.toList) : first = second := by
  obtain ⟨⟨list, nodup⟩, notBlank⟩ := first
  obtain ⟨⟨list, nodup'⟩, notBlank'⟩ := second
  cases same
  rfl

theorem text_eq (ledger : Ledger) :
    ledger.text =
      "WarningTracker[" ++ String.intercalate ", " ledger.categories.toList ++ "]" := rfl

theorem text_eq_text_iff {first second : Ledger} :
    first.text = second.text ↔
      String.intercalate ", " first.categories.toList =
        String.intercalate ", " second.categories.toList := by
  rw [text_eq, text_eq, String.append_left_inj, String.append_right_inj]

/-- Two ledgers that can be read from their texts have the same text if they list the same
categories in the same order. -/
theorem text_inj {first second : Ledger} (firstSeparable : first.IsSeparable)
    (secondSeparable : second.IsSeparable) :
    first.text = second.text ↔ first.categories.toList = second.categories.toList := by
  rw [text_eq_text_iff]
  refine ⟨?_, congrArg (String.intercalate ", ")⟩
  intro same
  rw [← namesBetween_intercalate first.empty_not_mem firstSeparable, same,
    namesBetween_intercalate second.empty_not_mem secondSeparable]

/-- Only the ledger without categories is shown as a pair of brackets. -/
theorem text_eq_brackets_iff (ledger : Ledger) :
    ledger.text = "WarningTracker[]" ↔ ledger = ∅ := by
  have brackets : (∅ : Ledger).text = "WarningTracker[]" := rfl
  rw [← brackets]
  refine ⟨?_, congrArg text⟩
  intro same
  rw [text_eq_text_iff] at same
  exact eq_of_toList (intercalate_eq_empty ledger.empty_not_mem same)

end Ledger

end QuietSource.Warning

namespace QuietSource.Observation

open Warning

/-- After any two runs of observations that leave no category with a comma and a space in it, the
ledgers are shown alike exactly if they list the same categories in the same order, and exactly if
they issue the same directive or none. Then they are also equal under `==`. A pair of brackets with
nothing between them is shown after a run, whatever its categories, exactly if nothing was noted. -/
theorem text_tells_ledgers_apart {first second : List Observation}
    (firstSeparable : (run ∅ first).IsSeparable) (secondSeparable : (run ∅ second).IsSeparable) :
    ((run ∅ first).text = (run ∅ second).text ↔
      (run ∅ first).categories.toList = (run ∅ second).categories.toList) ∧
    ((run ∅ first).text = (run ∅ second).text ↔
      (run ∅ first).directive? = (run ∅ second).directive?) ∧
    ((run ∅ first).text = (run ∅ second).text → (run ∅ first == run ∅ second) = true) ∧
    ∀ observations, (run ∅ observations).text = "WarningTracker[]" ↔ run ∅ observations = ∅ := by
  have sameText := Ledger.text_inj firstSeparable secondSeparable
  refine ⟨sameText, ?_, ?_, fun observations => (run ∅ observations).text_eq_brackets_iff⟩
  · rw [sameText, Ledger.directive?, Ledger.directive?, Directive.ofCategories?_inj]
  · intro same
    exact OrderedSet.beq_iff_perm.mpr (.of_eq (sameText.mp same))

/-- Names that end in a comma, begin with a space and are nothing but a comma. -/
def commaRun : List Observation :=
  [.named ["a,", " b", ","], .element ⟨true, true⟩]

/-- Other observations that come to the same names. -/
def commaRunAgain : List Observation :=
  [.named ["a,", "", "lost"], .named [" b", ",", "a,", "removal"]]

/-- What is noted either way. -/
def commaNames : List String :=
  ["a,", " b", ",", "removal"]

theorem text_of_commaRuns :
    ((run ∅ commaRun).IsSeparable ∧ (run ∅ commaRunAgain).IsSeparable) ∧
      (run ∅ commaRun).text = "WarningTracker[a,,  b, ,, removal]" ∧
      (run ∅ commaRun).text = (run ∅ commaRunAgain).text ∧
      (run ∅ commaRun).directive? = (run ∅ commaRunAgain).directive? ∧
      (run ∅ commaRun == run ∅ commaRunAgain) = true := by
  have firstList : (run ∅ commaRun).categories.toList = commaNames := by
    rw [toList_run]
    decide
  have secondList : (run ∅ commaRunAgain).categories.toList = commaNames := by
    rw [toList_run]
    decide
  have separable : ∀ category ∈ commaNames, ¬ [',', ' '] <:+: category.toList := by
    simp [commaNames, List.infix_cons_iff]
  have firstSeparable : (run ∅ commaRun).IsSeparable := by
    rwa [Ledger.IsSeparable, firstList]
  have secondSeparable : (run ∅ commaRunAgain).IsSeparable := by
    rwa [Ledger.IsSeparable, secondList]
  obtain ⟨sameList, sameDirective, equal, -⟩ :=
    text_tells_ledgers_apart firstSeparable secondSeparable
  have shownAlike : (run ∅ commaRun).text = (run ∅ commaRunAgain).text :=
    sameList.mpr (firstList.trans secondList.symm)
  have shown : (run ∅ commaRun).text = "WarningTracker[a,,  b, ,, removal]" := by
    rw [Ledger.text_eq, firstList]
    decide
  exact ⟨⟨firstSeparable, secondSeparable⟩, shown, shownAlike, sameDirective.mp shownAlike,
    equal shownAlike⟩

/-- A category that holds the separator is shown like two categories. -/
example : (run ∅ [.named ["a, b"]]).text = (run ∅ [.named ["a", "b"]]).text := by decide

end QuietSource.Observation
