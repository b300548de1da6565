/-
# Observations in another order

What an observation contributes does not depend on what was noted before, and a ledger keeps each
category once. So the order of observations decides about the order of categories and about nothing
else: the ledgers are equal under `==`, and tables allow the same lints. Observations that are made
again contribute nothing new and leave even the order alone.
-/

import Mathlib.Data.List.Perm.Subperm
import QuietSource.Proofs.GrowingDirective

namespace QuietSource

namespace OrderedSet

variable {α : Type} [DecidableEq α]

/-- Sets are equal under `==` exactly if one lists the elements of the other in some order. -/
theorem beq_iff_perm {first second : OrderedSet α} :
    (first == second) = true ↔ first.toList.Perm second.toList := by
  have unfolded : (first == second) =
      (first.size == second.size && first.toList.all second.contains) := rfl
  rw [unfolded, Bool.and_eq_true, beq_iff_eq, List.all_eq_true]
  constructor
  · rintro ⟨sameSize, within⟩
    have subset : first.toList ⊆ second.toList := fun a member =>
      of_decide_eq_true (within a member)
    exact (List.subperm_of_subset first.nodup subset).perm_of_length_le (Nat.le_of_eq sameSize.symm)
  · intro reordered
    exact ⟨reordered.length_eq, fun a member => decide_eq_true (reordered.mem_iff.mp member)⟩

/-- Inserting the same elements in another order changes nothing but the order. -/
theorem perm_insertMany (set : OrderedSet α) {first second : List α}
    (same : ∀ a, a ∈ first ↔ a ∈ second) :
    (set.insertMany first).toList.Perm (set.insertMany second).toList := by
  rw [List.perm_ext_iff_of_nodup (set.insertMany first).nodup (set.insertMany second).nodup]
  intro a
  rw [mem_toList_insertMany, mem_toList_insertMany, same]

end OrderedSet

/-- The first mentions among the same elements are the same, whatever their order. -/
theorem perm_eraseDups {α : Type} [DecidableEq α] {first second : List α}
    (same : ∀ a, a ∈ first ↔ a ∈ second) : first.eraseDups.Perm second.eraseDups := by
  rw [← OrderedSet.toList_ofList, ← OrderedSet.toList_ofList]
  exact OrderedSet.empty.perm_insertMany same

namespace Crate.Allowance

/-- Two allowances are for the same lints, perhaps in another order. -/
def SameLints (one other : Allowance) : Prop :=
  one.lints.Perm other.lints

/-- Lints in another order make an allowance for the same lints, if they make one at all. -/
theorem sameLints_of_perm {first second : List String} (reordered : first.Perm second) :
    Option.Rel SameLints (ofLints? first) (ofLints? second) := by
  cases made : ofLints? first with
  | none =>
    obtain rfl := ofLints?_eq_none_iff.mp made
    rw [ofLints?_eq_none_iff.mpr reordered.symm.eq_nil]
    exact .none
  | some allowance =>
    obtain rfl := ofLints?_eq_some_iff.mp made
    have nonempty : second ≠ [] := by
      rintro rfl
      exact allowance.nonempty reordered.eq_nil
    have alsoMade : ofLints? second = some ⟨second, nonempty⟩ := ofLints?_eq_some_iff.mpr rfl
    rw [alsoMade]
    exact .some reordered

end Crate.Allowance

/-- Ledgers that list the same categories are allowed the same lints. -/
theorem Lint.Table.sameLints_of_perm (table : Table) {first second : Warning.Ledger}
    (reordered : first.categories.toList.Perm second.categories.toList) :
    Option.Rel Crate.Allowance.SameLints (table.allowanceOf? first)
      (table.allowanceOf? second) := by
  rw [table.allowanceOf?_eq_ofLints?, table.allowanceOf?_eq_ofLints?]
  apply Crate.Allowance.sameLints_of_perm
  apply perm_eraseDups
  intro lint
  exact (reordered.flatMap_right table.lintsFor).mem_iff

namespace Observation

open Warning Lint Crate.Allowance

/-- Observations in another order contribute the same categories. -/
theorem mem_contributions_of_perm {first second : List Observation}
    (reordered : first.Perm second) (category : String) :
    category ∈ first.flatMap contribution ↔ category ∈ second.flatMap contribution :=
  (reordered.flatMap_right contribution).mem_iff

/-- Making observations again, in any order, changes nothing. -/
theorem run_again {first again : List Observation} (reordered : again.Perm first)
    (ledger : Ledger) : run (run ledger first) again = run ledger first := by
  apply Ledger.eq_of_categories
  rw [categories_run, categories_run]
  apply OrderedSet.insertMany_eq_self
  intro category contributed
  rw [mem_contributions_of_perm reordered] at contributed
  exact OrderedSet.mem_toList_insertMany.mpr (Or.inr contributed)

/-- Observations in another order, refused ones among them, lead to ledgers that are equal under
`==`. They list equally many categories, the same ones in another order, and every table allows them
the same lints or allows neither of them any. Making all the observations again, in the one order or
in the other, leaves a ledger exactly as it is. -/
theorem run_in_any_order {first second : List Observation} (reordered : first.Perm second)
    (ledger : Ledger) :
    (run ledger first == run ledger second) = true ∧
    (run ledger first).size = (run ledger second).size ∧
    (run ledger first).categories.toList.Perm (run ledger second).categories.toList ∧
    (∀ table : Table, Option.Rel SameLints (table.allowanceOf? (run ledger first))
      (table.allowanceOf? (run ledger second))) ∧
    run (run ledger first) first = run ledger first ∧
    run (run ledger first) second = run ledger first := by
  have sameCategories :
      (run ledger first).categories.toList.Perm (run ledger second).categories.toList := by
    rw [categories_run, categories_run]
    exact ledger.categories.perm_insertMany (mem_contributions_of_perm reordered)
  exact ⟨OrderedSet.beq_iff_perm.mpr sameCategories, sameCategories.length_eq, sameCategories,
    fun table => table.sameLints_of_perm sameCategories, run_again (.refl first) ledger,
    run_again reordered.symm ledger⟩

/-- Observations of which the first stops at a blank name. -/
def refusedFirst : List Observation :=
  [.named ["cast", "", "lost"], .element ⟨true, true⟩, .named ["dead_code", "deprecation"]]

/-- The same observations, of which the last stops at a blank name. -/
def refusedLast : List Observation :=
  [.element ⟨true, true⟩, .named ["dead_code", "deprecation"], .named ["cast", "", "lost"]]

theorem run_refusedFirst_refusedLast :
    refusedFirst.Perm refusedLast ∧
      ((run ∅ refusedFirst).categories.toList = ["cast", "removal", "dead_code", "deprecation"] ∧
        (run ∅ refusedLast).categories.toList =
          ["removal", "dead_code", "deprecation", "cast"]) ∧
      (run ∅ refusedFirst == run ∅ refusedLast) = true ∧
      Option.Rel SameLints (Table.standard.allowanceOf? (run ∅ refusedFirst))
        (Table.standard.allowanceOf? (run ∅ refusedLast)) ∧
      run (run ∅ refusedFirst) refusedFirst = run ∅ refusedFirst := by
  have reordered : refusedFirst.Perm refusedLast :=
    (List.Perm.swap _ _ _).trans (.cons _ (.swap _ _ _))
  obtain ⟨equal, -, -, allowed, again, -⟩ := run_in_any_order reordered ∅
  exact ⟨reordered, ⟨by decide, by decide⟩, equal, allowed .standard, again⟩

end Observation

end QuietSource
