/-
# Allowances of growing directives

The lints of an allowance are the first mentions among the answers of the table for the categories
of a directive, and there is no allowance exactly if there are no answers. Further categories can
only bring in further lints, behind those that are there already. A ledger only ever lists further
categories, so what it allows early it goes on allowing, in the same order.
-/

import QuietSource.Proofs.DirectivePlacement
import QuietSource.Proofs.FirstMention

namespace QuietSource

/-- The first mentions in a longer list begin with those in a shorter one. -/
theorem prefix_eraseDups {α : Type} [BEq α] [LawfulBEq α] {shorter longer : List α}
    (h : shorter <+: longer) : shorter.eraseDups <+: longer.eraseDups := by
  obtain ⟨further, rfl⟩ := h
  rw [List.eraseDups_append]
  exact List.prefix_append _ _

/-- If some lints make an allowance, further lints behind them make one that begins with it. -/
theorem Crate.Allowance.exists_wider {shorter longer : List String} (h : shorter <+: longer)
    {allowance : Allowance} (allowed : ofLints? shorter = some allowance) :
    ∃ wider, ofLints? longer = some wider ∧ allowance.lints <+: wider.lints := by
  have same : allowance.lints = shorter := ofLints?_eq_some_iff.mp allowed
  have nonempty : longer ≠ [] := h.ne_nil (same ▸ allowance.nonempty)
  exact ⟨⟨longer, nonempty⟩, ofLints?_eq_some_iff.mpr rfl, same ▸ h⟩

namespace Lint.Table

open Warning Crate

/-- For further categories the table has further answers behind those it had. -/
theorem prefix_answers (table : Table) {shorter longer : List String} (h : shorter <+: longer) :
    shorter.flatMap table.lintsFor <+: longer.flatMap table.lintsFor := by
  obtain ⟨further, rfl⟩ := h
  rw [List.flatMap_append]
  exact List.prefix_append _ _

theorem allowance?_eq_ofLints? (table : Table) (directive : Directive) :
    table.allowance? directive =
      Allowance.ofLints? (directive.categories.flatMap table.lintsFor).eraseDups := by
  rw [allowance?, lintsOf_eq_eraseDups]

theorem allowance?_eq_none_iff {table : Table} {directive : Directive} :
    table.allowance? directive = none ↔ directive.categories.flatMap table.lintsFor = [] := by
  rw [allowance?_eq_ofLints?, Allowance.ofLints?_eq_none_iff, eraseDups_eq_nil_iff]

/-- The lints of an allowance are the first mentions among the answers, if there are any. -/
theorem map_lints_allowance? (table : Table) (directive : Directive) :
    (table.allowance? directive).map Allowance.lints =
      if directive.categories.flatMap table.lintsFor = [] then none
      else some (directive.categories.flatMap table.lintsFor).eraseDups := by
  split
  · rename_i unanswered
    rw [allowance?_eq_none_iff.mpr unanswered, Option.map_none]
  · rename_i answered
    obtain ⟨allowance, allowed⟩ :=
      Option.ne_none_iff_exists'.mp (mt allowance?_eq_none_iff.mp answered)
    rw [allowed, Option.map_some, lints_of_allowance? allowed, lintsOf_eq_eraseDups]

/-- A directive that continues another one is allowed what that is allowed, and perhaps more. -/
theorem exists_wider_allowance {table : Table} {earlier later : Directive} {allowance : Allowance}
    (continues : earlier.categories <+: later.categories)
    (allowed : table.allowance? earlier = some allowance) :
    ∃ wider, table.allowance? later = some wider ∧ allowance.lints <+: wider.lints := by
  rw [allowance?_eq_ofLints?] at allowed ⊢
  exact Allowance.exists_wider (prefix_eraseDups (table.prefix_answers continues)) allowed

/-- A ledger is allowed what the table answers for its categories. -/
theorem allowanceOf?_eq_ofLints? (table : Table) (ledger : Ledger) :
    table.allowanceOf? ledger =
      Allowance.ofLints? (ledger.categories.toList.flatMap table.lintsFor).eraseDups := by
  rw [allowanceOf?]
  cases made : ledger.directive? with
  | none =>
    rw [(Directive.ofCategories?_eq_none_iff _).mp made]
    rfl
  | some directive =>
    rw [Option.bind_some, allowance?_eq_ofLints?, Directive.categories_of_ofCategories? made]

/-- What a ledger is allowed at one time, it is allowed after further observations. -/
theorem exists_wider_after_run {table : Table} {ledger : Ledger} {allowance : Allowance}
    (allowed : table.allowanceOf? ledger = some allowance) (observations : List Observation) :
    ∃ wider, table.allowanceOf? (Observation.run ledger observations) = some wider ∧
      allowance.lints <+: wider.lints := by
  rw [allowanceOf?_eq_ofLints?] at allowed ⊢
  have continues := Observation.toList_prefix_run ledger observations
  exact Allowance.exists_wider (prefix_eraseDups (table.prefix_answers continues)) allowed

/-- The lints of an allowance are the first mentions among the answers for the categories of the
directive, in their order, and there is no allowance exactly if all these answers are empty. So a
directive that begins with the categories of another one is allowed what that is allowed, in the
same order, and perhaps further lints behind. The same goes for a ledger after further observations,
whether or not they are refused, and for the directive that it issues then. -/
theorem allowance_grows_with_directive (table : Table) :
    (∀ directive, (table.allowance? directive).map Allowance.lints =
      if directive.categories.flatMap table.lintsFor = [] then none
      else some (directive.categories.flatMap table.lintsFor).eraseDups) ∧
    (∀ directive, table.allowance? directive = none ↔
      directive.categories.flatMap table.lintsFor = []) ∧
    (∀ (earlier later : Directive) (allowance : Allowance),
      earlier.categories <+: later.categories → table.allowance? earlier = some allowance →
      ∃ wider, table.allowance? later = some wider ∧ allowance.lints <+: wider.lints) ∧
    (∀ (ledger : Ledger) (observations : List Observation) (earlier : Directive)
      (allowance : Allowance),
      ledger.directive? = some earlier → table.allowance? earlier = some allowance →
      ∃ later wider, (Observation.run ledger observations).directive? = some later ∧
        table.allowance? later = some wider ∧ allowance.lints <+: wider.lints) := by
  refine ⟨table.map_lints_allowance?, fun _ => allowance?_eq_none_iff,
    fun _ _ _ => exists_wider_allowance, ?_⟩
  intro ledger observations earlier allowance issued allowed
  have early : table.allowanceOf? ledger = some allowance := by
    rw [allowanceOf?, issued, Option.bind_some, allowed]
  obtain ⟨wider, late, grown⟩ := exists_wider_after_run early observations
  -- Only a directive can have brought the later allowance about.
  obtain ⟨later, issuedLater, permitted⟩ := Option.bind_eq_some_iff.mp late
  exact ⟨later, wider, issuedLater, permitted, grown⟩

/-- A table in which a category stands for a lint twice, one for something that is no lint, and
several for the same. -/
def sharedTable : Table :=
  standard.insertMany [("unused", ["unused_variables", "unused_imports", "unused_variables"]),
    ("odd", ["not a lint", "deprecated"])]

/-- A directive for the category that has its lint twice. -/
def unusedDirective : Directive := .single "unused"

/-- The directive continued with dropped, shared and unlisted categories. -/
def continuedDirective : Directive :=
  .list ["unused", "rawtypes", "odd", "removal", "unused_imports", "static-access", "clippy::all"]

theorem allowance_grows_from_unused :
    (unusedDirective.categories <+: continuedDirective.categories ∧
      ∃ allowance wider, sharedTable.allowance? unusedDirective = some allowance ∧
        sharedTable.allowance? continuedDirective = some wider ∧
        allowance.lints <+: wider.lints ∧
        allowance.lints = ["unused_variables", "unused_imports"] ∧
        wider.lints = ["unused_variables", "unused_imports", "not a lint", "deprecated",
          "clippy::all"]) ∧
    ((Observation.run ∅ [.named ["unused"]]).directive? = some unusedDirective ∧
      ∃ later wider,
        (Observation.run (Observation.run ∅ [.named ["unused"]])
          [.named ["odd", "", "cast"], .element ⟨true, true⟩]).directive? = some later ∧
        sharedTable.allowance? later = some wider ∧
        ["unused_variables", "unused_imports"] <+: wider.lints) := by
  obtain ⟨firstMentions, -, grows, goesOn⟩ := allowance_grows_with_directive sharedTable
  have narrow : sharedTable.lintsOf unusedDirective = ["unused_variables", "unused_imports"] := by
    decide
  have allowed := allowance?_of_lintsOf narrow (by simp)
  have continues : unusedDirective.categories <+: continuedDirective.categories := by decide
  have issued : (Observation.run ∅ [.named ["unused"]]).directive? = some unusedDirective := by
    decide
  obtain ⟨wider, permitted, grown⟩ := grows _ _ _ continues allowed
  have mentions := firstMentions continuedDirective
  rw [permitted, Option.map_some] at mentions
  exact ⟨⟨continues, _, wider, allowed, permitted, grown, rfl,
    Option.some.inj (mentions.trans (by decide))⟩, issued,
    goesOn _ [.named ["odd", "", "cast"], .element ⟨true, true⟩] _ _ issued allowed⟩

end Lint.Table

end QuietSource
