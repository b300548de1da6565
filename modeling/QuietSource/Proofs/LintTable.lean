/-
# What lint tables answer

A table answers for a category with the lints it was last listed with, or else with the category
itself if that can name a lint. The lints of a directive are the first mentions among the answers
for its categories. An item is given them as one attribute, whichever way the directive reaches it,
and an item for which no lint is left stays as it is.
-/

import QuietSource.Lint.Table

namespace QuietSource

theorem eraseDups_eq_nil_iff {α : Type} [BEq α] [LawfulBEq α] {list : List α} :
    list.eraseDups = [] ↔ list = [] := by
  cases list <;> simp [List.eraseDups_cons]

/-- A list that repeats one element mentions it once. -/
theorem eraseDups_eq_singleton {α : Type} [DecidableEq α] {list : List α} {a : α}
    (nonempty : list ≠ []) (same : ∀ b ∈ list, b = a) : list.eraseDups = [a] := by
  cases list with
  | nil => exact absurd rfl nonempty
  | cons b rest =>
    obtain rfl := same b List.mem_cons_self
    have nothingElse : (rest.filter fun c => !c == b) = [] := by
      rw [List.filter_eq_nil_iff]
      intro c present
      simp [same c (List.mem_cons_of_mem _ present)]
    rw [List.eraseDups_cons, nothingElse, List.eraseDups_nil]

namespace Lint

open Warning Crate

namespace Table

theorem lintsFor_insert (table : Table) (listed category : String) (lints : List String) :
    (table.insert listed lints).lintsFor category =
      if category = listed then lints else table.lintsFor category := by
  unfold lintsFor insert
  rw [OrderedMap.get?_insert]
  by_cases same : category = listed
  · simp [same]
  · simp [same]

/-- Listing other categories does not change the answer for a category. -/
theorem lintsFor_insertMany_of_not_mem (table : Table) {entries : List (String × List String)}
    {category : String} (absent : category ∉ entries.map Prod.fst) :
    (table.insertMany entries).lintsFor category = table.lintsFor category := by
  induction entries generalizing table with
  | nil => rfl
  | cons entry rest ih =>
    rw [List.map_cons, List.mem_cons, not_or] at absent
    show ((table.insert entry.1 entry.2).insertMany rest).lintsFor category = _
    rw [ih _ absent.2, lintsFor_insert, if_neg absent.1]

/-- A category listed once is answered with its lints. -/
theorem lintsFor_insertMany_of_mem (table : Table) {entries : List (String × List String)}
    {category : String} {lints : List String} (distinct : (entries.map Prod.fst).Nodup)
    (listed : (category, lints) ∈ entries) :
    (table.insertMany entries).lintsFor category = lints := by
  induction entries generalizing table with
  | nil => exact absurd listed List.not_mem_nil
  | cons entry rest ih =>
    rw [List.map_cons, List.nodup_cons] at distinct
    show ((table.insert entry.1 entry.2).insertMany rest).lintsFor category = lints
    rcases List.mem_cons.mp listed with rfl | later
    · rw [lintsFor_insertMany_of_not_mem _ distinct.1, lintsFor_insert, if_pos rfl]
    · exact ih _ distinct.2 later

/-- The lints of a directive are the first mentions among the answers for its categories. -/
theorem lintsOf_eq_eraseDups (table : Table) (directive : Directive) :
    table.lintsOf directive = (directive.categories.flatMap table.lintsFor).eraseDups :=
  OrderedSet.toList_ofList _

theorem lints_of_allowance? {table : Table} {directive : Directive} {allowance : Allowance}
    (h : table.allowance? directive = some allowance) :
    allowance.lints = table.lintsOf directive :=
  Allowance.ofLints?_eq_some_iff.mp h

theorem allowance?_of_lintsOf {table : Table} {directive : Directive} {lints : List String}
    (h : table.lintsOf directive = lints) (nonempty : lints ≠ []) :
    table.allowance? directive = some ⟨lints, nonempty⟩ :=
  Allowance.ofLints?_eq_some_iff.mpr h.symm

/-- In the standard table both deprecation categories stand for one lint. -/
theorem lintsFor_standard {category : String}
    (h : category = "deprecation" ∨ category = "removal") :
    standard.lintsFor category = ["deprecated"] := by
  rcases h with rfl | rfl <;> decide

/-- The standard table makes one lint of deprecation warnings, however many there are. -/
theorem lintsOf_standard {directive : Directive} (nonempty : directive.categories ≠ [])
    (caused : ∀ category ∈ directive.categories,
      category = "deprecation" ∨ category = "removal") :
    standard.lintsOf directive = ["deprecated"] := by
  rw [lintsOf_eq_eraseDups]
  apply eraseDups_eq_singleton
  · obtain ⟨category, listed⟩ := List.exists_mem_of_ne_nil _ nonempty
    have member : "deprecated" ∈ directive.categories.flatMap standard.lintsFor :=
      List.mem_flatMap.mpr ⟨category, listed, by simp [lintsFor_standard (caused _ listed)]⟩
    exact List.ne_nil_of_mem member
  · intro lint member
    obtain ⟨category, listed, answered⟩ := List.mem_flatMap.mp member
    rw [lintsFor_standard (caused category listed)] at answered
    exact List.mem_singleton.mp answered

end Table

/-- A ledger reaches an item through a table as its directive does, if it has one. -/
theorem silenceThrough_eq {τ : Type} [HasAttributes τ] (table : Table) (ledger : Ledger)
    (item : τ) :
    silenceThrough table ledger item =
      match ledger.directive? with
      | none => item
      | some directive => table.permit directive item := by
  unfold silenceThrough Ledger.silence
  cases ledger.directive? <;> rfl

/-- If an item takes directives through a table, so does it take what a ledger has to say. -/
theorem silence_eq_silenceThrough {τ : Type} [HasAttributes τ] [Silenceable τ] (table : Table)
    (ledger : Ledger) {item : τ}
    (attached : ∀ directive, Silenceable.attach directive item = table.permit directive item) :
    ledger.silence item = silenceThrough table ledger item := by
  rw [silenceThrough_eq, Ledger.silence]
  cases ledger.directive? with
  | none => rfl
  | some directive => exact attached directive

/-- A ledger of deprecation warnings gives an item one attribute through the standard table, unless
the ledger is empty. -/
theorem silenceThrough_standard {τ : Type} [HasAttributes τ] {ledger : Ledger} (item : τ)
    (caused : ∀ category ∈ ledger.categories.toList,
      category = "deprecation" ∨ category = "removal") :
    silenceThrough .standard ledger item =
      if ledger.categories.toList = [] then item
      else addAttribute (.allow (.one "deprecated")) item := by
  rw [silenceThrough_eq, Ledger.directive?]
  cases listed : ledger.categories.toList with
  | nil => rfl
  | cons category rest =>
    obtain ⟨directive, made⟩ : ∃ directive,
        Directive.ofCategories? (category :: rest) = some directive := by
      cases rest <;> exact ⟨_, rfl⟩
    have same : directive.categories = category :: rest :=
      Directive.categories_of_ofCategories? made
    have lints : Table.standard.lintsOf directive = ["deprecated"] :=
      Table.lintsOf_standard (by simp [same]) (by rw [same, ← listed]; exact caused)
    have allowed := Table.allowance?_of_lintsOf lints (by simp)
    rw [made]
    simp [Table.permit, allowed, Allowance.one]

end Lint

end QuietSource
