/-
# Allowances are well formed

The lints of an allowance come from three places: the standard table, a lint file that was accepted,
and categories that stand for the lint of their own name. Each of them yields lint names only, which
is an invariant of tables that every way to make one keeps. An allowance through such a table is
therefore one line, and its text tells the lints apart again, whatever the categories were.
-/

import QuietSource.Proofs.LintFile
import QuietSource.Text.Lines

namespace QuietSource.Lint

open Text Warning Crate

namespace Table

/-- A table lists nothing but lint names. -/
def WellNamed (table : Table) : Prop :=
  ∀ category lints, table.entries.get? category = some lints →
    ∀ lint ∈ lints, IsLintName lint

/-- The tables that directives can meet: the standard one, the empty one, and those that lint files
make. -/
inductive Provided : Table → Prop
  | standard : Provided standard
  | empty : Provided empty
  | ofSource {source : Source} {table : Table} (read : ofSource source = .ok table) :
      Provided table

theorem wellNamed_empty : empty.WellNamed := by
  intro category lints listed
  exact nomatch listed

theorem WellNamed.insert {table : Table} (h : table.WellNamed) (category : String)
    {lints : List String} (named : ∀ lint ∈ lints, IsLintName lint) :
    (table.insert category lints).WellNamed := by
  intro wanted found listed
  unfold Table.insert at listed
  rw [OrderedMap.get?_insert] at listed
  split at listed
  · obtain rfl := Option.some.inj listed
    exact named
  · exact h wanted found listed

theorem WellNamed.insertMany {table : Table} (h : table.WellNamed)
    {entries : List (String × List String)}
    (named : ∀ entry ∈ entries, ∀ lint ∈ entry.2, IsLintName lint) :
    (table.insertMany entries).WellNamed := by
  induction entries generalizing table with
  | nil => exact h
  | cons entry rest ih =>
    exact ih (h.insert entry.1 (named entry List.mem_cons_self))
      fun other member => named other (List.mem_cons_of_mem entry member)

theorem wellNamed_standard : standard.WellNamed := by
  apply wellNamed_empty.insertMany
  intro entry member lint listed
  have checked : isName "deprecated" = true := by decide
  simp only [List.mem_append, List.mem_cons, List.not_mem_nil, or_false, List.mem_map] at member
  rcases member with (rfl | rfl) | ⟨category, -, rfl⟩
  · obtain rfl := List.mem_singleton.mp listed
    exact (isName_iff _).mp checked
  · obtain rfl := List.mem_singleton.mp listed
    exact (isName_iff _).mp checked
  · exact absurd listed List.not_mem_nil

/-- What a lint file adds has passed the check. -/
theorem WellNamed.insertEntries {source : Source} {table made : Table} (h : table.WellNamed)
    {entries : List Entry} (read : table.insertEntries source entries = .ok made) :
    made.WellNamed := by
  obtain ⟨allSound, rfl⟩ := isSound_of_insertEntries read
  apply h.insertMany
  intro bare member lint listed
  obtain ⟨entry, entryMember, rfl⟩ := List.mem_map.mp member
  obtain ⟨located, inEntry, rfl⟩ := List.mem_map.mp listed
  exact (allSound entry entryMember).named located inEntry

/-- So has the table of a lint file, whoever has read it. -/
theorem wellNamed_of_ofReading {source : Source} {reading : Except Refusal (List Entry)}
    {made : Table} (read : ofReading source reading = .ok made) : made.WellNamed := by
  cases reading with
  | ok listed => exact wellNamed_standard.insertEntries read
  | error refusal => exact nomatch read

theorem Provided.wellNamed {table : Table} (provided : table.Provided) : table.WellNamed := by
  cases provided with
  | standard => exact wellNamed_standard
  | empty => exact wellNamed_empty
  | ofSource read => exact wellNamed_of_ofReading read

/-- A well-named table answers for any category with lint names only. -/
theorem WellNamed.lintsFor {table : Table} (h : table.WellNamed) {category lint : String}
    (answered : lint ∈ table.lintsFor category) : IsLintName lint := by
  unfold Table.lintsFor at answered
  split at answered
  · rename_i lints listed
    exact h category lints listed lint answered
  · split at answered
    · rename_i named
      obtain rfl := List.mem_singleton.mp answered
      exact (isName_iff _).mp named
    · exact absurd answered List.not_mem_nil

theorem WellNamed.lintsOf {table : Table} (h : table.WellNamed) {directive : Directive} :
    ∀ lint ∈ table.lintsOf directive, IsLintName lint := by
  intro lint member
  rw [lintsOf_eq_eraseDups, List.mem_eraseDups] at member
  obtain ⟨category, -, answered⟩ := List.mem_flatMap.mp member
  exact h.lintsFor answered

end Table

/-- A character of a lint name is none of those that give the text of an allowance its form. -/
theorem IsLintName.ne_of_mem {lint : String} (named : IsLintName lint) {c : Char}
    (member : c ∈ lint.toList) : c ≠ ',' ∧ c ≠ '(' ∧ c ≠ ')' ∧ c ≠ '\n' ∧ c ≠ '\r' := by
  have excluded (d : Char) (h : ¬ (IsInnerChar d ∨ d = ':')) : c ≠ d := by
    rintro rfl
    exact h (named.spelled c member)
  refine ⟨excluded ',' ?_, excluded '(' ?_, excluded ')' ?_, excluded '\n' ?_,
    excluded '\r' ?_⟩ <;> unfold IsInnerChar IsStartChar <;> decide

/-- Joined lint names hold no brackets and no line breaks. -/
theorem ne_of_mem_intercalate {lints : List String} (named : ∀ lint ∈ lints, IsLintName lint)
    {c : Char} (member : c ∈ (String.intercalate ", " lints).toList) :
    c ≠ '(' ∧ c ≠ ')' ∧ c ≠ '\n' ∧ c ≠ '\r' := by
  rcases mem_toList_intercalate member with ⟨lint, listed, inLint⟩ | inSeparator
  · exact ((named lint listed).ne_of_mem inLint).2
  · obtain rfl | rfl : c = ',' ∨ c = ' ' := by simpa using inSeparator
    · decide
    · decide

/-- Whatever categories a directive names, an allowance for it through a table that directives can
meet is well formed. It has at least one lint and none twice, each of them is a lint name, and
between its brackets stands just their list, which holds neither brackets nor line breaks, and from
which cutting at comma and space gets the lints back. So the allowance is a single line. -/
theorem allowance_wellFormed {table : Table} (provided : table.Provided) {directive : Directive}
    {allowance : Allowance} (allowed : table.allowance? directive = some allowance) :
    ∃ inside : String, allowance.text = "allow(" ++ inside ++ ")" ∧
      inside = String.intercalate ", " allowance.lints ∧
      allowance.lints ≠ [] ∧ allowance.lints.Nodup ∧
      (∀ lint ∈ allowance.lints, IsLintName lint) ∧
      splitAtPair ',' ' ' inside = allowance.lints ∧
      (∀ c ∈ inside.toList, c ≠ '(' ∧ c ≠ ')' ∧ c ≠ '\n' ∧ c ≠ '\r') ∧
      lines allowance.text = [allowance.text] := by
  have same : allowance.lints = table.lintsOf directive := Table.lints_of_allowance? allowed
  have named : ∀ lint ∈ allowance.lints, IsLintName lint := by
    rw [same]
    exact provided.wellNamed.lintsOf
  have distinct : allowance.lints.Nodup := by
    rw [same]
    exact (OrderedSet.ofList _).nodup
  -- Neither the brackets nor the lints between them have a line break.
  have noBreak : '\n' ∉ allowance.text.toList := by
    intro member
    simp only [Allowance.text, String.toList_append, List.mem_append] at member
    rcases member with (inOpening | inside) | inClosing
    · exact absurd inOpening (by decide)
    · exact (ne_of_mem_intercalate named inside).2.2.1 rfl
    · exact absurd inClosing (by decide)
  have notEmpty : allowance.text.toList ≠ [] := by simp [Allowance.text]
  refine ⟨String.intercalate ", " allowance.lints, rfl, rfl, allowance.nonempty, distinct, named,
    ?_, fun c member => ne_of_mem_intercalate named member, ?_⟩
  · exact splitAtPair_intercalate allowance.nonempty fun lint listed inLint =>
      ((named lint listed).ne_of_mem inLint).1 rfl
  · rw [lines, lineChars_of_not_mem notEmpty noBreak]
    simp

/-- A directive whose categories would leave the brackets, begin a line or pass for two lints. -/
def oddDirective : Directive :=
  .list ["removal", "\"),\n(", "clippy::all", "dead_code, unused", "deprecation", "a::b::c"]

theorem allowance_of_oddDirective :
    Table.Provided .standard ∧ ∃ allowance,
      Table.standard.allowance? oddDirective = some allowance ∧
        allowance.text = "allow(deprecated, clippy::all)" ∧
        splitAtPair ',' ' ' "deprecated, clippy::all" = allowance.lints := by
  have left : Table.standard.lintsOf oddDirective = ["deprecated", "clippy::all"] := by decide
  have allowed := Table.allowance?_of_lintsOf left (by simp)
  obtain ⟨inside, written, joined, -, -, -, cut, -, -⟩ := allowance_wellFormed .standard allowed
  have inBrackets : inside = "deprecated, clippy::all" := joined.trans (by decide)
  rw [inBrackets] at written cut
  exact ⟨.standard, _, allowed, written, cut⟩

end QuietSource.Lint
