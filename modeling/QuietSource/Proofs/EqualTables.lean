/-
# Equal lint tables

A table keeps its categories in the order in which they were first listed, and listing one again
replaces its lints where it stands. Neither can be seen from outside. Whatever table a history
starts from and whatever it lists then, what is in force for a category is what was listed for it
last, or else what the first table has. Tables are equal under `==` exactly if the same is in force
for every category in both, and equal tables answer alike for all categories and directives.
-/

import Mathlib.Data.List.Perm.Subperm
import QuietSource.Proofs.GrowingDirective
import QuietSource.Proofs.LintName
import QuietSource.Proofs.LintFile

namespace QuietSource

namespace OrderedMap

variable {κ ν : Type}

theorem nodup_toList (map : OrderedMap κ ν) : map.toList.Nodup :=
  .of_map Prod.fst map.nodup

variable [DecidableEq κ]

theorem lookup_eq_some_iff_mem {entries : List (κ × ν)} (distinct : (entries.map Prod.fst).Nodup)
    {key : κ} {value : ν} : entries.lookup key = some value ↔ (key, value) ∈ entries := by
  rw [List.lookup_eq_some_iff]
  constructor
  · rintro ⟨before, after, rfl, -⟩
    simp
  · intro listed
    obtain ⟨before, after, rfl⟩ := List.append_of_mem listed
    refine ⟨before, after, rfl, ?_⟩
    intro entry earlier
    rw [List.map_append, List.map_cons, List.nodup_append] at distinct
    have other : entry.1 ≠ key :=
      distinct.2.2 entry.1 (List.mem_map_of_mem earlier) key List.mem_cons_self
    simpa using other.symm

/-- A map holds the entries that are found in it. -/
theorem mem_toList_iff {map : OrderedMap κ ν} {key : κ} {value : ν} :
    (key, value) ∈ map.toList ↔ map.get? key = some value :=
  (lookup_eq_some_iff_mem map.nodup).symm

/-- Maps that list the same entries in some order are those in which the same is found. -/
theorem perm_iff_get? {first second : OrderedMap κ ν} :
    first.toList.Perm second.toList ↔ ∀ key, first.get? key = second.get? key := by
  rw [List.perm_ext_iff_of_nodup first.nodup_toList second.nodup_toList]
  constructor
  · intro same key
    apply Option.ext
    intro value
    rw [← mem_toList_iff, ← mem_toList_iff, same]
  · rintro same ⟨key, value⟩
    rw [mem_toList_iff, mem_toList_iff, same]

/-- Maps are equal under `==` exactly if one lists the entries of the other in some order. -/
theorem beq_iff_perm [DecidableEq ν] {first second : OrderedMap κ ν} :
    (first == second) = true ↔ first.toList.Perm second.toList := by
  have unfolded : (first == second) =
      (first.size == second.size &&
        first.toList.all fun entry => second.get? entry.1 == some entry.2) := rfl
  rw [unfolded, Bool.and_eq_true, beq_iff_eq, List.all_eq_true]
  constructor
  · rintro ⟨sameSize, found⟩
    have subset : first.toList ⊆ second.toList := by
      intro entry listed
      exact mem_toList_iff.mpr (beq_iff_eq.mp (found entry listed))
    exact (List.subperm_of_subset first.nodup_toList subset).perm_of_length_le
      (Nat.le_of_eq sameSize.symm)
  · intro reordered
    refine ⟨reordered.length_eq, ?_⟩
    intro entry listed
    exact beq_iff_eq.mpr (mem_toList_iff.mp (reordered.mem_iff.mp listed))

end OrderedMap

namespace Lint

open Text Warning Crate

instance (text : String) : Decidable (IsLintName text) :=
  decidable_of_iff (isName text = true) (isName_iff text)

namespace Table

/-- The lints that are in force for a category in a table to which entries have been added: those
that the category was listed with last, or else those that the table had. -/
def lintsInForce? (base : Table) (added : List (String × List String)) (category : String) :
    Option (List String) :=
  (added.reverse.lookup category).or (base.entries.get? category)

theorem entries_insertMany (base : Table) (added : List (String × List String)) :
    (base.insertMany added).entries = base.entries.insertMany added := by
  induction added generalizing base with
  | nil => rfl
  | cons entry rest ih => exact ih (base.insert entry.1 entry.2)

theorem get?_insertMany (base : Table) (added : List (String × List String)) (category : String) :
    (base.insertMany added).entries.get? category = base.lintsInForce? added category := by
  rw [entries_insertMany, OrderedMap.get?_insertMany]
  rfl

/-- A category for which nothing is in force stands for itself, if it can name a lint. -/
theorem lintsFor_insertMany (base : Table) (added : List (String × List String))
    (category : String) :
    (base.insertMany added).lintsFor category =
      match base.lintsInForce? added category with
      | some lints => lints
      | none => if IsLintName category then [category] else [] := by
  rw [lintsFor, get?_insertMany]
  cases base.lintsInForce? added category with
  | some lints => rfl
  | none =>
    by_cases named : IsLintName category
    · rw [if_pos named, if_pos ((isName_iff category).mpr named)]
    · rw [if_neg named, if_neg (mt (isName_iff category).mp named)]

theorem beq_iff_perm {first second : Table} :
    (first == second) = true ↔ first.entries.toList.Perm second.entries.toList :=
  OrderedMap.beq_iff_perm

theorem beq_iff_get? {first second : Table} :
    (first == second) = true ↔
      ∀ category, first.entries.get? category = second.entries.get? category :=
  beq_iff_perm.trans OrderedMap.perm_iff_get?

theorem lintsFor_eq_of_beq {first second : Table} (equal : (first == second) = true)
    (category : String) : first.lintsFor category = second.lintsFor category := by
  rw [lintsFor, lintsFor, beq_iff_get?.mp equal]

theorem allowance?_eq_of_beq {first second : Table} (equal : (first == second) = true)
    (directive : Directive) : first.allowance? directive = second.allowance? directive := by
  have sameAnswers : first.lintsFor = second.lintsFor := funext (lintsFor_eq_of_beq equal)
  rw [allowance?_eq_ofLints?, allowance?_eq_ofLints?, sameAnswers]

/-- Entries can be added to any table, the standard one, the empty one or that of a lint file. A
category is then answered with the lints of its last entry, or else with those that it had in the
table, or else with itself if it can name a lint, and otherwise with nothing. Two tables made in
this way are equal under `==` exactly if the same lints in the same order, or none, are in force for
every category, and so exactly if they list the same entries in any order. Equal tables have the
same answer for every category and the same allowance, or none, for every directive. -/
theorem beq_sees_lints_in_force :
    (∀ (base : Table) (added : List (String × List String)) (category : String),
      (base.insertMany added).lintsFor category =
        match base.lintsInForce? added category with
        | some lints => lints
        | none => if IsLintName category then [category] else []) ∧
    (∀ (base other : Table) (added addedToOther : List (String × List String)),
      (base.insertMany added == other.insertMany addedToOther) = true ↔
        ∀ category, base.lintsInForce? added category =
          other.lintsInForce? addedToOther category) ∧
    (∀ (base other : Table) (added addedToOther : List (String × List String)),
      (base.insertMany added == other.insertMany addedToOther) = true ↔
        (base.insertMany added).entries.toList.Perm
          (other.insertMany addedToOther).entries.toList) ∧
    (∀ first second : Table, (first == second) = true →
      (∀ category, first.lintsFor category = second.lintsFor category) ∧
      ∀ directive, first.allowance? directive = second.allowance? directive) := by
  refine ⟨lintsFor_insertMany, ?_, fun _ _ _ _ => beq_iff_perm, ?_⟩
  · intro base other added addedToOther
    rw [beq_iff_get?]
    simp only [get?_insertMany]
  · intro first second equal
    exact ⟨lintsFor_eq_of_beq equal, allowance?_eq_of_beq equal⟩

/-- A lint file that lists two categories. -/
def sortedFile : Source :=
  ⟨"lints.toml", "[lints]\nall = []\nunused = [\"dead_code\"]\n"⟩

/-- What this file lists, with the places of the lints. -/
def sortedEntries : List Entry :=
  [("all", []), ("unused", [⟨"dead_code", "\"dead_code\"]\n".toList, "]\n".toList⟩])]

/-- What this file lists. -/
def sortedListing : List (String × List String) :=
  [("all", []), ("unused", ["dead_code"])]

/-- The same categories in another order, one of them with another lint at first. -/
def relisting : List (String × List String) :=
  [("unused", ["unused_variables"]), ("all", []), ("unused", ["dead_code"])]

theorem beq_of_relisting :
    ofSource sortedFile = .ok (standard.insertMany sortedListing) ∧
      (standard.insertMany sortedListing).entries.toList ≠
        (standard.insertMany relisting).entries.toList ∧
      (standard.insertMany sortedListing == standard.insertMany relisting) = true ∧
      (standard.insertMany relisting).lintsFor "unused" = ["dead_code"] ∧
      (standard.insertMany sortedListing).lintsFor "unused" =
        (standard.insertMany relisting).lintsFor "unused" ∧
      (standard.insertMany sortedListing).allowance? (.list ["unused", "all"]) =
        (standard.insertMany relisting).allowance? (.list ["unused", "all"]) := by
  have made : ofSource sortedFile = .ok (standard.insertMany sortedListing) := by
    have accepted : File.listed? sortedFile.text = some sortedEntries := rfl
    have sorted : File.ascending sortedEntries = sortedEntries :=
      List.mergeSort_of_pairwise (by decide)
    have sound : ∀ entry ∈ sortedEntries, entry.IsSound := by
      rw [sortedEntries, List.forall_mem_cons, List.forall_mem_singleton]
      refine ⟨⟨by decide, List.forall_mem_nil _⟩, ⟨by decide, ?_⟩⟩
      simp only [← isName_iff]
      decide
    rw [ofSource_of_listed accepted, merge, sorted, insertEntries_of_isSound sound]
    rfl
  obtain ⟨answers, equal_iff, -, alike⟩ := beq_sees_lints_in_force
  have equal : (standard.insertMany sortedListing == standard.insertMany relisting) = true := by
    rw [equal_iff]
    intro category
    -- Behind the last entry for `unused` and that for `all`, the first one is not reached.
    simp only [lintsInForce?, sortedListing, relisting, List.reverse_cons, List.reverse_nil,
      List.nil_append, List.cons_append, List.lookup_cons, List.lookup_nil]
    cases category == "unused" <;> cases category == "all" <;> rfl
  obtain ⟨sameLints, sameAllowance⟩ := alike _ _ equal
  exact ⟨made, by decide, equal, (answers standard relisting "unused").trans (by decide),
    sameLints "unused", sameAllowance (.list ["unused", "all"])⟩

end Table

end Lint

end QuietSource
