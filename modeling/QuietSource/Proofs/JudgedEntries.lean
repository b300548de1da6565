/-
# Entries judged one after the other

An entry of a lint file is sound if its category is not blank and all its lints are lint names.
Sound entries are listed in a table one after the other; the first entry that is not sound ends the
run with the problem it causes. Since the entries are taken in ascending order, the problem reported
is that of the least category with one, and neither the table nor the choice of the problem depends
on the order in which the entries are given.

All this holds of entries with distinct categories over any table, whoever has read them.
-/

import QuietSource.Proofs.ByteOrder
import QuietSource.Proofs.LintName
import QuietSource.Proofs.LintTable
import QuietSource.Proofs.ListedEntries

namespace QuietSource.Lint

open Text Warning

/-- An entry that a table can take over. -/
structure Entry.IsSound (entry : Entry) : Prop where
  /-- Its category is not blank. -/
  notBlank : isBlank entry.1 = false
  /-- All its lints are lint names. -/
  named : ∀ lint ∈ entry.2, IsLintName lint.value

/-- The problem that an entry of a source causes, if it is not sound. -/
inductive FaultIn (source : Source) : Entry → Problem → Prop
  /-- A blank category is reported, whatever is listed under it. -/
  | blank {category : String} {lints : List (Located String)} (blank : isBlank category = true) :
      FaultIn source (category, lints)
        (.invalid source "warning category must not be empty")
  /-- Under another category, the first of its lints that is no lint name is reported, with its
  place. -/
  | impossible {category : String} {front back : List (Located String)} {lint : Located String}
      (notBlank : isBlank category = false) (named : ∀ other ∈ front, IsLintName other.value)
      (unnamed : ¬ IsLintName lint.value) :
      FaultIn source (category, front ++ lint :: back)
        (.invalidLint source category lint.value (some (lint.spanIn source)))

theorem FaultIn.not_isSound {source : Source} {entry : Entry} {problem : Problem}
    (fault : FaultIn source entry problem) : ¬ entry.IsSound := by
  intro sound
  cases fault with
  | blank blank => exact Bool.false_ne_true (sound.notBlank.symm.trans blank)
  | impossible notBlank named unnamed => exact unnamed (sound.named _ (by simp))

theorem Entry.isSound_or_fault (source : Source) (entry : Entry) :
    entry.IsSound ∨ ∃ problem, FaultIn source entry problem := by
  obtain ⟨category, lints⟩ := entry
  cases blank : isBlank category with
  | true => exact Or.inr ⟨_, .blank blank⟩
  | false =>
    cases found : lints.find? fun lint => !isName lint.value with
    | none =>
      left
      refine ⟨blank, ?_⟩
      intro lint listed
      rw [← isName_iff]
      simpa using List.find?_eq_none.mp found lint listed
    | some lint =>
      right
      obtain ⟨refused, front, back, rfl, accepted⟩ := List.find?_eq_some_iff_append.mp found
      refine ⟨_, .impossible blank ?_ ?_⟩
      · intro other earlier
        rw [← isName_iff]
        simpa using accepted other earlier
      · rw [← isName_iff]
        simpa using refused

/-- A problem without the source it lies in and its place there. -/
def Problem.withoutPlace : Problem → Problem
  | .unreadable path => .unreadable path
  | .malformed refused => .malformed { refused with source := ⟨"", ""⟩, span := none }
  | .invalidLint _ category lint _ => .invalidLint ⟨"", ""⟩ category lint none
  | .invalid _ reason => .invalid ⟨"", ""⟩ reason

namespace Table

/-! ## One entry after the other -/

variable {source : Source} {table : Table} {entry : Entry} {rest : List Entry}

theorem insertEntries_cons_of_isSound (sound : entry.IsSound) :
    insertEntries source table (entry :: rest) =
      insertEntries source (table.insert entry.bare.1 entry.bare.2) rest := by
  obtain ⟨category, lints⟩ := entry
  have noneRefused : (lints.find? fun lint => !isName lint.value) = none := by
    rw [List.find?_eq_none]
    intro lint listed
    simpa using (isName_iff lint.value).mpr (sound.named lint listed)
  rw [insertEntries, sound.notBlank, noneRefused]
  rfl

theorem insertEntries_cons_of_fault {problem : Problem} (fault : FaultIn source entry problem) :
    insertEntries source table (entry :: rest) = .error problem := by
  cases fault with
  | blank blank =>
    rw [insertEntries, blank]
    rfl
  | @impossible category front back lint notBlank named unnamed =>
    have firstRefused :
        ((front ++ lint :: back).find? fun lint => !isName lint.value) = some lint := by
      rw [List.find?_eq_some_iff_append]
      refine ⟨?_, front, back, rfl, ?_⟩
      · simpa using (isName_iff lint.value).not.mpr unnamed
      · intro other earlier
        simpa using (isName_iff other.value).mpr (named other earlier)
    rw [insertEntries, notBlank, firstRefused]
    rfl

/-- An entry has one problem at most. -/
theorem fault_unique {first second : Problem} (fault : FaultIn source entry first)
    (other : FaultIn source entry second) : first = second := by
  have reported : insertEntries source empty [entry] = .error first :=
    insertEntries_cons_of_fault fault
  rw [insertEntries_cons_of_fault other] at reported
  exact (Except.error.inj reported).symm

theorem insertEntries_of_isSound {entries : List Entry}
    (sound : ∀ entry ∈ entries, entry.IsSound) :
    insertEntries source table entries = .ok (table.insertMany (entries.map Entry.bare)) := by
  induction entries generalizing table with
  | nil => rfl
  | cons entry rest ih =>
    rw [insertEntries_cons_of_isSound (sound entry List.mem_cons_self)]
    exact ih fun other later => sound other (List.mem_cons_of_mem entry later)

/-- The first entry that is not sound decides the outcome, and what comes after it is not looked
at. -/
theorem insertEntries_of_fault {front back : List Entry} {problem : Problem}
    (sound : ∀ entry ∈ front, entry.IsSound) (fault : FaultIn source entry problem) :
    insertEntries source table (front ++ entry :: back) = .error problem := by
  induction front generalizing table with
  | nil => exact insertEntries_cons_of_fault fault
  | cons first rest ih =>
    rw [List.cons_append, insertEntries_cons_of_isSound (sound first List.mem_cons_self)]
    exact ih fun other later => sound other (List.mem_cons_of_mem first later)

/-- Either all entries are sound, or there is a first one that is not. -/
theorem allSound_or_firstFault (source : Source) (entries : List Entry) :
    (∀ entry ∈ entries, entry.IsSound) ∨
      ∃ front entry back problem, entries = front ++ entry :: back ∧
        (∀ earlier ∈ front, earlier.IsSound) ∧ FaultIn source entry problem := by
  induction entries with
  | nil => exact Or.inl (by simp)
  | cons entry rest ih =>
    rcases entry.isSound_or_fault source with sound | ⟨problem, fault⟩
    · rcases ih with allSound | ⟨front, other, back, problem, rfl, soundFront, fault⟩
      · exact Or.inl (List.forall_mem_cons.mpr ⟨sound, allSound⟩)
      · exact Or.inr ⟨entry :: front, other, back, problem, rfl,
          List.forall_mem_cons.mpr ⟨sound, soundFront⟩, fault⟩
    · exact Or.inr ⟨[], entry, rest, problem, rfl, by simp, fault⟩

/-- A run that is not ended by a problem has listed sound entries, and all of them. -/
theorem isSound_of_insertEntries {entries : List Entry} {made : Table}
    (done : insertEntries source table entries = .ok made) :
    (∀ entry ∈ entries, entry.IsSound) ∧ made = table.insertMany (entries.map Entry.bare) := by
  rcases allSound_or_firstFault source entries with
    allSound | ⟨front, entry, back, problem, rfl, sound, fault⟩
  · rw [insertEntries_of_isSound allSound] at done
    exact ⟨allSound, (Except.ok.inj done).symm⟩
  · rw [insertEntries_of_fault sound fault] at done
    exact nomatch done

/-- Entries that differ only in their places have the same outcome, apart from places. -/
theorem withoutPlace_insertEntries {first second : Source} {entries others : List Entry}
    (same : others.map Entry.bare = entries.map Entry.bare) :
    (insertEntries second table others).mapError Problem.withoutPlace =
      (insertEntries first table entries).mapError Problem.withoutPlace := by
  induction entries generalizing table others with
  | nil =>
    obtain rfl := List.map_eq_nil_iff.mp same
    rfl
  | cons entry rest ih =>
    obtain ⟨other, later, rfl, sameEntry, sameRest⟩ := List.map_eq_cons_iff.mp same
    obtain ⟨category, lints⟩ := entry
    obtain ⟨otherCategory, otherLints⟩ := other
    obtain ⟨rfl, sameLints⟩ := Prod.mk.inj sameEntry
    -- The first lint refused of either entry is the same, though it stands elsewhere.
    have sameRefused :
        (otherLints.find? fun lint => !isName lint.value).map Located.value =
          (lints.find? fun lint => !isName lint.value).map Located.value := by
      have refused (lints : List (Located String)) :
          (lints.find? fun lint => !isName lint.value).map Located.value =
            (lints.map Located.value).find? fun lint => !isName lint := by
        rw [List.find?_map]
        rfl
      rw [refused, refused]
      exact congrArg _ sameLints
    rw [insertEntries, insertEntries]
    cases isBlank otherCategory with
    | true => rfl
    | false =>
      cases found : lints.find? fun lint => !isName lint.value with
      | none =>
        rw [found, Option.map_none, Option.map_eq_none_iff] at sameRefused
        rw [sameRefused]
        show (insertEntries second (table.insert otherCategory (otherLints.map Located.value))
          later).mapError _ = _
        rw [sameLints]
        exact ih sameRest
      | some lint =>
        rw [found, Option.map_some, Option.map_eq_some_iff] at sameRefused
        obtain ⟨otherLint, otherFound, sameLint⟩ := sameRefused
        rw [otherFound]
        show Except.error (Problem.invalidLint _ otherCategory otherLint.value none) = _
        rw [sameLint]
        rfl

/-! ## Entries in any order -/

variable {listed : List Entry}

theorem exists_merge_iff :
    (∃ made, merge source table listed = .ok made) ↔ ∀ entry ∈ listed, entry.IsSound := by
  have sameEntries (entry : Entry) : entry ∈ File.ascending listed ↔ entry ∈ listed :=
    (File.ascending_perm listed).mem_iff
  constructor
  · rintro ⟨made, done⟩ entry member
    exact (isSound_of_insertEntries done).1 entry ((sameEntries entry).mpr member)
  · intro allSound
    exact ⟨_, insertEntries_of_isSound fun entry member =>
      allSound entry ((sameEntries entry).mp member)⟩

/-- For the categories of the entries a table answers with their lints, and otherwise as before. -/
theorem lintsFor_merge {made : Table} (distinct : (listed.map Prod.fst).Nodup)
    (done : merge source table listed = .ok made) :
    (∀ entry ∈ listed, made.lintsFor entry.1 = entry.2.map Located.value) ∧
      ∀ category, category ∉ listed.map Prod.fst →
        made.lintsFor category = table.lintsFor category := by
  have sorted := File.ascending_perm listed
  have keys : (((File.ascending listed).map Entry.bare).map Prod.fst).Perm
      (listed.map Prod.fst) := by
    rw [List.map_map]
    exact sorted.map Prod.fst
  rw [(isSound_of_insertEntries done).2]
  constructor
  · intro entry member
    apply lintsFor_insertMany_of_mem
    · exact keys.nodup_iff.mpr distinct
    · exact List.mem_map_of_mem (sorted.mem_iff.mpr member)
  · intro category absent
    apply lintsFor_insertMany_of_not_mem
    rw [keys.mem_iff]
    exact absent

/-- Entries without a table have the problem of the least category whose entry is not sound. -/
theorem leastFault_of_merge {problem : Problem}
    (failed : merge source table listed = .error problem) :
    ∃ entry ∈ listed, FaultIn source entry problem ∧
      ∀ other ∈ listed, ¬ other.IsSound → entry.1 ≤ other.1 := by
  have sorted := File.ascending_perm listed
  rw [merge] at failed
  rcases allSound_or_firstFault source (File.ascending listed) with
    allSound | ⟨front, entry, back, found, split, sound, fault⟩
  · rw [insertEntries_of_isSound allSound] at failed
    exact nomatch failed
  · rw [split, insertEntries_of_fault sound fault] at failed
    obtain rfl := Except.error.inj failed
    refine ⟨entry, sorted.mem_iff.mp (by simp [split]), fault, ?_⟩
    intro other member unsound
    -- The entries before the one that ended the run are sound, so the other one comes after it.
    have upwards := File.ascending_pairwise listed
    rw [split, List.pairwise_append, List.pairwise_cons] at upwards
    have place := sorted.mem_iff.mpr member
    rw [split, List.mem_append, List.mem_cons] at place
    rcases place with before | rfl | after
    · exact absurd (sound other before) unsound
    · exact le_refl _
    · exact upwards.2.1.1 other after

/-- Entries with distinct categories are judged alike over any table and whatever source they are
from. They make a table exactly if all of them are sound. It answers for their categories with their
lints, in order, and otherwise as the table did before. If they make none, the problem is that of
the least category, by bytes, whose entry is not sound. The same entries given in another order
have the same outcome, places apart. -/
theorem merge_judges_entries (source : Source) (table : Table) {listed : List Entry}
    (distinct : (listed.map Prod.fst).Nodup) :
    ((∃ made, merge source table listed = .ok made) ↔ ∀ entry ∈ listed, entry.IsSound) ∧
    (∀ made, merge source table listed = .ok made →
      (∀ entry ∈ listed, made.lintsFor entry.1 = entry.2.map Located.value) ∧
      ∀ category, category ∉ listed.map Prod.fst →
        made.lintsFor category = table.lintsFor category) ∧
    (∀ problem, merge source table listed = .error problem →
      ∃ entry ∈ listed, FaultIn source entry problem ∧
        ∀ other ∈ listed, ¬ other.IsSound → utf8Bytes entry.1 ≤ utf8Bytes other.1) ∧
    (∀ (other : Source) (relisted : List Entry),
      (relisted.map Entry.bare).Perm (listed.map Entry.bare) →
      (merge other table relisted).mapError Problem.withoutPlace =
        (merge source table listed).mapError Problem.withoutPlace) := by
  refine ⟨exists_merge_iff, fun made => lintsFor_merge distinct, ?_, ?_⟩
  · intro problem failed
    simp only [utf8Bytes_le_iff]
    exact leastFault_of_merge failed
  · intro other relisted same
    exact withoutPlace_insertEntries (File.map_bare_ascending distinct same)

/-- A reading that makes no table has a problem that shows the source. It passes on a refusal if
there was one, with a remark at the place where the reader refused the text, if it told, and is no
refusal otherwise. -/
theorem problem_of_ofReading {reading : Except Refusal (List Entry)} {problem : Problem}
    (failed : ofReading source reading = .error problem) :
    problem.source? = some source ∧
      (∀ refusal, problem.refusal? = some refusal ↔ reading = .error refusal) ∧
      ∀ refusal, reading = .error refusal →
        problem.labels = refusal.span.toList.map fun span => ("parse error here", span) := by
  cases reading with
  | error refusal =>
    obtain rfl := Except.error.inj failed
    refine ⟨rfl, fun other => ?_, ?_⟩
    · rw [Except.error.injEq]
      exact Option.some_inj
    · rintro other ⟨⟩
      rfl
  | ok listed =>
    obtain ⟨entry, -, fault, -⟩ := leastFault_of_merge failed
    cases fault <;> exact ⟨rfl, by simp [Problem.refusal?], nofun⟩

end Table

end QuietSource.Lint
