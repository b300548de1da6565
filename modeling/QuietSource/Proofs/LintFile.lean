/-
# Tables from lint files

A lint file has each of its categories once, and what it lists stands in its text. So its entries
are judged as any entries with distinct categories are, over the standard table, and the problems
with them point to places in the text.
-/

import QuietSource.Proofs.JudgedEntries
import QuietSource.Proofs.Warnings

namespace QuietSource.Lint

open Text Warning

namespace Table

theorem ofSource_of_listed {source : Source} {listed : List Entry}
    (accepted : File.listed? source.text = some listed) :
    ofSource source = standard.merge source listed := by
  rw [ofSource, File.read, accepted]
  rfl

/-- What a text lists is not looked at unless all of it is a lint file. If it is none, that is the
problem, and only then. -/
theorem ofSource_eq_malformed_iff (source : Source) :
    ofSource source = .error (.malformed source) ↔ File.listed? source.text = none := by
  constructor
  · intro refused
    obtain ⟨-, passedOn, -⟩ := problem_of_ofReading refused
    have reading := (passedOn .wordless).mp rfl
    cases listed : File.listed? source.text with
    | none => rfl
    | some entries =>
      rw [File.read, listed] at reading
      exact nomatch reading
  · intro unlisted
    rw [ofSource, File.read, unlisted]
    rfl

/-- A text that is a lint file is judged by its entries alone. It has a table exactly if every
entry is sound; blank are the categories that ledgers refuse. The table answers for the categories
of the file with their lints, in order, and otherwise as the standard table does. If there is no
table, the problem is that of the least category, by bytes, whose entry is not sound: a blank
category is reported as such, and else the first of its lints that is no lint name, at the place
where the text spells it. Neither the table nor what is reported, places apart, depends on the
order in which the file lists the entries. -/
theorem ofSource_judges_entries (source : Source) (listed : List Entry)
    (accepted : File.listed? source.text = some listed) :
    (listed.map Prod.fst).Nodup ∧
    ((∃ table, ofSource source = .ok table) ↔ ∀ entry ∈ listed, entry.IsSound) ∧
    (∀ (category : String) (ledger : Ledger),
      isBlank category = true ↔ ledger.note category = .error .blankCategory) ∧
    (∀ table, ofSource source = .ok table →
      (∀ entry ∈ listed, table.lintsFor entry.1 = entry.2.map Located.value) ∧
      ∀ category, category ∉ listed.map Prod.fst →
        table.lintsFor category = standard.lintsFor category) ∧
    (∀ problem, ofSource source = .error problem →
      ∃ entry ∈ listed, FaultIn source entry problem ∧
        ∀ other ∈ listed, ¬ other.IsSound → utf8Bytes entry.1 ≤ utf8Bytes other.1) ∧
    (∀ entry ∈ listed, ∀ lint ∈ entry.2, ∃ front spelling,
      source.text.toList = front ++ spelling ++ lint.after ∧
      Document.stringChars? (spelling ++ lint.after) = some (lint.value.toList, lint.after) ∧
      lint.spanIn source = ⟨byteCount front, byteCount spelling⟩) ∧
    (∀ (other : Source) (relisted : List Entry), File.listed? other.text = some relisted →
      (relisted.map Entry.bare).Perm (listed.map Entry.bare) →
      (ofSource other).mapError Problem.withoutPlace =
        (ofSource source).mapError Problem.withoutPlace) := by
  obtain ⟨distinct, tokens⟩ := File.listed?_isReadFrom accepted
  obtain ⟨decides, answers, reports, inAnyOrder⟩ := merge_judges_entries source standard distinct
  rw [ofSource_of_listed accepted]
  refine ⟨distinct, decides, ?_, answers, reports, ?_, ?_⟩
  · intro category ledger
    exact (ledger.note_eq_error_iff category).symm
  · intro entry member lint held
    exact (tokens entry member lint held).spanIn_eq
  · intro other relisted otherAccepted same
    rw [ofSource_of_listed otherAccepted]
    exact inAnyOrder other relisted same

/-- A lint file with its entries in descending order and an impossible name in each. -/
def unsortedFile : Source :=
  ⟨"lints.toml", "[lints]\nunused = [\"unused-imports\"]\nall = [\"1st\"]\n"⟩

/-- What this file lists last. -/
def lastLint : Located String :=
  ⟨"1st", "\"1st\"]\n".toList, "]\n".toList⟩

/-- What this file lists. -/
def unsortedEntries : List Entry :=
  [("unused", [⟨"unused-imports", "\"unused-imports\"]\nall = [\"1st\"]\n".toList,
    "]\nall = [\"1st\"]\n".toList⟩]), ("all", [lastLint])]

/-- Of the two impossible names the one that comes later in the file is reported, since its category
is the lesser one. -/
theorem ofSource_unsortedFile :
    File.listed? unsortedFile.text = some unsortedEntries ∧
      ofSource unsortedFile =
        .error (.invalidLint unsortedFile "all" "1st" (some ⟨43, 5⟩)) := by
  have accepted : File.listed? unsortedFile.text = some unsortedEntries := rfl
  refine ⟨accepted, ?_⟩
  have unnamed : ¬ IsLintName lastLint.value := by
    rw [← isName_iff]
    decide
  have fault : FaultIn unsortedFile ("all", [] ++ lastLint :: [])
      (.invalidLint unsortedFile "all" "1st" (some ⟨43, 5⟩)) :=
    .impossible (by decide) (by simp) unnamed
  have listedLast : ("all", [lastLint]) ∈ unsortedEntries := by simp [unsortedEntries]
  obtain ⟨-, decides, -, -, reports, -, -⟩ :=
    ofSource_judges_entries unsortedFile unsortedEntries accepted
  cases outcome : ofSource unsortedFile with
  | ok table => exact absurd (decides.mp ⟨table, outcome⟩ _ listedLast) fault.not_isSound
  | error problem =>
    obtain ⟨entry, member, reported, least⟩ := reports problem outcome
    have lower := (utf8Bytes_le_iff _ _).mp (least _ listedLast fault.not_isSound)
    simp only [unsortedEntries, List.mem_cons, List.not_mem_nil, or_false] at member
    rcases member with rfl | rfl
    · exact absurd lower (by decide)
    · rw [fault_unique reported fault]

end Table

end QuietSource.Lint
