/-
# Reserved words among lints

A lint name has no segment that is a keyword, whatever way it takes into an allowance. The language
also reserves words that it does not use yet, and the check of lint names does not know them. So a
reserved word gets through wherever a keyword would be stopped: in a category that stands for the
lint of its own name, and in a lint file. This module says that these are all the ways, and that the
standard table stops the one reserved word that is a category to be dropped.
-/

import QuietSource.Proofs.Allowance

namespace QuietSource.Lint

open Text Warning

/-- The words that the language reserves without a use for them. -/
def reservedWords : List String :=
  ["abstract", "become", "box", "do", "final", "macro", "override", "priv", "try", "typeof",
    "unsized", "virtual", "yield"]

/-- A segment of a name is one of some words. -/
def HasSegmentIn (words : List String) (name : String) : Prop :=
  ∃ segment ∈ splitAtPair ':' ':' name, segment ∈ words

instance (words : List String) (name : String) : Decidable (HasSegmentIn words name) :=
  inferInstanceAs (Decidable (∃ segment ∈ splitAtPair ':' ':' name, _))

/-- No segment of a lint name is a keyword. -/
theorem IsLintName.not_hasSegmentIn_keywords {name : String} (named : IsLintName name) :
    ¬ HasSegmentIn keywords name := by
  rintro ⟨segment, member, keyword⟩
  exact (named.segments segment member).free keyword

theorem hasSegmentIn_append {first second : List String} {name : String} :
    HasSegmentIn (first ++ second) name ↔ HasSegmentIn first name ∨ HasSegmentIn second name := by
  simp only [HasSegmentIn, List.mem_append, and_or_left, exists_or]

namespace Table

/-- The lints that a table has for a category have neither a keyword nor a reserved word among their
segments. -/
def AvoidsKeptWords (table : Table) (category : String) : Prop :=
  ∀ lint ∈ table.lintsFor category, ¬ HasSegmentIn (keywords ++ reservedWords) lint

/-- Keywords never get through, so only the reserved words matter. -/
theorem Provided.avoidsKeptWords_iff {table : Table} (provided : table.Provided)
    {category : String} :
    table.AvoidsKeptWords category ↔
      ∀ lint ∈ table.lintsFor category, ¬ HasSegmentIn reservedWords lint := by
  apply forall₂_congr
  intro lint answered
  have named : IsLintName lint := provided.wellNamed.lintsFor answered
  rw [hasSegmentIn_append, or_iff_right named.not_hasSegmentIn_keywords]

theorem avoidsKeptWords_empty_iff {category : String} :
    empty.AvoidsKeptWords category ↔
      ¬ (IsLintName category ∧ HasSegmentIn reservedWords category) := by
  have own : empty.lintsFor category = if isName category then [category] else [] := rfl
  rw [Provided.empty.avoidsKeptWords_iff, own, ← isName_iff]
  cases isName category <;> simp

/-- The categories that the standard table lists. -/
def standardCategories : List String :=
  deprecationCategory :: removalCategory :: droppedCategories

/-- For all other categories the standard table answers like the empty one. -/
theorem lintsFor_standard_of_not_mem {category : String}
    (unlisted : category ∉ standardCategories) :
    standard.lintsFor category = empty.lintsFor category := by
  apply lintsFor_insertMany_of_not_mem
  simpa [standardCategories] using unlisted

/-- The standard table stops one reserved word, since it drops the category of that name. -/
theorem avoidsKeptWords_standard_iff {category : String} :
    standard.AvoidsKeptWords category ↔
      ¬ (IsLintName category ∧ HasSegmentIn reservedWords category) ∨ category = "try" := by
  by_cases listed : category ∈ standardCategories
  · rw [Provided.standard.avoidsKeptWords_iff, ← isName_iff]
    revert category
    decide
  · have other : category ≠ "try" := by
      rintro rfl
      exact listed (by decide)
    rw [or_iff_left other, ← avoidsKeptWords_empty_iff, AvoidsKeptWords, AvoidsKeptWords,
      lintsFor_standard_of_not_mem listed]

/-- No lint that a table has for a category has a keyword or a lone underscore among its segments,
whether the table is the standard one, the empty one or that of a lint file. But a word that the
language reserves is not stopped. The empty table lets it through if the category can name a lint,
and so does the standard table, except for `try`, which it drops. The table of a lint file lets it
through in every lint that the file lists, and otherwise as the standard table does. -/
theorem lints_avoid_kept_words_iff (category : String) :
    (∀ table, Provided table → ∀ lint ∈ table.lintsFor category,
      ¬ HasSegmentIn keywords lint) ∧
    (empty.AvoidsKeptWords category ↔
      ¬ (IsLintName category ∧ HasSegmentIn reservedWords category)) ∧
    (standard.AvoidsKeptWords category ↔
      ¬ (IsLintName category ∧ HasSegmentIn reservedWords category) ∨ category = "try") ∧
    (∀ (source : Source) (listed : List Entry) (table : Table),
      File.listed? source.text = some listed → ofSource source = .ok table →
      (∀ lints, (category, lints) ∈ listed → (table.AvoidsKeptWords category ↔
        ∀ lint ∈ lints, ¬ HasSegmentIn reservedWords lint.value)) ∧
      (category ∉ listed.map Prod.fst →
        (table.AvoidsKeptWords category ↔ standard.AvoidsKeptWords category))) := by
  refine ⟨?_, avoidsKeptWords_empty_iff, avoidsKeptWords_standard_iff, ?_⟩
  · intro table provided lint answered
    exact (provided.wellNamed.lintsFor answered).not_hasSegmentIn_keywords
  · intro source listed table accepted made
    have distinct := (File.listed?_isReadFrom accepted).1
    obtain ⟨fromFile, fromStandard⟩ :=
      lintsFor_merge distinct ((ofSource_of_listed accepted).symm.trans made)
    constructor
    · intro lints member
      rw [(Provided.ofSource made).avoidsKeptWords_iff, fromFile _ member, List.forall_mem_map]
    · intro absent
      rw [AvoidsKeptWords, AvoidsKeptWords, fromStandard category absent]

/-- A lint file that lists a lint of a tool with a reserved word for its name. -/
def yieldingFile : Source :=
  ⟨"lints.toml", "[lints]\nunused = [\"clippy::yield\"]\n"⟩

/-- What this file lists. -/
def yieldingEntry : Entry :=
  ("unused", [⟨"clippy::yield", "\"clippy::yield\"]\n".toList, "]\n".toList⟩])

theorem lints_avoid_kept_words_yieldingFile :
    (Provided standard ∧ "deprecated" ∈ standard.lintsFor "removal" ∧
      ¬ HasSegmentIn keywords "deprecated") ∧
    File.listed? yieldingFile.text = some [yieldingEntry] ∧
      ∃ table, ofSource yieldingFile = .ok table ∧ ¬ table.AvoidsKeptWords "unused" ∧
        table.AvoidsKeptWords "try" := by
  have answered : "deprecated" ∈ standard.lintsFor "removal" := by decide
  have noKeyword := (lints_avoid_kept_words_iff "removal").1 standard .standard _ answered
  have accepted : File.listed? yieldingFile.text = some [yieldingEntry] := rfl
  have sound : ∀ entry ∈ [yieldingEntry], entry.IsSound := by
    rw [List.forall_mem_singleton]
    refine ⟨by decide, ?_⟩
    simp only [← isName_iff]
    decide
  obtain ⟨table, merged⟩ : ∃ table, merge yieldingFile standard [yieldingEntry] = .ok table :=
    exists_merge_iff.mpr sound
  have made := (ofSource_of_listed accepted).trans merged
  obtain ⟨-, -, -, ofFile⟩ := lints_avoid_kept_words_iff "unused"
  obtain ⟨-, -, tryStandard, tryOfFile⟩ := lints_avoid_kept_words_iff "try"
  refine ⟨⟨.standard, answered, noKeyword⟩, accepted, table, made, ?_, ?_⟩
  · have listed := (ofFile yieldingFile [yieldingEntry] table accepted made).1
    exact (not_congr (listed yieldingEntry.2 List.mem_cons_self)).mpr (by decide)
  · have unlisted := (tryOfFile yieldingFile [yieldingEntry] table accepted made).2
    exact (unlisted (by decide)).mpr (tryStandard.mpr (Or.inr rfl))

/-- Reserved words get through the standard table, and all of them through the empty one. -/
theorem reservedWords_get_through :
    (Provided standard ∧ standard.lintsFor "abstract" = ["abstract"] ∧
      ¬ standard.AvoidsKeptWords "abstract") ∧
    Provided empty ∧ ∀ word ∈ reservedWords, empty.lintsFor word = [word] ∧
      ¬ empty.AvoidsKeptWords word := by
  refine ⟨⟨.standard, by decide, ?_⟩, .empty, ?_⟩
  · unfold AvoidsKeptWords
    decide
  · unfold AvoidsKeptWords
    decide

end Table

end QuietSource.Lint
