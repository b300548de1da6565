/-
# What the check of lint names accepts

The check takes the segments of a text one by one and stops early, at the second one or at the first
that is no identifier. Even so it accepts a text exactly if the grammar of lint names does. This
module adds what the grammar excludes, wherever the colons stand: empty segments, third segments, a
colon without a second one beside it, three colons in a row, characters beyond ASCII, and the words
that the language keeps for itself.
-/

import QuietSource.Proofs.LintName

namespace QuietSource.Lint

open Text

/-- No digit may start an identifier. -/
theorem IsStartChar.not_digit {c : Char} (starts : IsStartChar c) : ¬ ('0' ≤ c ∧ c ≤ '9') := by
  rintro ⟨-, atMost⟩
  rcases starts with ⟨upper, -⟩ | ⟨lower, -⟩ | rfl
  · exact absurd (Char.le_trans upper atMost) (by decide)
  · exact absurd (Char.le_trans lower atMost) (by decide)
  · exact absurd atMost (by decide)

theorem IsInnerChar.toNat_lt {c : Char} (inner : IsInnerChar c) : c.toNat < 128 := by
  have atMost : c ≤ 'z' := by
    rcases inner with (⟨-, upper⟩ | ⟨-, lower⟩ | rfl) | ⟨-, digit⟩
    · exact Char.le_trans upper (by decide)
    · exact lower
    · decide
    · exact Char.le_trans digit (by decide)
  exact Nat.lt_of_le_of_lt (UInt32.le_iff_toNat_le.mp (Char.le_def.mp atMost)) (by decide)

/-- The identifiers in the words of their characters. -/
theorem isIdentifier_iff (text : String) :
    IsIdentifier text ↔
      text ≠ "" ∧ (∀ c ∈ text.toList, IsInnerChar c) ∧
        (∀ c, text.toList.head? = some c → ¬ ('0' ≤ c ∧ c ≤ '9')) ∧ text ∉ keywords := by
  constructor
  · rintro ⟨⟨first, rest, spelled, starts, goesOn⟩, free⟩
    refine ⟨?_, ?_, ?_, free⟩
    · rintro rfl
      exact nomatch spelled
    · rw [spelled]
      exact List.forall_mem_cons.mpr ⟨Or.inl starts, goesOn⟩
    · rw [spelled]
      rintro _ ⟨⟩ digit
      exact IsStartChar.not_digit starts digit
  · rintro ⟨nonempty, inner, noDigit, free⟩
    rcases spelled : text.toList with _ | ⟨first, rest⟩
    · exact absurd (String.toList_eq_nil_iff.mp spelled) nonempty
    · rw [spelled] at inner noDigit
      rw [List.forall_mem_cons] at inner
      exact ⟨⟨first, rest, spelled, inner.1.resolve_right (noDigit first rfl), inner.2⟩, free⟩

/-- Ways in which a text fails to be spelled like a lint name. -/
inductive IsMisspelled : String → Prop
  /-- Nothing stands before, behind or between the colons. -/
  | emptySegment {text : String} (empty : "" ∈ splitAtPair ':' ':' text) : IsMisspelled text
  /-- Something stands behind a second pair of colons. -/
  | thirdSegment (first second rest : String) :
      IsMisspelled (first ++ "::" ++ second ++ "::" ++ rest)
  /-- A colon has no other one beside it. -/
  | singleColon (before after : String) (notBefore : before.toList.getLast? ≠ some ':')
      (notAfter : after.toList.head? ≠ some ':') : IsMisspelled (before ++ ":" ++ after)
  /-- Three colons stand side by side. -/
  | tripledColon (before after : String) : IsMisspelled (before ++ ":::" ++ after)
  /-- A character is not one of ASCII. -/
  | notAscii {text : String} (c : Char) (member : c ∈ text.toList) (beyond : 128 ≤ c.toNat) :
      IsMisspelled text

theorem IsLintName.count_colon_le {name : String} (named : IsLintName name) :
    name.toList.count ':' ≤ 2 := by
  cases named with
  | plain named =>
    rw [List.count_eq_zero_of_not_mem named.colon_not_mem]
    exact Nat.zero_le 2
  | ofTool toolNamed named =>
    simp [List.count_eq_zero_of_not_mem toolNamed.colon_not_mem,
      List.count_eq_zero_of_not_mem named.colon_not_mem]

/-- A colon of a lint name has another one beside it. -/
theorem IsLintName.colon_beside {before after : String}
    (named : IsLintName (before ++ ":" ++ after)) :
    before.toList.getLast? = some ':' ∨ after.toList.head? = some ':' := by
  generalize whole : before ++ ":" ++ after = name at named
  cases named with
  | plain named =>
    exact absurd (by simp [← whole]) named.colon_not_mem
  | @ofTool tool lint toolNamed named =>
    have chars : before.toList ++ ':' :: after.toList =
        tool.toList ++ ':' :: ':' :: lint.toList := by
      simpa using congrArg String.toList whole
    -- The colon before `after` can only be one of the two behind the tool.
    rcases List.append_eq_append_iff.mp chars with ⟨more, inTool, colons⟩ | ⟨more, inBefore, colons⟩
    · cases more with
      | nil =>
        obtain ⟨-, begins⟩ := List.cons.inj colons
        exact Or.inr (by rw [begins]; rfl)
      | cons c more =>
        obtain ⟨rfl, -⟩ := List.cons.inj colons
        exact absurd (by simp [inTool]) toolNamed.colon_not_mem
    · rcases more with _ | ⟨c, _ | ⟨d, more⟩⟩
      · obtain ⟨-, begins⟩ := List.cons.inj colons
        exact Or.inr (by rw [← begins]; rfl)
      · obtain ⟨rfl, -⟩ := List.cons.inj colons
        exact Or.inl (by rw [inBefore, List.getLast?_concat])
      · obtain ⟨-, inLint⟩ : ':' = d ∧ lint.toList = more ++ ':' :: after.toList := by
          simpa using (List.cons.inj colons).2
        exact absurd (by simp [inLint]) named.colon_not_mem

theorem IsMisspelled.not_isLintName {text : String} (misspelled : IsMisspelled text) :
    ¬ IsLintName text := by
  intro named
  have pair : "::".toList.count ':' = 2 := by decide
  have triple : ":::".toList.count ':' = 3 := by decide
  cases misspelled with
  | emptySegment empty => exact ((isIdentifier_iff "").mp (named.segments "" empty)).1 rfl
  | thirdSegment first second rest =>
    have few := named.count_colon_le
    simp only [String.toList_append, List.count_append] at few
    omega
  | singleColon before after notBefore notAfter => exact named.colon_beside.elim notBefore notAfter
  | tripledColon before after =>
    have few := named.count_colon_le
    simp only [String.toList_append, List.count_append] at few
    omega
  | notAscii c member beyond =>
    rcases named.spelled c member with inner | rfl
    · exact absurd inner.toNat_lt (Nat.not_lt.mpr beyond)
    · exact absurd beyond (by decide)

/-- The check accepts a text exactly if it is a lint name: an identifier, or two identifiers with
`::` between them. An identifier is a text of ASCII letters, digits and underscores that has at
least one character, does not begin with a digit and is no keyword. So a text is refused if a
segment is empty or there is a third one, if a colon stands alone or three stand in a row, and if a
character is not ASCII. -/
theorem isName_follows_grammar (text : String) :
    (isName text = true ↔ IsLintName text) ∧
    (∀ ident, IsIdentifier ident ↔
      ident ≠ "" ∧ (∀ c ∈ ident.toList, IsInnerChar c) ∧
        (∀ c, ident.toList.head? = some c → ¬ ('0' ≤ c ∧ c ≤ '9')) ∧ ident ∉ keywords) ∧
    (IsMisspelled text → isName text = false) := by
  refine ⟨isName_iff text, isIdentifier_iff, ?_⟩
  intro misspelled
  rw [← Bool.not_eq_true, isName_iff]
  exact misspelled.not_isLintName

/-- One text for each way of being misspelled. -/
theorem isName_refuses_oddTexts :
    (IsMisspelled "clippy::" ∧ isName "clippy::" = false) ∧
    (IsMisspelled "a::b::c" ∧ isName "a::b::c" = false) ∧
    (IsMisspelled "a:b" ∧ isName "a:b" = false) ∧
    (IsMisspelled "a:::b" ∧ isName "a:::b" = false) ∧
    (IsMisspelled "naïve" ∧ isName "naïve" = false) := by
  have empty : IsMisspelled "clippy::" := .emptySegment (by decide)
  have third : IsMisspelled "a::b::c" := .thirdSegment "a" "b" "c"
  have single : IsMisspelled "a:b" := .singleColon "a" "b" (by decide) (by decide)
  have tripled : IsMisspelled "a:::b" := .tripledColon "a" "b"
  have foreign : IsMisspelled "naïve" := .notAscii 'ï' (by decide) (by decide)
  exact ⟨⟨empty, (isName_follows_grammar _).2.2 empty⟩,
    ⟨third, (isName_follows_grammar _).2.2 third⟩,
    ⟨single, (isName_follows_grammar _).2.2 single⟩,
    ⟨tripled, (isName_follows_grammar _).2.2 tripled⟩,
    ⟨foreign, (isName_follows_grammar _).2.2 foreign⟩⟩

/-- Two texts with colons between them are a lint name only if both are identifiers. There may be
colons in neither of them, since a lint name has no more than two. -/
theorem isLintName_join_iff (first second : String) :
    IsLintName (first ++ "::" ++ second) ↔ IsIdentifier first ∧ IsIdentifier second := by
  refine ⟨fun named => ?_, fun both => .ofTool both.1 both.2⟩
  have few := named.count_colon_le
  have pair : "::".toList.count ':' = 2 := by decide
  simp only [String.toList_append, List.count_append] at few
  have notInFirst : ':' ∉ first.toList := List.count_eq_zero.mp (by omega)
  have notInSecond : ':' ∉ second.toList := List.count_eq_zero.mp (by omega)
  have spelled : (first ++ "::" ++ second).toList =
      first.toList ++ ':' :: ':' :: second.toList := by
    simp
  have segments : splitAtPair ':' ':' (first ++ "::" ++ second) = [first, second] := by
    rw [splitAtPair, spelled, pairParts_append notInFirst, pairParts_of_not_mem notInSecond]
    simp
  have identifiers := named.segments
  rw [segments, List.forall_mem_cons, List.forall_mem_singleton] at identifiers
  exact identifiers

/-- The words that the language keeps for itself are refused alone and as either segment of a name,
whatever the other segment is. -/
theorem isName_refuses_kept_words {word : String}
    (kept : word ∈ ["_", "as", "async", "await", "break", "const", "continue", "crate", "dyn",
      "else", "enum", "extern", "false", "fn", "for", "if", "impl", "in", "let", "loop", "match",
      "mod", "move", "mut", "pub", "ref", "return", "self", "Self", "static", "struct", "super",
      "trait", "true", "type", "unsafe", "use", "where", "while"])
    (other : String) :
    isName word = false ∧ isName (word ++ "::" ++ other) = false ∧
      isName (other ++ "::" ++ word) = false := by
  have keyword : word ∈ keywords := kept
  have alone : ∀ word ∈ keywords, isName word = false := by decide
  refine ⟨alone word keyword, ?_, ?_⟩
  · rw [← Bool.not_eq_true, isName_iff, isLintName_join_iff]
    exact fun both => both.1.free keyword
  · rw [← Bool.not_eq_true, isName_iff, isLintName_join_iff]
    exact fun both => both.2.free keyword

/-- A lone underscore is a keyword, but it may begin an identifier and may be a part of a name. -/
example : isName "_" = false ∧ isName "__" = true ∧ isName "_a::b_" = true := by decide

end QuietSource.Lint
