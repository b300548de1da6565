/-
# The grammar of lint names

A lint name is an identifier, or two identifiers with a pair of colons between them. This module
states the grammar as a predicate on texts and proves that the check accepts exactly the texts of
the grammar. The check takes the segments between the pairs of colons one by one and stops early;
what it has seen and what is left are the first and the other segments of the text as a list. All
characters of a lint name are ASCII letters, digits, underscores or colons, so it fits into any list
with commas.
-/

import QuietSource.Lint.Name
import QuietSource.Proofs.Separator

namespace QuietSource.Lint

open Text

/-- The characters that an identifier may start with: `A` to `Z`, `a` to `z` and the underscore. -/
def IsStartChar (c : Char) : Prop :=
  ('A' ≤ c ∧ c ≤ 'Z') ∨ ('a' ≤ c ∧ c ≤ 'z') ∨ c = '_'

/-- The characters that an identifier may go on with: those it may start with and the digits. -/
def IsInnerChar (c : Char) : Prop :=
  IsStartChar c ∨ ('0' ≤ c ∧ c ≤ '9')

/-- A text is an identifier. -/
structure IsIdentifier (text : String) : Prop where
  /-- It starts with a character that may start it and goes on with such as may follow. -/
  spelled : ∃ first rest, text.toList = first :: rest ∧ IsStartChar first ∧
    ∀ c ∈ rest, IsInnerChar c
  /-- The language does not keep it for itself. -/
  free : text ∉ keywords

/-- A text is a lint name. -/
inductive IsLintName : String → Prop
  /-- A lint of the compiler has an identifier. -/
  | plain {lint : String} (named : IsIdentifier lint) : IsLintName lint
  /-- A lint of a tool has the tool's identifier in front. -/
  | ofTool {tool lint : String} (toolNamed : IsIdentifier tool) (named : IsIdentifier lint) :
      IsLintName (tool ++ "::" ++ lint)

theorem isIdentStart_iff (c : Char) : isIdentStart c = true ↔ IsStartChar c := by
  have upper : c.isUpper = true ↔ 'A' ≤ c ∧ c ≤ 'Z' := decide_eq_true_iff
  have lower : c.isLower = true ↔ 'a' ≤ c ∧ c ≤ 'z' := by
    show (decide ('a' ≤ c) && decide (c ≤ 'z')) = true ↔ _
    rw [Bool.and_eq_true, decide_eq_true_iff, decide_eq_true_iff]
  show ((c.isUpper || c.isLower) || c == '_') = true ↔ _
  rw [Bool.or_eq_true, Bool.or_eq_true, upper, lower, beq_iff_eq, or_assoc]
  rfl

theorem isIdentChar_iff (c : Char) : isIdentChar c = true ↔ IsInnerChar c := by
  have digit : c.isDigit = true ↔ '0' ≤ c ∧ c ≤ '9' := by
    show (decide ('0' ≤ c) && decide (c ≤ '9')) = true ↔ _
    rw [Bool.and_eq_true, decide_eq_true_iff, decide_eq_true_iff]
  have split : isIdentChar c = (isIdentStart c || c.isDigit) := by
    show ((c.isAlpha || c.isDigit) || c == '_') = ((c.isAlpha || c == '_') || c.isDigit)
    exact Bool.or_right_comm _ _ _
  rw [split, Bool.or_eq_true, isIdentStart_iff, digit]
  rfl

/-- The check of a segment accepts exactly the identifiers. -/
theorem isIdent_iff (text : String) : isIdent text.toList = true ↔ IsIdentifier text := by
  constructor
  · intro accepted
    rcases spelled : text.toList with _ | ⟨first, rest⟩
    · rw [spelled] at accepted
      exact absurd accepted Bool.false_ne_true
    · rw [spelled] at accepted
      simp only [isIdent, Bool.and_eq_true, List.all_eq_true, isIdentStart_iff, isIdentChar_iff]
        at accepted
      obtain ⟨⟨starts, goesOn⟩, free⟩ := accepted
      refine ⟨⟨first, rest, spelled, starts, goesOn⟩, ?_⟩
      rw [← spelled, String.ofList_toList] at free
      simpa using free
  · rintro ⟨⟨first, rest, spelled, starts, goesOn⟩, free⟩
    have whole : String.ofList (first :: rest) = text := by rw [← spelled, String.ofList_toList]
    rw [spelled]
    simp only [isIdent, Bool.and_eq_true, List.all_eq_true, isIdentStart_iff, isIdentChar_iff,
      whole]
    exact ⟨⟨starts, goesOn⟩, by simpa using free⟩

namespace Segments

/-- The segments that are left, in order. -/
def toList (segments : Segments) : List (List Char) :=
  match segments.chars? with
  | none => []
  | some chars => pairParts ':' ':' chars

theorem toList_ofName (text : String) :
    (ofName text).toList = pairParts ':' ':' text.toList := rfl

theorem pairParts_eq_cutSegment (chars : List Char) :
    pairParts ':' ':' chars = (cutSegment chars).1 :: toList ⟨(cutSegment chars).2⟩ := by
  induction chars using cutSegment.induct with
  | case1 => rfl
  | case2 rest => exact pairParts_separator rest
  | case3 c rest other ih =>
    rw [pairParts_cons other, ih, cutSegment]
    · rfl
    · exact other

theorem next?_eq_none_iff (segments : Segments) :
    segments.next? = none ↔ segments.toList = [] := by
  rcases segments with ⟨_ | chars⟩
  · exact iff_of_true rfl rfl
  · exact iff_of_false nofun (pairParts_ne_nil ':' ':' chars)

theorem toList_of_next? {segments others : Segments} {segment : List Char}
    (taken : segments.next? = some (segment, others)) :
    segments.toList = segment :: others.toList := by
  rcases segments with ⟨_ | chars⟩
  · exact nomatch taken
  · obtain ⟨rfl, rfl⟩ := Prod.mk.inj (Option.some.inj taken)
    exact pairParts_eq_cutSegment chars

theorem takeAll_of_toList_eq_nil {segments : Segments} (none : segments.toList = [])
    (test : List Char → Bool) (count : Nat) : segments.takeAll test count = (true, segments) := by
  cases count with
  | zero => rfl
  | succ count => rw [takeAll, (next?_eq_none_iff segments).mpr none]

theorem takeAll_of_next? {segments others : Segments} {segment : List Char}
    (taken : segments.next? = some (segment, others)) (test : List Char → Bool) (count : Nat) :
    segments.takeAll test (count + 1) =
      if test segment = true then others.takeAll test count else (false, others) := by
  rw [takeAll, taken]

/-- The first segments are tested, although none is taken behind one that fails. -/
theorem takeAll_fst (test : List Char → Bool) (count : Nat) (segments : Segments) :
    (segments.takeAll test count).1 = (segments.toList.take count).all test := by
  induction count generalizing segments with
  | zero => rfl
  | succ count ih =>
    cases taken : segments.next? with
    | none =>
      have nothing := (next?_eq_none_iff segments).mp taken
      rw [takeAll_of_toList_eq_nil nothing, nothing, List.take_nil, List.all_nil]
    | some pair =>
      obtain ⟨segment, others⟩ := pair
      rw [takeAll_of_next? taken, toList_of_next? taken, List.take_succ_cons, List.all_cons,
        ← ih others]
      cases test segment <;> rfl

/-- When the first segments have passed, those behind them are left. -/
theorem toList_takeAll_snd {test : List Char → Bool} {count : Nat} {segments : Segments}
    (passed : (segments.takeAll test count).1 = true) :
    (segments.takeAll test count).2.toList = segments.toList.drop count := by
  induction count generalizing segments with
  | zero => rfl
  | succ count ih =>
    cases taken : segments.next? with
    | none =>
      have nothing := (next?_eq_none_iff segments).mp taken
      rw [takeAll_of_toList_eq_nil nothing, nothing, List.drop_nil]
    | some pair =>
      obtain ⟨segment, others⟩ := pair
      rw [takeAll_of_next? taken] at passed ⊢
      split at passed
      · next tested =>
        rw [if_pos tested, ih passed, toList_of_next? taken, List.drop_succ_cons]
      · exact absurd passed Bool.false_ne_true

end Segments

/-- A text passes the check if its first two segments are identifiers and it has no third one. -/
theorem isName_eq_true_iff (text : String) :
    isName text = true ↔
      (∀ segment ∈ (pairParts ':' ':' text.toList).take 2, isIdent segment = true) ∧
        (pairParts ':' ':' text.toList).drop 2 = [] := by
  have passes := Segments.takeAll_fst isIdent 2 (.ofName text)
  have check : isName text =
      (((Segments.ofName text).takeAll isIdent 2).1 &&
        ((Segments.ofName text).takeAll isIdent 2).2.next?.isNone) := rfl
  rw [Segments.toList_ofName] at passes
  rw [check, Bool.and_eq_true, Option.isNone_iff_eq_none, Segments.next?_eq_none_iff,
    ← List.all_eq_true, ← passes]
  apply and_congr_right
  intro passed
  rw [Segments.toList_takeAll_snd passed, Segments.toList_ofName]

theorem IsIdentifier.colon_not_mem {text : String} (h : IsIdentifier text) :
    ':' ∉ text.toList := by
  obtain ⟨first, rest, spelled, starts, goesOn⟩ := h.spelled
  rw [spelled]
  intro member
  rcases List.mem_cons.mp member with rfl | later
  · exact absurd starts (by unfold IsStartChar; decide)
  · exact absurd (goesOn ':' later) (by unfold IsInnerChar IsStartChar; decide)

/-- The check accepts exactly the lint names. -/
theorem isName_iff (text : String) : isName text = true ↔ IsLintName text := by
  rw [isName_eq_true_iff]
  constructor
  · rintro ⟨identifiers, noThird⟩
    have whole := intercalate_pairParts ':' ':' text.toList
    rcases found : pairParts ':' ':' text.toList with _ | ⟨first, _ | ⟨second, more⟩⟩
    · exact absurd found (pairParts_ne_nil ':' ':' text.toList)
    · rw [found] at identifiers whole
      rw [List.intercalate_singleton] at whole
      have accepted := identifiers first List.mem_cons_self
      rw [whole] at accepted
      exact .plain ((isIdent_iff text).mp accepted)
    · rw [found] at identifiers noThird whole
      obtain rfl : more = [] := noThird
      have parts : text = String.ofList first ++ "::" ++ String.ofList second := by
        rw [← String.toList_inj, ← whole]
        simp
      have toolAccepted := identifiers first List.mem_cons_self
      have lintAccepted := identifiers second (List.mem_cons_of_mem first List.mem_cons_self)
      rw [parts]
      exact .ofTool ((isIdent_iff _).mp (by simpa using toolAccepted))
        ((isIdent_iff _).mp (by simpa using lintAccepted))
  · intro named
    cases named with
    | plain named =>
      rw [pairParts_of_not_mem named.colon_not_mem]
      simpa using (isIdent_iff text).mpr named
    | @ofTool tool lint toolNamed named =>
      have spelled : (tool ++ "::" ++ lint).toList = tool.toList ++ ':' :: ':' :: lint.toList := by
        simp
      rw [spelled, pairParts_append toolNamed.colon_not_mem,
        pairParts_of_not_mem named.colon_not_mem]
      simpa using ⟨(isIdent_iff tool).mpr toolNamed, (isIdent_iff lint).mpr named⟩

/-- The segments of a lint name are identifiers. -/
theorem IsLintName.segments {name : String} (named : IsLintName name) :
    ∀ segment ∈ splitAtPair ':' ':' name, IsIdentifier segment := by
  cases named with
  | plain named =>
    rw [splitAtPair, pairParts_of_not_mem named.colon_not_mem]
    simpa using named
  | @ofTool tool lint toolNamed named =>
    have spelled : (tool ++ "::" ++ lint).toList = tool.toList ++ ':' :: ':' :: lint.toList := by
      simp
    rw [splitAtPair, spelled, pairParts_append toolNamed.colon_not_mem,
      pairParts_of_not_mem named.colon_not_mem]
    simpa using ⟨toolNamed, named⟩

/-- A lint name is spelled with the characters of identifiers and colons only. -/
theorem IsLintName.spelled {text : String} (named : IsLintName text) :
    ∀ c ∈ text.toList, IsInnerChar c ∨ c = ':' := by
  have inner {text : String} (h : IsIdentifier text) : ∀ c ∈ text.toList, IsInnerChar c := by
    obtain ⟨first, rest, spelled, starts, goesOn⟩ := h.spelled
    rw [spelled]
    intro c member
    rcases List.mem_cons.mp member with rfl | later
    · exact Or.inl starts
    · exact goesOn c later
  intro c member
  cases named with
  | plain named => exact Or.inl (inner named c member)
  | ofTool toolNamed named =>
    simp only [String.toList_append, List.mem_append] at member
    rcases member with (inTool | inColons) | inLint
    · exact Or.inl (inner toolNamed c inTool)
    · exact Or.inr (by simpa using inColons)
    · exact Or.inl (inner named c inLint)

end QuietSource.Lint
