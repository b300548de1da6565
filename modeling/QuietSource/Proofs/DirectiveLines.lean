/-
# Directives and line ends

A directive becomes an annotation of Java, whose string literals must be closed on the line on which
they begin. A literal escapes the quote and the backslash and nothing else, so a category with a
line feed or a carriage return takes it along into the annotation. This module says that no other
category spoils its literal: if no category has a line end, the annotation is on one line and all
its literals are such as Java accepts.
-/

import QuietSource.Proofs.DirectivePlacement
import QuietSource.Proofs.FirstMention
import QuietSource.Proofs.Separator

namespace QuietSource

namespace Text

/-- A text has no line end in it, neither a line feed nor a carriage return. -/
def IsOneLine (text : String) : Prop :=
  ∀ c ∈ text.toList, c ≠ '\n' ∧ c ≠ '\r'

-- Named, since instance search may prefer to go through all characters there are.
instance (text : String) : Decidable (IsOneLine text) :=
  List.decidableBAll _ text.toList

@[simp] theorem isOneLine_append {first second : String} :
    IsOneLine (first ++ second) ↔ IsOneLine first ∧ IsOneLine second := by
  simp only [IsOneLine, String.toList_append, List.forall_mem_append]

theorem isOneLine_intercalate {separator : String} (between : IsOneLine separator)
    {parts : List String} :
    IsOneLine (String.intercalate separator parts) ↔ ∀ part ∈ parts, IsOneLine part := by
  induction parts with
  | nil => simp [IsOneLine]
  | cons part rest ih =>
    cases rest with
    | nil => simp
    | cons next rest =>
      rw [String.intercalate_cons_cons, isOneLine_append, isOneLine_append, ih,
        and_iff_left between, ← List.forall_mem_cons]

/-- The characters that may follow a backslash in a string literal of Java. A digit begins an octal
escape, whose further digits can as well stand for themselves. -/
def escapeMarks : List Char :=
  ['b', 's', 't', 'n', 'f', 'r', '"', '\x27', '\\', '0', '1', '2', '3', '4', '5', '6', '7']

/-- The characters behind the opening quote of a string literal of Java, its closing quote
included. -/
inductive ClosesLiteral : List Char → Prop
  /-- The quote closes the literal. -/
  | quote : ClosesLiteral ['"']
  /-- A backslash begins an escape sequence. -/
  | escape {mark : Char} {rest : List Char} (known : mark ∈ escapeMarks)
      (closed : ClosesLiteral rest) : ClosesLiteral ('\\' :: mark :: rest)
  /-- Any other character that is not a line end stands for itself. -/
  | plain {c : Char} {rest : List Char} (unescaped : c ≠ '"' ∧ c ≠ '\\')
      (inLine : c ≠ '\n' ∧ c ≠ '\r') (closed : ClosesLiteral rest) : ClosesLiteral (c :: rest)

/-- A text is a string literal of Java. -/
def IsStringLiteral (text : String) : Prop :=
  ∃ inside, text.toList = '"' :: inside ∧ ClosesLiteral inside

theorem ClosesLiteral.isOneLine {inside : List Char} (closed : ClosesLiteral inside) :
    ∀ c ∈ inside, c ≠ '\n' ∧ c ≠ '\r' := by
  have marks : ∀ mark ∈ escapeMarks, mark ≠ '\n' ∧ mark ≠ '\r' := by simp [escapeMarks]
  induction closed with
  | quote => simp
  | escape known closed ih =>
    simp only [List.forall_mem_cons]
    exact ⟨by decide, marks _ known, ih⟩
  | plain unescaped inLine closed ih => exact List.forall_mem_cons.mpr ⟨inLine, ih⟩

theorem closesLiteral_literalChars {chars : List Char} (inLine : ∀ c ∈ chars, c ≠ '\n' ∧ c ≠ '\r') :
    ClosesLiteral (literalChars chars ++ ['"']) := by
  induction chars with
  | nil => exact .quote
  | cons c rest ih =>
    rw [List.forall_mem_cons] at inLine
    rw [literalChars]
    split
    · next special =>
      have known : c ∈ escapeMarks := by rcases special with rfl | rfl <;> decide
      exact .escape known (ih inLine.2)
    · next ordinary => exact .plain (not_or.mp ordinary) inLine.1 (ih inLine.2)

theorem mem_literalChars_of_mem {c : Char} {chars : List Char} (member : c ∈ chars) :
    c ∈ literalChars chars := by
  induction chars with
  | nil => exact member
  | cons d rest ih =>
    rw [literalChars]
    rcases List.mem_cons.mp member with rfl | later
    · split <;> simp
    · split <;> simp [ih later]

/-- A literal is on one line only if its text is, since it leaves line ends as they are. -/
theorem IsOneLine.of_literal {text : String} (h : IsOneLine (literal text)) : IsOneLine text := by
  intro c member
  apply h c
  simp [literal, mem_literalChars_of_mem member]

theorem IsStringLiteral.isOneLine {text : String} (h : IsStringLiteral text) : IsOneLine text := by
  obtain ⟨inside, whole, closed⟩ := h
  rw [IsOneLine, whole, List.forall_mem_cons]
  exact ⟨by decide, closed.isOneLine⟩

/-- Literals are such as Java accepts exactly for the texts without line ends. -/
theorem isStringLiteral_literal_iff {text : String} :
    IsStringLiteral (literal text) ↔ IsOneLine text := by
  constructor
  · intro accepted
    exact .of_literal accepted.isOneLine
  · intro inLine
    refine ⟨_, ?_, closesLiteral_literalChars inLine⟩
    simp [literal]

theorem isOneLine_literal_iff {text : String} : IsOneLine (literal text) ↔ IsOneLine text :=
  ⟨.of_literal, fun h => (isStringLiteral_literal_iff.mpr h).isOneLine⟩

end Text

open Text Warning Package

theorem Warning.Directive.isOneLine_text_iff {directive : Directive} :
    IsOneLine directive.text ↔ ∀ category ∈ directive.categories, IsOneLine category := by
  cases directive with
  | single category => rw [text, isOneLine_literal_iff, categories, List.forall_mem_singleton]
  | list listed =>
    have joined : IsOneLine (String.intercalate ", " (listed.map literal)) ↔
        ∀ category ∈ listed, IsOneLine category := by
      rw [isOneLine_intercalate (by decide), List.forall_mem_map]
      simp only [isOneLine_literal_iff]
    rw [text, isOneLine_append, isOneLine_append, joined, categories, and_iff_left (by decide),
      and_iff_right (by decide)]

namespace Package

theorem AnnotationUse.text_ofDirective (directive : Directive) :
    (ofDirective directive).text = "@SuppressWarnings(" ++ directive.text ++ ")" := by
  rw [← String.toList_inj]
  simp [text, ofDirective]

theorem AnnotationUse.isOneLine_ofDirective_iff {directive : Directive} :
    IsOneLine (ofDirective directive).text ↔
      ∀ category ∈ directive.categories, IsOneLine category := by
  rw [text_ofDirective, isOneLine_append, isOneLine_append, directive.isOneLine_text_iff,
    and_iff_left (by decide), and_iff_right (by decide)]

/-- Whatever has been observed, if anything was noted, a method and a class are given one annotation
for it, which names what was noted in the order of first mention. It is on one line exactly if no
observation contributed a category with a line end, and a category stands in it as a string literal
of Java exactly if the category has none. -/
theorem suppression_on_one_line_iff {observations : List Observation}
    (noted : (Observation.run ∅ observations).isEmpty = false) :
    ∃ directive : Directive,
      (∀ method : Method, (Observation.run ∅ observations).silence method =
        { method with annotations := method.annotations ++ [.ofDirective directive] }) ∧
      (∀ decl : ClassDecl, (Observation.run ∅ observations).silence decl =
        { decl with annotations := decl.annotations ++ [.ofDirective directive] }) ∧
      directive.categories = (observations.flatMap Observation.contribution).eraseDups ∧
      (AnnotationUse.ofDirective directive).text = "@SuppressWarnings(" ++ directive.text ++ ")" ∧
      (IsOneLine (AnnotationUse.ofDirective directive).text ↔
        ∀ observation ∈ observations, ∀ category ∈ observation.contribution,
          IsOneLine category) ∧
      (∀ category ∈ directive.categories,
        IsStringLiteral (literal category) ↔ IsOneLine category) := by
  have listed : (Observation.run ∅ observations).categories.toList =
      (observations.flatMap Observation.contribution).eraseDups := by
    rw [Observation.categories_run]
    exact OrderedSet.toList_ofList _
  obtain ⟨directive, made⟩ :
      ∃ directive, (Observation.run ∅ observations).directive? = some directive := by
    rw [← Option.isSome_iff_exists, Option.isSome_iff_ne_none]
    intro none
    rw [Ledger.directive?, Directive.ofCategories?_eq_none_iff] at none
    rw [Ledger.isEmpty, OrderedSet.isEmpty, none] at noted
    exact absurd noted (by decide)
  have named : directive.categories =
      (observations.flatMap Observation.contribution).eraseDups :=
    (Directive.categories_of_ofCategories? made).trans listed
  have marks : suppressMarks (Observation.run ∅ observations) = [.ofDirective directive] := by
    rw [suppressMarks, made]
    rfl
  refine ⟨directive, ?_, ?_, named, AnnotationUse.text_ofDirective directive, ?_, ?_⟩
  · intro method
    rw [Method.silence_eq, marks]
  · intro decl
    rw [ClassDecl.silence_eq, marks]
  · rw [AnnotationUse.isOneLine_ofDirective_iff, named]
    simp only [List.mem_eraseDups, List.forall_mem_flatMap]
  · intro category _
    exact isStringLiteral_literal_iff

/-- A run that notes categories with a quote, a backslash and a tab. -/
def quotedRun : List Observation :=
  [.named ["odd\"name\\", "tab\there"], .element ⟨true, true⟩]

theorem suppression_on_one_line_quotedRun :
    (Observation.run ∅ quotedRun).isEmpty = false ∧
      ((Observation.run ∅ quotedRun).silence ({ name := "apply" } : Method)).annotations.map
          AnnotationUse.text =
        ["@SuppressWarnings(\x7b \"odd\\\"name\\\\\", \"tab\there\", \"removal\" \x7d)"] ∧
      IsStringLiteral "\"odd\\\"name\\\\\"" := by
  have noted : (Observation.run ∅ quotedRun).isEmpty = false := by decide
  obtain ⟨directive, -, -, named, -, -, accepted⟩ := suppression_on_one_line_iff noted
  have listed : directive.categories = ["odd\"name\\", "tab\there", "removal"] :=
    named.trans (by decide)
  refine ⟨noted, by decide, ?_⟩
  exact (accepted "odd\"name\\" (by simp [listed])).mpr (by decide)

/-- A run that notes a category with a line feed. -/
def brokenRun : List Observation :=
  [.named ["first\nsecond"]]

/-- The line feed of a category breaks the annotation and its literal. -/
theorem brokenRun_breaks_annotation :
    (Observation.run ∅ brokenRun).isEmpty = false ∧
      Method.text ((Observation.run ∅ brokenRun).silence { name := "apply" }) =
        "@SuppressWarnings(\"first\nsecond\")\npublic void apply() \x7b\n\x7d\n" ∧
      ¬ IsOneLine "@SuppressWarnings(\"first\nsecond\")" ∧
      ¬ IsStringLiteral (literal "first\nsecond") := by
  refine ⟨by decide, by decide, by decide, ?_⟩
  rw [isStringLiteral_literal_iff]
  decide

end Package

end QuietSource
