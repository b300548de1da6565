/-
# Documentation stays inside comments

Documentation of Rust items is free text. It is written with a comment mark before each of its
lines, and blanks at the end of a line are left out, together with the blank behind the mark if
nothing else is on the line. This module says which lines that gives and shows that they are
comments from their mark to their end, whatever the text is. What an item has outside its comments
is therefore what it has there without documentation.
-/

import Mathlib.Data.List.TakeWhile
import QuietSource.Proofs.Nesting

namespace QuietSource

namespace Text

/-- A text that is not blank has a last character that is not. -/
theorem exists_last_of_not_blank {chars : List Char} (h : ¬ chars.all isBlankChar = true) :
    ∃ front last blanks, chars = front ++ last :: blanks ∧ isBlankChar last = false ∧
      ∀ c ∈ blanks, isBlankChar c = true := by
  have kept : chars.reverse.dropWhile isBlankChar ≠ [] := by
    rw [← trimEndChars_eq_nil_iff, trimEndChars, List.reverse_eq_nil_iff] at h
    exact h
  obtain ⟨last, front, dropped⟩ := List.exists_cons_of_ne_nil kept
  have notBlank := List.head?_dropWhile_not isBlankChar chars.reverse
  have whole := List.takeWhile_append_dropWhile (p := isBlankChar) (l := chars.reverse)
  rw [dropped] at notBlank whole
  refine ⟨front.reverse, last, (chars.reverse.takeWhile isBlankChar).reverse, ?_, notBlank, ?_⟩
  · exact (List.reverse_eq_iff.mp whole.symm).trans (by simp)
  · intro c member
    exact List.mem_takeWhile_imp (List.mem_reverse.mp member)

/-- Trimming stops at the last character that is not blank. -/
theorem trimEndChars_append_cons (front : List Char) {last : Char} (h : isBlankChar last = false)
    {blanks : List Char} (blank : ∀ c ∈ blanks, isBlankChar c = true) :
    trimEndChars (front ++ last :: blanks) = front ++ [last] := by
  have passed : ∀ c ∈ blanks.reverse, isBlankChar c = true :=
    fun c member => blank c (List.mem_reverse.mp member)
  rw [trimEndChars, List.reverse_append, List.reverse_cons, List.append_assoc,
    List.dropWhile_append_of_pos passed]
  simp [h]

/-- A line that is a comment from its first character that is not blank. -/
def isCommentLine (line : String) : Bool :=
  "///".toList.isPrefixOf (line.toList.dropWhile isBlankChar)

/-- The lines of a text that are not comments, with the piece behind the last line feed. -/
def outsideComments (text : String) : List String :=
  (split '\n' text).filter fun line => !isCommentLine line

theorem outsideComments_line (line rest : String) :
    outsideComments (line ++ "\n" ++ rest) = outsideComments line ++ outsideComments rest := by
  rw [outsideComments, split_line, List.filter_append]
  rfl

theorem outsideComments_comment {line : String} (unbroken : IsUnbroken line)
    (comment : isCommentLine line = true) : outsideComments line = [] := by
  rw [outsideComments, split_of_not_mem unbroken]
  simp [comment]

end Text

namespace Code

open Text

/-- A line of documentation as a comment: the mark alone if the line is blank, and otherwise the
mark, a space and the line without the blanks at its end. -/
def docComment (line : String) : String :=
  if isBlank line then "///" else "/// " ++ trimEnd line

/-- The lines that documentation takes at a level, one for each of its own lines. -/
def docLines (unit : Indent) (level : Nat) (text : String) : List String :=
  (lines text).map fun line => Writer.indentation unit level ++ docComment line

theorem rustdocLine_eq (line : String) : Writer.rustdocLine line = docComment line := by
  have mark : ("/// " ++ line).toList = ['/', '/'] ++ '/' :: ' ' :: line.toList := by simp
  rw [Writer.rustdocLine, docComment]
  split
  · next blank =>
    have blanks : ∀ c ∈ ' ' :: line.toList, isBlankChar c = true :=
      List.forall_mem_cons.mpr ⟨by decide, List.all_eq_true.mp blank⟩
    rw [trimEnd, mark, trimEndChars_append_cons _ (by decide) blanks]
    rfl
  · next notBlank =>
    obtain ⟨front, last, blanks, whole, isLast, blank⟩ := exists_last_of_not_blank notBlank
    have longer : ("/// " ++ line).toList = ("/// ".toList ++ front) ++ last :: blanks := by
      rw [String.toList_append, whole, List.append_assoc]
    rw [trimEnd, longer, trimEndChars_append_cons _ isLast blank, trimEnd, whole,
      trimEndChars_append_cons _ isLast blank, ← String.toList_inj]
    simp

theorem Writer.rustdoc_eq_add (writer : Writer) (text : String) :
    writer.rustdoc text = writer.add (endedLines (docLines writer.unit writer.level text)) := by
  have written : LogicalLine.allWritten writer.unit writer.level
      (((lines text).map rustdocLine).map (.indented 0)) =
        endedLines (docLines writer.unit writer.level text) := by
    rw [LogicalLine.allWritten, endedLines, docLines, List.map_map, List.map_map, List.map_map]
    refine congrArg String.join (List.map_congr_left fun line _ => ?_)
    rw [Function.comp_apply, Function.comp_apply, Function.comp_apply, rustdocLine_eq]
    rfl
  have eachLine := writer.foldl_line_eq_add (show writer.level = writer.level + 0 from rfl)
    ((lines text).map rustdocLine)
  rw [List.foldl_map, written] at eachLine
  exact eachLine

/-- A comment has the mark at its beginning and no blank at its end. -/
structure IsDocComment (text : String) : Prop where
  marked : ∃ rest, text = "///" ++ rest
  unbroken : IsUnbroken text
  tight : ∃ front last, text = front ++ String.singleton last ∧ isBlankChar last = false

theorem IsDocComment.of_line {line : String} (unbroken : IsUnbroken line) :
    IsDocComment (docComment line) := by
  rw [docComment]
  split
  · next blank => exact ⟨⟨"", rfl⟩, by decide, "//", '/', rfl, by decide⟩
  · next notBlank =>
    obtain ⟨front, last, blanks, whole, isLast, blank⟩ := exists_last_of_not_blank notBlank
    refine ⟨⟨" " ++ trimEnd line, rfl⟩, isUnbroken_append.mpr ⟨by decide, unbroken.trimEnd⟩,
      "/// " ++ String.ofList front, last, ?_, isLast⟩
    rw [trimEnd, whole, trimEndChars_append_cons _ isLast blank, ← String.toList_inj]
    simp

theorem lines_endedLines {texts : List String}
    (ended : ∀ text ∈ texts, IsUnbroken text ∧ text.toList.getLast? ≠ some '\r') :
    lines (endedLines texts) = texts := by
  induction texts with
  | nil => rfl
  | cons text rest ih =>
    rw [List.forall_mem_cons] at ended
    have parts : (endedLines (text :: rest)).toList =
        text.toList ++ '\n' :: (endedLines rest).toList := by
      simp [endedLines]
    have later := ih ended.2
    rw [lines] at later
    rw [lines, parts, lineChars_line ended.1.1, withoutReturnChars, if_neg ended.1.2, List.map_cons,
      later, String.ofList_toList]

namespace IsDocComment

variable {text : String}

theorem getLast?_ne (comment : IsDocComment text) (before : String) :
    (before ++ text).toList.getLast? ≠ some '\r' := by
  obtain ⟨front, last, rfl, notBlank⟩ := comment.tight
  intro isReturn
  have same : last = '\r' := by simpa using isReturn
  rw [same] at notBlank
  exact absurd notBlank (by decide)

/-- Behind blanks alone, a comment takes the whole of its line. -/
theorem outsideComments_eq_nil (comment : IsDocComment text) {margin : String}
    (unbroken : IsUnbroken margin) (blank : isBlank margin = true) :
    outsideComments (margin ++ text) = [] := by
  refine outsideComments_comment (isUnbroken_append.mpr ⟨unbroken, comment.unbroken⟩) ?_
  obtain ⟨rest, rfl⟩ := comment.marked
  have parts : (margin ++ ("///" ++ rest)).toList =
      margin.toList ++ '/' :: '/' :: '/' :: rest.toList := by
    simp
  rw [isCommentLine, parts, List.dropWhile_append_of_pos (List.all_eq_true.mp blank)]
  rfl

end IsDocComment

theorem isBlank_indentation (unit : Indent) (level : Nat) :
    isBlank (Writer.indentation unit level) = true := by
  have blankUnit : isBlank unit.text = true := by
    unfold Indent.text
    split <;> decide
  rw [isBlank, List.all_eq_true, Writer.indentation, String.toList_join, List.forall_mem_flatMap]
  intro part listed
  rw [List.eq_of_mem_replicate listed]
  exact List.all_eq_true.mp blankUnit

theorem isUnbroken_indentation (unit : Indent) (level : Nat) :
    IsUnbroken (Writer.indentation unit level) :=
  IsUnbroken.join fun _ listed => List.eq_of_mem_replicate listed ▸ unit.isUnbroken_text

/-- A line at a level without its line feed. -/
def LogicalLine.unended (unit : Indent) (level : Nat) : LogicalLine → String
  | .indented depth text => Writer.indentation unit (level + depth) ++ text
  | .empty => ""

theorem LogicalLine.written_eq_unended (unit : Indent) (level : Nat) (line : LogicalLine) :
    line.written unit level = line.unended unit level ++ "\n" := by
  cases line <;> rfl

/-- What fragments at a depth have outside of comments. -/
def codeOf (unit : Indent) (level depth : Nat) (fragments : List Fragment) : List String :=
  (Fragment.linesOf depth fragments).flatMap fun line => outsideComments (line.unended unit level)

theorem outsideComments_laidOut (unit : Indent) (level : Nat) (fragments : List Fragment) :
    outsideComments (laidOut unit level fragments) = codeOf unit level 0 fragments ++ [""] := by
  rw [laidOut, codeOf]
  induction Fragment.linesOf 0 fragments with
  | nil => rfl
  | cons line rest ih =>
    rw [LogicalLine.allWritten_cons, LogicalLine.written_eq_unended, outsideComments_line, ih,
      List.flatMap_cons, List.append_assoc]

theorem codeOf_append (unit : Indent) (level depth : Nat) (first second : List Fragment) :
    codeOf unit level depth (first ++ second) =
      codeOf unit level depth first ++ codeOf unit level depth second := by
  rw [codeOf, Fragment.linesOf_append, List.flatMap_append]
  rfl

theorem codeOf_flatMap {α : Type} (unit : Indent) (level depth : Nat)
    (fragmentsOf : α → List Fragment) (parts : List α) :
    codeOf unit level depth (parts.flatMap fragmentsOf) =
      parts.flatMap fun part => codeOf unit level depth (fragmentsOf part) := by
  induction parts with
  | nil => rfl
  | cons part rest ih => rw [List.flatMap_cons, codeOf_append, ih, List.flatMap_cons]

theorem codeOf_block (unit : Indent) (level depth : Nat) (header close : String)
    (body : List Fragment) :
    codeOf unit level depth [.block header body close] =
      codeOf unit level depth [.line header] ++ codeOf unit level (depth + 1) body ++
        codeOf unit level depth [.line close] := by
  simp [codeOf, Fragment.linesOf, Fragment.linesAt]

/-- Documentation has nothing outside of comments, at whatever depth. -/
theorem codeOf_docs (unit : Indent) (level depth : Nat) (doc : Option String) :
    codeOf unit level depth (doc.toList.map .rustdoc) = [] := by
  cases doc with
  | none => rfl
  | some text =>
    have own : Fragment.linesOf depth ((some text).toList.map .rustdoc) =
        (lines text).map fun line => .indented depth (Writer.rustdocLine line) :=
      List.append_nil _
    rw [codeOf, own, List.flatMap_eq_nil_iff, List.forall_mem_map]
    intro line listed
    rw [LogicalLine.unended, rustdocLine_eq]
    exact (IsDocComment.of_line (.of_mem_lines listed)).outsideComments_eq_nil
      (isUnbroken_indentation unit _) (isBlank_indentation unit _)

end Code

namespace Crate

open Code Text

/-- The function without its documentation. -/
def Function.undocumented (function : Function) : Function :=
  { function with doc := none }

/-- The field without its documentation. -/
def StructField.undocumented (field : StructField) : StructField :=
  { field with doc := none }

/-- The structure without its documentation and that of its fields. -/
def StructDecl.undocumented (decl : StructDecl) : StructDecl :=
  { decl with doc := none, fields := decl.fields.map StructField.undocumented }

theorem Function.codeOf_undocumented (unit : Indent) (level depth : Nat) (function : Function) :
    codeOf unit level depth (fragments function) =
      codeOf unit level depth (fragments function.undocumented) := by
  show codeOf unit level depth ((_ ++ _) ++ _) = codeOf unit level depth ((_ ++ _) ++ _)
  simp only [codeOf_append, codeOf_docs]
  rfl

theorem StructField.codeOf_undocumented (unit : Indent) (level depth : Nat) (field : StructField) :
    codeOf unit level depth (fragments field) =
      codeOf unit level depth (fragments field.undocumented) := by
  show codeOf unit level depth (_ ++ _) = codeOf unit level depth (_ ++ _)
  simp only [codeOf_append, codeOf_docs]
  rfl

theorem StructDecl.codeOf_definition (unit : Indent) (level depth : Nat) (decl : StructDecl) :
    codeOf unit level depth [decl.definition] =
      codeOf unit level depth [decl.undocumented.definition] := by
  have inside : codeOf unit level (depth + 1) (decl.fields.flatMap fragments) =
      codeOf unit level (depth + 1) (decl.undocumented.fields.flatMap fragments) := by
    rw [codeOf_flatMap, codeOf_flatMap, undocumented, List.flatMap_map]
    simp only [← StructField.codeOf_undocumented]
  have sameEmpty : decl.undocumented.fields.isEmpty = decl.fields.isEmpty := List.isEmpty_map
  rw [definition, definition, sameEmpty]
  split
  · rfl
  · rw [codeOf_block, codeOf_block, inside]
    rfl

theorem StructDecl.codeOf_undocumented (unit : Indent) (level depth : Nat) (decl : StructDecl) :
    codeOf unit level depth (fragments decl) =
      codeOf unit level depth (fragments decl.undocumented) := by
  show codeOf unit level depth ((_ ++ _ ++ _) ++ _) = codeOf unit level depth ((_ ++ _ ++ _) ++ _)
  simp only [codeOf_append, codeOf_docs, StructDecl.codeOf_definition unit level depth decl]
  rfl

end Crate

open Code Text

/-- Documentation adds a line for each of its own lines to what has been written: the indentation,
and the mark alone if its line is blank, or else the mark, a space and its line without the blanks
at the end. These lines are told from the added text by their line feeds. Behind the indentation
each of them is a comment to its end, which is no blank. So a function, a structure and a field have
outside of comments what they have there without documentation, at whatever level they stand. -/
theorem documentation_stays_in_comments :
    (∀ (writer : Writer) (text : String),
      writer.rustdoc text = writer.add (endedLines (docLines writer.unit writer.level text))) ∧
    (∀ unit level text,
      lines (endedLines (docLines unit level text)) = docLines unit level text) ∧
    (∀ unit level text, ∀ line ∈ docLines unit level text,
      ∃ comment, line = Writer.indentation unit level ++ comment ∧ IsDocComment comment) ∧
    (∀ unit level (function : Crate.Function),
      outsideComments (laidOut unit level (fragments function)) =
        outsideComments (laidOut unit level (fragments function.undocumented))) ∧
    (∀ unit level (decl : Crate.StructDecl),
      outsideComments (laidOut unit level (fragments decl)) =
        outsideComments (laidOut unit level (fragments decl.undocumented))) ∧
    (∀ unit level (field : Crate.StructField),
      outsideComments (laidOut unit level (fragments field)) =
        outsideComments (laidOut unit level (fragments field.undocumented))) := by
  have comments (unit : Indent) (level : Nat) (text : String) : ∀ line ∈ docLines unit level text,
      ∃ comment, line = Writer.indentation unit level ++ comment ∧ IsDocComment comment := by
    rw [docLines, List.forall_mem_map]
    exact fun line listed => ⟨_, rfl, .of_line (.of_mem_lines listed)⟩
  refine ⟨Writer.rustdoc_eq_add, ?_, comments, ?_, ?_, ?_⟩
  · intro unit level text
    apply lines_endedLines
    intro line listed
    obtain ⟨comment, rfl, isComment⟩ := comments unit level text line listed
    exact ⟨isUnbroken_append.mpr ⟨isUnbroken_indentation unit level, isComment.unbroken⟩,
      isComment.getLast?_ne _⟩
  · intro unit level function
    rw [outsideComments_laidOut, outsideComments_laidOut, function.codeOf_undocumented]
  · intro unit level decl
    rw [outsideComments_laidOut, outsideComments_laidOut, decl.codeOf_undocumented]
  · intro unit level field
    rw [outsideComments_laidOut, outsideComments_laidOut, field.codeOf_undocumented]

/-- Documentation of three lines: one with blanks at its end, a blank one and one with carriage
returns in it. -/
def mixedDoc : String := "First. \t\r\n\u2003\n\rlast.\r"

theorem documentation_stays_in_comments_mixedDoc :
    ((⟨.spaces 2, 1, "start\n"⟩ : Writer).rustdoc mixedDoc).text =
        "start\n  /// First.\n  ///\n  /// \rlast.\n" ∧
      "  ///" ∈ docLines (.spaces 2) 1 mixedDoc ∧
      ∃ comment, "  ///" = Writer.indentation (.spaces 2) 1 ++ comment ∧ IsDocComment comment := by
  obtain ⟨adds, -, comments, -⟩ := documentation_stays_in_comments
  have listed : "  ///" ∈ docLines (.spaces 2) 1 mixedDoc := by decide
  refine ⟨?_, listed, comments _ _ _ _ listed⟩
  rw [adds]
  decide

end QuietSource
