/-
# Headers and bodies given as text

The header of a file and the body of a function or a method may be given as text of several lines.
The text is taken apart into its lines, and these are written one by one, so what arrives is the
normalized text: as it is for a header, and with one unit of indentation before each line for a
body. A body can as well be given line by line, if its text is normalized first and then cut at line
feeds only.
-/

import QuietSource.Proofs.LineEndings
import QuietSource.Proofs.Nesting

namespace QuietSource

open Code Text

namespace Text

theorem endedLines_lines (text : String) : endedLines (lines text) = normalized text := by
  rw [← String.toList_inj, normalized, String.toList_ofList, ← flatMap_lineChars]
  simp [endedLines, lines, List.flatMap_map]

theorem split_endedLines {texts : List String} (unbroken : ∀ text ∈ texts, IsUnbroken text) :
    split '\n' (endedLines texts) = texts ++ [""] := by
  induction texts with
  | nil => rfl
  | cons text rest ih =>
    rw [List.forall_mem_cons] at unbroken
    have parted : endedLines (text :: rest) = text ++ "\n" ++ endedLines rest := String.join_cons
    rw [parted, split_line, split_of_not_mem unbroken.1, ih unbroken.2]
    rfl

/-- In normalized text nothing but a line feed ends a line. -/
theorem feedLines_normalized (text : String) : feedLines (normalized text) = lines text := by
  rw [← endedLines_lines, feedLines, split_endedLines fun _ => IsUnbroken.of_mem_lines,
    List.dropLast_concat]

/-- A line of a text that ends in a line feed loses at most the carriage return in front of it, and
what is left behind the last line feed is a line unless it is empty. -/
theorem exists_split_lines (text : String) :
    ∃ ended last, split '\n' text = ended ++ [last] ∧
      lines text = ended.map withoutReturn ++ if last = "" then [] else [last] := by
  obtain ⟨ended, last, cut, found⟩ := exists_splitChars_lineChars text.toList
  refine ⟨ended.map String.ofList, String.ofList last, ?_, ?_⟩
  · rw [split, cut, List.map_append, List.map_singleton]
  · have sameLine (line : List Char) :
        String.ofList (withoutReturnChars line) = withoutReturn (String.ofList line) := by
      rw [withoutReturn, String.toList_ofList]
    have sameLast : String.ofList last = "" ↔ last = [] := String.ofList_eq_empty_iff
    simp only [lines, found, List.map_append, List.map_map, Function.comp_def, sameLine, sameLast]
    split <;> rfl

end Text

namespace Code

theorem headerText_eq_normalized : headerText = normalized :=
  funext endedLines_lines

/-- One level deep, the lines of a text read as the normalized text with a unit before each. -/
theorem laidOut_lines (unit : Indent) (content : String) :
    laidOut unit 1 ((lines content).map .line) = indentLines unit.text (normalized content) := by
  have plain : Fragment.ArePlain ((lines content).map .line) :=
    Fragment.arePlain_map fun _ => IsUnbroken.of_mem_lines
  have alone : laidOut unit 0 ((lines content).map .line) = normalized content := by
    rw [← endedLines_lines, endedLines, ← render_lines unit, render_eq_laidOut]
    rfl
  rw [← alone]
  exact (indentLines_laidOut unit 0 plain).symm

/-- An item whose body has been given the lines of a text behind other lines. -/
theorem render_item_lines (unit : Indent) (preamble : List Fragment) (header close : String)
    (earlier : List String) (content : String) :
    render unit (preamble ++ [.block header ((earlier ++ lines content).map .line) close]) =
      render unit preamble ++ header ++ "\n" ++ laidOut unit 1 (earlier.map .line) ++
        indentLines unit.text (normalized content) ++ close ++ "\n" := by
  rw [render_append, render_block, List.map_append, laidOut_append, laidOut_lines]
  simp only [String.append_assoc]

end Code

namespace Crate.SourceFile

/-- A file begins with the normalized text of its header. -/
theorem text_eq_header (file : SourceFile) :
    file.text = String.intercalate "\n" (file.header.toList.map normalized ++
      ({ file with header := none } : SourceFile).sections.map (render .rust)) := by
  have parts : file.sections =
      (file.header.toList.map fun header => (lines header).map Fragment.line) ++
        ({ file with header := none } : SourceFile).sections := List.append_assoc _ _ _
  rw [text_eq_render, render_separated, parts, List.map_append, map_render_header,
    headerText_eq_normalized]

end Crate.SourceFile

namespace Package.CompilationUnit

/-- A unit begins with the normalized text of its header. -/
theorem text_eq_header (compilation : CompilationUnit) :
    compilation.text = String.intercalate "\n" (compilation.header.toList.map normalized ++
      ({ compilation with header := none } : CompilationUnit).sections.map (render .java)) := by
  have parts : compilation.sections =
      (compilation.header.toList.map fun header => (lines header).map Fragment.line) ++
        ({ compilation with header := none } : CompilationUnit).sections := by
    simp only [sections, importLines, List.append_assoc, Option.toList_none, List.map_nil,
      List.nil_append]
  rw [text_eq_render, render_separated, parts, List.map_append, map_render_header,
    headerText_eq_normalized]

end Package.CompilationUnit

namespace Crate.Function

theorem edit_body (function : Function) (content : String) :
    function.edit (.body content) =
      ((feedLines (normalized content)).map .bodyLine).foldl edit function := by
  rw [feedLines_normalized, foldl_map_eq_add fun function more =>
    { function with body := function.body ++ more }]
  · rfl
  · simp
  · simp [edit]

theorem text_edit_body (function : Function) (content : String) :
    (function.edit (.body content)).text =
      render .rust function.preamble ++ function.signature ++ "\n" ++
        laidOut .rust 1 (function.body.map .line) ++ indentLines "    " (normalized content) ++
          "\x7d" ++ "\n" :=
  render_item_lines .rust function.preamble function.signature "\x7d" function.body content

end Crate.Function

namespace Package.Method

theorem edit_body (method : Method) (content : String) :
    method.edit (.body content) =
      ((feedLines (normalized content)).map .bodyLine).foldl edit method := by
  rw [feedLines_normalized, foldl_map_eq_add fun method more =>
    { method with body := method.body ++ more }]
  · rfl
  · simp
  · simp [edit]

theorem text_edit_body (method : Method) (content : String) :
    (method.edit (.body content)).text =
      render .java method.preamble ++ method.signature ++ "\n" ++
        laidOut .java 1 (method.body.map .line) ++ indentLines "\t" (normalized content) ++
          "\x7d" ++ "\n" :=
  render_item_lines .java method.preamble method.signature "\x7d" method.body content

end Package.Method

/-- Whatever changes have led to a file, the header that was set last stands at its beginning as
normalized text, with one line feed between it and the next section. The normalized text has the
lines of the given one: none is lost, added or merged, and a line that ends in a line feed loses at
most one carriage return in front of that, while all others stay. A body that is given as text is
the same as the lines of the normalized text one by one. It is written as the normalized text with a
unit of indentation before each line. -/
theorem headers_and_bodies_are_normalized :
    (∀ edits, (Crate.SourceFile.ofEdits edits).text =
      String.intercalate "\n"
        ((lastSet? Crate.SourceFile.Edit.header? edits).toList.map normalized ++
          ({ Crate.SourceFile.ofEdits edits with header := none } :
            Crate.SourceFile).sections.map (render .rust))) ∧
    (∀ decl edits, (Package.CompilationUnit.ofEdits decl edits).text =
      String.intercalate "\n"
        ((lastSet? Package.CompilationUnit.Edit.header? edits).toList.map normalized ++
          ({ Package.CompilationUnit.ofEdits decl edits with header := none } :
            Package.CompilationUnit).sections.map (render .java))) ∧
    (∀ text, endedLines (feedLines (normalized text)) = normalized text ∧
      ∃ ended last, split '\n' text = ended ++ [last] ∧
        feedLines (normalized text) =
          ended.map withoutReturn ++ if last = "" then [] else [last]) ∧
    (∀ (function : Crate.Function) (content : String),
      function.edit (.body content) =
        ((feedLines (normalized content)).map .bodyLine).foldl Crate.Function.edit function ∧
      (function.edit (.body content)).text =
        render .rust function.preamble ++ function.signature ++ "\n" ++
          laidOut .rust 1 (function.body.map .line) ++ indentLines "    " (normalized content) ++
            "\x7d" ++ "\n") ∧
    (∀ (method : Package.Method) (content : String),
      method.edit (.body content) =
        ((feedLines (normalized content)).map .bodyLine).foldl Package.Method.edit method ∧
      (method.edit (.body content)).text =
        render .java method.preamble ++ method.signature ++ "\n" ++
          laidOut .java 1 (method.body.map .line) ++ indentLines "\t" (normalized content) ++
            "\x7d" ++ "\n") := by
  refine ⟨?_, ?_, ?_, ?_, ?_⟩
  · intro edits
    rw [Crate.SourceFile.text_eq_header, Crate.SourceFile.header_ofEdits]
  · intro decl edits
    rw [Package.CompilationUnit.text_eq_header, Package.CompilationUnit.header_ofEdits]
  · intro text
    rw [feedLines_normalized]
    exact ⟨endedLines_lines text, exists_split_lines text⟩
  · intro function content
    exact ⟨function.edit_body content, function.text_edit_body content⟩
  · intro method content
    exact ⟨method.edit_body content, method.text_edit_body content⟩

/-- A carriage return stays unless it is the one directly before a line feed. -/
example : normalized "a\r\r\n\rb\r" = "a\r\n\rb\r\n" ∧ normalized "\n\n" = "\n\n" ∧
    normalized "" = "" := by decide

end QuietSource
