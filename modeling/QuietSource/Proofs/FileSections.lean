/-
# Files are their sections

The text of a file is the texts of its sections with an empty line between each two, and a section
reads in the file as it reads alone, since what fragments add does not depend on what is there. This
module says which sections a history of changes leads to: the header that was set last, and so on
for what is set once, and one section for everything that was added of a kind. A section whose text
is empty still takes its place.
-/

import QuietSource.Crate.StructDecl
import QuietSource.Proofs.EditHistory
import QuietSource.Proofs.SeparatedSections

namespace QuietSource

open Code

namespace Code

/-- Lines of text, each ended by a line feed. -/
def endedLines (texts : List String) : String :=
  String.join (texts.map (· ++ "\n"))

/-- The section that a header makes. -/
def headerText (header : String) : String :=
  endedLines (Text.lines header)

/-- The section that lines make, if there are any. -/
def linesSection (texts : List String) : List String :=
  if texts.isEmpty then [] else [endedLines texts]

theorem map_render_header (unit : Indent) (header : Option String) :
    (header.toList.map fun text => (Text.lines text).map Fragment.line).map (render unit) =
      header.toList.map headerText := by
  rw [List.map_map]
  exact List.map_congr_left fun text _ => render_lines unit (Text.lines text)

theorem map_render_linesSection (unit : Indent) (texts : List String) :
    (if texts.isEmpty then [] else [texts.map Fragment.line]).map (render unit) =
      linesSection texts := by
  rw [apply_ite (List.map (render unit)), List.map_nil, List.map_singleton, render_lines]
  rfl

end Code

namespace Crate.SourceFile

/-- The header that a change sets. -/
def Edit.header? : Edit → Option String
  | .header text => some text
  | .useStatement _ | .item _ => none

/-- The use statements that a change adds. -/
def Edit.useStatements : Edit → List UseStatement
  | .useStatement statement => [statement]
  | .header _ | .item _ => []

/-- The items that a change adds. -/
def Edit.items : Edit → List (List Fragment)
  | .item fragments => [fragments]
  | .header _ | .useStatement _ => []

/-- The texts of the sections that changes lead to. -/
def sectionTexts (edits : List Edit) : List String :=
  (lastSet? Edit.header? edits).toList.map headerText ++
    linesSection ((edits.flatMap Edit.useStatements).map UseStatement.text) ++
    (edits.flatMap Edit.items).map (render .rust)

theorem header_ofEdits (edits : List Edit) :
    (ofEdits edits).header = lastSet? Edit.header? edits := by
  rw [ofEdits, foldl_eq_lastSet edit header Edit.header?]
  · exact Option.or_none
  · intro file change
    cases change <;> rfl

theorem uses_ofEdits (edits : List Edit) :
    (ofEdits edits).uses = edits.flatMap Edit.useStatements := by
  rw [ofEdits, foldl_eq_append edit uses Edit.useStatements]
  · rfl
  · intro file change
    cases change with
    | useStatement statement => rfl
    | header | item => exact (List.append_nil _).symm

theorem items_ofEdits (edits : List Edit) :
    (ofEdits edits).items = edits.flatMap Edit.items := by
  rw [ofEdits, foldl_eq_append edit items Edit.items]
  · rfl
  · intro file change
    cases change with
    | item fragments => rfl
    | header | useStatement => exact (List.append_nil _).symm

theorem flatMap_fragments (statements : List UseStatement) :
    statements.flatMap fragments = (statements.map UseStatement.text).map Fragment.line := by
  rw [List.map_map, List.map_eq_flatMap]
  rfl

theorem text_ofEdits (edits : List Edit) :
    (ofEdits edits).text = String.intercalate "\n" (sectionTexts edits) := by
  have read : (ofEdits edits).sections.map (render .rust) = sectionTexts edits := by
    -- There is a section for use statements if they have lines, and each of them has one.
    rw [sections, header_ofEdits, uses_ofEdits, items_ofEdits, flatMap_fragments,
      ← List.isEmpty_map, List.map_append, List.map_append, map_render_header,
      map_render_linesSection, sectionTexts]
  rw [text_eq_render, render_separated, read]

/-- Adding an item adds a section with the item's own text behind those that are there. -/
theorem sectionTexts_append_item (edits : List Edit) (fragments : List Fragment) :
    sectionTexts (edits ++ [.item fragments]) =
      sectionTexts edits ++ [render .rust fragments] := by
  have sameHeader : lastSet? Edit.header? (edits ++ [.item fragments]) =
      lastSet? Edit.header? edits := by
    rw [lastSet?, List.reverse_concat]
    rfl
  simp only [sectionTexts, sameHeader, List.flatMap_append, List.flatMap_singleton, List.map_append,
    List.append_assoc]
  simp [Edit.useStatements, Edit.items]

end Crate.SourceFile

namespace Package.CompilationUnit

/-- The header that a change sets. -/
def Edit.header? : Edit → Option String
  | .header text => some text
  | .package _ | .importName _ | .importType _ => none

/-- The package that a change sets. -/
def Edit.package? : Edit → Option String
  | .package name => some name
  | .header _ | .importName _ | .importType _ => none

/-- The names that changes import, the package being the given one until they set it. -/
def importedNames (package : Option String) : List Edit → List String
  | [] => []
  | .header _ :: rest => importedNames package rest
  | .package name :: rest => importedNames (some name) rest
  | .importName name :: rest => name :: importedNames package rest
  | .importType type :: rest => importsOfType package type ++ importedNames package rest

/-- The texts of the sections that changes to the unit of a class lead to. -/
def sectionTexts (decl : ClassDecl) (edits : List Edit) : List String :=
  (lastSet? Edit.header? edits).toList.map headerText ++
    (lastSet? Edit.package? edits).toList.map (fun name => "package " ++ name ++ ";\n") ++
    linesSection ((importedNames none edits).eraseDups.map fun name => "import " ++ name ++ ";") ++
    [decl.text]

theorem header_ofEdits (decl : ClassDecl) (edits : List Edit) :
    (ofEdits decl edits).header = lastSet? Edit.header? edits := by
  rw [ofEdits, foldl_eq_lastSet edit header Edit.header?]
  · exact Option.or_none
  · intro compilation change
    cases change <;> rfl

theorem package_ofEdits (decl : ClassDecl) (edits : List Edit) :
    (ofEdits decl edits).package = lastSet? Edit.package? edits := by
  rw [ofEdits, foldl_eq_lastSet edit package Edit.package?]
  · exact Option.or_none
  · intro compilation change
    cases change <;> rfl

/-- No change reaches the class. -/
theorem decl_foldl (compilation : CompilationUnit) (edits : List Edit) :
    (edits.foldl edit compilation).decl = compilation.decl := by
  induction edits generalizing compilation with
  | nil => rfl
  | cons change rest ih =>
    rw [List.foldl_cons, ih]
    cases change <;> rfl

theorem imports_foldl (compilation : CompilationUnit) (edits : List Edit) :
    (edits.foldl edit compilation).imports =
      compilation.imports.insertMany (importedNames compilation.package edits) := by
  induction edits generalizing compilation with
  | nil => rfl
  | cons change rest ih =>
    rw [List.foldl_cons, ih]
    cases change with
    | header | package | importName => rfl
    | importType type => exact (OrderedSet.insertMany_append _ _ _).symm

theorem toList_imports_ofEdits (decl : ClassDecl) (edits : List Edit) :
    (ofEdits decl edits).imports.toList = (importedNames none edits).eraseDups := by
  rw [ofEdits, imports_foldl]
  exact OrderedSet.toList_ofList _

theorem text_ofEdits (decl : ClassDecl) (edits : List Edit) :
    (ofEdits decl edits).text = String.intercalate "\n" (sectionTexts decl edits) := by
  have sameDecl : (ofEdits decl edits).decl = decl := decl_foldl { decl } edits
  have packages (package : Option String) :
      (package.toList.map fun name => [Fragment.line ("package " ++ name ++ ";")]).map
        (render .java) = package.toList.map fun name => "package " ++ name ++ ";\n" := by
    rw [List.map_map]
    exact List.map_congr_left fun name _ => by
      rw [Function.comp_apply, render_line, String.append_assoc]
      rfl
  have read : (ofEdits decl edits).sections.map (render .java) = sectionTexts decl edits := by
    rw [sections, header_ofEdits, package_ofEdits, importLines, OrderedSet.isEmpty,
      toList_imports_ofEdits, sameDecl, ← List.isEmpty_map, List.map_append, List.map_append,
      List.map_append, map_render_header, packages, map_render_linesSection, sectionTexts]
    rfl
  rw [text_eq_render, render_separated, read]

end Package.CompilationUnit

/-- After any history of changes the text of a file is its sections with one line feed between each
two, also where a section has no text. For a crate these are the header that was set last, one
section with all use statements in order if there are any, and for each item, at the time it was
added, its text as it stands alone. For a class they are the header and the package that were set
last, one section with the imports in order if there are any, and the text of the class. -/
theorem text_joins_sections :
    (∀ edits, (Crate.SourceFile.ofEdits edits).text =
      String.intercalate "\n" (Crate.SourceFile.sectionTexts edits)) ∧
    (∀ edits {α : Type} [HasFragments α] (node : α),
      Crate.SourceFile.sectionTexts (edits ++ [.item (fragments node)]) =
        Crate.SourceFile.sectionTexts edits ++ [render .rust node]) ∧
    (∀ edits (function : Crate.Function),
      Crate.SourceFile.sectionTexts (edits ++ [.item (fragments function)]) =
        Crate.SourceFile.sectionTexts edits ++ [function.text]) ∧
    (∀ edits (block : Crate.ImplBlock),
      Crate.SourceFile.sectionTexts (edits ++ [.item (fragments block)]) =
        Crate.SourceFile.sectionTexts edits ++ [block.text]) ∧
    (∀ edits (decl : Crate.StructDecl),
      Crate.SourceFile.sectionTexts (edits ++ [.item (fragments decl)]) =
        Crate.SourceFile.sectionTexts edits ++ [decl.text]) ∧
    (∀ decl edits, (Package.CompilationUnit.ofEdits decl edits).text =
      String.intercalate "\n" (Package.CompilationUnit.sectionTexts decl edits)) :=
  ⟨Crate.SourceFile.text_ofEdits,
    fun edits _ _ node => Crate.SourceFile.sectionTexts_append_item edits (fragments node),
    fun edits function => Crate.SourceFile.sectionTexts_append_item edits (fragments function),
    fun edits block => Crate.SourceFile.sectionTexts_append_item edits (fragments block),
    fun edits decl => Crate.SourceFile.sectionTexts_append_item edits (fragments decl),
    Package.CompilationUnit.text_ofEdits⟩

/-- A header without lines and an item without fragments are sections like any other. -/
example : (Crate.SourceFile.ofEdits
      [.item [], .useStatement { moduleName := "a" }, .header "lost", .header ""]).text =
    "\nuse a;\n\n" := by decide

end QuietSource
