/-
# The imports of a unit

What a change contributes to the imports of a unit depends on the change and on the package that was
set last before it. A name that is imported as it stands contributes itself. A type contributes, in
preorder, the full names of the classes in it that lie in a package other than `java.lang` and the
package of that moment. The imports are the first mentions among these contributions, one line each,
so nothing that is imported is dropped or moved by what comes later.
-/

import Mathlib.Data.List.Basic
import Mathlib.Data.List.Induction
import Mathlib.Data.List.Nodup
import QuietSource.Proofs.FileSections
import QuietSource.Proofs.LastSeparator
import QuietSource.Proofs.Preorder

namespace QuietSource.Package

open Code Text

namespace Mention

/-- The class lies in a package: its name is the package, a dot and a simple name. -/
def IsIn (home : String) (mention : Mention) : Prop :=
  ∃ simple, CutAtLast '.' mention.name home simple

theorem isIn_iff {home : String} {mention : Mention} :
    mention.IsIn home ↔ mention.package? = some home := by
  constructor
  · rintro ⟨simple, cut⟩
    exact cut.beforeLast?_eq
  · intro found
    exact ⟨_, beforeLast?_eq_some_iff.mp found⟩

/-- The class lies in a package, and this is neither `java.lang` nor the given one. -/
def IsForeignTo (package : Option String) (mention : Mention) : Prop :=
  ∃ home, mention.IsIn home ∧ home ≠ "java.lang" ∧ package ≠ some home

theorem needsImport_iff {package : Option String} {mention : Mention} :
    CompilationUnit.needsImport package mention = true ↔ mention.IsForeignTo package := by
  simp only [CompilationUnit.needsImport, IsForeignTo, isIn_iff]
  cases mention.package? with
  | none => simp
  | some home => simp

instance (package : Option String) (mention : Mention) :
    Decidable (mention.IsForeignTo package) :=
  decidable_of_iff _ needsImport_iff

end Mention

namespace CompilationUnit

/-- The line that imports a name. -/
def importLine (name : String) : String :=
  "import " ++ name ++ ";"

theorem importLine_injective : Function.Injective importLine := by
  intro first second same
  rwa [importLine, importLine, String.append_left_inj, String.append_right_inj] at same

/-- The names that a change contributes to the imports when the unit has a package. -/
def Edit.contribution (package : Option String) : Edit → List String
  | .importName name => [name]
  | .importType type =>
    (type.preorder.filter fun node => node.label.IsForeignTo package).map fun node =>
      node.label.name
  | .header _ | .package _ => []

/-- The names that changes contribute to the imports, each change under the package that was set
last before it. -/
def contributions (edits : List Edit) : List String :=
  edits.zipIdx.flatMap fun entry =>
    entry.1.contribution (lastSet? Edit.package? (edits.take entry.2))

theorem contributions_concat (edits : List Edit) (change : Edit) :
    contributions (edits ++ [change]) =
      contributions edits ++ change.contribution (lastSet? Edit.package? edits) := by
  -- The changes before a position are the same in the longer history.
  have earlier : (edits.zipIdx.flatMap fun entry => entry.1.contribution
      (lastSet? Edit.package? ((edits ++ [change]).take entry.2))) = contributions edits := by
    apply List.flatMap_congr
    intro entry listed
    rw [List.take_append_of_le_length (List.snd_lt_of_mem_zipIdx listed).le]
  rw [contributions, List.zipIdx_append, List.flatMap_append, List.zipIdx_singleton,
    List.flatMap_singleton, Nat.zero_add, List.take_left, earlier]

theorem importsOfType_eq (package : Option String) (type : ClassType) :
    importsOfType package type = Edit.contribution package (.importType type) := by
  have sameTest : needsImport package = fun mention => decide (mention.IsForeignTo package) := by
    funext mention
    exact Bool.eq_iff_iff.mpr (Mention.needsImport_iff.trans decide_eq_true_iff.symm)
  rw [importsOfType, TypeTree.labels_eq_map_preorder, List.filter_map, List.map_map, sameTest]
  rfl

theorem importedNames_append (package : Option String) (first second : List Edit) :
    importedNames package (first ++ second) =
      importedNames package first ++
        importedNames ((lastSet? Edit.package? first).or package) second := by
  induction first generalizing package with
  | nil => rfl
  | cons change rest ih =>
    rw [lastSet?_cons, Option.or_assoc, List.cons_append]
    cases change with
    | header text => exact ih package
    | package name => exact ih (some name)
    | importName name => exact congrArg (name :: ·) (ih package)
    | importType type =>
      rw [importedNames, ih, importedNames, List.append_assoc]
      rfl

theorem importedNames_singleton (package : Option String) (change : Edit) :
    importedNames package [change] = change.contribution package := by
  cases change with
  | header | package | importName => rfl
  | importType type => rw [importedNames, importsOfType_eq, importedNames, List.append_nil]

/-- What a history of changes imports is put together from the contributions of its changes. -/
theorem importedNames_eq_contributions (edits : List Edit) :
    importedNames none edits = contributions edits := by
  induction edits using List.reverseRecOn with
  | nil => rfl
  | append_singleton edits change ih =>
    rw [importedNames_append, ih, importedNames_singleton, contributions_concat, Option.or_none]

theorem toList_imports_eq (decl : ClassDecl) (edits : List Edit) :
    (ofEdits decl edits).imports.toList = (contributions edits).eraseDups := by
  rw [toList_imports_ofEdits, importedNames_eq_contributions]

theorem importLines_eq (decl : ClassDecl) (edits : List Edit) :
    (ofEdits decl edits).importLines = (contributions edits).eraseDups.map importLine := by
  rw [importLines, toList_imports_eq]
  rfl

theorem mem_importLines {decl : ClassDecl} {edits : List Edit} {name : String} :
    importLine name ∈ (ofEdits decl edits).importLines ↔ name ∈ contributions edits := by
  rw [importLines_eq, List.mem_map_of_injective importLine_injective, List.mem_eraseDups]

theorem nodup_importLines (compilation : CompilationUnit) : compilation.importLines.Nodup :=
  List.Nodup.map importLine_injective compilation.imports.nodup

/-- What changes contribute is what each of them does under the package that was set before it. -/
theorem mem_contributions_iff {edits : List Edit} {name : String} :
    name ∈ contributions edits ↔ ∃ before change after, edits = before ++ change :: after ∧
      name ∈ change.contribution (lastSet? Edit.package? before) := by
  rw [contributions, List.mem_flatMap]
  constructor
  · rintro ⟨⟨change, count⟩, listed, contributed⟩
    obtain ⟨inside, rfl⟩ :=
      List.getElem?_eq_some_iff.mp (List.mk_mem_zipIdx_iff_getElem?.mp listed)
    refine ⟨edits.take count, edits[count], edits.drop (count + 1), ?_, contributed⟩
    rw [List.getElem_cons_drop, List.take_append_drop]
  · rintro ⟨before, change, after, rfl, contributed⟩
    refine ⟨(change, before.length), ?_, ?_⟩
    · rw [List.mk_mem_zipIdx_iff_getElem?]
      simp
    · rwa [List.take_left]

theorem mem_contribution_importType {package : Option String} {type : ClassType} {name : String} :
    name ∈ Edit.contribution package (.importType type) ↔
      ∃ node ∈ type.preorder, node.label.IsForeignTo package ∧ node.label.name = name := by
  simp only [Edit.contribution, List.mem_map, List.mem_filter, decide_eq_true_eq, and_assoc]

/-- If only types are imported, the import lines are those of the foreign classes in them. -/
theorem mem_importLines_of_types {decl : ClassDecl} {edits : List Edit}
    (typesOnly : ∀ name, .importName name ∉ edits) {name : String} :
    importLine name ∈ (ofEdits decl edits).importLines ↔
      ∃ before type after, edits = before ++ .importType type :: after ∧
        ∃ node ∈ type.preorder, node.label.IsForeignTo (lastSet? Edit.package? before) ∧
          node.label.name = name := by
  rw [mem_importLines, mem_contributions_iff]
  constructor
  · rintro ⟨before, change, after, split, contributed⟩
    cases change with
    | header | package => exact absurd contributed List.not_mem_nil
    | importName other => exact absurd (split ▸ List.mem_append_cons_self) (typesOnly other)
    | importType type =>
      exact ⟨before, type, after, split, mem_contribution_importType.mp contributed⟩
  · rintro ⟨before, type, after, split, mentioned⟩
    exact ⟨before, .importType type, after, split, mem_contribution_importType.mpr mentioned⟩

/-- Further changes add their imports behind those that are there. -/
theorem prefix_importLines (decl : ClassDecl) (edits more : List Edit) :
    (ofEdits decl edits).importLines <+: (ofEdits decl (edits ++ more)).importLines := by
  have further : (ofEdits decl (edits ++ more)).imports =
      (ofEdits decl edits).imports.insertMany
        (importedNames (ofEdits decl edits).package more) := by
    rw [ofEdits, List.foldl_append]
    exact imports_foldl (ofEdits decl edits) more
  rw [importLines, importLines, further, OrderedSet.toList_insertMany, List.map_append]
  exact List.prefix_append _ _

/-- After any history of changes the import lines of a unit are the first mentions among what the
changes contribute, in their order, and they stand in the text between the package and the class.
A class that an imported type mentions at any depth, in a package other than `java.lang` and the one
set last before, has exactly one line, and later changes neither remove lines nor move them. -/
theorem importLines_are_first_mentions (decl : ClassDecl) (edits : List Edit) :
    (ofEdits decl edits).importLines = (contributions edits).eraseDups.map importLine ∧
    (ofEdits decl edits).text = String.intercalate "\n"
      ((lastSet? Edit.header? edits).toList.map headerText ++
        (lastSet? Edit.package? edits).toList.map (fun name => "package " ++ name ++ ";\n") ++
        linesSection ((contributions edits).eraseDups.map importLine) ++ [decl.text]) ∧
    (∀ before type after, edits = before ++ .importType type :: after →
      ∀ node ∈ type.preorder, node.label.IsForeignTo (lastSet? Edit.package? before) →
        (ofEdits decl edits).importLines.count (importLine node.label.name) = 1) ∧
    (∀ more, (ofEdits decl edits).importLines <+:
      (ofEdits decl (edits ++ more)).importLines) := by
  refine ⟨importLines_eq decl edits, ?_, ?_, prefix_importLines decl edits⟩
  · rw [text_ofEdits, sectionTexts, importedNames_eq_contributions]
    rfl
  · intro before type after split node mentioned foreign
    apply List.count_eq_one_of_mem (nodup_importLines _)
    rw [mem_importLines, mem_contributions_iff]
    exact ⟨before, .importType type, after, split,
      mem_contribution_importType.mpr ⟨node, mentioned, foreign, rfl⟩⟩

/-- A class in a package below `java.lang`. -/
def cleaner : ClassType :=
  .leaf { name := "java.lang.ref.Cleaner" }

/-- A type that mentions this class, a class of the package `app` and one without a package. -/
def mixedType : ClassType :=
  .node { name := "java.util.List" }
    [.leaf { name := "app.Local" }, .node { name := "T" } [cleaner]]

/-- A history that imports a class of the package `app` before the unit has this package. -/
def earlyImport : List Edit :=
  [.importType (.node { name := "java.util.Map" } [.leaf { name := "java.lang.String" },
      .leaf { name := "app.Local" }]),
    .package "app", .importName "java.util.Map", .importType mixedType, .header "h"]

theorem importLines_of_earlyImport :
    (ofEdits { name := "Holder" } earlyImport).importLines =
      ["import java.util.Map;", "import app.Local;", "import java.util.List;",
        "import java.lang.ref.Cleaner;"] ∧
      (earlyImport = earlyImport.take 3 ++ .importType mixedType :: [.header "h"] ∧
        cleaner ∈ mixedType.preorder ∧
        cleaner.label.IsForeignTo (lastSet? Edit.package? (earlyImport.take 3)) ∧
        (ofEdits { name := "Holder" } earlyImport).importLines.count
          (importLine cleaner.label.name) = 1) := by
  obtain ⟨lines, -, once, -⟩ := importLines_are_first_mentions { name := "Holder" } earlyImport
  have mentioned : cleaner ∈ mixedType.preorder := by decide
  have foreign : cleaner.label.IsForeignTo (lastSet? Edit.package? (earlyImport.take 3)) := by
    decide
  exact ⟨lines.trans (by decide), rfl, mentioned, foreign,
    once (earlyImport.take 3) mixedType [.header "h"] rfl cleaner mentioned foreign⟩

end CompilationUnit

end QuietSource.Package
