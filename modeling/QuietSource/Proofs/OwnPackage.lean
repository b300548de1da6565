/-
# Imports from the package of the unit itself

A class of the unit's own package need not be imported. Whether it is left out is decided when a
type is imported, against the package that the unit has at that moment. So a package that is set
late comes too late for the types imported before it, and this module says exactly when all imports
of a finished unit lie in other packages. No import of a type ever lies in `java.lang`.
-/

import QuietSource.Proofs.ImportList

namespace QuietSource.Package

open Text

theorem Mention.IsIn.unique {mention : Mention} {first second : String}
    (inFirst : mention.IsIn first) (inSecond : mention.IsIn second) : first = second :=
  Option.some.inj ((isIn_iff.mp inFirst).symm.trans (isIn_iff.mp inSecond))

namespace CompilationUnit

/-- No import line names a class in `java.lang` or in the package that the unit declares. -/
def ImportsForeignOnly (compilation : CompilationUnit) : Prop :=
  ∀ name home simple, importLine name ∈ compilation.importLines →
    CutAtLast '.' name home simple → home ≠ "java.lang" ∧ compilation.package ≠ some home

/-- A class of the package that changes lead to is mentioned only by types that are imported while
this package is set, unless the package is `java.lang`. -/
def SetsPackageInTime (edits : List Edit) : Prop :=
  ∀ before type after, edits = before ++ .importType type :: after →
    ∀ node ∈ type.preorder, ∀ home, node.label.IsIn home → home ≠ "java.lang" →
      lastSet? Edit.package? edits = some home → lastSet? Edit.package? before = some home

theorem ne_java_lang_of_imported {decl : ClassDecl} {edits : List Edit}
    (typesOnly : ∀ name, .importName name ∉ edits) {name home simple : String}
    (imported : importLine name ∈ (ofEdits decl edits).importLines)
    (cut : CutAtLast '.' name home simple) : home ≠ "java.lang" := by
  rw [mem_importLines_of_types typesOnly] at imported
  obtain ⟨-, -, -, -, node, -, ⟨other, inOther, notLang, -⟩, rfl⟩ := imported
  rwa [Mention.IsIn.unique ⟨simple, cut⟩ inOther]

theorem importsForeignOnly_iff {decl : ClassDecl} {edits : List Edit}
    (typesOnly : ∀ name, .importName name ∉ edits) :
    (ofEdits decl edits).ImportsForeignOnly ↔ SetsPackageInTime edits := by
  constructor
  · intro foreignOnly before type after split node mentioned home isIn notLang declared
    -- Were another package in force, the class would be imported.
    by_contra notSet
    obtain ⟨simple, cut⟩ := isIn
    have imported : importLine node.label.name ∈ (ofEdits decl edits).importLines := by
      rw [mem_importLines_of_types typesOnly]
      exact ⟨before, type, after, split, node, mentioned, ⟨home, ⟨simple, cut⟩, notLang, notSet⟩,
        rfl⟩
    have notDeclared := (foreignOnly _ home simple imported cut).2
    rw [package_ofEdits] at notDeclared
    exact notDeclared declared
  · intro inTime name home simple imported cut
    refine ⟨ne_java_lang_of_imported typesOnly imported cut, ?_⟩
    rw [mem_importLines_of_types typesOnly] at imported
    obtain ⟨before, type, after, split, node, mentioned, ⟨other, inOther, notLang, notSet⟩, rfl⟩ :=
      imported
    obtain rfl : home = other := Mention.IsIn.unique ⟨simple, cut⟩ inOther
    rw [package_ofEdits]
    intro declared
    exact notSet (inTime before type after split node mentioned home inOther notLang declared)

/-- If only types are imported, no import line names a class in `java.lang`, and none names a class
in the package of the finished unit exactly if this package was set whenever a type with such a
class was imported. This is so in particular if the package never changes once a type has been
imported. -/
theorem imports_avoid_own_package_iff (decl : ClassDecl) {edits : List Edit}
    (typesOnly : ∀ name, .importName name ∉ edits) :
    (∀ name home simple, importLine name ∈ (ofEdits decl edits).importLines →
      CutAtLast '.' name home simple → home ≠ "java.lang") ∧
    ((ofEdits decl edits).ImportsForeignOnly ↔ SetsPackageInTime edits) ∧
    ((∀ before type after, edits = before ++ .importType type :: after →
        lastSet? Edit.package? before = lastSet? Edit.package? edits) →
      (ofEdits decl edits).ImportsForeignOnly) := by
  refine ⟨fun _ _ _ => ne_java_lang_of_imported typesOnly, importsForeignOnly_iff typesOnly, ?_⟩
  intro settled
  rw [importsForeignOnly_iff typesOnly]
  intro before type after split node mentioned home isIn notLang declared
  rw [settled before type after split, declared]

/-- A history that sets the package first and then imports a type with a class of it. -/
def packageFirst : List Edit :=
  [.package "lost", .package "app", .importType mixedType]

theorem imports_of_packageFirst :
    ((∀ name, .importName name ∉ packageFirst) ∧
      ∀ before type after, packageFirst = before ++ .importType type :: after →
        lastSet? Edit.package? before = lastSet? Edit.package? packageFirst) ∧
      (ofEdits { name := "Holder" } packageFirst).ImportsForeignOnly ∧
      (ofEdits { name := "Holder" } packageFirst).importLines =
        ["import java.util.List;", "import java.lang.ref.Cleaner;"] := by
  have typesOnly : ∀ name, .importName name ∉ packageFirst := by simp [packageFirst]
  have settled : ∀ before type after, packageFirst = before ++ .importType type :: after →
      lastSet? Edit.package? before = lastSet? Edit.package? packageFirst := by
    intro before type after split
    -- The type is imported last.
    rcases before with _ | ⟨first, _ | ⟨second, _ | ⟨third, more⟩⟩⟩ <;>
      simp [packageFirst] at split
    rw [← split.1, ← split.2.1]
    rfl
  obtain ⟨-, -, foreignOnly⟩ := imports_avoid_own_package_iff { name := "Holder" } typesOnly
  exact ⟨⟨typesOnly, settled⟩, foreignOnly settled, (importLines_eq _ _).trans (by decide)⟩

/-- A history that sets the package after it has imported a class of it. -/
def packageLast : List Edit :=
  [.importType (.leaf { name := "app.Local" }), .package "app"]

/-- A package that is set late does not take back the imports from it. -/
theorem packageLast_imports_own_package :
    (∀ name, .importName name ∉ packageLast) ∧
      ¬ (ofEdits { name := "Holder" } packageLast).ImportsForeignOnly ∧
      (ofEdits { name := "Holder" } packageLast).text =
        "package app;\n\nimport app.Local;\n\npublic class Holder \x7b\n\x7d\n" := by
  refine ⟨by simp [packageLast], ?_, ?_⟩
  · intro foreignOnly
    have imported : importLine "app.Local" ∈
        (ofEdits { name := "Holder" } packageLast).importLines := by
      rw [mem_importLines]
      decide
    have cut : CutAtLast '.' "app.Local" "app" "Local" := ⟨by decide, by decide⟩
    exact (foreignOnly "app.Local" "app" "Local" imported cut).2 rfl
  · rw [text_ofEdits, sectionTexts, importedNames_eq_contributions]
    decide

end CompilationUnit

end QuietSource.Package
