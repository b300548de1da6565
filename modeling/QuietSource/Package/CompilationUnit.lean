/-
# Compilation units

A generated Java file holds one class. Before it stand, as far as they are there, a header, the
package and the imports, each a section of its own with an empty line between each two.

Importing a type imports every class that the type mentions, unless the class has no package, is
in `java.lang`, or is in the package that the unit has been given *so far*. No class is imported
twice. The unit's path has a directory for each part of its package.
-/

import QuietSource.Code.Sections
import QuietSource.Files.FileTree
import QuietSource.Ordered.Set
import QuietSource.Package.ClassDecl
import QuietSource.Package.ClassType

namespace QuietSource.Package

open Code Files

/-- A compilation unit. -/
structure CompilationUnit where
  header : Option String := none
  package : Option String := none
  imports : OrderedSet String := .empty
  decl : ClassDecl

namespace CompilationUnit

/-- Whether a mentioned class has to be imported into a package. -/
def needsImport (package : Option String) (mention : Mention) : Bool :=
  match mention.package? with
  | none => false
  | some home => home != "java.lang" && package != some home

/-- The names that importing a type brings in, in the order of the type's walk. -/
def importsOfType (package : Option String) (type : ClassType) : List String :=
  (type.labels.filter (needsImport package)).map Mention.name

/-- A change to a unit. -/
inductive Edit
  /-- Set the header. -/
  | header (text : String)
  /-- Set the package. -/
  | package (name : String)
  /-- Import a name as it stands. -/
  | importName (name : String)
  /-- Import the classes that a type mentions. -/
  | importType (type : ClassType)

/-- Carry out a change. -/
def edit (compilation : CompilationUnit) : Edit → CompilationUnit
  | .header text => { compilation with header := some text }
  | .package name => { compilation with package := some name }
  | .importName name => { compilation with imports := compilation.imports.insert name }
  | .importType type =>
    { compilation with
      imports := compilation.imports.insertMany (importsOfType compilation.package type) }

/-- The unit for a class that a list of changes leads to. -/
def ofEdits (decl : ClassDecl) (edits : List Edit) : CompilationUnit :=
  edits.foldl edit { decl }

/-- The lines that import names. -/
def importLines (compilation : CompilationUnit) : List String :=
  compilation.imports.toList.map fun name => "import " ++ name ++ ";"

/-- The text of the unit. -/
def text (compilation : CompilationUnit) : String :=
  let headed := SectionWriter.headed .java compilation.header
  let placed :=
    match compilation.package with
    | some package => headed.next (·.line ("package " ++ package ++ ";"))
    | none => headed
  let opened :=
    if compilation.imports.isEmpty then placed
    else placed.next fun writer => compilation.importLines.foldl Writer.line writer
  (opened.parted.writeAll (fragments compilation.decl)).text

/-- The path of the unit below a source directory. -/
def path (compilation : CompilationUnit) : String :=
  let directories :=
    match compilation.package with
    | some package => (Text.split '.' package).foldl Path.join ""
    | none => ""
  Path.join directories (compilation.decl.name ++ ".java")

/-- Write the unit below a directory, creating the directories of its package. The answer has the
tree afterwards, and the path of the file if it was written. -/
def writeTo (compilation : CompilationUnit) (tree : FileTree) (directory : String) :
    FileTree × Option String :=
  let path := Path.join directory compilation.path
  match tree.writeDeep path compilation.text.toUTF8 with
  | (written, true) => (written, some path)
  | (left, false) => (left, none)

end CompilationUnit

end QuietSource.Package
