/-
# Source files of a crate

A generated source file has up to three parts: a header, which is text and usually a comment; the
use statements; and the items. Each part that is there is a section, every item one of its own,
and an empty line stands between each two sections, even if a section's text is empty. Items are
laid out when they are added, so later changes to them are not seen.
-/

import QuietSource.Code.Sections
import QuietSource.Files.FileTree

namespace QuietSource.Crate

open Code Files

/-- A use statement: a module, or symbols from it. -/
structure UseStatement where
  moduleName : String
  symbols : List String := []

/-- The statement as it is written. Several symbols stand between braces. -/
def UseStatement.text (statement : UseStatement) : String :=
  match statement.symbols with
  | [] => "use " ++ statement.moduleName ++ ";"
  | [symbol] => "use " ++ statement.moduleName ++ "::" ++ symbol ++ ";"
  | symbols =>
    "use " ++ statement.moduleName ++ "::\x7b" ++ String.intercalate ", " symbols ++ "\x7d;"

instance : HasFragments UseStatement where
  fragments statement := [.line statement.text]

/-- A source file. -/
structure SourceFile where
  header : Option String := none
  uses : List UseStatement := []
  items : List (List Fragment) := []

namespace SourceFile

/-- The text of the file. -/
def text (file : SourceFile) : String :=
  let headed := SectionWriter.headed .rust file.header
  let opened :=
    if file.uses.isEmpty then headed
    else headed.next fun writer => file.uses.foldl Writer.emit writer
  (file.items.foldl (fun state item => state.next (·.writeAll item)) opened).writer.text

/-- Whether the file has no part at all. -/
def isEmpty (file : SourceFile) : Bool :=
  file.header.isNone && file.uses.isEmpty && file.items.isEmpty

/-- A change to a file. -/
inductive Edit
  /-- Set the header. -/
  | header (text : String)
  /-- Add a use statement. -/
  | useStatement (statement : UseStatement)
  /-- Add an item by its fragments. -/
  | item (fragments : List Fragment)

/-- Carry out a change. -/
def edit (file : SourceFile) : Edit → SourceFile
  | .header text => { file with header := some text }
  | .useStatement statement => { file with uses := file.uses ++ [statement] }
  | .item fragments => { file with items := file.items ++ [fragments] }

/-- The file that a list of changes leads to. -/
def ofEdits (edits : List Edit) : SourceFile :=
  edits.foldl edit {}

/-- Write the file. Its directory has to be there. -/
def writeTo? (file : SourceFile) (tree : FileTree) (path : String) : Option FileTree :=
  tree.write? path file.text.toUTF8

end SourceFile

end QuietSource.Crate
