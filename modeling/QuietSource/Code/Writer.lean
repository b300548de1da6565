/-
# Writing fragments as text

A writer holds the text written so far and the current nesting level. Lines go out with one unit
of indentation for each level, and a block raises the level for its body. Writing only ever adds
to the text, and every fragment leaves the level where it was.
-/

import QuietSource.Code.Fragment
import QuietSource.Code.Indent
import QuietSource.Text.Blank
import QuietSource.Text.Lines

namespace QuietSource.Code

/-- Text in the making. -/
structure Writer where
  /-- What one level is indented by. -/
  unit : Indent
  /-- The level at which the next line goes out. -/
  level : Nat
  /-- What has been written. -/
  text : String

namespace Writer

/-- A writer that has written nothing yet. -/
def new (unit : Indent) : Writer := ⟨unit, 0, ""⟩

/-- The indentation of a level. -/
def indentation (unit : Indent) (level : Nat) : String :=
  String.join (List.replicate level unit.text)

/-- Write a line at the current level. An empty line is indented too. -/
def line (writer : Writer) (text : String) : Writer :=
  { writer with text := writer.text ++ indentation writer.unit writer.level ++ text ++ "\n" }

/-- Write an empty line without indentation. -/
def blank (writer : Writer) : Writer :=
  { writer with text := writer.text ++ "\n" }

/-- Write a documentation comment on one line. -/
def javadoc (writer : Writer) (text : String) : Writer :=
  writer.line ("/** " ++ text ++ " */")

/-- A line of documentation behind its comment mark, without blanks at the end. -/
def rustdocLine (line : String) : String :=
  Text.trimEnd ("/// " ++ line)

/-- Write a documentation comment line by line. -/
def rustdoc (writer : Writer) (text : String) : Writer :=
  (Text.lines text).foldl (fun writer line => writer.line (rustdocLine line)) writer

/-- Go one level deeper. -/
def deeper (writer : Writer) : Writer :=
  { writer with level := writer.level + 1 }

/-- Come back one level. -/
def shallower (writer : Writer) : Writer :=
  { writer with level := writer.level - 1 }

mutual

/-- Write one fragment. -/
def write (writer : Writer) : Fragment → Writer
  | .line text => writer.line text
  | .blank => writer.blank
  | .block header body close =>
    ((writer.line header).deeper.writeAll body).shallower.line close
  | .javadoc text => writer.javadoc text
  | .rustdoc text => writer.rustdoc text

/-- Write fragments from top to bottom. -/
def writeAll (writer : Writer) : List Fragment → Writer
  | [] => writer
  | fragment :: rest => (writer.write fragment).writeAll rest

end

/-- Write whatever can be laid out. -/
def emit {α : Type} [HasFragments α] (writer : Writer) (node : α) : Writer :=
  writer.writeAll (fragments node)

end Writer

/-- The text of a thing that stands alone. -/
def render {α : Type} [HasFragments α] (unit : Indent) (node : α) : String :=
  ((Writer.new unit).emit node).text

end QuietSource.Code
