/-
# Writing a file section by section

The parts of a file are written one after the other, while the sections that have been written are
counted. Where a section follows others, an empty line goes out before it; what counts is that there
have been sections, not that they had any text.
-/

import QuietSource.Code.Writer

namespace QuietSource.Code

/-- A file in the making. -/
structure SectionWriter where
  /-- What has been written. -/
  writer : Writer
  /-- How many sections have been written. -/
  count : Nat

namespace SectionWriter

/-- A file that begins with the lines of a header, if it has one. -/
def headed (unit : Indent) : Option String → SectionWriter
  | some header => ⟨(Text.lines header).foldl Writer.line (.new unit), 1⟩
  | none => ⟨.new unit, 0⟩

/-- The writer where a section begins: behind an empty line, if there have been sections. -/
def parted (state : SectionWriter) : Writer :=
  if 0 < state.count then state.writer.blank else state.writer

/-- Write one more section. -/
def next (state : SectionWriter) (write : Writer → Writer) : SectionWriter :=
  ⟨write state.parted, state.count + 1⟩

end SectionWriter

end QuietSource.Code
