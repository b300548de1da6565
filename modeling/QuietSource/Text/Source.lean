/-
# Source texts and places in them

A source text has the name of the file it came from. A place in it is a span, which counts bytes
of UTF-8 from the start of the text. A located value knows its place by what a reader had still
before it and after it, from which the span follows.
-/

namespace QuietSource.Text

/-- A text and the name of its file. -/
structure Source where
  name : String
  text : String
  deriving DecidableEq

/-- A run of bytes in a text. -/
structure Span where
  /-- The bytes before the run. -/
  offset : Nat
  /-- The bytes of the run. -/
  length : Nat
  deriving DecidableEq

/-- The number of bytes that characters take in UTF-8. -/
def byteCount : List Char → Nat
  | [] => 0
  | c :: rest => c.utf8Size + byteCount rest

/-- The number of bytes of a text in UTF-8. -/
def Source.size (source : Source) : Nat :=
  byteCount source.text.toList

/-- A value with what was still to be read of its text before it and after it. -/
structure Located (α : Type) where
  value : α
  before : List Char
  after : List Char

/-- The place of a value in the source that it was read from. -/
def Located.spanIn {α : Type} (located : Located α) (source : Source) : Span where
  offset := source.size - byteCount located.before
  length := byteCount located.before - byteCount located.after

end QuietSource.Text
