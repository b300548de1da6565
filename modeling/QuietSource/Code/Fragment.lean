/-
# Fragments of code

Declarations are laid out in two steps. They first become fragments, which know lines, blank
lines, documentation and blocks but no indentation; a writer then turns fragments into text. A
fragment's own texts are taken as they are, also when they contain line feeds.
-/

namespace QuietSource.Code

/-- A piece of code without its indentation. -/
inductive Fragment
  /-- One line of code. -/
  | line (text : String)
  /-- An empty line, which is never indented. -/
  | blank
  /-- A body between a header line and a closing line. -/
  | block (header : String) (body : List Fragment) (close : String)
  /-- A documentation comment between comment brackets, on one line. -/
  | javadoc (text : String)
  /-- A documentation comment with a comment mark before each line of its text. -/
  | rustdoc (text : String)

/-- Things that can be laid out as code. -/
class HasFragments (α : Type) where
  /-- The fragments of a thing, from top to bottom. -/
  fragments : α → List Fragment

export HasFragments (fragments)

/-- A list of fragments is laid out as it stands. -/
instance : HasFragments (List Fragment) := ⟨id⟩

/-- Groups of fragments one after the other, each behind an empty line, but the first group only if
other fragments precede it. -/
def spaced (preceded : Bool) (groups : List (List Fragment)) : List Fragment :=
  groups.zipIdx.flatMap fun (group, index) =>
    (if 0 < index || preceded then [.blank] else []) ++ group

end QuietSource.Code
