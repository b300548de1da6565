/-
# Lint names

A lint is named by an identifier, or by two identifiers with `::` between them when it belongs to
a tool. An identifier is made of ASCII letters, digits and underscores, does not start with a
digit, and is none of the words that the language keeps for itself.
-/

namespace QuietSource.Lint

/-- The words that are no identifiers, a lone underscore among them. -/
def keywords : List String :=
  ["_", "as", "async", "await", "break", "const", "continue", "crate", "dyn", "else", "enum",
    "extern", "false", "fn", "for", "if", "impl", "in", "let", "loop", "match", "mod", "move",
    "mut", "pub", "ref", "return", "self", "Self", "static", "struct", "super", "trait", "true",
    "type", "unsafe", "use", "where", "while"]

/-- Whether a character may start an identifier. -/
def isIdentStart (c : Char) : Bool :=
  c.isAlpha || c == '_'

/-- Whether a character may stand inside an identifier. -/
def isIdentChar (c : Char) : Bool :=
  c.isAlphanum || c == '_'

/-- Whether characters form an identifier. -/
def isIdent : List Char → Bool
  | [] => false
  | first :: rest =>
    isIdentStart first && rest.all isIdentChar &&
      !keywords.contains (String.ofList (first :: rest))

/-- Cut at the first `::`: the characters before it, and those behind it if it is there. -/
def cutSegment : List Char → List Char × Option (List Char)
  | [] => ([], none)
  | ':' :: ':' :: rest => ([], some rest)
  | c :: rest => (cutSegment rest).map (c :: ·) id

/-- The segments of a name between the occurrences of `::`, which are found from left to right. They
are taken one after the other, and none is left once the last one has been taken. -/
structure Segments where
  /-- The characters of the segments that are left, if any are. -/
  chars? : Option (List Char)

namespace Segments

/-- All segments of a name. -/
def ofName (text : String) : Segments :=
  ⟨some text.toList⟩

/-- Take the next segment. -/
def next? (segments : Segments) : Option (List Char × Segments) :=
  segments.chars?.map fun chars => (cutSegment chars).map id Segments.mk

/-- Take at most `count` segments as long as they pass a test, and tell whether all of them have
passed. A segment that fails has been taken, and no other one is taken after it. -/
def takeAll (test : List Char → Bool) : (count : Nat) → Segments → Bool × Segments
  | 0, segments => (true, segments)
  | count + 1, segments =>
    match segments.next? with
    | none => (true, segments)
    | some (segment, others) => if test segment then takeAll test count others else (false, others)

end Segments

/-- Whether a text can name a lint: its first two segments are identifiers, as far as it has them,
and no segment is left behind them. -/
def isName (text : String) : Bool :=
  let (passed, others) := (Segments.ofName text).takeAll isIdent 2
  passed && others.next?.isNone

end QuietSource.Lint
