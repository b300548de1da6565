/-
# Statements of a document

A document is a sequence of statements: a header in brackets, which opens a table, and assignments
of a value to a key. Keys have parts with dots between them. The only values read here are lists
of strings and inline tables of such lists, since a lint file has room for nothing else: a number,
a date, a lone string or a list of lists makes the document unfit wherever it stands, and so does
a header for an array of tables.
-/

import QuietSource.Document.StringToken

namespace QuietSource.Document

open Text

/-- The parts of a key. -/
abbrev Key := List String

/-- A list of strings with their places. -/
abbrev Strings := List (Located String)

/-- What a key can be set to. -/
inductive Value
  | strings (strings : Strings)
  | table (assignments : List (Key × Strings))

/-- A statement of a document. -/
inductive Statement
  | header (key : Key)
  | assign (key : Key) (value : Value)

/-- Whether a character may stand in a key without quotes. -/
def isBareChar (c : Char) : Bool :=
  c.isAlphanum || c == '_' || c == '-'

/-- Read one part of a key. -/
def keyPart? : List Char → Option (String × List Char)
  | '"' :: rest => (basicBody rest).map fun (part, rest) => (String.ofList part, rest)
  | '\'' :: rest => (literalBody rest).map fun (part, rest) => (String.ofList part, rest)
  | chars =>
    match chars.span isBareChar with
    | ([], _) => none
    | (part, rest) => some (String.ofList part, rest)

/-- Read a key with at most `limit` parts. Spaces may surround its dots. -/
def keyParts? : (limit : Nat) → List Char → Option (Key × List Char)
  | 0, _ => none
  | limit + 1, chars => do
    let (part, rest) ← keyPart? chars
    match skipSpaces rest with
    | '.' :: rest => do
      let (parts, rest) ← keyParts? limit (skipSpaces rest)
      some (part :: parts, rest)
    | rest => some ([part], rest)

/-- Read a key and the spaces behind it. -/
def key? (chars : List Char) : Option (Key × List Char) :=
  keyParts? (chars.length + 1) chars

/-- Read the strings of a list, at most `limit` of them, and the closing bracket. -/
def listItems? : (limit : Nat) → List Char → Option (Strings × List Char)
  | 0, _ => none
  | limit + 1, chars => do
    match ← skipLayout false chars with
    | ']' :: rest => some ([], rest)
    | chars => do
      let (item, rest) ← string? chars
      match ← skipLayout false rest with
      | ',' :: rest => do
        let (items, rest) ← listItems? limit rest
        some (item :: items, rest)
      | ']' :: rest => some ([item], rest)
      | _ => none

/-- Read a list of strings. -/
def list? : List Char → Option (Strings × List Char)
  | '[' :: rest => listItems? (rest.length + 1) rest
  | _ => none

/-- Read a key, an equals sign and the spaces around it. -/
def assignee? (chars : List Char) : Option (Key × List Char) := do
  match ← key? chars with
  | (key, '=' :: rest) => some (key, skipSpaces rest)
  | _ => none

/-- Read a key of an inline table and an equals sign. Unlike outside of one, layout of any kind may
surround the sign. -/
def inlineAssignee? (chars : List Char) : Option (Key × List Char) := do
  let (key, rest) ← key? chars
  match ← skipLayout false rest with
  | '=' :: rest => some (key, ← skipLayout false rest)
  | _ => none

/-- Read the assignments of an inline table, at most `limit` of them, and the closing brace. -/
def inlineItems? :
    (limit : Nat) → List Char → Option (List (Key × Strings) × List Char)
  | 0, _ => none
  | limit + 1, chars => do
    match ← skipLayout false chars with
    | '\x7d' :: rest => some ([], rest)
    | chars => do
      let (key, rest) ← inlineAssignee? chars
      let (strings, rest) ← list? rest
      match ← skipLayout false rest with
      | ',' :: rest => do
        let (items, rest) ← inlineItems? limit rest
        some ((key, strings) :: items, rest)
      | '\x7d' :: rest => some ([(key, strings)], rest)
      | _ => none

/-- Read a value. -/
def value? : List Char → Option (Value × List Char)
  | '\x7b' :: rest =>
    (inlineItems? (rest.length + 1) rest).map fun (items, rest) => (.table items, rest)
  | chars => (list? chars).map fun (strings, rest) => (.strings strings, rest)

/-- Read a header or an assignment, up to the end of its line. -/
def statement? : List Char → Option (Statement × List Char)
  | '[' :: rest => do
    match ← key? (skipSpaces rest) with
    | (key, ']' :: rest) => some (.header key, ← lineEnd rest)
    | _ => none
  | chars => do
    let (key, rest) ← assignee? chars
    let (value, rest) ← value? rest
    some (.assign key value, ← lineEnd rest)

/-- Read statements, at most `limit` of them, up to the end of the document. -/
def statements? : (limit : Nat) → List Char → Option (List Statement)
  | 0, _ => none
  | limit + 1, chars => do
    match ← skipLayout false chars with
    | [] => some []
    | chars => do
      let (statement, rest) ← statement? chars
      let more ← statements? limit rest
      some (statement :: more)

/-- The statements of a document. A byte order mark at its start is passed over, though its bytes
count in places. -/
def statementsOf? (text : String) : Option (List Statement) :=
  match text.toList with
  | '\ufeff' :: rest => statements? (rest.length + 1) rest
  | chars => statements? (chars.length + 1) chars

end QuietSource.Document
