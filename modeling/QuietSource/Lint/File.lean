/-
# Lint files

A lint file is a document with at most one table, `lints`, which lists lints under categories. The
table can be written under a header, as an inline table, or by dotted keys; it can be begun only
once, and it has each category only once. The file as a whole must have this form before anything
it says is looked at.

Then the categories are taken in ascending order of their characters, each with its lints in the
order of the list, and replace or extend the standard table. The first category that is blank, or
that lists an impossible lint name, is the one that is reported. For this it does not matter who has
read the file: any reader's entries are merged in the same way, and any reader's refusal is passed
on.
-/

import QuietSource.Document.Statement
import QuietSource.Files.FileTree
import QuietSource.Lint.Problem
import QuietSource.Lint.Table

namespace QuietSource.Lint

open Text Document Warning

/-- The lints listed under a category, with their places. -/
abbrev Entry := String × List (Located String)

namespace File

/-- How the table of lints has been written so far. -/
inductive Form
  /-- Not at all. -/
  | unwritten
  /-- By dotted keys, to which more can be added. -/
  | dotted
  /-- Under its header, where all further assignments belong. -/
  | underHeader
  /-- As an inline table, to which nothing can be added. -/
  | inlineTable
  deriving DecidableEq

/-- The table of lints as far as it has been read. -/
structure Draft where
  form : Form
  entries : List Entry

namespace Draft

/-- The draft before the first statement. -/
def initial : Draft := ⟨.unwritten, []⟩

/-- Add a category, unless it has been listed already. -/
def add (draft : Draft) (category : String) (lints : Strings) : Option Draft :=
  if draft.entries.any (·.1 == category) then none
  else some { draft with entries := draft.entries ++ [(category, lints)] }

/-- Add the categories of an inline table, whose keys must have one part each. -/
def addInline (draft : Draft) (assignments : List (Key × Strings)) : Option Draft :=
  assignments.foldlM (fun draft assignment =>
    match assignment with
    | ([category], lints) => draft.add category lints
    | _ => none) draft

/-- Take in a statement. What has no place in a lint file is refused. -/
def take (draft : Draft) : Statement → Option Draft
  | .header ["lints"] =>
    if draft.form = .unwritten then some { draft with form := .underHeader } else none
  | .assign [category] (.strings lints) =>
    if draft.form = .underHeader then draft.add category lints else none
  | .assign ["lints"] (.table assignments) =>
    if draft.form = .unwritten then { draft with form := .inlineTable }.addInline assignments
    else none
  | .assign ["lints", category] (.strings lints) =>
    if draft.form = .unwritten ∨ draft.form = .dotted then
      { draft with form := .dotted }.add category lints
    else none
  | _ => none

end Draft

/-- The entries of a lint file in the order in which it lists them, or nothing if the text is no
lint file. -/
def listed? (text : String) : Option (List Entry) := do
  let statements ← statementsOf? text
  let draft ← statements.foldlM Draft.take Draft.initial
  some draft.entries

/-- What comes of reading a lint file: its entries in the order in which it lists them, or a
refusal. This reader refuses without a word. -/
def read (text : String) : Except Refusal (List Entry) :=
  match listed? text with
  | some listed => .ok listed
  | none => .error .wordless

/-- Entries in ascending order of their categories. -/
def ascending (entries : List Entry) : List Entry :=
  entries.mergeSort fun first second => decide (first.1 ≤ second.1)

end File

namespace Table

/-- List the entries of a lint file in a table, one after the other. -/
def insertEntries (source : Source) (table : Table) : List Entry → Except Problem Table
  | [] => .ok table
  | (category, lints) :: rest =>
    if isBlank category then .error (.invalid source NoteError.blankCategory.message)
    else
      match lints.find? fun lint => !isName lint.value with
      | some lint => .error (.invalidLint source category lint.value (some (lint.spanIn source)))
      | none => insertEntries source (table.insert category (lints.map Located.value)) rest

/-- A table with what a lint file lists, in whatever order. -/
def merge (source : Source) (table : Table) (listed : List Entry) : Except Problem Table :=
  table.insertEntries source (File.ascending listed)

/-- The standard table with what a reader has made of a lint file. -/
def ofReading (source : Source) : Except Refusal (List Entry) → Except Problem Table
  | .ok listed => standard.merge source listed
  | .error refusal => .error (.malformed { refusal with source })

/-- The standard table with what a lint file says. -/
def ofSource (source : Source) : Except Problem Table :=
  ofReading source (File.read source.text)

/-- The standard table with what a lint file in a tree says. The file must be UTF-8 text. -/
def ofFile (tree : Files.FileTree) (path : String) : Except Problem Table :=
  match (tree.read? path).bind String.fromUTF8? with
  | some text => ofSource ⟨path, text⟩
  | none => .error (.unreadable path)

end Table

end QuietSource.Lint
