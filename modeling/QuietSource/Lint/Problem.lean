/-
# Problems with lint files

Reading a lint file can fail in four ways: the file cannot be read, its text is no lint file, a
lint in it has an impossible name, or it is wrong in some other way. Each way has its wording, and
all but the first also have a code. The lint with the impossible name is pointed at in the source,
and so is the place where the text stops being a lint file, if whoever reads it can tell.
-/

import QuietSource.Text.Source

namespace QuietSource.Lint

open Text

/-- What a reader of documents has against a text. -/
structure Refusal where
  /-- What is wrong, in the reader's own words. -/
  message : String
  /-- Where it is wrong, if the reader can tell. -/
  span : Option Span
  deriving DecidableEq

/-- A refusal that says nothing. -/
def Refusal.wordless : Refusal := ⟨"", none⟩

/-- A source that a reader of documents has refused. -/
structure RefusedSource extends Refusal where
  source : Source

/-- A source can be refused without a word. -/
instance : Coe Source RefusedSource where
  coe source := { Refusal.wordless with source }

/-- Why there is no lint table. -/
inductive Problem
  /-- The file cannot be read as text. -/
  | unreadable (path : String)
  /-- The text is no lint file. -/
  | malformed (refused : RefusedSource)
  /-- A category lists something that cannot name a lint. -/
  | invalidLint (source : Source) (category lint : String) (span : Option Span)
  /-- The lint file says something that makes no sense. -/
  | invalid (source : Source) (reason : String)

namespace Problem

/-- What went wrong, in one line. -/
def message : Problem → String
  | .unreadable path => "failed to read '" ++ path ++ "'"
  | .malformed _ => "failed to parse lint map"
  | .invalidLint _ category lint _ =>
    "invalid lint name '" ++ lint ++ "' for category '" ++ category ++ "'"
  | .invalid _ reason => reason

/-- The code under which the problem can be looked up. -/
def code? : Problem → Option String
  | .unreadable _ => none
  | .malformed _ => some "hush::parse_error"
  | .invalidLint _ _ _ _ => some "hush::invalid_lint"
  | .invalid _ _ => some "hush::validation_error"

/-- Advice on how to mend it. -/
def help? : Problem → Option String
  | .invalidLint _ _ _ _ =>
    some "lint names are identifiers like 'deprecated' or tool lints like 'clippy::all'"
  | _ => none

/-- The text in which the problem lies. -/
def source? : Problem → Option Source
  | .unreadable _ => none
  | .malformed refused => some refused.source
  | .invalidLint source _ _ _ => some source
  | .invalid source _ => some source

/-- What the reader of documents said, if it refused the text. -/
def refusal? : Problem → Option Refusal
  | .malformed refused => some refused.toRefusal
  | _ => none

/-- Remarks on places in the source. -/
def labels : Problem → List (String × Span)
  | .malformed refused => refused.span.toList.map fun span => ("parse error here", span)
  | .invalidLint _ _ _ span => span.toList.map fun span => ("not a lint name", span)
  | .unreadable _ | .invalid _ _ => []

end Problem

end QuietSource.Lint
