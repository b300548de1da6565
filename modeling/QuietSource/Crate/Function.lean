/-
# Functions

A function of a Rust crate: documentation, attributes, the signature and the lines of the body.
It is public and returns nothing unless told otherwise. A parameter without a type is written as
its name alone, which is how a receiver is given.

Functions are put together by edits, which are carried out in their order.
-/

import QuietSource.Code.Writer
import QuietSource.Crate.Attribute
import QuietSource.Lint.Table

namespace QuietSource.Crate

open Code Warning

/-- A parameter of a function. -/
structure Parameter where
  name : String
  type : String

/-- The parameter as it is written. -/
def Parameter.text (parameter : Parameter) : String :=
  if parameter.type.isEmpty then parameter.name else parameter.name ++ ": " ++ parameter.type

/-- A function. -/
structure Function where
  name : String
  doc : Option String := none
  attributes : List Attribute := []
  isPublic : Bool := true
  parameters : List Parameter := []
  returns : Option String := none
  body : List String := []

namespace Function

/-- The line that opens the function. -/
def signature (function : Function) : String :=
  visibility function.isPublic ++ "fn " ++ function.name ++ "(" ++
    String.intercalate ", " (function.parameters.map Parameter.text) ++ ")" ++
    (match function.returns with
      | some type => " -> " ++ type
      | none => "") ++ " \x7b"

/-- What stands before the function itself. -/
def preamble (function : Function) : List Fragment :=
  function.doc.toList.map .rustdoc ++ function.attributes.map Attribute.line

/-- The function itself. -/
def definition (function : Function) : Fragment :=
  .block function.signature (function.body.map .line) "\x7d"

instance : HasFragments Function where
  fragments function := function.preamble ++ [function.definition]

instance : HasAttributes Function where
  addAttribute attr function := { function with attributes := function.attributes ++ [attr] }

/-- A directive reaches a function through the standard lint table. -/
instance : Silenceable Function := ⟨Lint.Table.standard.permit⟩

/-- The function as it stands alone. -/
def text (function : Function) : String :=
  Code.render .rust function

/-- A change to a function. -/
inductive Edit
  /-- Set the documentation. -/
  | doc (text : String)
  /-- Add an attribute. -/
  | attribute (attr : Attribute)
  /-- Make the function private. -/
  | makePrivate
  /-- Add a parameter. -/
  | parameter (parameter : Parameter)
  /-- Set the type of the result. -/
  | returns (type : String)
  /-- Add a line to the body. -/
  | bodyLine (line : String)
  /-- Add the lines of a text to the body. -/
  | body (content : String)
  /-- Silence the warnings in a ledger. -/
  | silence (ledger : Ledger)
  /-- Silence the warnings in a ledger through a lint table. -/
  | silenceThrough (table : Lint.Table) (ledger : Ledger)

/-- Carry out a change. -/
def edit (function : Function) : Edit → Function
  | .doc text => { function with doc := some text }
  | .attribute attr => addAttribute attr function
  | .makePrivate => { function with isPublic := false }
  | .parameter parameter => { function with parameters := function.parameters ++ [parameter] }
  | .returns type => { function with returns := some type }
  | .bodyLine line => { function with body := function.body ++ [line] }
  | .body content => { function with body := function.body ++ Text.lines content }
  | .silence ledger => ledger.silence function
  | .silenceThrough table ledger => Lint.silenceThrough table ledger function

/-- The function of a name that a list of changes leads to. -/
def ofEdits (name : String) (edits : List Edit) : Function :=
  edits.foldl edit { name }

end Function

end QuietSource.Crate
