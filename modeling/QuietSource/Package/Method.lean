/-
# Methods

A method of a Java class: documentation, annotations, the signature and the lines of the body. It
is public and returns nothing unless told otherwise.
-/

import QuietSource.Code.Writer
import QuietSource.Package.AnnotationUse
import QuietSource.Warning.Ledger

namespace QuietSource.Package

open Code Warning

/-- A parameter of a method. -/
structure Parameter where
  type : String
  name : String

/-- The parameter as it is written. -/
def Parameter.text (parameter : Parameter) : String :=
  parameter.type ++ " " ++ parameter.name

/-- A method. -/
structure Method where
  name : String
  doc : Option String := none
  annotations : List AnnotationUse := []
  modifiers : List String := ["public"]
  returns : String := "void"
  parameters : List Parameter := []
  body : List String := []

namespace Method

/-- The line that opens the method. -/
def signature (method : Method) : String :=
  modifierText method.modifiers ++ method.returns ++ " " ++ method.name ++ "(" ++
    String.intercalate ", " (method.parameters.map Parameter.text) ++ ") \x7b"

/-- What stands before the method itself. -/
def preamble (method : Method) : List Fragment :=
  method.doc.toList.map .javadoc ++ method.annotations.map AnnotationUse.line

/-- The method itself. -/
def definition (method : Method) : Fragment :=
  .block method.signature (method.body.map .line) "\x7d"

instance : HasFragments Method where
  fragments method := method.preamble ++ [method.definition]

instance : Silenceable Method where
  attach directive method :=
    { method with annotations := method.annotations ++ [.ofDirective directive] }

/-- The method as it stands alone. -/
def text (method : Method) : String :=
  Code.render .java method

/-- A change to a method. -/
inductive Edit
  /-- Set the documentation. -/
  | doc (text : String)
  /-- Add an annotation. -/
  | annotate (mark : AnnotationUse)
  /-- Set the words before the type of the result. -/
  | modifiers (words : List String)
  /-- Set the type of the result. -/
  | returns (type : String)
  /-- Add a parameter. -/
  | parameter (parameter : Parameter)
  /-- Add a line to the body. -/
  | bodyLine (line : String)
  /-- Add the lines of a text to the body. -/
  | body (content : String)
  /-- Silence the warnings in a ledger. -/
  | silence (ledger : Ledger)

/-- Carry out a change. -/
def edit (method : Method) : Edit → Method
  | .doc text => { method with doc := some text }
  | .annotate mark => { method with annotations := method.annotations ++ [mark] }
  | .modifiers words => { method with modifiers := words }
  | .returns type => { method with returns := type }
  | .parameter parameter => { method with parameters := method.parameters ++ [parameter] }
  | .bodyLine line => { method with body := method.body ++ [line] }
  | .body content => { method with body := method.body ++ Text.lines content }
  | .silence ledger => ledger.silence method

/-- The method of a name that a list of changes leads to. -/
def ofEdits (name : String) (edits : List Edit) : Method :=
  edits.foldl edit { name }

end Method

end QuietSource.Package
