/-
# Class declarations

A Java class: documentation, annotations, fields and methods. The fields take one line each; every
method has an empty line before it unless it is the first member of the class.
-/

import QuietSource.Package.Method

namespace QuietSource.Package

open Code Warning

/-- A field of a class. -/
structure ClassField where
  type : String
  name : String
  modifiers : List String := ["private", "final"]
  init : Option String := none

/-- The field as it is written. -/
def ClassField.text (field : ClassField) : String :=
  modifierText field.modifiers ++ field.type ++ " " ++ field.name ++
    (match field.init with
      | some init => " = " ++ init
      | none => "") ++ ";"

/-- A class. -/
structure ClassDecl where
  name : String
  doc : Option String := none
  annotations : List AnnotationUse := []
  fields : List ClassField := []
  methods : List Method := []

namespace ClassDecl

/-- The line that opens the class. -/
def header (decl : ClassDecl) : String :=
  "public class " ++ decl.name ++ " \x7b"

/-- The members of the class, first the fields and then the methods. -/
def members (decl : ClassDecl) : List Fragment :=
  (decl.fields.map fun field => .line field.text) ++
    spaced (!decl.fields.isEmpty) (decl.methods.map fragments)

/-- What stands before the class itself. -/
def preamble (decl : ClassDecl) : List Fragment :=
  decl.doc.toList.map .javadoc ++ decl.annotations.map AnnotationUse.line

/-- The class itself. -/
def definition (decl : ClassDecl) : Fragment :=
  .block decl.header decl.members "\x7d"

instance : HasFragments ClassDecl where
  fragments decl := decl.preamble ++ [decl.definition]

instance : Silenceable ClassDecl where
  attach directive decl :=
    { decl with annotations := decl.annotations ++ [.ofDirective directive] }

/-- The class as it stands alone. -/
def text (decl : ClassDecl) : String :=
  Code.render .java decl

/-- A change to a class. -/
inductive Edit
  /-- Set the documentation. -/
  | doc (text : String)
  /-- Add an annotation. -/
  | annotate (mark : AnnotationUse)
  /-- Add a field. -/
  | field (field : ClassField)
  /-- Add a method. -/
  | method (method : Method)
  /-- Silence the warnings in a ledger. -/
  | silence (ledger : Ledger)

/-- Carry out a change. -/
def edit (decl : ClassDecl) : Edit → ClassDecl
  | .doc text => { decl with doc := some text }
  | .annotate mark => { decl with annotations := decl.annotations ++ [mark] }
  | .field field => { decl with fields := decl.fields ++ [field] }
  | .method method => { decl with methods := decl.methods ++ [method] }
  | .silence ledger => ledger.silence decl

/-- The class of a name that a list of changes leads to. -/
def ofEdits (name : String) (edits : List Edit) : ClassDecl :=
  edits.foldl edit { name }

end ClassDecl

end QuietSource.Package
