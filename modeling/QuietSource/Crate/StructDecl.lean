/-
# Structure declarations

A structure of a Rust crate: documentation, derived traits, attributes and named fields. It and
its fields are public unless told otherwise. Without fields the declaration takes one line.
-/

import QuietSource.Code.Writer
import QuietSource.Crate.Attribute
import QuietSource.Lint.Table

namespace QuietSource.Crate

open Code Warning

/-- A field of a structure. -/
structure StructField where
  name : String
  type : String
  doc : Option String := none
  isPublic : Bool := true

/-- A field with its documentation. -/
instance : HasFragments StructField where
  fragments field :=
    field.doc.toList.map .rustdoc ++
      [.line (visibility field.isPublic ++ field.name ++ ": " ++ field.type ++ ",")]

/-- A structure. -/
structure StructDecl where
  name : String
  doc : Option String := none
  derives : List String := []
  attributes : List Attribute := []
  fields : List StructField := []
  isPublic : Bool := true

namespace StructDecl

/-- The line that derives traits, if there are any to derive. -/
def deriveLine (decl : StructDecl) : List Fragment :=
  if decl.derives.isEmpty then []
  else [.line ("#[derive(" ++ String.intercalate ", " decl.derives ++ ")]")]

/-- What stands before the declaration itself. -/
def preamble (decl : StructDecl) : List Fragment :=
  decl.doc.toList.map .rustdoc ++ decl.deriveLine ++ decl.attributes.map Attribute.line

/-- The declaration itself. -/
def definition (decl : StructDecl) : Fragment :=
  let opening := visibility decl.isPublic ++ "struct " ++ decl.name ++ " \x7b"
  if decl.fields.isEmpty then .line (opening ++ "\x7d")
  else .block opening (decl.fields.flatMap fragments) "\x7d"

instance : HasFragments StructDecl where
  fragments decl := decl.preamble ++ [decl.definition]

instance : HasAttributes StructDecl where
  addAttribute attr decl := { decl with attributes := decl.attributes ++ [attr] }

/-- A directive reaches a structure through the standard lint table. -/
instance : Silenceable StructDecl := ⟨Lint.Table.standard.permit⟩

/-- The structure as it stands alone. -/
def text (decl : StructDecl) : String :=
  Code.render .rust decl

/-- A change to a structure. -/
inductive Edit
  /-- Set the documentation. -/
  | doc (text : String)
  /-- Derive one more trait. -/
  | derive (traitName : String)
  /-- Add an attribute. -/
  | attribute (attr : Attribute)
  /-- Add a field. -/
  | field (field : StructField)
  /-- Make the structure private. -/
  | makePrivate
  /-- Silence the warnings in a ledger. -/
  | silence (ledger : Ledger)
  /-- Silence the warnings in a ledger through a lint table. -/
  | silenceThrough (table : Lint.Table) (ledger : Ledger)

/-- Carry out a change. -/
def edit (decl : StructDecl) : Edit → StructDecl
  | .doc text => { decl with doc := some text }
  | .derive traitName => { decl with derives := decl.derives ++ [traitName] }
  | .attribute attr => addAttribute attr decl
  | .field field => { decl with fields := decl.fields ++ [field] }
  | .makePrivate => { decl with isPublic := false }
  | .silence ledger => ledger.silence decl
  | .silenceThrough table ledger => Lint.silenceThrough table ledger decl

/-- The structure of a name that a list of changes leads to. -/
def ofEdits (name : String) (edits : List Edit) : StructDecl :=
  edits.foldl edit { name }

end StructDecl

end QuietSource.Crate
