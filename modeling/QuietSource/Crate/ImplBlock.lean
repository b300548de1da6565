/-
# Implementation blocks

A block that implements a type's own functions, or those of a trait for it. It carries attributes
and functions; the functions stand one level deeper, each but the first one behind an empty line.
-/

import QuietSource.Crate.Function

namespace QuietSource.Crate

open Code Warning

/-- An implementation block. -/
structure ImplBlock where
  typeName : String
  traitName : Option String := none
  attributes : List Attribute := []
  functions : List Function := []

namespace ImplBlock

/-- The line that opens the block. -/
def header (block : ImplBlock) : String :=
  match block.traitName with
  | some traitName => "impl " ++ traitName ++ " for " ++ block.typeName ++ " \x7b"
  | none => "impl " ++ block.typeName ++ " \x7b"

/-- What stands before the block itself. -/
def preamble (block : ImplBlock) : List Fragment :=
  block.attributes.map Attribute.line

/-- The block itself. -/
def definition (block : ImplBlock) : Fragment :=
  .block block.header (spaced false (block.functions.map fragments)) "\x7d"

instance : HasFragments ImplBlock where
  fragments block := block.preamble ++ [block.definition]

instance : HasAttributes ImplBlock where
  addAttribute attr block := { block with attributes := block.attributes ++ [attr] }

/-- A directive reaches a block through the standard lint table. -/
instance : Silenceable ImplBlock := ⟨Lint.Table.standard.permit⟩

/-- The block as it stands alone. -/
def text (block : ImplBlock) : String :=
  Code.render .rust block

/-- A change to a block. -/
inductive Edit
  /-- Set the trait that is implemented. -/
  | forTrait (traitName : String)
  /-- Add an attribute. -/
  | attribute (attr : Attribute)
  /-- Add a function. -/
  | function (function : Function)
  /-- Silence the warnings in a ledger. -/
  | silence (ledger : Ledger)
  /-- Silence the warnings in a ledger through a lint table. -/
  | silenceThrough (table : Lint.Table) (ledger : Ledger)

/-- Carry out a change. -/
def edit (block : ImplBlock) : Edit → ImplBlock
  | .forTrait traitName => { block with traitName := some traitName }
  | .attribute attr => addAttribute attr block
  | .function function => { block with functions := block.functions ++ [function] }
  | .silence ledger => ledger.silence block
  | .silenceThrough table ledger => Lint.silenceThrough table ledger block

/-- The block for a type that a list of changes leads to. -/
def ofEdits (typeName : String) (edits : List Edit) : ImplBlock :=
  edits.foldl edit { typeName }

end ImplBlock

end QuietSource.Crate
