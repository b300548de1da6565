/-
# Catalogues of known items

Rust types do not carry the deprecation of the items they name, so a catalogue keeps it: the path
of each known item with what was last recorded for it. The warnings that a type causes are found
by looking up every path in it, the type's own first and its arguments' from left to right.
-/

import QuietSource.Ordered.Map
import QuietSource.TypeTree
import QuietSource.Warning.Ledger

namespace QuietSource.Crate

open Warning

/-- A type by the paths it is written with. -/
abbrev PathType := TypeTree String

namespace PathType

/-- The type as it is written. -/
def text (type : PathType) : String :=
  TypeTree.print id type

end PathType

/-- An item that the catalogue knows. -/
structure KnownItem where
  path : String
  status : Deprecation

instance : HasDeprecation KnownItem := ⟨fun item => item.status.flags⟩

/-- What is known about items, by their paths. -/
structure Catalogue where
  items : OrderedMap String Deprecation

namespace Catalogue

/-- The catalogue that knows no item. -/
def empty : Catalogue := ⟨.empty⟩

/-- Record an item. A later record for the same path replaces the earlier one. -/
def record (catalogue : Catalogue) (path : String) (status : Deprecation) : Catalogue :=
  ⟨catalogue.items.insert path status⟩

/-- The catalogue after a list of records. -/
def ofRecords (records : List (String × Deprecation)) : Catalogue :=
  records.foldl (fun catalogue entry => catalogue.record entry.1 entry.2) empty

/-- What is known about a path. -/
def lookup? (catalogue : Catalogue) (path : String) : Option KnownItem :=
  (catalogue.items.get? path).map fun status => ⟨path, status⟩

/-- Note the warning that naming a path causes. An unknown path causes none. -/
def observePath (catalogue : Catalogue) (ledger : Ledger) (path : String) : Ledger :=
  match catalogue.lookup? path with
  | some item => ledger.observe (deprecationOf item)
  | none => ledger

/-- Note the warnings that a type causes, in the order of its walk. -/
def observeIn (catalogue : Catalogue) (type : PathType) (ledger : Ledger) : Ledger :=
  type.labels.foldl catalogue.observePath ledger

end Catalogue

end QuietSource.Crate
