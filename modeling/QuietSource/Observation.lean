/-
# Observations during generation

While a unit is generated, warnings come to notice by name, through elements that carry marks,
one or several at a time, through statuses that were worked out before, and through types, whose
classes either carry their deprecation themselves or are looked up in a catalogue. An observation
that names a blank category stops there; what it noted before stays, and later observations are
not affected.
-/

import QuietSource.Crate.Catalogue
import QuietSource.Package.ClassType

namespace QuietSource

open Warning

/-- One way in which warnings come to notice. -/
inductive Observation
  /-- Categories by name. -/
  | named (categories : List String)
  /-- An element by what it says about itself. -/
  | element (marks : Deprecation.Flags)
  /-- Several elements by what they say about themselves. -/
  | elements (marks : List Deprecation.Flags)
  /-- Statuses as they are. -/
  | statuses (known : List Deprecation)
  /-- A type whose classes carry their deprecation. -/
  | classType (type : Package.ClassType)
  /-- A type whose paths a catalogue knows. -/
  | pathType (catalogue : Crate.Catalogue) (type : Crate.PathType)

namespace Observation

/-- Enter an observation into a ledger. -/
def enter (ledger : Ledger) : Observation → Ledger × Option NoteError
  | .named categories => ledger.noteAll categories
  | .element marks => (ledger.observe marks.deprecation, none)
  | .elements marks => (ledger.observeAll (marks.map Deprecation.Flags.deprecation), none)
  | .statuses known => (ledger.observeAll known, none)
  | .classType type => (type.observeIn ledger, none)
  | .pathType catalogue type => (catalogue.observeIn type ledger, none)

/-- Enter observations one after the other, whether or not one of them stops early. -/
def run (ledger : Ledger) (observations : List Observation) : Ledger :=
  observations.foldl (fun ledger observation => (observation.enter ledger).1) ledger

/-- The ledger after observations none of which may stop early. -/
def ledgerOf (observations : List Observation) : Except NoteError Ledger :=
  observations.foldlM (fun ledger observation =>
    match observation.enter ledger with
    | (entered, none) => .ok entered
    | (_, some refusal) => .error refusal) Ledger.empty

end Observation

end QuietSource
