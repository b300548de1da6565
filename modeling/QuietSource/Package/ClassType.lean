/-
# Class types

A Java type as generated code refers to it: the full name of a class with its deprecation, and
type arguments of the same kind. The part of the name behind its last dot is the simple name, the
part before it the package. Source code writes the simple names, on the understanding that the
classes are imported.
-/

import QuietSource.Text.Split
import QuietSource.TypeTree
import QuietSource.Warning.Ledger

namespace QuietSource.Package

open Warning

/-- A class as a type mentions it. -/
structure Mention where
  /-- The full name. -/
  name : String
  /-- What is known about the class. -/
  status : Deprecation := .current
  deriving DecidableEq

namespace Mention

/-- The name without its package. -/
def simpleName (mention : Mention) : String :=
  Text.afterLast '.' mention.name

/-- The package, if the name has one. -/
def package? (mention : Mention) : Option String :=
  Text.beforeLast? '.' mention.name

end Mention

/-- A type built from classes. -/
abbrev ClassType := TypeTree Mention

namespace ClassType

/-- The type with other knowledge about its own class. -/
def withStatus (status : Deprecation) : ClassType → ClassType
  | .node mention args => .node { mention with status } args

/-- The type with full names. -/
def text (type : ClassType) : String :=
  TypeTree.print Mention.name type

/-- The type with simple names, as source code writes it. -/
def sourceText (type : ClassType) : String :=
  TypeTree.text Mention.simpleName type

/-- Note the warnings that a type causes, in the order of its walk. -/
def observeIn (type : ClassType) (ledger : Ledger) : Ledger :=
  ledger.observeAll (type.labels.map Mention.status)

end ClassType

/-- A type stands for the class at its root. -/
instance : HasDeprecation ClassType := ⟨fun type => type.label.status.flags⟩

end QuietSource.Package
