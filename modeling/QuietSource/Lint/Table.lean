/-
# Lint tables

Categories of warning are the same for every language, while Rust allows lints by names of its
own. A table says for some categories which lints they stand for, perhaps none. A category that
the table does not list stands for the lint of its own name, if it can name one, and for nothing
otherwise.

The standard table sends both deprecation categories to the lint `deprecated` and drops the
categories that only make sense for Java.
-/

import QuietSource.Crate.Attribute
import QuietSource.Lint.Name
import QuietSource.Ordered.Map
import QuietSource.Ordered.Set
import QuietSource.Warning.Ledger

namespace QuietSource.Lint

open Warning Crate

/-- The lints that categories stand for. -/
structure Table where
  entries : OrderedMap String (List String)

/-- The categories without a counterpart among the lints. -/
def droppedCategories : List String :=
  ["cast", "divzero", "empty", "fallthrough", "finally", "overrides", "rawtypes", "serial",
    "static", "try", "unchecked", "varargs"]

namespace Table

/-- The table that lists no category. -/
def empty : Table := ⟨.empty⟩

/-- The table with a category listed. Lints it was listed with before are replaced. -/
def insert (table : Table) (category : String) (lints : List String) : Table :=
  ⟨table.entries.insert category lints⟩

/-- The table with several categories listed. -/
def insertMany (table : Table) (entries : List (String × List String)) : Table :=
  entries.foldl (fun table entry => table.insert entry.1 entry.2) table

/-- The table for the lints of the Rust compiler. -/
def standard : Table :=
  empty.insertMany
    ([(deprecationCategory, ["deprecated"]), (removalCategory, ["deprecated"])] ++
      droppedCategories.map fun category => (category, []))

instance : Inhabited Table := ⟨standard⟩

instance : BEq Table where
  beq first second := first.entries == second.entries

/-- The lints that a category stands for. -/
def lintsFor (table : Table) (category : String) : List String :=
  match table.entries.get? category with
  | some lints => lints
  | none => if isName category then [category] else []

/-- The lints that a directive stands for, each once, in the order of first mention. -/
def lintsOf (table : Table) (directive : Directive) : List String :=
  (OrderedSet.ofList (directive.categories.flatMap table.lintsFor)).toList

/-- The allowance that a directive stands for. There is none if no lint is left. -/
def allowance? (table : Table) (directive : Directive) : Option Allowance :=
  Allowance.ofLints? (table.lintsOf directive)

/-- Give an item the allowance that a directive stands for, if there is one. -/
def permit {τ : Type} [HasAttributes τ] (table : Table) (directive : Directive) (item : τ) : τ :=
  match table.allowance? directive with
  | some allowance => addAttribute (.allow allowance) item
  | none => item

end Table

/-- An item together with the table through which directives reach it. -/
structure Target (τ : Type) where
  table : Table
  item : τ

instance {τ : Type} [HasAttributes τ] : Silenceable (Target τ) where
  attach directive target := { target with item := target.table.permit directive target.item }

/-- Attach a ledger's directive to an item through a table. -/
def silenceThrough {τ : Type} [HasAttributes τ] (table : Table) (ledger : Ledger) (item : τ) : τ :=
  (ledger.silence (Target.mk table item)).item

end QuietSource.Lint
