/-
# Attributes of items

An item of a Rust crate can carry attributes, which stand in lines of their own before it. Besides
attributes given as text there are two that this library writes itself: the permission to trip
certain lints, which names at least one lint, and the notice that the item is deprecated. The
texts in a notice are quoted, so that a notice is always one line.
-/

import QuietSource.Code.Fragment
import QuietSource.Text.Quoted

namespace QuietSource.Crate

/-- The lints that an item is allowed to trip. -/
structure Allowance where
  /-- The names of the lints. -/
  lints : List String
  /-- There is at least one. -/
  nonempty : lints ≠ []

namespace Allowance

/-- The allowance for one lint. -/
def one (lint : String) : Allowance := ⟨[lint], by simp⟩

/-- The allowance for a list of lints, unless the list is empty. -/
def ofLints? (lints : List String) : Option Allowance :=
  if h : lints = [] then none else some ⟨lints, h⟩

theorem ofLints?_eq_none_iff {lints : List String} : ofLints? lints = none ↔ lints = [] := by
  unfold ofLints?
  split <;> simp_all

/-- The allowance for a list of lints has just these lints. -/
theorem ofLints?_eq_some_iff {lints : List String} {allowance : Allowance} :
    ofLints? lints = some allowance ↔ allowance.lints = lints := by
  constructor
  · intro made
    unfold ofLints? at made
    split at made
    · exact nomatch made
    · obtain rfl := Option.some.inj made
      rfl
  · rintro rfl
    exact dif_neg allowance.nonempty

/-- The attribute text. -/
def text (allowance : Allowance) : String :=
  "allow(" ++ String.intercalate ", " allowance.lints ++ ")"

end Allowance

/-- The notice that an item is deprecated. -/
structure DeprecationNotice where
  /-- The version that deprecated the item. -/
  since : Option String := none
  /-- What users should know. -/
  note : Option String := none
  deriving DecidableEq

namespace DeprecationNotice

/-- A change to a notice. -/
inductive Edit
  | since (version : String)
  | note (note : String)

/-- Carry out a change. What was said before on the same point is replaced. -/
def edit (notice : DeprecationNotice) : Edit → DeprecationNotice
  | .since version => { notice with since := some version }
  | .note note => { notice with note := some note }

/-- The notice that a list of changes leads to. -/
def ofEdits (edits : List Edit) : DeprecationNotice :=
  edits.foldl edit {}

/-- The points that a notice makes, the version first. -/
def points (notice : DeprecationNotice) : List String :=
  (notice.since.toList.map fun version => "since = " ++ Text.escaped version) ++
    notice.note.toList.map fun note => "note = " ++ Text.escaped note

/-- The attribute text, without brackets if there is nothing to say. -/
def text (notice : DeprecationNotice) : String :=
  match notice.points with
  | [] => "deprecated"
  | points => "deprecated(" ++ String.intercalate ", " points ++ ")"

end DeprecationNotice

/-- An attribute of an item. -/
inductive Attribute
  | raw (text : String)
  | allow (allowance : Allowance)
  | deprecated (notice : DeprecationNotice)

namespace Attribute

/-- What stands between the brackets of the attribute. -/
def text : Attribute → String
  | .raw text => text
  | .allow allowance => allowance.text
  | .deprecated notice => notice.text

/-- The line that an attribute takes before its item. -/
def line (attr : Attribute) : Code.Fragment :=
  .line ("#[" ++ attr.text ++ "]")

end Attribute

/-- Things that take attributes. -/
class HasAttributes (τ : Type) where
  /-- The thing with one more attribute, behind those it has. -/
  addAttribute : Attribute → τ → τ

export HasAttributes (addAttribute)

/-- A list of attributes takes one more at its end. -/
instance : HasAttributes (List Attribute) where
  addAttribute attr attrs := attrs ++ [attr]

/-- The word before an item that the rest of the program may see. -/
def visibility (isPublic : Bool) : String :=
  if isPublic then "pub " else ""

end QuietSource.Crate
