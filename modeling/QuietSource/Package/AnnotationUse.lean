/-
# Annotations

An annotation of a Java declaration: a name, and a value in parentheses if it has one. A
suppression directive becomes the annotation that Java keeps for this.
-/

import QuietSource.Code.Fragment
import QuietSource.Warning.Directive

namespace QuietSource.Package

open Code Warning

/-- An annotation. -/
structure AnnotationUse where
  name : String
  value : Option String := none
  deriving DecidableEq

namespace AnnotationUse

/-- The annotation with a value, in place of the one it had. -/
def withValue (mark : AnnotationUse) (value : String) : AnnotationUse :=
  { mark with value := some value }

/-- The mark of a deprecated declaration. -/
def deprecated : AnnotationUse := { name := "Deprecated" }

/-- The mark of a declaration that will be removed. -/
def deprecatedForRemoval : AnnotationUse := deprecated.withValue "forRemoval = true"

/-- A suppression directive as an annotation. -/
def ofDirective (directive : Directive) : AnnotationUse where
  name := "SuppressWarnings"
  value := some directive.text

/-- The annotation as it is written. -/
def text (mark : AnnotationUse) : String :=
  match mark.value with
  | some value => "@" ++ mark.name ++ "(" ++ value ++ ")"
  | none => "@" ++ mark.name

/-- The line that an annotation takes before its declaration. -/
def line (mark : AnnotationUse) : Fragment :=
  .line mark.text

end AnnotationUse

/-- The words before a declaration, each followed by a space. -/
def modifierText (modifiers : List String) : String :=
  let words := String.intercalate " " modifiers
  if words.isEmpty then "" else words ++ " "

end QuietSource.Package
