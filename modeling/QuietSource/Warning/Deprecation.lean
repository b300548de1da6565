/-
# Deprecation of an element

An element that generated code refers to may be current, deprecated, or deprecated and about to
be removed. Sources of such knowledge state it as two flags, and an element marked for removal
without being marked deprecated counts as current. Each step away from current has its own
category of compiler warning.
-/

import QuietSource.Text.Blank

namespace QuietSource.Warning

/-- The category under which compilers report the use of a deprecated element. -/
def deprecationCategory : String := "deprecation"

/-- The category under which compilers report the use of an element marked for removal. -/
def removalCategory : String := "removal"

/-- How far the deprecation of an element has gone. -/
inductive Deprecation
  | current
  | deprecated
  | forRemoval
  deriving DecidableEq

namespace Deprecation

/-- Nothing is known against an element until something says so. -/
instance : Inhabited Deprecation := ⟨.current⟩

/-- The two marks that a description of an element carries. -/
structure Flags where
  isDeprecated : Bool
  isForRemoval : Bool
  deriving DecidableEq

/-- The deprecation that two marks stand for. A removal mark alone says nothing. -/
def Flags.deprecation : Flags → Deprecation
  | ⟨true, true⟩ => .forRemoval
  | ⟨true, false⟩ => .deprecated
  | ⟨false, _⟩ => .current

/-- The marks of a deprecation. -/
def flags : Deprecation → Flags
  | .current => ⟨false, false⟩
  | .deprecated => ⟨true, false⟩
  | .forRemoval => ⟨true, true⟩

/-- The marks of a deprecation stand for it. -/
@[simp] theorem deprecation_flags (status : Deprecation) : status.flags.deprecation = status := by
  cases status <;> rfl

/-- The warning that using an element causes, if any. -/
def category? : Deprecation → Option String
  | .current => none
  | .deprecated => some deprecationCategory
  | .forRemoval => some removalCategory

/-- The category of a deprecation is not blank. -/
theorem isBlank_of_category? {status : Deprecation} {category : String}
    (h : status.category? = some category) : Text.isBlank category = false := by
  cases status
  · simp [category?] at h
  · simp only [category?, Option.some.injEq] at h
    subst h
    decide
  · simp only [category?, Option.some.injEq] at h
    subst h
    decide

end Deprecation

/-- The kinds of element whose deprecation is known. -/
class HasDeprecation (ε : Type) where
  /-- The marks that an element carries. -/
  flags : ε → Deprecation.Flags

/-- The deprecation of an element, as its marks state it. -/
def deprecationOf {ε : Type} [HasDeprecation ε] (element : ε) : Deprecation :=
  (HasDeprecation.flags element).deprecation

instance : HasDeprecation Deprecation.Flags := ⟨id⟩

instance : HasDeprecation Deprecation := ⟨Deprecation.flags⟩

end QuietSource.Warning
