/-
# Suppression directives

A directive tells a compiler which categories of warning to keep quiet about. It names one
category, or a list of them, and the two forms are written differently: a lone category is a
string literal, a list stands between braces. The form is part of the directive, so the list of
one category differs from that category alone.
-/

import QuietSource.Text.Quoted

namespace QuietSource.Warning

/-- The categories that a directive silences. -/
inductive Directive
  | single (category : String)
  | list (categories : List String)
  deriving DecidableEq

namespace Directive

/-- The directive for a list of categories: none for no category, and the bare form for one. -/
def ofCategories? : List String → Option Directive
  | [] => none
  | [category] => some (.single category)
  | categories => some (.list categories)

/-- The categories in the order in which they are written. -/
def categories : Directive → List String
  | .single category => [category]
  | .list categories => categories

/-- Whether the directive has the bare form. -/
def isSingle : Directive → Bool
  | .single _ => true
  | .list _ => false

/-- The directive as it is written in source code. -/
def text : Directive → String
  | .single category => Text.literal category
  | .list categories => "\x7b " ++ String.intercalate ", " (categories.map Text.literal) ++ " \x7d"

/-- A directive made from categories has just these. -/
theorem categories_of_ofCategories? {categories : List String} {directive : Directive}
    (h : ofCategories? categories = some directive) : directive.categories = categories := by
  match categories with
  | [] => simp [ofCategories?] at h
  | [category] =>
    simp only [ofCategories?, Option.some.injEq] at h
    subst h
    rfl
  | first :: second :: rest =>
    simp only [ofCategories?, Option.some.injEq] at h
    subst h
    rfl

theorem ofCategories?_eq_none_iff (categories : List String) :
    ofCategories? categories = none ↔ categories = [] := by
  match categories with
  | [] => simp [ofCategories?]
  | [category] => simp [ofCategories?]
  | first :: second :: rest => simp [ofCategories?]

/-- The bare form is for one category. -/
theorem isSingle_of_ofCategories? {categories : List String} {directive : Directive}
    (h : ofCategories? categories = some directive) :
    directive.isSingle = true ↔ categories.length = 1 := by
  match categories with
  | [] => simp [ofCategories?] at h
  | [category] =>
    cases h
    simp [isSingle]
  | first :: second :: rest =>
    cases h
    simp [isSingle]

end Directive

/-- Things that a suppression directive can be attached to. -/
class Silenceable (τ : Type) where
  /-- The thing with one more directive attached. -/
  attach : Directive → τ → τ

/-- A plain record of directives takes each one at its end. -/
instance : Silenceable (List Directive) where
  attach directive record := record ++ [directive]

end QuietSource.Warning
