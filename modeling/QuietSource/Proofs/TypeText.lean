/-
# Texts of types

A type is written in two ways: its text is put together from the texts of its arguments, or it is
printed piece by piece, with the separators told from the positions of the arguments. Both give the
same text behind whatever has been printed, and a type with other labels is written with their
names. Hence the text of a class type with simple names is what printing gives once every full name
in it has been cut down to its simple name. The cut is at the last dot, so that nothing of a name
is lost when its package is taken off.
-/

import QuietSource.Package.ClassType
import QuietSource.Proofs.LastSeparator
import QuietSource.Proofs.Preorder

namespace QuietSource.TypeTree

variable {α β : Type}

mutual

/-- A type with other labels is written with the names of those labels. -/
theorem text_map (relabel : α → β) (name : β → String) : (tree : TypeTree α) →
    (tree.map relabel).text name = tree.text (name ∘ relabel)
  | .node label [] => rfl
  | .node label (first :: rest) => by
    have further := texts_mapAll relabel name (first :: rest)
    rw [mapAll] at further
    rw [map, mapAll, text, text, further]
    rfl

theorem texts_mapAll (relabel : α → β) (name : β → String) : (trees : List (TypeTree α)) →
    texts name (mapAll relabel trees) = texts (name ∘ relabel) trees
  | [] => rfl
  | tree :: rest => by rw [mapAll, texts, texts, text_map relabel name tree, texts_mapAll]

end

/-- Texts that each have a separator before them. -/
def continued (texts : List String) : String :=
  String.join (texts.map (", " ++ ·))

theorem continued_cons (text : String) (rest : List String) :
    continued (text :: rest) = ", " ++ text ++ continued rest := by
  rw [continued, List.map_cons, String.join_cons]
  rfl

theorem intercalate_eq_append_continued (first : String) (rest : List String) :
    String.intercalate ", " (first :: rest) = first ++ continued rest := by
  induction rest generalizing first with
  | nil => exact String.intercalate_singleton.trans String.append_empty.symm
  | cons second rest ih =>
    rw [String.intercalate_cons_cons, ih, continued_cons, String.append_assoc, String.append_assoc]

mutual

/-- Printing puts the text of a type behind what has been printed. -/
theorem printTo_eq (name : α → String) (printed : String) : (tree : TypeTree α) →
    tree.printTo name printed = printed ++ tree.text name
  | .node label [] => rfl
  | .node label (first :: rest) => by
    have inside : printArgs name 0 (printed ++ name label ++ "<") (first :: rest) =
        printed ++ name label ++ "<" ++ first.text name ++ continued (texts name rest) := by
      rw [printArgs, if_neg (Nat.lt_irrefl 0), printTo_eq name _ first,
        printArgs_eq name Nat.one_pos _ rest]
    rw [printTo, if_neg (by simp), inside, text, texts, intercalate_eq_append_continued]
    simp only [String.append_assoc]

/-- Behind the first argument, the others are printed each with a separator before it. -/
theorem printArgs_eq (name : α → String) {index : Nat} (later : 0 < index) (printed : String) :
    (args : List (TypeTree α)) →
      printArgs name index printed args = printed ++ continued (texts name args)
  | [] => String.append_empty.symm
  | arg :: rest => by
    rw [printArgs, if_pos later, printArgs_eq name (Nat.succ_pos index) _ rest,
      printTo_eq name _ arg, texts, continued_cons]
    simp only [String.append_assoc]

end

theorem print_eq_text (name : α → String) (tree : TypeTree α) :
    tree.print name = tree.text name := by
  rw [print, printTo_eq, String.empty_append]

end QuietSource.TypeTree

namespace QuietSource.Package

open Text

/-- The class under its simple name alone. -/
def Mention.simplified (mention : Mention) : Mention :=
  { mention with name := mention.simpleName }

/-- The type with every class in it under its simple name alone. -/
def ClassType.simplified (type : ClassType) : ClassType :=
  type.map Mention.simplified

/-- What source code writes for a type is what printing gives for the type with every name in it, at
whatever depth, cut down to its simple name. A simple name has no dot in it, and a name has a
package exactly if it is the package, a dot and the simple name; it has none exactly if it is its
simple name. -/
theorem ClassType.sourceText_prints_simple_names :
    (∀ type : ClassType, type.sourceText = type.simplified.text) ∧
    (∀ mention : Mention, '.' ∉ mention.simpleName.toList) ∧
    (∀ (mention : Mention) (package : String), mention.package? = some package ↔
      mention.name = package ++ "." ++ mention.simpleName) ∧
    (∀ mention : Mention, mention.package? = none ↔ mention.name = mention.simpleName) := by
  refine ⟨?_, fun mention => not_mem_afterLast mention.name, ?_,
    fun mention => beforeLast?_eq_none_iff⟩
  · intro type
    have names : Mention.simpleName = Mention.name ∘ Mention.simplified := rfl
    rw [ClassType.sourceText, ClassType.simplified, ClassType.text, TypeTree.print_eq_text,
      TypeTree.text_map, names]
  · intro mention package
    rw [Mention.package?, beforeLast?_eq_some_iff]
    constructor
    · exact CutAtLast.joined
    · intro joined
      exact ⟨joined, not_mem_afterLast mention.name⟩

/-- Dots at the start, at the end and side by side. -/
example : ([".a", "a..b", "a.", ".", ""].map fun name =>
      (Mention.package? { name }, Mention.simpleName { name })) =
    [(some "", "a"), (some "a.", "b"), (some "a", ""), (some "", ""), (none, "")] := by decide

end QuietSource.Package
