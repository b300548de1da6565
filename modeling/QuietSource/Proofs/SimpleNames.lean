/-
# Simple names and imports

Source code writes a type with the simple names of its classes, and what a simple name stands for is
left to the import lines. There is one line for each full name, whatever its simple name, so a
simple name is ambiguous exactly if types mention two classes that share it, in two packages that
both have to be imported. Where there are no two such classes, each simple name of an imported class
leads to one line, the one of the class that was meant.
-/

import QuietSource.Proofs.ImportList
import QuietSource.Proofs.TypeText

namespace QuietSource

namespace Package

open Text

/-- The type as source code writes it, a name in each place. -/
def ClassType.writtenNames (type : ClassType) : TypeTree String :=
  type.map Mention.simpleName

theorem ClassType.sourceText_eq (type : ClassType) :
    type.sourceText = type.writtenNames.text id :=
  (TypeTree.text_map Mention.simpleName id type).symm

namespace CompilationUnit

/-- The unit of a class that first gets a package and then imports types. -/
def importing (decl : ClassDecl) (package : String) (types : List ClassType) : CompilationUnit :=
  ofEdits decl (.package package :: types.map .importType)

/-- A class is mentioned by one of some types and has to be imported into a package. -/
def IsForeignMention (package : String) (types : List ClassType) (mention : Mention) : Prop :=
  mention.IsForeignTo (some package) ∧ ∃ type ∈ types, ∃ node ∈ type.preorder, node.label = mention

/-- A line imports a class, from whatever package, under a simple name. -/
def ImportsAs (line simple : String) : Prop :=
  ∃ name home, line = importLine name ∧ CutAtLast '.' name home simple

/-- No two import lines end in the same simple name. -/
def SimpleNamesUnambiguous (compilation : CompilationUnit) : Prop :=
  ∀ first ∈ compilation.importLines, ∀ second ∈ compilation.importLines, ∀ simple,
    ImportsAs first simple → ImportsAs second simple → first = second

theorem importsAs_iff {package : Option String} {mention : Mention}
    (foreign : mention.IsForeignTo package) {simple : String} :
    ImportsAs (importLine mention.name) simple ↔ mention.simpleName = simple := by
  constructor
  · rintro ⟨name, home, same, cut⟩
    obtain rfl := importLine_injective same
    exact cut.afterLast_eq
  · rintro rfl
    obtain ⟨home, ⟨simple, cut⟩, -⟩ := foreign
    refine ⟨mention.name, home, rfl, ?_⟩
    rwa [Mention.simpleName, cut.afterLast_eq]

theorem importedNames_types (package : Option String) (types : List ClassType) :
    importedNames package (types.map .importType) = types.flatMap (importsOfType package) := by
  induction types with
  | nil => rfl
  | cons type rest ih => rw [List.map_cons, importedNames, ih, List.flatMap_cons]

/-- The import lines of such a unit are those of the foreign classes that the types mention. -/
theorem mem_importLines_importing {decl : ClassDecl} {package : String} {types : List ClassType}
    {line : String} :
    line ∈ (importing decl package types).importLines ↔
      ∃ mention, IsForeignMention package types mention ∧ line = importLine mention.name := by
  rw [importing, importLines_eq, List.mem_map, ← importedNames_eq_contributions, importedNames,
    importedNames_types]
  simp only [List.mem_eraseDups, List.mem_flatMap, importsOfType_eq, mem_contribution_importType]
  constructor
  · rintro ⟨_, ⟨type, listed, node, mentioned, foreign, rfl⟩, rfl⟩
    exact ⟨node.label, ⟨foreign, type, listed, node, mentioned, rfl⟩, rfl⟩
  · rintro ⟨_, ⟨foreign, type, listed, node, mentioned, rfl⟩, rfl⟩
    exact ⟨_, ⟨type, listed, node, mentioned, foreign, rfl⟩, rfl⟩

theorem simpleNamesUnambiguous_iff {decl : ClassDecl} {package : String} {types : List ClassType} :
    (importing decl package types).SimpleNamesUnambiguous ↔
      ∀ one other, IsForeignMention package types one → IsForeignMention package types other →
        one.simpleName = other.simpleName → one.name = other.name := by
  constructor
  · intro unambiguous one other mentionsOne mentionsOther same
    apply importLine_injective
    apply unambiguous _ (mem_importLines_importing.mpr ⟨one, mentionsOne, rfl⟩) _
      (mem_importLines_importing.mpr ⟨other, mentionsOther, rfl⟩) one.simpleName
    · exact (importsAs_iff mentionsOne.1).mpr rfl
    · exact (importsAs_iff mentionsOther.1).mpr same.symm
  · intro apart first inFirst second inSecond simple firstEnds secondEnds
    obtain ⟨one, mentionsOne, rfl⟩ := mem_importLines_importing.mp inFirst
    obtain ⟨other, mentionsOther, rfl⟩ := mem_importLines_importing.mp inSecond
    rw [importsAs_iff mentionsOne.1] at firstEnds
    rw [importsAs_iff mentionsOther.1] at secondEnds
    rw [apart one other mentionsOne mentionsOther (firstEnds.trans secondEnds.symm)]

/-- In a unit that gets its package and then imports types, two import lines end in the same simple
name exactly if the types mention two classes of this simple name that differ in their packages,
neither of them `java.lang` or the unit's own. If they do not, the simple name that a type is
written with in the place of an imported class is the end of one import line only, that of the
class. -/
theorem simple_names_unambiguous_iff (decl : ClassDecl) (package : String)
    (types : List ClassType) :
    ((importing decl package types).SimpleNamesUnambiguous ↔
      ∀ one other, IsForeignMention package types one → IsForeignMention package types other →
        one.simpleName = other.simpleName → one.name = other.name) ∧
    (∀ type : ClassType, type.sourceText = type.writtenNames.text id) ∧
    ((importing decl package types).SimpleNamesUnambiguous →
      ∀ type ∈ types, ∀ node ∈ type.preorder, node.label.IsForeignTo (some package) →
        ∀ line, line ∈ (importing decl package types).importLines ∧
          ImportsAs line (ClassType.writtenNames node).label ↔
            line = importLine node.label.name) := by
  refine ⟨simpleNamesUnambiguous_iff, ClassType.sourceText_eq, ?_⟩
  intro unambiguous type listed node mentioned foreign line
  have imported : importLine node.label.name ∈ (importing decl package types).importLines :=
    mem_importLines_importing.mpr ⟨node.label, ⟨foreign, type, listed, node, mentioned, rfl⟩, rfl⟩
  have ends : ImportsAs (importLine node.label.name) (ClassType.writtenNames node).label := by
    rw [importsAs_iff foreign, ClassType.writtenNames, TypeTree.label_map]
  constructor
  · rintro ⟨inLines, alsoEnds⟩
    exact unambiguous line inLines _ imported _ alsoEnds ends
  · rintro rfl
    exact ⟨imported, ends⟩

/-- Types that mention one foreign class twice. -/
def beanTypes : List ClassType :=
  [.node { name := "java.util.Map" }
      [.leaf { name := "java.lang.String" }, .leaf { name := "legacy.Bean" }],
    .leaf { name := "legacy.Bean", status := .deprecated }]

theorem beanTypes_unambiguous :
    (importing { name := "Holder" } "app" beanTypes).SimpleNamesUnambiguous ∧
      (∃ type ∈ beanTypes, TypeTree.leaf { name := "legacy.Bean" } ∈ type.preorder) ∧
      ∀ line, line ∈ (importing { name := "Holder" } "app" beanTypes).importLines ∧
        ImportsAs line "Bean" ↔ line = "import legacy.Bean;" := by
  obtain ⟨unambiguousIff, -, leads⟩ :=
    simple_names_unambiguous_iff { name := "Holder" } "app" beanTypes
  have unambiguous : (importing { name := "Holder" } "app" beanTypes).SimpleNamesUnambiguous := by
    rw [unambiguousIff]
    rintro one other ⟨-, type, listed, node, mentioned, rfl⟩ ⟨-, type', listed', node', mentioned',
      rfl⟩
    have apart : ∀ type ∈ beanTypes, ∀ node ∈ type.preorder, ∀ type' ∈ beanTypes,
        ∀ node' ∈ type'.preorder, node.label.simpleName = node'.label.simpleName →
          node.label.name = node'.label.name := by decide
    exact apart type listed node mentioned type' listed' node' mentioned'
  have first : beanTypes[0] ∈ beanTypes := by decide
  have mentioned : TypeTree.leaf { name := "legacy.Bean" } ∈ beanTypes[0].preorder := by decide
  exact ⟨unambiguous, ⟨_, first, mentioned⟩, leads unambiguous _ first _ mentioned (by decide)⟩

/-- Two classes of one simple name, neither of them in the package `app`. -/
def listTypes : List ClassType :=
  [.leaf { name := "java.util.List" }, .leaf { name := "java.awt.List" }]

/-- Both classes are imported, and their lines end alike. -/
theorem listTypes_ambiguous :
    (importing { name := "Holder" } "app" listTypes).importLines =
        ["import java.util.List;", "import java.awt.List;"] ∧
      ¬ (importing { name := "Holder" } "app" listTypes).SimpleNamesUnambiguous := by
  have lines : (importing { name := "Holder" } "app" listTypes).importLines =
      ["import java.util.List;", "import java.awt.List;"] := (importLines_eq _ _).trans (by decide)
  refine ⟨lines, ?_⟩
  rw [SimpleNamesUnambiguous, lines]
  intro unambiguous
  have utilEnds : ImportsAs "import java.util.List;" "List" :=
    ⟨"java.util.List", "java.util", by decide, by decide, by decide⟩
  have awtEnds : ImportsAs "import java.awt.List;" "List" :=
    ⟨"java.awt.List", "java.awt", by decide, by decide, by decide⟩
  exact absurd (unambiguous _ (by decide) _ (by decide) "List" utilEnds awtEnds) (by decide)

end CompilationUnit

end Package

end QuietSource
