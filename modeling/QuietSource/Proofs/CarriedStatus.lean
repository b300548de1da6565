/-
# Carried and recorded deprecation

A class type carries the deprecation of the classes it mentions. A type of paths does not, and a
catalogue has to know it. This module writes a class type with paths instead, the names in their
places, and proves that a catalogue that knows the names as the type carries them brings the same
warnings to notice in the same order. Nothing has to be recorded for classes that are current.
-/

import Mathlib.Data.List.Basic
import QuietSource.Proofs.Warnings

namespace QuietSource.Package.ClassType

open Warning

/-- A class type with nothing but the names in it. -/
def paths (type : ClassType) : Crate.PathType :=
  type.map Mention.name

/-- Observing a class type is observing each class that its walk meets. -/
theorem observeIn_eq_observeAll (type : ClassType) (ledger : Ledger) :
    type.observeIn ledger = ledger.observeAll (type.walk.map deprecationOf) := by
  have carried : (deprecationOf : ClassType → Deprecation) = Mention.status ∘ TypeTree.label := by
    funext node
    exact Deprecation.deprecation_flags node.label.status
  rw [observeIn, TypeTree.labels, List.map_map, carried]

end QuietSource.Package.ClassType

namespace QuietSource.Crate.Catalogue

open Warning Package

/-- The catalogue says of a class what a mention of it carries, or says nothing and the class is
current. -/
def KnowsAs (catalogue : Catalogue) (mention : Mention) : Prop :=
  catalogue.items.get? mention.name = some mention.status ∨
    catalogue.items.get? mention.name = none ∧ mention.status = .current

instance (catalogue : Catalogue) (mention : Mention) : Decidable (catalogue.KnowsAs mention) :=
  inferInstanceAs (Decidable (_ ∨ _ ∧ _))

theorem KnowsAs.warnings_eq {catalogue : Catalogue} {mention : Mention}
    (known : catalogue.KnowsAs mention) :
    catalogue.warnings mention.name = mention.status.warnings := by
  unfold warnings
  rcases known with recorded | ⟨unknown, current⟩
  · rw [recorded]
  · rw [unknown, current]
    rfl

/-- A catalogue that knows the classes of a type as the type does leads to the same ledger. -/
theorem observeIn_paths {catalogue : Catalogue} {type : ClassType}
    (known : ∀ node ∈ type.preorder, catalogue.KnowsAs node.label) (ledger : Ledger) :
    catalogue.observeIn type.paths ledger = type.observeIn ledger := by
  have sameWarnings : (type.preorder.flatMap fun node => catalogue.warnings node.label.name) =
      type.preorder.flatMap fun node => node.label.status.warnings :=
    List.flatMap_congr fun node member => (known node member).warnings_eq
  -- Both ledgers take in one list of warnings, and the preorder does not see the labels.
  apply Ledger.eq_of_categories
  rw [categories_observeIn, ClassType.categories_observeIn, ClassType.paths,
    TypeTree.preorder_map, List.flatMap_map]
  simp only [TypeTree.label_map, sameWarnings]

/-- Observing the classes that the walk of a type meets, each by what it carries, and looking up the
names in the same places of a type of paths end with the same categories in the same order, and so
with the same directive, if the catalogue knows every class as the type carries it or does not list
it and the class is current. It does not matter what the ledger held before. -/
theorem observeIn_agrees_with_carried {catalogue : Catalogue} {type : ClassType}
    (known : ∀ node ∈ type.preorder, catalogue.KnowsAs node.label) (ledger : Ledger) :
    type.observeIn ledger = ledger.observeAll (type.walk.map deprecationOf) ∧
    (ledger.observeAll (type.walk.map deprecationOf)).categories.toList =
      (catalogue.observeIn type.paths ledger).categories.toList ∧
    (ledger.observeAll (type.walk.map deprecationOf)).directive? =
      (catalogue.observeIn type.paths ledger).directive? := by
  have carried := type.observeIn_eq_observeAll ledger
  rw [observeIn_paths known, carried]
  exact ⟨rfl, rfl, rfl⟩

/-- A class about to be removed stands before a deprecated one, and twice. One of the two current
classes is in no record. -/
def nestedType : ClassType :=
  .node { name := "p.Map" }
    [.node { name := "p.List" } [.leaf { name := "p.Gone", status := .forRemoval }],
      .node { name := "p.Old", status := .deprecated }
        [.leaf { name := "p.Gone", status := .forRemoval }]]

/-- Records that know the classes of the nested type as it carries them. -/
def nestedRecords : Catalogue :=
  .ofRecords [("p.Old", .forRemoval), ("p.Gone", .forRemoval), ("p.Map", .current),
    ("p.Old", .deprecated)]

theorem observeIn_agrees_on_nestedType :
    (∀ node ∈ nestedType.preorder, nestedRecords.KnowsAs node.label) ∧
      ((∅ : Ledger).observeAll (nestedType.walk.map deprecationOf)).categories.toList =
        ["removal", "deprecation"] ∧
      (nestedRecords.observeIn nestedType.paths ∅).categories.toList =
        ["removal", "deprecation"] := by
  have known : ∀ node ∈ nestedType.preorder, nestedRecords.KnowsAs node.label := by decide
  obtain ⟨carried, sameList, -⟩ := observeIn_agrees_with_carried known ∅
  have listed : ((∅ : Ledger).observeAll (nestedType.walk.map deprecationOf)).categories.toList =
      ["removal", "deprecation"] := by
    rw [← carried, ClassType.categories_observeIn]
    decide
  exact ⟨known, listed, sameList.symm.trans listed⟩

end QuietSource.Crate.Catalogue
