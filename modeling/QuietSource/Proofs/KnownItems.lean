/-
# Types that mention deprecated items

A catalogue is made of records, of which the last one for a path counts. Observing a type keeps what
the ledger holds and appends the warnings of the type's nodes that are new to it, in preorder. For a
ledger that starts empty this decides what an item of a crate gets: if a node of the type is known
as deprecated or as about to be removed, the one attribute that allows deprecated uses, and
otherwise nothing at all.
-/

import QuietSource.Crate.ImplBlock
import QuietSource.Crate.StructDecl
import QuietSource.Proofs.LintTable
import QuietSource.Proofs.Warnings

namespace QuietSource.Crate

open Warning

/-- The status in the last of the records for a path. -/
def lastRecord? (records : List (String × Deprecation)) (path : String) : Option Deprecation :=
  records.reverse.lookup path

/-- The categories of warning that naming a path causes if all that is known is in records. -/
def recordedWarnings (records : List (String × Deprecation)) (path : String) : List String :=
  match lastRecord? records path with
  | some .deprecated => ["deprecation"]
  | some .forRemoval => ["removal"]
  | some .current => []
  | none => []

/-- Some node of a type is recorded as deprecated or as about to be removed. -/
def MentionsDeprecated (records : List (String × Deprecation)) (type : PathType) : Prop :=
  ∃ node ∈ type.preorder, lastRecord? records node.label = some .deprecated ∨
    lastRecord? records node.label = some .forRemoval

instance (records : List (String × Deprecation)) (type : PathType) :
    Decidable (MentionsDeprecated records type) :=
  inferInstanceAs (Decidable (∃ node ∈ type.preorder, _ ∨ _))

theorem eq_of_mem_recordedWarnings {records : List (String × Deprecation)} {path category : String}
    (h : category ∈ recordedWarnings records path) :
    category = "deprecation" ∨ category = "removal" := by
  unfold recordedWarnings at h
  split at h
  · exact Or.inl (List.mem_singleton.mp h)
  · exact Or.inr (List.mem_singleton.mp h)
  · exact absurd h List.not_mem_nil
  · exact absurd h List.not_mem_nil

theorem recordedWarnings_eq_nil_iff (records : List (String × Deprecation)) (path : String) :
    recordedWarnings records path = [] ↔
      ¬ (lastRecord? records path = some .deprecated ∨
        lastRecord? records path = some .forRemoval) := by
  unfold recordedWarnings
  rcases lastRecord? records path with _ | status
  · simp
  · cases status <;> simp

namespace Catalogue

theorem items_ofRecords (records : List (String × Deprecation)) :
    (ofRecords records).items = OrderedMap.empty.insertMany records := by
  have general (catalogue : Catalogue) :
      (records.foldl (fun catalogue entry => catalogue.record entry.1 entry.2) catalogue).items =
        catalogue.items.insertMany records := by
    induction records generalizing catalogue with
    | nil => rfl
    | cons entry rest ih => exact ih (catalogue.record entry.1 entry.2)
  exact general empty

theorem get?_ofRecords (records : List (String × Deprecation)) (path : String) :
    (ofRecords records).items.get? path = lastRecord? records path := by
  rw [items_ofRecords, OrderedMap.get?_insertMany, OrderedMap.get?_empty, Option.or_none]
  rfl

theorem warnings_ofRecords (records : List (String × Deprecation)) (path : String) :
    (ofRecords records).warnings path = recordedWarnings records path := by
  rw [warnings, get?_ofRecords, recordedWarnings]
  rcases lastRecord? records path with _ | status
  · rfl
  · cases status <;> rfl

/-- Observing a type by records appends what the ledger lacks of the type's warnings. -/
theorem toList_observeIn_ofRecords (records : List (String × Deprecation)) (type : PathType)
    (ledger : Ledger) :
    ((ofRecords records).observeIn type ledger).categories.toList =
      ledger.categories.toList ++
        ((type.preorder.flatMap fun node => recordedWarnings records node.label).removeAll
          ledger.categories.toList).eraseDups := by
  rw [categories_observeIn, OrderedSet.toList_insertMany]
  simp only [warnings_ofRecords]

theorem toList_observeIn_empty (records : List (String × Deprecation)) (type : PathType) :
    ((ofRecords records).observeIn type ∅).categories.toList =
      (type.preorder.flatMap fun node => recordedWarnings records node.label).eraseDups := by
  rw [categories_observeIn]
  simp only [warnings_ofRecords]
  exact OrderedSet.toList_ofList _

/-- On a fresh ledger a type leaves nothing exactly if it mentions nothing deprecated. -/
theorem toList_observeIn_empty_eq_nil_iff (records : List (String × Deprecation))
    (type : PathType) :
    ((ofRecords records).observeIn type ∅).categories.toList = [] ↔
      ¬ MentionsDeprecated records type := by
  rw [toList_observeIn_empty, eraseDups_eq_nil_iff, List.flatMap_eq_nil_iff]
  simp only [recordedWarnings_eq_nil_iff, MentionsDeprecated, not_exists, not_and]

/-- Through the standard table a fresh ledger gives an item the attribute that allows deprecated
uses if the observed type mentions something deprecated, and nothing otherwise. -/
theorem silenceThrough_observeIn {τ : Type} [HasAttributes τ]
    (records : List (String × Deprecation)) (type : PathType) (item : τ) :
    Lint.silenceThrough .standard ((ofRecords records).observeIn type ∅) item =
      if MentionsDeprecated records type then addAttribute (.allow (.one "deprecated")) item
      else item := by
  have caused : ∀ category ∈ ((ofRecords records).observeIn type ∅).categories.toList,
      category = "deprecation" ∨ category = "removal" := by
    intro category listed
    rw [toList_observeIn_empty, List.mem_eraseDups] at listed
    obtain ⟨node, -, warned⟩ := List.mem_flatMap.mp listed
    exact eq_of_mem_recordedWarnings warned
  have nothing := toList_observeIn_empty_eq_nil_iff records type
  rw [Lint.silenceThrough_standard item caused]
  by_cases mentioned : MentionsDeprecated records type
  · rw [if_neg fun h => nothing.mp h mentioned, if_pos mentioned]
  · rw [if_pos (nothing.mpr mentioned), if_neg mentioned]

/-- Observing a type keeps what a ledger holds and appends, in preorder and each once, the two
deprecation categories that the ledger lacks and that the last records for the type's nodes ask for.
Hence a fresh ledger gives a function, a block, a structure, or whatever takes attributes through
the standard table, exactly the attribute that allows deprecated uses if some node of the type is
known as deprecated or about to be removed, and leaves it alone otherwise. -/
theorem observeIn_finds_deprecated_mentions (records : List (String × Deprecation))
    (type : PathType) :
    (∀ ledger : Ledger, ((ofRecords records).observeIn type ledger).categories.toList =
      ledger.categories.toList ++
        ((type.preorder.flatMap fun node => recordedWarnings records node.label).removeAll
          ledger.categories.toList).eraseDups) ∧
    (∀ function : Function, ((ofRecords records).observeIn type ∅).silence function =
      if MentionsDeprecated records type then
        { function with
          attributes := function.attributes ++ [.allow (.one "deprecated")] }
      else function) ∧
    (∀ block : ImplBlock, ((ofRecords records).observeIn type ∅).silence block =
      if MentionsDeprecated records type then
        { block with attributes := block.attributes ++ [.allow (.one "deprecated")] }
      else block) ∧
    (∀ decl : StructDecl, ((ofRecords records).observeIn type ∅).silence decl =
      if MentionsDeprecated records type then
        { decl with attributes := decl.attributes ++ [.allow (.one "deprecated")] }
      else decl) ∧
    (∀ {τ : Type} [HasAttributes τ] (item : τ),
      Lint.silenceThrough .standard ((ofRecords records).observeIn type ∅) item =
        if MentionsDeprecated records type then addAttribute (.allow (.one "deprecated")) item
        else item) ∧
    (Attribute.allow (.one "deprecated")).text = "allow(deprecated)" := by
  refine ⟨toList_observeIn_ofRecords records type, ?_, ?_, ?_,
    silenceThrough_observeIn records type, by decide⟩
  · intro function
    rw [Lint.silence_eq_silenceThrough .standard _ fun _ => rfl]
    exact silenceThrough_observeIn records type function
  · intro block
    rw [Lint.silence_eq_silenceThrough .standard _ fun _ => rfl]
    exact silenceThrough_observeIn records type block
  · intro decl
    rw [Lint.silence_eq_silenceThrough .standard _ fun _ => rfl]
    exact silenceThrough_observeIn records type decl

end Catalogue

end QuietSource.Crate
