/-
# What a lint file lists

A lint file is read statement by statement into a draft of its table. Whatever the statements are,
the draft has each category once, and its lints are strings that stand in the text. Entries with
distinct categories have one ascending order, so the order in which a file lists them is forgotten
as soon as they are sorted.
-/

import Mathlib.Data.List.Nodup
import Mathlib.Data.String.Basic
import QuietSource.Lint.File
import QuietSource.Proofs.Remainder

namespace QuietSource

/-- What every step keeps holds after a run that was not given up. -/
theorem foldlM_preserves {α β : Type} (kept : β → Prop) {step : β → α → Option β}
    {inputs : List α} {state final : β}
    (preserved : ∀ input ∈ inputs, ∀ before after, kept before →
      step before input = some after → kept after)
    (start : kept state) (run : inputs.foldlM step state = some final) : kept final := by
  induction inputs generalizing state with
  | nil =>
    obtain rfl := Option.some.inj run
    exact start
  | cons input rest ih =>
    rw [List.foldlM_cons] at run
    obtain ⟨next, stepped, run⟩ := Option.bind_eq_some_iff.mp run
    exact ih (fun later member => preserved later (List.mem_cons_of_mem _ member))
      (preserved input List.mem_cons_self state next start stepped) run

namespace Lint

open Text Document

namespace File

/-- A draft has each category once, and its lints were read from characters. -/
structure Draft.IsReadFrom (draft : Draft) (chars : List Char) : Prop where
  /-- No category is listed twice. -/
  distinct : (draft.entries.map Prod.fst).Nodup
  /-- Every lint stands among the characters. -/
  tokens : ∀ entry ∈ draft.entries, ∀ lint ∈ entry.2, Document.IsReadFrom lint chars

namespace Draft

variable {draft next : Draft} {chars : List Char}

theorem initial_isReadFrom (chars : List Char) : initial.IsReadFrom chars :=
  ⟨List.nodup_nil, by simp [initial]⟩

theorem add_isReadFrom {category : String} {lints : Strings} (h : draft.IsReadFrom chars)
    (tokens : ∀ lint ∈ lints, Document.IsReadFrom lint chars)
    (added : draft.add category lints = some next) : next.IsReadFrom chars := by
  unfold add at added
  split at added
  · exact nomatch added
  · rename_i unlisted
    obtain rfl := Option.some.inj added
    have absent : category ∉ draft.entries.map Prod.fst := by
      intro listed
      obtain ⟨entry, member, same⟩ := List.mem_map.mp listed
      exact unlisted (List.any_eq_true.mpr ⟨entry, member, by simp [same]⟩)
    constructor
    · show ((draft.entries ++ [(category, lints)]).map Prod.fst).Nodup
      rw [List.map_append]
      exact List.Nodup.append h.distinct (List.nodup_singleton _)
        (List.disjoint_singleton.mpr absent)
    · intro entry member
      rcases List.mem_append.mp member with earlier | new
      · exact h.tokens entry earlier
      · obtain rfl := List.mem_singleton.mp new
        exact tokens

theorem addInline_isReadFrom {assignments : List (Key × Strings)} (h : draft.IsReadFrom chars)
    (tokens : ∀ lint ∈ assignments.flatMap Prod.snd, Document.IsReadFrom lint chars)
    (added : draft.addInline assignments = some next) : next.IsReadFrom chars := by
  refine foldlM_preserves (fun draft : Draft => draft.IsReadFrom chars) ?_ h added
  intro assignment member before after kept stepped
  split at stepped
  · rename_i category lints
    exact add_isReadFrom kept
      (fun lint held => tokens lint (List.mem_flatMap.mpr ⟨_, member, held⟩)) stepped
  · exact nomatch stepped

/-- How the table is written does not matter for what it lists. -/
theorem isReadFrom_withForm (h : draft.IsReadFrom chars) (form : Form) :
    ({ draft with form } : Draft).IsReadFrom chars :=
  ⟨h.distinct, h.tokens⟩

theorem take_isReadFrom {statement : Statement} (h : draft.IsReadFrom chars)
    (tokens : ∀ lint ∈ statement.tokens, Document.IsReadFrom lint chars)
    (taken : draft.take statement = some next) : next.IsReadFrom chars := by
  unfold take at taken
  split at taken
  · split at taken
    · obtain rfl := Option.some.inj taken
      exact isReadFrom_withForm h _
    · exact nomatch taken
  · split at taken
    · exact add_isReadFrom h tokens taken
    · exact nomatch taken
  · split at taken
    · exact addInline_isReadFrom (isReadFrom_withForm h _) tokens taken
    · exact nomatch taken
  · split at taken
    · exact add_isReadFrom (isReadFrom_withForm h _) tokens taken
    · exact nomatch taken
  · exact nomatch taken

end Draft

/-- The final draft of a lint file has each category once and lists strings of its text. -/
theorem listed?_isReadFrom {text : String} {listed : List Entry}
    (accepted : listed? text = some listed) :
    (listed.map Prod.fst).Nodup ∧
      ∀ entry ∈ listed, ∀ lint ∈ entry.2, Document.IsReadFrom lint text.toList := by
  unfold listed? at accepted
  obtain ⟨statements, read, run⟩ := Option.bind_eq_some_iff.mp accepted
  obtain ⟨draft, taken, same⟩ := Option.bind_eq_some_iff.mp run
  obtain rfl := Option.some.inj same
  have kept : draft.IsReadFrom text.toList := by
    refine foldlM_preserves (fun draft : Draft => draft.IsReadFrom text.toList) ?_
      (Draft.initial_isReadFrom text.toList) taken
    intro statement member before after kept stepped
    exact Draft.take_isReadFrom kept (statementsOf?_reads read statement member) stepped
  exact ⟨kept.distinct, kept.tokens⟩

/-! ## Ascending order -/

theorem ascending_perm (entries : List Entry) : (ascending entries).Perm entries :=
  List.mergeSort_perm entries _

theorem ascending_pairwise (entries : List Entry) :
    (ascending entries).Pairwise fun first second => first.1 ≤ second.1 := by
  have sorted : (ascending entries).Pairwise fun first second =>
      decide (first.1 ≤ second.1) = true := by
    apply List.pairwise_mergeSort
    · intro first second third lower upper
      simp only [decide_eq_true_eq] at lower upper ⊢
      exact le_trans lower upper
    · intro first second
      simp only [Bool.or_eq_true, decide_eq_true_eq]
      exact le_total first.1 second.1
  simp only [decide_eq_true_eq] at sorted
  exact sorted

end File

/-- An entry without the places of its lints. -/
def Entry.bare (entry : Entry) : String × List String :=
  (entry.1, entry.2.map Located.value)

namespace File

/-- Files that list the same entries in another order, wherever they stand, have the same entries
in ascending order. -/
theorem map_bare_ascending {first second : List Entry} (distinct : (first.map Prod.fst).Nodup)
    (relisted : (second.map Entry.bare).Perm (first.map Entry.bare)) :
    (ascending second).map Entry.bare = (ascending first).map Entry.bare := by
  have sorted (entries : List Entry) :
      ((ascending entries).map Entry.bare).Pairwise fun first second => first.1 ≤ second.1 :=
    List.pairwise_map.mpr (ascending_pairwise entries)
  have sameAsListed (entries : List Entry) :
      ((ascending entries).map Entry.bare).Perm (entries.map Entry.bare) :=
    (ascending_perm entries).map Entry.bare
  have bareDistinct : ((first.map Entry.bare).map Prod.fst).Nodup := by
    rw [List.map_map]
    exact distinct
  refine List.Perm.eq_of_pairwise ?_ (sorted second) (sorted first)
    (((sameAsListed second).trans relisted).trans (sameAsListed first).symm)
  -- Entries that neither precedes have one category, and distinct categories make them one entry.
  intro one other memberOne memberOther lower upper
  have oneListed := ((sameAsListed second).trans relisted).mem_iff.mp memberOne
  have otherListed := (sameAsListed first).mem_iff.mp memberOther
  exact List.inj_on_of_nodup_map bareDistinct oneListed otherListed (le_antisymm lower upper)

end File

end Lint

end QuietSource
