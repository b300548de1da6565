/-
# The last separator of a text

A full name is cut at its last dot into a package and a simple name. Cutting a text at its last
separator gives back the text, and of all ways to write a text around a separator it finds the one
where no separator is left behind. There is only one such way, so what stands before the last
separator and what stands behind it are properties of the text and not of the search.
-/

import Mathlib.Data.List.TakeWhile
import QuietSource.Text.Split

namespace QuietSource.Text

variable {separator : Char}

theorem passed_of_not_mem {part : List Char} (h : separator ∉ part) :
    ∀ c ∈ part, (c != separator) = true := by
  intro c member
  rw [bne_iff_ne]
  rintro rfl
  exact h member

theorem afterLastChars_append (before : List Char) {behind : List Char} (h : separator ∉ behind) :
    afterLastChars separator (before ++ separator :: behind) = behind := by
  have passed := passed_of_not_mem (mt List.mem_reverse.mp h)
  rw [afterLastChars, List.reverse_append, List.reverse_cons, List.append_assoc,
    List.takeWhile_append_of_pos passed]
  simp

theorem beforeLastChars?_append (before : List Char) {behind : List Char}
    (h : separator ∉ behind) :
    beforeLastChars? separator (before ++ separator :: behind) = some before := by
  have passed := passed_of_not_mem (mt List.mem_reverse.mp h)
  rw [beforeLastChars?, List.reverse_append, List.reverse_cons, List.append_assoc,
    List.dropWhile_append_of_pos passed]
  simp

theorem beforeLastChars?_of_not_mem {chars : List Char} (h : separator ∉ chars) :
    beforeLastChars? separator chars = none := by
  have passed := passed_of_not_mem (mt List.mem_reverse.mp h)
  rw [beforeLastChars?, List.dropWhile_eq_nil_iff.mpr passed]

/-- A separator that occurs occurs for the last time somewhere. -/
theorem exists_last_separator {chars : List Char} (h : separator ∈ chars) :
    ∃ before behind, chars = before ++ separator :: behind ∧ separator ∉ behind := by
  obtain ⟨behind, before, reversed, notBehind⟩ :=
    List.eq_append_cons_of_mem (List.mem_reverse.mpr h)
  refine ⟨before.reverse, behind.reverse, ?_, mt List.mem_reverse.mp notBehind⟩
  rw [List.reverse_eq_iff.mp reversed]
  simp

/-- A text written as what stands before its last separator, the separator and what stands behind
it. -/
structure CutAtLast (separator : Char) (text before behind : String) : Prop where
  joined : text = before ++ String.singleton separator ++ behind
  notBehind : separator ∉ behind.toList

namespace CutAtLast

variable {text before behind : String}

theorem toList_eq (cut : CutAtLast separator text before behind) :
    text.toList = before.toList ++ separator :: behind.toList := by
  rw [cut.joined]
  simp

theorem afterLast_eq (cut : CutAtLast separator text before behind) :
    afterLast separator text = behind := by
  rw [afterLast, cut.toList_eq, afterLastChars_append before.toList cut.notBehind,
    String.ofList_toList]

theorem beforeLast?_eq (cut : CutAtLast separator text before behind) :
    beforeLast? separator text = some before := by
  rw [beforeLast?, cut.toList_eq, beforeLastChars?_append before.toList cut.notBehind,
    Option.map_some, String.ofList_toList]

/-- A text with a separator has a last one. -/
theorem exists_of_mem (h : separator ∈ text.toList) :
    ∃ before behind, CutAtLast separator text before behind := by
  obtain ⟨before, behind, cut, notBehind⟩ := exists_last_separator h
  refine ⟨String.ofList before, String.ofList behind, ?_, ?_⟩
  · rw [← String.toList_inj, cut]
    simp
  · rwa [String.toList_ofList]

end CutAtLast

theorem beforeLast?_of_not_mem {text : String} (h : separator ∉ text.toList) :
    beforeLast? separator text = none := by
  rw [beforeLast?, beforeLastChars?_of_not_mem h, Option.map_none]

theorem afterLast_of_not_mem {text : String} (h : separator ∉ text.toList) :
    afterLast separator text = text := by
  have passed := passed_of_not_mem (mt List.mem_reverse.mp h)
  rw [afterLast, afterLastChars, List.takeWhile_eq_self_iff.mpr passed, List.reverse_reverse,
    String.ofList_toList]

/-- There is no separator behind the last one. -/
theorem not_mem_afterLast (text : String) : separator ∉ (afterLast separator text).toList := by
  rw [afterLast, String.toList_ofList, afterLastChars, List.mem_reverse]
  intro member
  exact absurd (List.mem_takeWhile_imp member) (by simp)

/-- The search for the part before the last separator finds the one that there is. -/
theorem beforeLast?_eq_some_iff {text before : String} :
    beforeLast? separator text = some before ↔
      CutAtLast separator text before (afterLast separator text) := by
  constructor
  · intro found
    have occurs : separator ∈ text.toList := by
      by_contra absent
      rw [beforeLast?_of_not_mem absent] at found
      exact absurd found nofun
    obtain ⟨other, behind, cut⟩ := CutAtLast.exists_of_mem occurs
    obtain rfl : other = before := Option.some.inj (cut.beforeLast?_eq.symm.trans found)
    rwa [cut.afterLast_eq]
  · intro cut
    exact cut.beforeLast?_eq

/-- The search finds nothing in a text without separators, and then the whole text is behind. -/
theorem beforeLast?_eq_none_iff {text : String} :
    beforeLast? separator text = none ↔ text = afterLast separator text := by
  constructor
  · intro absent
    refine (afterLast_of_not_mem fun occurs => ?_).symm
    obtain ⟨before, behind, cut⟩ := CutAtLast.exists_of_mem occurs
    exact absurd (cut.beforeLast?_eq.symm.trans absent) (Option.some_ne_none before)
  · intro whole
    exact beforeLast?_of_not_mem (whole ▸ not_mem_afterLast text)

end QuietSource.Text
