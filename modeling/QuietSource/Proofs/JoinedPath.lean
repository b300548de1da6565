/-
# Paths joined from segments

Joining puts a slash before a part where there is none, and an empty part at most leaves one at the
end. So whatever slashes empty parts have left on the way, joining a segment gives the same text as
joining all segments at once, with one slash between each two. A relative path that is joined to a
directory leads on from the place that the directory's own path names.
-/

import QuietSource.Proofs.FilePlaces

namespace QuietSource.Files

namespace Path

open Text

/-- A text can be a segment of a path. -/
structure IsSegment (text : String) : Prop where
  nonempty : text ≠ ""
  noSlash : '/' ∉ text.toList

instance (text : String) : Decidable (IsSegment text) :=
  decidable_of_iff (text ≠ "" ∧ '/' ∉ text.toList) ⟨fun h => ⟨h.1, h.2⟩, fun h => ⟨h.1, h.2⟩⟩

theorem isAbsolute_of_not_mem {part : String} (h : '/' ∉ part.toList) :
    isAbsolute part = false := by
  rw [isAbsolute_eq]
  cases spelled : part.toList with
  | nil => rfl
  | cons c rest =>
    have other : c ≠ '/' := by
      rintro rfl
      exact h (spelled ▸ List.mem_cons_self)
    simpa using other

theorem isAbsolute_append {front : String} (nonempty : front ≠ "") (back : String) :
    isAbsolute (front ++ back) = isAbsolute front := by
  rw [isAbsolute_eq, isAbsolute_eq, String.toList_append]
  cases spelled : front.toList with
  | nil => exact absurd (String.toList_eq_nil_iff.mp spelled) nonempty
  | cons c rest => rfl

/-- A path that ends in a segment is not open. -/
theorem isOpen_append_segment (before : String) {segment : String} (h : IsSegment segment) :
    isOpen (before ++ segment) = false := by
  have nonempty : segment.toList ≠ [] := mt String.toList_eq_nil_iff.mp h.nonempty
  have other : segment.toList.getLast nonempty ≠ '/' := by
    intro slash
    exact h.noSlash (slash ▸ List.getLast_mem nonempty)
  rw [isOpen_eq, String.toList_append, List.getLast?_append,
    List.getLast?_eq_some_getLast nonempty]
  simpa using other

theorem isOpen_append_slash (before : String) : isOpen (before ++ "/") = true := by
  rw [isOpen_eq]
  simp

/-- An open path is empty or has a slash at its end. -/
theorem eq_empty_or_slash_of_isOpen {path : String} (h : isOpen path = true) :
    path = "" ∨ ∃ front, path = front ++ "/" := by
  rw [isOpen_eq] at h
  by_cases empty : path.toList = []
  · exact Or.inl (String.toList_eq_nil_iff.mp empty)
  · rw [List.getLast?_eq_some_getLast empty, Option.all_some, beq_iff_eq] at h
    refine Or.inr ⟨String.ofList path.toList.dropLast, ?_⟩
    have parts := List.dropLast_concat_getLast empty
    rw [h] at parts
    rw [← String.toList_inj, String.toList_append, String.toList_ofList]
    exact parts.symm

/-- A path is made of some segments with one slash between each two. Behind the last one there may
be another. -/
def IsMadeOf (segments : List String) (path : String) : Prop :=
  path = String.intercalate "/" segments ∨
    segments ≠ [] ∧ path = String.intercalate "/" segments ++ "/"

theorem intercalate_concat {segments : List String} (nonempty : segments ≠ []) (last : String) :
    String.intercalate "/" (segments ++ [last]) =
      String.intercalate "/" segments ++ "/" ++ last := by
  rw [String.intercalate_append_of_ne_nil nonempty (List.cons_ne_nil last []),
    String.intercalate_singleton]

theorem isOpen_intercalate {segments : List String} (nonempty : segments ≠ [])
    (h : ∀ segment ∈ segments, IsSegment segment) :
    isOpen (String.intercalate "/" segments) = false := by
  obtain ⟨front, last, rfl⟩ : ∃ front last, segments = front ++ [last] :=
    ⟨_, _, (List.dropLast_concat_getLast nonempty).symm⟩
  have isSegment : IsSegment last := h last (by simp)
  by_cases alone : front = []
  · subst alone
    rw [List.nil_append, String.intercalate_singleton]
    simpa using isOpen_append_segment "" isSegment
  · rw [intercalate_concat alone]
    exact isOpen_append_segment _ isSegment

section Join

variable {segments : List String} {path : String}

/-- Joining an empty part changes no segments. -/
theorem IsMadeOf.join_empty (made : IsMadeOf segments path)
    (h : ∀ segment ∈ segments, IsSegment segment) : IsMadeOf segments (join path "") := by
  have relative : isAbsolute "" = false := isAbsolute_of_not_mem (by decide)
  rw [join, if_neg (Bool.eq_false_iff.mp relative)]
  rcases made with rfl | ⟨nonempty, rfl⟩
  · by_cases nothing : segments = []
    · subst nothing
      exact Or.inl (by decide)
    · rw [if_neg (Bool.eq_false_iff.mp (isOpen_intercalate nothing h)), String.append_empty]
      exact Or.inr ⟨nothing, rfl⟩
  · rw [if_pos (isOpen_append_slash _), String.append_empty]
    exact Or.inr ⟨nonempty, rfl⟩

/-- Joining a segment puts it behind the others. -/
theorem IsMadeOf.join_segment (made : IsMadeOf segments path)
    (h : ∀ segment ∈ segments, IsSegment segment) {part : String} (isSegment : IsSegment part) :
    join path part = String.intercalate "/" (segments ++ [part]) := by
  rw [join, if_neg (Bool.eq_false_iff.mp (isAbsolute_of_not_mem isSegment.noSlash))]
  rcases made with rfl | ⟨nonempty, rfl⟩
  · by_cases nothing : segments = []
    · subst nothing
      rw [if_pos (by decide), List.nil_append, String.intercalate_nil, String.intercalate_singleton,
        String.empty_append]
    · rw [if_neg (Bool.eq_false_iff.mp (isOpen_intercalate nothing h)), intercalate_concat nothing]
  · rw [if_pos (isOpen_append_slash _), intercalate_concat nonempty]

/-- Joining parts one after the other drops the empty ones. -/
theorem IsMadeOf.foldl_join (made : IsMadeOf segments path)
    (h : ∀ segment ∈ segments, IsSegment segment) {parts : List String}
    (noSlash : ∀ part ∈ parts, '/' ∉ part.toList) :
    IsMadeOf (segments ++ parts.filter (· ≠ "")) (parts.foldl join path) := by
  induction parts generalizing segments path with
  | nil => simpa using made
  | cons part rest ih =>
    rw [List.forall_mem_cons] at noSlash
    rw [List.foldl_cons]
    by_cases empty : part = ""
    · rw [List.filter_cons_of_neg (by simpa using empty), empty]
      exact ih (made.join_empty h) h noSlash.2
    · have isSegment : IsSegment part := ⟨empty, noSlash.1⟩
      have longer : ∀ segment ∈ segments ++ [part], IsSegment segment := by
        rw [List.forall_mem_append, List.forall_mem_singleton]
        exact ⟨h, isSegment⟩
      rw [List.filter_cons_of_pos (by simpa using empty), ← List.singleton_append,
        ← List.append_assoc]
      exact ih (Or.inl (made.join_segment h isSegment)) longer noSlash.2

end Join

/-- A path of segments has just these segments, and is relative. -/
theorem segments_intercalate {segments : List String} (nonempty : segments ≠ [])
    (h : ∀ segment ∈ segments, IsSegment segment) :
    Path.segments (String.intercalate "/" segments) = segments :=
  split_intercalate nonempty fun segment listed => (h segment listed).noSlash

theorem isAbsolute_intercalate {segments : List String}
    (h : ∀ segment ∈ segments, IsSegment segment) :
    isAbsolute (String.intercalate "/" segments) = false := by
  cases segments with
  | nil => decide
  | cons first rest =>
    have isSegment : IsSegment first := h first List.mem_cons_self
    have relative : isAbsolute first = false := isAbsolute_of_not_mem isSegment.noSlash
    cases rest with
    | nil => rwa [String.intercalate_singleton]
    | cons next rest =>
      rw [String.intercalate_cons_cons, String.append_assoc, isAbsolute_append isSegment.nonempty,
        relative]

end Path

namespace Location

open Files.Path

variable (home : List String)

theorem startOf_append {front : String} (nonempty : front ≠ "") (back : String) :
    startOf (front ++ back) = startOf front := by
  rw [startOf, startOf, isAbsolute_append nonempty]

theorem ofPath_slash (front back : String) :
    ofPath home (front ++ "/" ++ back) =
      ((startOf (front ++ "/")).follow home (Path.segments front)).follow home
        (Path.segments back) := by
  have parts : Path.segments (front ++ "/" ++ back) =
      Path.segments front ++ Path.segments back := Text.split_append '/' front back
  rw [ofPath, parts, follow_append, startOf_append (by simp)]

/-- A relative path leads on from the directory that it is joined to. -/
theorem ofPath_join {path : String} (relative : isAbsolute path = false) (directory : String) :
    ofPath home (join directory path) =
      (ofPath home directory).follow home (Path.segments path) := by
  rw [join, if_neg (Bool.eq_false_iff.mp relative)]
  split
  · next isOpen =>
    rcases eq_empty_or_slash_of_isOpen isOpen with rfl | ⟨front, rfl⟩
    · -- Nothing is joined, and both start in the working directory.
      rw [String.empty_append, ofPath, startOf, relative]
      rfl
    · have whole := ofPath_slash home front ""
      rw [String.append_empty] at whole
      rw [ofPath_slash, whole]
      rfl
  · next closed =>
    have nonempty : directory ≠ "" := by
      rintro rfl
      exact closed rfl
    rw [ofPath_slash, startOf_append nonempty, ofPath]

end Location

end QuietSource.Files
