/-
# Separators of two characters

Several lists are written with a separator of two characters: lints and categories with a comma and
a space, the parts of a lint name with two colons. Cutting a text at such a separator, from left to
right, never loses anything, and it gives back the parts that were joined as long as the separator
stands neither inside any of them nor across its end. A part without the separator's first character
is always of this kind.
-/

namespace QuietSource.Text

variable {first second : Char}

/-- The parts of a text between the occurrences of `first` and `second` side by side, which are
found from left to right. -/
def pairParts (first second : Char) : List Char → List (List Char)
  | [] => [[]]
  | [c] => [[c]]
  | c :: d :: rest =>
    if c = first ∧ d = second then [] :: pairParts first second rest
    else (pairParts first second (d :: rest)).modifyHead (c :: ·)

/-- The parts of a text between the occurrences of a pair of characters, as texts. -/
def splitAtPair (first second : Char) (text : String) : List String :=
  (pairParts first second text.toList).map String.ofList

theorem pairParts_ne_nil (first second : Char) (chars : List Char) :
    pairParts first second chars ≠ [] := by
  induction chars using pairParts.induct first second with
  | case1 => simp [pairParts]
  | case2 c => simp [pairParts]
  | case3 c d rest found ih => simp [pairParts, found]
  | case4 c d rest other ih => simpa [pairParts, other] using ih

/-- A character that no separator begins with here belongs to the first part. -/
theorem pairParts_cons {c : Char} {rest : List Char}
    (h : ∀ more, c = first → rest = second :: more → False) :
    pairParts first second (c :: rest) =
      (pairParts first second rest).modifyHead (c :: ·) := by
  cases rest with
  | nil => rfl
  | cons d rest => rw [pairParts, if_neg fun found => h rest found.1 (by rw [found.2])]

theorem pairParts_separator (rest : List Char) :
    pairParts first second (first :: second :: rest) = [] :: pairParts first second rest := by
  rw [pairParts, if_pos ⟨rfl, rfl⟩]

/-- The separator stands nowhere in a part, and not across its end either, where a separator that
follows begins. -/
def IsFree (first second : Char) (part : List Char) : Prop :=
  ¬ [first, second] <:+: part ++ [first]

theorem isFree_cons_iff {c : Char} {part : List Char} :
    IsFree first second (c :: part) ↔
      ¬ [first, second] <+: c :: (part ++ [first]) ∧ IsFree first second part := by
  rw [IsFree, List.cons_append, List.infix_cons_iff, not_or, IsFree]

/-- Without its first character there is no separator. -/
theorem isFree_of_not_mem {part : List Char} (h : first ∉ part) : IsFree first second part := by
  intro found
  rcases List.infix_concat_iff.mp found with atEnd | inside
  · rcases List.suffix_concat_iff.mp atEnd with nothing | ⟨before, same, ending⟩
    · exact nomatch nothing
    · obtain ⟨rfl, -⟩ : [first] = before ∧ [second] = [first] := List.append_inj' same rfl
      exact h (ending.subset List.mem_cons_self)
  · exact h (inside.subset List.mem_cons_self)

/-- A separator of two different characters never stands across the end of a part. -/
theorem isFree_iff_of_ne (different : first ≠ second) {part : List Char} :
    IsFree first second part ↔ ¬ [first, second] <:+: part := by
  rw [IsFree, List.infix_concat_iff, not_or, and_iff_right_iff_imp]
  intro _ atEnd
  rcases List.suffix_concat_iff.mp atEnd with nothing | ⟨before, same, -⟩
  · exact nomatch nothing
  · obtain ⟨-, ends⟩ : [first] = before ∧ [second] = [first] := List.append_inj' same rfl
    exact different (List.singleton_inj.mp ends).symm

/-- A text that is free of the separator is one part. -/
theorem pairParts_of_isFree {part : List Char} (h : IsFree first second part) :
    pairParts first second part = [part] := by
  induction part with
  | nil => rfl
  | cons c rest ih =>
    obtain ⟨notHere, later⟩ := isFree_cons_iff.mp h
    rw [pairParts_cons, ih later]
    · rfl
    · rintro more rfl rfl
      exact notHere (List.prefix_append [c, second] (more ++ [c]))

theorem pairParts_of_not_mem {part : List Char} (h : first ∉ part) :
    pairParts first second part = [part] :=
  pairParts_of_isFree (isFree_of_not_mem h)

/-- A part that is free of the separator ends at the next one, which is the leftmost. -/
theorem pairParts_append_of_isFree {part : List Char} (h : IsFree first second part)
    (rest : List Char) :
    pairParts first second (part ++ first :: second :: rest) =
      part :: pairParts first second rest := by
  induction part with
  | nil => exact pairParts_separator rest
  | cons c part ih =>
    obtain ⟨notHere, later⟩ := isFree_cons_iff.mp h
    rw [List.cons_append, pairParts_cons, ih later]
    · rfl
    · rintro more rfl begins
      -- The character behind `c` is that of the part, or the one with which its end is tested.
      cases part with
      | nil =>
        obtain rfl : c = second := (List.cons.inj begins).1
        exact notHere (List.prefix_refl [c, c])
      | cons d part =>
        obtain rfl : d = second := (List.cons.inj begins).1
        exact notHere (List.prefix_append [c, d] (part ++ [c]))

theorem pairParts_append {part : List Char} (h : first ∉ part) (rest : List Char) :
    pairParts first second (part ++ first :: second :: rest) =
      part :: pairParts first second rest :=
  pairParts_append_of_isFree (isFree_of_not_mem h) rest

theorem pairParts_intercalate {parts : List (List Char)} (nonempty : parts ≠ [])
    (h : ∀ part ∈ parts, IsFree first second part) :
    pairParts first second (List.intercalate [first, second] parts) = parts := by
  induction parts with
  | nil => exact absurd rfl nonempty
  | cons part rest ih =>
    have clean : IsFree first second part := h part List.mem_cons_self
    cases rest with
    | nil => rw [List.intercalate_singleton, pairParts_of_isFree clean]
    | cons next rest =>
      have later := ih (List.cons_ne_nil next rest) fun other member =>
        h other (List.mem_cons_of_mem part member)
      rw [List.intercalate_cons_cons, List.append_assoc]
      simp only [List.cons_append, List.nil_append]
      rw [pairParts_append_of_isFree clean, later]

/-- Joining with the separator undoes cutting at it, so nothing is lost. -/
theorem intercalate_pairParts (first second : Char) (chars : List Char) :
    List.intercalate [first, second] (pairParts first second chars) = chars := by
  induction chars using pairParts.induct first second with
  | case1 => simp [pairParts]
  | case2 c => simp [pairParts]
  | case3 c d rest found ih =>
    obtain ⟨part, parts, parted⟩ :=
      List.exists_cons_of_ne_nil (pairParts_ne_nil first second rest)
    rw [parted] at ih
    rw [pairParts, if_pos found, parted, List.intercalate_cons_cons, ih, found.1, found.2]
    rfl
  | case4 c d rest other ih =>
    obtain ⟨part, parts, parted⟩ :=
      List.exists_cons_of_ne_nil (pairParts_ne_nil first second (d :: rest))
    rw [parted] at ih
    rw [pairParts, if_neg other, parted, List.modifyHead_cons]
    cases parts with
    | nil => simpa using ih
    | cons next parts =>
      rw [List.intercalate_cons_cons] at ih ⊢
      rw [List.cons_append, List.cons_append, ih]

/-- Cutting a joined text gives back the texts that were joined, if they are free of the
separator. -/
theorem splitAtPair_intercalate_of_isFree {parts : List String} (nonempty : parts ≠ [])
    (h : ∀ part ∈ parts, IsFree first second part.toList) :
    splitAtPair first second (String.intercalate (String.ofList [first, second]) parts) =
      parts := by
  have cut : pairParts first second
      (List.intercalate [first, second] (parts.map String.toList)) =
        parts.map String.toList :=
    pairParts_intercalate (by simpa using nonempty) (by simpa using h)
  rw [splitAtPair, String.toList_intercalate, String.toList_ofList, cut, List.map_map]
  simp [Function.comp_def]

theorem splitAtPair_intercalate {parts : List String} (nonempty : parts ≠ [])
    (h : ∀ part ∈ parts, first ∉ part.toList) :
    splitAtPair first second (String.intercalate (String.ofList [first, second]) parts) =
      parts :=
  splitAtPair_intercalate_of_isFree nonempty fun part listed => isFree_of_not_mem (h part listed)

/-- A character of a joined text is one of a part or of the separator. -/
theorem mem_toList_intercalate {separator : String} {parts : List String} {c : Char}
    (member : c ∈ (String.intercalate separator parts).toList) :
    (∃ part ∈ parts, c ∈ part.toList) ∨ c ∈ separator.toList := by
  induction parts with
  | nil => exact absurd member List.not_mem_nil
  | cons part rest ih =>
    cases rest with
    | nil =>
      rw [String.intercalate_singleton] at member
      exact Or.inl ⟨part, List.mem_cons_self, member⟩
    | cons next rest =>
      rw [String.intercalate_cons_cons, String.toList_append, String.toList_append,
        List.mem_append, List.mem_append] at member
      rcases member with (inFirst | inSeparator) | inRest
      · exact Or.inl ⟨part, List.mem_cons_self, inFirst⟩
      · exact Or.inr inSeparator
      · rcases ih inRest with ⟨other, listed, inOther⟩ | inSeparator
        · exact Or.inl ⟨other, List.mem_cons_of_mem part listed, inOther⟩
        · exact Or.inr inSeparator

end QuietSource.Text
