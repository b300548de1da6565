/-
# Line endings

Text that is given as it is may end a line by a line feed or by a carriage return and a line feed,
and its last line by nothing. In normalized text every line ends in a line feed alone. The lines of
a text are the lines of its normalized form, where nothing but a line feed ends a line. Each of them
is a line of the text itself, which at most has lost the carriage return in front of its line feed;
the carriage returns in other places stay.
-/

import QuietSource.Proofs.LineBreaks

namespace QuietSource.Text

/-- Characters with a line feed in the place of each pair of a carriage return and a line feed. -/
def plainFeedChars (chars : List Char) : List Char :=
  List.intercalate ['\n'] (pairParts '\r' '\n' chars)

/-- Characters with plain line feeds, of which one more follows if the last line has none. -/
def normalizedChars (chars : List Char) : List Char :=
  plainFeedChars chars ++ if chars ≠ [] ∧ chars.getLast? ≠ some '\n' then ['\n'] else []

/-- A text with plain line feeds, of which one more follows if the last line has none. -/
def normalized (text : String) : String :=
  String.ofList (normalizedChars text.toList)

/-- The lines of a text that ends each line in a line feed. -/
def feedLines (text : String) : List String :=
  (split '\n' text).dropLast

/-- A line without the carriage return at its end, if it has one there. -/
def withoutReturn (line : String) : String :=
  String.ofList (withoutReturnChars line.toList)

/-- A text is its last line behind some lines that end in line feeds. -/
@[elab_as_elim]
theorem lineInduction {motive : List Char → Prop}
    (last : ∀ line, '\n' ∉ line → motive line)
    (ended : ∀ line rest, '\n' ∉ line → motive rest → motive (line ++ '\n' :: rest))
    (chars : List Char) : motive chars := by
  by_cases feed : '\n' ∈ chars
  · obtain ⟨line, rest, whole, unbroken⟩ := List.eq_append_cons_of_mem feed
    have shorter : rest.length < chars.length := by
      rw [whole, List.length_append, List.length_cons]
      omega
    rw [whole]
    exact ended line rest unbroken (lineInduction last ended rest)
  · exact last chars feed
termination_by chars.length

theorem intercalate_modifyHead (separator : List Char) (c : Char) {parts : List (List Char)}
    (nonempty : parts ≠ []) :
    List.intercalate separator (parts.modifyHead (c :: ·)) =
      c :: List.intercalate separator parts := by
  obtain ⟨part, rest, rfl⟩ := List.exists_cons_of_ne_nil nonempty
  rw [List.modifyHead_cons]
  cases rest with
  | nil => simp
  | cons next rest => simp [List.intercalate_cons_cons]

theorem plainFeedChars_pair (rest : List Char) :
    plainFeedChars ('\r' :: '\n' :: rest) = '\n' :: plainFeedChars rest := by
  obtain ⟨part, parts, parted⟩ :=
    List.exists_cons_of_ne_nil (pairParts_ne_nil '\r' '\n' rest)
  rw [plainFeedChars, pairParts_separator, plainFeedChars, parted, List.intercalate_cons_cons]
  rfl

theorem plainFeedChars_cons {c : Char} {rest : List Char}
    (other : ∀ more, c = '\r' → rest = '\n' :: more → False) :
    plainFeedChars (c :: rest) = c :: plainFeedChars rest := by
  rw [plainFeedChars, pairParts_cons other,
    intercalate_modifyHead _ c (pairParts_ne_nil '\r' '\n' rest)]
  rfl

theorem plainFeedChars_of_not_mem {line : List Char} (unbroken : '\n' ∉ line) :
    plainFeedChars line = line := by
  have free : IsFree '\r' '\n' line := by
    rw [isFree_iff_of_ne (by decide)]
    exact fun found => unbroken (found.subset (by simp))
  rw [plainFeedChars, pairParts_of_isFree free, List.intercalate_singleton]

theorem plainFeedChars_line {line : List Char} (unbroken : '\n' ∉ line) (rest : List Char) :
    plainFeedChars (line ++ '\n' :: rest) =
      withoutReturnChars line ++ '\n' :: plainFeedChars rest := by
  induction line with
  | nil => exact plainFeedChars_cons fun more same _ => absurd same (by decide)
  | cons c line ih =>
    rw [List.mem_cons, not_or] at unbroken
    cases line with
    | nil =>
      by_cases isReturn : c = '\r'
      · rw [isReturn]
        exact plainFeedChars_pair rest
      · have feed : plainFeedChars ('\n' :: rest) = '\n' :: plainFeedChars rest := ih unbroken.2
        rw [List.singleton_append, plainFeedChars_cons fun _ same _ => isReturn same, feed]
        simp [withoutReturnChars, isReturn]
    | cons d more =>
      rw [List.cons_append, plainFeedChars_cons, ih unbroken.2, withoutReturnChars_cons_cons]
      · rfl
      · intro other _ same
        simp only [List.cons_append, List.cons.injEq] at same
        exact unbroken.2 (same.1 ▸ List.mem_cons_self)

theorem normalizedChars_line {line : List Char} (unbroken : '\n' ∉ line) (rest : List Char) :
    normalizedChars (line ++ '\n' :: rest) =
      withoutReturnChars line ++ '\n' :: normalizedChars rest := by
  -- Whether the last line has a line feed is seen behind the first one.
  have sameEnd : (line ++ '\n' :: rest ≠ [] ∧ (line ++ '\n' :: rest).getLast? ≠ some '\n') ↔
      (rest ≠ [] ∧ rest.getLast? ≠ some '\n') := by
    cases rest with
    | nil => simp
    | cons c more => simp [List.getLast?_append, List.getLast?_cons_cons]
  simp only [normalizedChars, plainFeedChars_line unbroken, sameEnd, List.append_assoc,
    List.cons_append]

theorem normalizedChars_of_not_mem {line : List Char} (unbroken : '\n' ∉ line) :
    normalizedChars line = if line = [] then [] else line ++ ['\n'] := by
  rw [normalizedChars, plainFeedChars_of_not_mem unbroken]
  by_cases nothing : line = []
  · simp [nothing]
  · have noFeed : line.getLast? ≠ some '\n' := fun found => unbroken (List.mem_of_getLast? found)
    rw [if_pos ⟨nothing, noFeed⟩, if_neg nothing]

theorem lineChars_last {line : List Char} (unbroken : '\n' ∉ line) :
    lineChars line = if line = [] then [] else [line] := by
  split
  · next nothing => rw [nothing, lineChars_nil]
  · next nonempty => exact lineChars_of_not_mem nonempty unbroken

/-- The lines of a text, each with a line feed behind it, are the normalized text. -/
theorem flatMap_lineChars (chars : List Char) :
    (lineChars chars).flatMap (· ++ ['\n']) = normalizedChars chars := by
  induction chars using lineInduction with
  | last line unbroken =>
    rw [lineChars_last unbroken, normalizedChars_of_not_mem unbroken]
    split <;> simp
  | ended line rest unbroken ih =>
    rw [lineChars_line unbroken, normalizedChars_line unbroken, List.flatMap_cons, ih,
      List.append_assoc]
    rfl

/-- A line that is ended by a line feed loses a carriage return in front of that, and a last line
without one is a line if there is anything on it. -/
theorem exists_splitChars_lineChars (chars : List Char) :
    ∃ ended last, splitChars '\n' chars = ended ++ [last] ∧
      lineChars chars = ended.map withoutReturnChars ++ if last = [] then [] else [last] := by
  induction chars using lineInduction with
  | last line unbroken =>
    exact ⟨[], line, splitChars_of_not_mem unbroken, lineChars_last unbroken⟩
  | ended line rest unbroken ih =>
    obtain ⟨ended, last, cut, lines⟩ := ih
    refine ⟨line :: ended, last, ?_, ?_⟩
    · rw [splitChars_append, splitChars_of_not_mem unbroken, cut]
      rfl
    · rw [lineChars_line unbroken, lines]
      rfl

end QuietSource.Text
