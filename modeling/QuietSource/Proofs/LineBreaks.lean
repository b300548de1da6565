/-
# Texts without line feeds

A text without line feeds fits on one line wherever it is written. Joined texts have no line feed if
none of them has, neither have the lines of a text and what trimming leaves of them. Indenting a
text puts a unit before each of its lines and changes nothing else; on a text that is made of lines
it works line by line.
-/

import QuietSource.Proofs.Separator
import QuietSource.Text.Blank
import QuietSource.Text.Lines
import QuietSource.Text.Split

namespace QuietSource.Text

/-- A text has no line feed in it. -/
def IsUnbroken (text : String) : Prop :=
  '\n' ∉ text.toList

instance (text : String) : Decidable (IsUnbroken text) :=
  inferInstanceAs (Decidable (¬ _))

@[simp] theorem isUnbroken_append {first second : String} :
    IsUnbroken (first ++ second) ↔ IsUnbroken first ∧ IsUnbroken second := by
  simp only [IsUnbroken, String.toList_append, List.mem_append, not_or]

theorem IsUnbroken.join {parts : List String} (h : ∀ part ∈ parts, IsUnbroken part) :
    IsUnbroken (String.join parts) := by
  rw [IsUnbroken, String.toList_join, List.mem_flatMap]
  rintro ⟨part, listed, member⟩
  exact h part listed member

theorem IsUnbroken.intercalate {separator : String} (between : IsUnbroken separator)
    {parts : List String} (h : ∀ part ∈ parts, IsUnbroken part) :
    IsUnbroken (String.intercalate separator parts) := by
  intro member
  rcases mem_toList_intercalate member with ⟨part, listed, inPart⟩ | inSeparator
  · exact h part listed inPart
  · exact between inSeparator

theorem IsUnbroken.intercalate_map {α : Type} {separator : String}
    (between : IsUnbroken separator) {textOf : α → String} {parts : List α}
    (h : ∀ part ∈ parts, IsUnbroken (textOf part)) :
    IsUnbroken (String.intercalate separator (parts.map textOf)) :=
  IsUnbroken.intercalate between (List.forall_mem_map.mpr h)

theorem not_mem_of_mem_lineChars {chars line : List Char} (h : line ∈ lineChars chars) :
    '\n' ∉ line := by
  induction chars using lineChars.induct generalizing line with
  | case1 => exact absurd h List.not_mem_nil
  | case2 rest ih =>
    rw [lineChars_newline] at h
    rcases List.mem_cons.mp h with rfl | later
    · exact List.not_mem_nil
    · exact ih later
  | case3 rest ih =>
    rw [lineChars_return_newline] at h
    rcases List.mem_cons.mp h with rfl | later
    · exact List.not_mem_nil
    · exact ih later
  | case4 c rest notFeed notReturn last ih =>
    rw [lineChars, last, List.mem_singleton] at h
    · subst h
      simpa using fun same => notFeed same.symm
    · exact notFeed
    · exact notReturn
  | case5 c rest notFeed notReturn first others cut ih =>
    -- The character goes to the front of the first line of the rest.
    rw [lineChars, cut] at h
    · rcases List.mem_cons.mp h with rfl | later
      · rw [List.mem_cons, not_or]
        exact ⟨fun same => notFeed same.symm, ih (cut ▸ List.mem_cons_self)⟩
      · exact ih (cut ▸ List.mem_cons_of_mem first later)
    · exact notFeed
    · exact notReturn

theorem IsUnbroken.of_mem_lines {text line : String} (h : line ∈ lines text) : IsUnbroken line := by
  obtain ⟨chars, member, rfl⟩ := List.mem_map.mp h
  rw [IsUnbroken, String.toList_ofList]
  exact not_mem_of_mem_lineChars member

theorem split_line (line rest : String) :
    split '\n' (line ++ "\n" ++ rest) = split '\n' line ++ split '\n' rest :=
  split_append '\n' line rest

/-- A line without the carriage return at its end, if it has one there. -/
def withoutReturnChars (line : List Char) : List Char :=
  if line.getLast? = some '\r' then line.dropLast else line

theorem withoutReturnChars_cons_cons (c d : Char) (rest : List Char) :
    withoutReturnChars (c :: d :: rest) = c :: withoutReturnChars (d :: rest) := by
  rw [withoutReturnChars, List.getLast?_cons_cons, withoutReturnChars, List.dropLast_cons_cons,
    apply_ite (List.cons c)]

/-- The first line ends before its line feed, or before the carriage return in front of that. -/
theorem lineChars_line {line : List Char} (unbroken : '\n' ∉ line) (rest : List Char) :
    lineChars (line ++ '\n' :: rest) = withoutReturnChars line :: lineChars rest := by
  induction line with
  | nil => exact lineChars_newline rest
  | cons c line ih =>
    rw [List.mem_cons, not_or] at unbroken
    cases line with
    | nil =>
      by_cases isReturn : c = '\r'
      · rw [isReturn]
        exact lineChars_return_newline rest
      · rw [List.singleton_append, lineChars, lineChars_newline]
        · simp [withoutReturnChars, isReturn]
        · exact fun same => unbroken.1 same.symm
        · exact fun more same _ => isReturn same
    | cons d more =>
      rw [List.cons_append, lineChars, ih unbroken.2, withoutReturnChars_cons_cons]
      · exact fun same => unbroken.1 same.symm
      · intro other _ same
        simp only [List.cons_append, List.cons.injEq] at same
        exact unbroken.2 (same.1 ▸ List.mem_cons_self)

theorem prefix_trimEndChars (chars : List Char) : trimEndChars chars <+: chars := by
  rw [trimEndChars, ← List.reverse_suffix, List.reverse_reverse]
  exact List.dropWhile_suffix _

theorem IsUnbroken.trimEnd {text : String} (h : IsUnbroken text) : IsUnbroken (trimEnd text) := by
  rw [IsUnbroken, Text.trimEnd, String.toList_ofList]
  exact fun member => h ((prefix_trimEndChars text.toList).mem member)

/-- Characters with a mark before each line. Whether a line starts with the first of them is what
`fresh` says. -/
def markLines (mark : List Char) : (fresh : Bool) → List Char → List Char
  | _, [] => []
  | fresh, c :: rest => (if fresh then mark else []) ++ c :: markLines mark (c == '\n') rest

/-- A text with a unit before each line. -/
def indentLines (unit text : String) : String :=
  String.ofList (markLines unit.toList true text.toList)

theorem markLines_append_newline (mark : List Char) {line : List Char} (h : '\n' ∉ line)
    (fresh : Bool) (rest : List Char) :
    markLines mark fresh (line ++ '\n' :: rest) =
      (if fresh then mark else []) ++ line ++ '\n' :: markLines mark true rest := by
  induction line generalizing fresh with
  | nil => simp [markLines]
  | cons c line ih =>
    rw [List.mem_cons, not_or] at h
    have inside : (c == '\n') = false := beq_eq_false_iff_ne.mpr (Ne.symm h.1)
    rw [List.cons_append, markLines, inside, ih h.2]
    simp

/-- The first line gets its unit, and the lines behind it are seen to by themselves. -/
theorem indentLines_line (unit : String) {line : String} (h : IsUnbroken line) (rest : String) :
    indentLines unit (line ++ "\n" ++ rest) = unit ++ line ++ "\n" ++ indentLines unit rest := by
  have marked := markLines_append_newline unit.toList h true rest.toList
  rw [← String.toList_inj, indentLines, indentLines]
  simpa using marked

/-- An empty line is a line, and nothing begins behind the last line feed. -/
example : indentLines "\t" "a\n\nb\n" = "\ta\n\t\n\tb\n" := by decide

end QuietSource.Text
