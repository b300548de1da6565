/-
# Lines of a text

A line ends before a line feed, or before a carriage return directly followed by one. A final
line feed ends the last line and starts no further one, so a text of `n` line feeds that ends in
one has `n` lines. A carriage return that is not directly before a line feed belongs to its line,
also at the very end of the text.
-/

namespace QuietSource.Text

/-- The lines of a text, as lists of characters. -/
def lineChars : List Char → List (List Char)
  | [] => []
  | '\n' :: rest => [] :: lineChars rest
  | '\r' :: '\n' :: rest => [] :: lineChars rest
  | c :: rest =>
    match lineChars rest with
    | [] => [[c]]
    | line :: lines => (c :: line) :: lines

/-- The lines of a text. -/
def lines (text : String) : List String :=
  (lineChars text.toList).map String.ofList

/-- The empty text has no lines. -/
theorem lineChars_nil : lineChars [] = [] := rfl

/-- A line feed ends an empty line. -/
theorem lineChars_newline (rest : List Char) :
    lineChars ('\n' :: rest) = [] :: lineChars rest := by
  simp [lineChars]

/-- A carriage return goes with the line feed directly behind it. -/
theorem lineChars_return_newline (rest : List Char) :
    lineChars ('\r' :: '\n' :: rest) = [] :: lineChars rest := by
  simp [lineChars]

/-- A text without line feeds is a single line. -/
theorem lineChars_of_not_mem {chars : List Char} (nonempty : chars ≠ [])
    (h : '\n' ∉ chars) : lineChars chars = [chars] := by
  induction chars with
  | nil => exact absurd rfl nonempty
  | cons c rest ih =>
    rw [List.mem_cons, not_or] at h
    cases rest with
    | nil =>
      rw [lineChars]
      · rfl
      · exact fun same => h.1 same.symm
      · intro more _ same
        exact nomatch same
    | cons d more =>
      rw [lineChars, ih (List.cons_ne_nil d more) h.2]
      · exact fun same => h.1 same.symm
      · intro other _ same
        exact h.2 (same ▸ List.mem_cons_self)

end QuietSource.Text
