/-
# Blank characters

A text is blank when nothing is left of it after its ends are trimmed of `White_Space`, the
Unicode property. The property is a fixed list of twenty-five characters: the ASCII controls from
tab to carriage return, the space, and the spaces and separators further up. Zero-width
characters and the information separators below the space are not in it.
-/

namespace QuietSource.Text

/-- Whether a character has the Unicode property `White_Space`. -/
def isBlankChar (c : Char) : Bool :=
  let n := c.toNat
  (0x9 ≤ n && n ≤ 0xD) || n == 0x20 || n == 0x85 || n == 0xA0 || n == 0x1680 ||
    (0x2000 ≤ n && n ≤ 0x200A) || n == 0x2028 || n == 0x2029 || n == 0x202F ||
    n == 0x205F || n == 0x3000

/-- Whether a text consists of blank characters only. The empty text does. -/
def isBlank (text : String) : Bool :=
  text.toList.all isBlankChar

/-- The characters up to the last one that is not blank. -/
def trimEndChars (chars : List Char) : List Char :=
  (chars.reverse.dropWhile isBlankChar).reverse

/-- A text without the blank characters at its end. -/
def trimEnd (text : String) : String :=
  String.ofList (trimEndChars text.toList)

/-- Trimming leaves nothing exactly of the blank texts. -/
theorem trimEndChars_eq_nil_iff {chars : List Char} :
    trimEndChars chars = [] ↔ chars.all isBlankChar = true := by
  have dropped (list : List Char) :
      list.dropWhile isBlankChar = [] ↔ list.all isBlankChar = true := by
    induction list with
    | nil => simp
    | cons c rest ih => by_cases h : isBlankChar c = true <;> simp_all
  rw [trimEndChars, List.reverse_eq_nil_iff, dropped, List.all_reverse]

end QuietSource.Text
