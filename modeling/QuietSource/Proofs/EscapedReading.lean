/-
# Escaped texts can be read back

An escaped text is read from its opening to its closing quote. A backslash starts a short form of
one letter or a code in braces, and every other character stands for itself. Reading what was
written for a text gives back the text and leaves over what stands behind it, since no character is
written in a way that ends the text early. Whatever the text is, only characters with a shape are
written, so there is no line break among them.
-/

import Mathlib.Data.Nat.Digits.Defs
import QuietSource.Document.StringToken
import QuietSource.Text.Quoted

namespace QuietSource.Text

open Document (hexDigit? charOfHex? prepend)

/-- The digits of a code are those below sixteen. -/
theorem exists_of_mem_hexDigits {code : Nat} {d : Char} (h : d ∈ hexDigits code) :
    ∃ value < 16, d = value.digitChar := by
  induction code using Nat.strongRecOn with
  | ind code ih =>
    rw [hexDigits, Nat.toDigits_eq_if (by decide)] at h
    split at h
    · next small => exact ⟨code, small, List.mem_singleton.mp h⟩
    · rcases List.mem_append.mp h with inFront | last
      · exact ih (code / 16) (by omega) inFront
      · exact ⟨code % 16, Nat.mod_lt _ (by decide), List.mem_singleton.mp last⟩

theorem hexDigit?_digitChar {value : Nat} (h : value < 16) :
    hexDigit? value.digitChar = some value := by
  revert value
  decide

/-- The values of the digits of a code make up the code. -/
theorem exists_values_hexDigits (code : Nat) :
    ∃ values, (hexDigits code).mapM hexDigit? = some values ∧
      values.foldl (fun code digit => 16 * code + digit) 0 = code := by
  induction code using Nat.strongRecOn with
  | ind code ih =>
    rw [hexDigits, Nat.toDigits_eq_if (by decide)]
    split
    · next small => exact ⟨[code], by simp [hexDigit?_digitChar small], by simp⟩
    · obtain ⟨values, read, whole⟩ := ih (code / 16) (by omega)
      have last := hexDigit?_digitChar (Nat.mod_lt code (by decide : 0 < 16))
      rw [hexDigits] at read
      refine ⟨values ++ [code % 16], by simp [List.mapM_append, read, last], ?_⟩
      rw [List.foldl_append, whole]
      exact Nat.div_add_mod code 16

theorem charOfHex?_hexDigits (c : Char) : charOfHex? (hexDigits c.toNat) = some c := by
  obtain ⟨values, read, whole⟩ := exists_values_hexDigits c.toNat
  have valid : c.toNat.isValidChar := c.valid
  simp [charOfHex?, read, whole, valid]

/-- The character of a code, which has one to six digits. -/
def charOfCode? (digits : List Char) : Option Char :=
  if 1 ≤ digits.length ∧ digits.length ≤ 6 then charOfHex? digits else none

/-- Six digits are enough, since there are no characters beyond. -/
theorem charOfCode?_hexDigits (c : Char) : charOfCode? (hexDigits c.toNat) = some c := by
  have bound : c.toNat < 16 ^ 6 := by
    have valid : c.toNat.isValidChar := c.valid
    simp only [Nat.isValidChar] at valid
    omega
  have short : (hexDigits c.toNat).length ≤ 6 :=
    Nat.toDigits_length 16 c.toNat 6 (by decide) bound
  rw [charOfCode?, if_pos ⟨Nat.length_toDigits_pos, short⟩, charOfHex?_hexDigits]

/-- The character that a letter behind a backslash stands for. -/
def shortEscape? : Char → Option Char
  | '0' => some '\x00'
  | 't' => some '\t'
  | 'r' => some '\r'
  | 'n' => some '\n'
  | '"' => some '"'
  | '\\' => some '\\'
  | _ => none

/-- Read the inside of an escaped text up to its closing quote. What stands behind is left over.
Within the braces of a code the digits so far are given. -/
def readInside? : (code : Option (List Char)) → List Char → Option (List Char × List Char)
  | _, [] => none
  | some digits, c :: rest =>
    if c = '\x7d' then (charOfCode? digits).bind fun d => prepend d (readInside? none rest)
    else readInside? (some (digits ++ [c])) rest
  | none, '"' :: rest => some ([], rest)
  | none, '\\' :: 'u' :: '\x7b' :: rest => readInside? (some []) rest
  | none, '\\' :: letter :: rest =>
    (shortEscape? letter).bind fun c => prepend c (readInside? none rest)
  | none, c :: rest => if c = '\\' then none else prepend c (readInside? none rest)

/-- Read an escaped text with its quotes. -/
def readEscaped? : List Char → Option (String × List Char)
  | '"' :: inside => (readInside? none inside).map fun read => (String.ofList read.1, read.2)
  | _ => none

/-- The digits up to the closing brace are collected. -/
theorem readInside?_digits (digits : List Char) {more : List Char} (h : '\x7d' ∉ more)
    (rest : List Char) :
    readInside? (some digits) (more ++ '\x7d' :: rest) =
      (charOfCode? (digits ++ more)).bind fun c => prepend c (readInside? none rest) := by
  induction more generalizing digits with
  | nil => rw [List.nil_append, readInside?, if_pos rfl, List.append_nil]
  | cons d more ih =>
    rw [List.mem_cons, not_or] at h
    rw [List.cons_append, readInside?, if_neg (Ne.symm h.1), ih _ h.2, List.append_assoc,
      List.singleton_append]

theorem readInside?_codeEscape (c : Char) (rest : List Char) :
    readInside? none (codeEscape c ++ rest) = prepend c (readInside? none rest) := by
  have noBrace : '\x7d' ∉ hexDigits c.toNat := by
    intro member
    obtain ⟨value, -, same⟩ := exists_of_mem_hexDigits member
    exact Nat.digitChar_ne '\x7d' (by decide) same.symm
  have parts : codeEscape c ++ rest =
      '\\' :: 'u' :: '\x7b' :: (hexDigits c.toNat ++ '\x7d' :: rest) := by
    simp [codeEscape]
  rw [parts, readInside?, readInside?_digits [] noBrace, List.nil_append, charOfCode?_hexDigits,
    Option.bind_some]

/-- However a character is written, it is read as itself, and nothing behind it is touched. -/
theorem readInside?_escapedChar (c : Char) (rest : List Char) :
    readInside? none (escapedChar c ++ rest) = prepend c (readInside? none rest) := by
  unfold escapedChar
  split_ifs with nul tab ret feed special attaching shaped
  · subst nul; rfl
  · subst tab; rfl
  · subst ret; rfl
  · subst feed; rfl
  · rcases special with rfl | rfl <;> rfl
  · exact readInside?_codeEscape c rest
  · obtain ⟨notQuote, notBackslash⟩ := not_or.mp special
    rw [List.singleton_append, readInside?, if_neg notBackslash]
    · exact notQuote
    · exact fun _ same _ => notBackslash same
    · exact fun _ _ same _ => notBackslash same
  · exact readInside?_codeEscape c rest

theorem readInside?_flatMap (chars rest : List Char) :
    readInside? none (chars.flatMap escapedChar ++ '"' :: rest) = some (chars, rest) := by
  induction chars with
  | nil => rfl
  | cons c chars ih =>
    rw [List.flatMap_cons, List.append_assoc, readInside?_escapedChar, ih]
    rfl

/-- What was written for a text is read as this text, whatever stands behind. -/
theorem readEscaped?_escaped (text : String) (rest : List Char) :
    readEscaped? ((escaped text).toList ++ rest) = some (text, rest) := by
  have parts : (escaped text).toList ++ rest =
      '"' :: (text.toList.flatMap escapedChar ++ '"' :: rest) := by
    simp [escaped]
  rw [parts, readEscaped?, readInside?_flatMap, Option.map_some, String.ofList_toList]

/-- All characters of a text have a shape. -/
def IsPrintable (text : String) : Prop :=
  ∀ c ∈ text.toList, hasShape c = true

instance (text : String) : Decidable (IsPrintable text) :=
  List.decidableBAll _ _

theorem isPrintable_append {first second : String} :
    IsPrintable (first ++ second) ↔ IsPrintable first ∧ IsPrintable second := by
  simp only [IsPrintable, String.toList_append, List.forall_mem_append]

theorem hasShape_digitChar {value : Nat} (h : value < 16) : hasShape value.digitChar = true := by
  revert value
  decide

theorem all_hasShape_codeEscape (c : Char) : (codeEscape c).all hasShape = true := by
  have digits : (hexDigits c.toNat).all hasShape = true := by
    rw [List.all_eq_true]
    intro d digit
    obtain ⟨value, small, rfl⟩ := exists_of_mem_hexDigits digit
    exact hasShape_digitChar small
  rw [codeEscape, List.all_append, List.all_append, digits]
  decide

theorem all_hasShape_escapedChar (c : Char) : (escapedChar c).all hasShape = true := by
  unfold escapedChar
  split_ifs with nul tab ret feed special attaching shaped
  · decide
  · decide
  · decide
  · decide
  · rcases special with rfl | rfl <;> decide
  · exact all_hasShape_codeEscape c
  · rw [List.all_cons, shaped, List.all_nil, Bool.and_self]
  · exact all_hasShape_codeEscape c

theorem isPrintable_escaped (text : String) : IsPrintable (escaped text) := by
  have inside : IsPrintable (String.ofList (text.toList.flatMap escapedChar)) := by
    rw [IsPrintable, String.toList_ofList, List.forall_mem_flatMap]
    exact fun c _ => List.all_eq_true.mp (all_hasShape_escapedChar c)
  rw [escaped, isPrintable_append, isPrintable_append]
  exact ⟨⟨by decide, inside⟩, by decide⟩

/-- The characters that end a line: line feed, vertical tab, form feed, carriage return, next line,
line separator and paragraph separator. -/
def lineBreaks : List Char :=
  ['\n', '\x0b', '\x0c', '\r', '\u0085', '\u2028', '\u2029']

/-- A text of characters with a shape is a single line. -/
theorem IsPrintable.disjoint_lineBreaks {text : String} (printable : IsPrintable text) :
    text.toList.Disjoint lineBreaks := by
  have shapeless : lineBreaks.any hasShape = false := by decide +kernel
  intro c inText isBreak
  exact List.any_eq_false.mp shapeless c isBreak (printable c inText)

end QuietSource.Text
