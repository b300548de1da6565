/-
# Quoted texts

Two ways to write a text between double quotes. A *literal* escapes the quote and the backslash,
each by a backslash in front, and leaves every other character as it is, line feeds included. An
*escaped* text also has short forms for NUL, tab, carriage return and line feed, and writes a
character by its hexadecimal code when it cannot stand for itself on the page.
-/

import QuietSource.Text.Shape

namespace QuietSource.Text

/-- The inside of a literal: a backslash before each quote and each backslash. -/
def literalChars : List Char → List Char
  | [] => []
  | c :: rest =>
    if c = '"' ∨ c = '\\' then '\\' :: c :: literalChars rest else c :: literalChars rest

/-- A text as a literal. -/
def literal (text : String) : String :=
  "\"" ++ String.ofList (literalChars text.toList) ++ "\""

/-- The hexadecimal digits of a code point, in lower case and without leading zeros. -/
def hexDigits (code : Nat) : List Char :=
  Nat.toDigits 16 code

/-- A character by its code, in the form backslash, `u` and the digits in braces. -/
def codeEscape (c : Char) : List Char :=
  ['\\', 'u', '\x7b'] ++ hexDigits c.toNat ++ ['\x7d']

/-- How one character is written inside an escaped text. -/
def escapedChar (c : Char) : List Char :=
  if c = '\x00' then ['\\', '0']
  else if c = '\t' then ['\\', 't']
  else if c = '\r' then ['\\', 'r']
  else if c = '\n' then ['\\', 'n']
  else if c = '"' ∨ c = '\\' then ['\\', c]
  else if isAttaching c then codeEscape c
  else if hasShape c then [c]
  else codeEscape c

/-- A text in quotes, with everything that has no shape of its own escaped. -/
def escaped (text : String) : String :=
  "\"" ++ String.ofList (text.toList.flatMap escapedChar) ++ "\""

end QuietSource.Text
