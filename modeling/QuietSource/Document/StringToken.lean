/-
# Strings in a document

TOML has four kinds of string. Between double quotes a backslash starts an escape; between single
quotes every character stands for itself. Three quotes instead of one open a string that may go
over several lines. A line end directly behind three opening quotes is not part of the string, and
behind a backslash at the end of a line everything up to the next character that is not blank is
left out. Three closing quotes may have up to two more in front that belong to the string.
-/

import QuietSource.Document.Layout
import QuietSource.Text.Source

namespace QuietSource.Document

open Text

/-- The value of a hexadecimal digit. -/
def hexDigit? (c : Char) : Option Nat :=
  if '0' ≤ c ∧ c ≤ '9' then some (c.toNat - '0'.toNat)
  else if 'a' ≤ c ∧ c ≤ 'f' then some (c.toNat - 'a'.toNat + 10)
  else if 'A' ≤ c ∧ c ≤ 'F' then some (c.toNat - 'A'.toNat + 10)
  else none

/-- The character whose code the digits spell. Surrogates and codes past the last character spell
none. -/
def charOfHex? (digits : List Char) : Option Char := do
  let values ← digits.mapM hexDigit?
  let code := values.foldl (fun code digit => 16 * code + digit) 0
  if code.isValidChar then some (Char.ofNat code) else none

/-- The character behind a backslash that a letter alone stands for. -/
def letterEscape? : Char → Option Char
  | 'b' => some '\x08'
  | 't' => some '\t'
  | 'n' => some '\n'
  | 'f' => some '\x0c'
  | 'r' => some '\r'
  | 'e' => some '\x1b'
  | '"' => some '"'
  | '\\' => some '\\'
  | _ => none

/-- Put a character before the string that a reader found. -/
def prepend (c : Char) (found : Option (List Char × List Char)) :
    Option (List Char × List Char) :=
  found.map fun (chars, rest) => (c :: chars, rest)

/-- Read a string up to its closing double quote. -/
def basicBody : List Char → Option (List Char × List Char)
  | [] => none
  | '"' :: rest => some ([], rest)
  | '\\' :: 'x' :: a :: b :: rest => do prepend (← charOfHex? [a, b]) (basicBody rest)
  | '\\' :: 'u' :: a :: b :: c :: d :: rest => do
    prepend (← charOfHex? [a, b, c, d]) (basicBody rest)
  | '\\' :: 'U' :: a :: b :: c :: d :: e :: f :: g :: h :: rest => do
    prepend (← charOfHex? [a, b, c, d, e, f, g, h]) (basicBody rest)
  | '\\' :: c :: rest => do prepend (← letterEscape? c) (basicBody rest)
  | c :: rest => if isTextChar c then prepend c (basicBody rest) else none

/-- Read a string up to its closing single quote. -/
def literalBody : List Char → Option (List Char × List Char)
  | [] => none
  | '\'' :: rest => some ([], rest)
  | c :: rest => if isTextChar c then prepend c (literalBody rest) else none

/-- Whether nothing but spaces and tabs is left on the line. -/
def atLineEnd (chars : List Char) : Bool :=
  (newline? (skipSpaces chars)).isSome

/-- Read a string of several lines up to its three closing double quotes. The flag tells whether
blanks are being left out behind a backslash at the end of a line. -/
def multilineBasicBody (folding : Bool) : List Char → Option (List Char × List Char)
  | [] => none
  | '"' :: '"' :: '"' :: '"' :: '"' :: rest => some (['"', '"'], rest)
  | '"' :: '"' :: '"' :: '"' :: rest => some (['"'], rest)
  | '"' :: '"' :: '"' :: rest => some ([], rest)
  | '\r' :: '\n' :: rest =>
    if folding then multilineBasicBody true rest
    else prepend '\r' (prepend '\n' (multilineBasicBody false rest))
  | '\n' :: rest =>
    if folding then multilineBasicBody true rest
    else prepend '\n' (multilineBasicBody false rest)
  | '\\' :: 'x' :: a :: b :: rest => do
    prepend (← charOfHex? [a, b]) (multilineBasicBody false rest)
  | '\\' :: 'u' :: a :: b :: c :: d :: rest => do
    prepend (← charOfHex? [a, b, c, d]) (multilineBasicBody false rest)
  | '\\' :: 'U' :: a :: b :: c :: d :: e :: f :: g :: h :: rest => do
    prepend (← charOfHex? [a, b, c, d, e, f, g, h]) (multilineBasicBody false rest)
  | '\\' :: c :: rest =>
    if atLineEnd (c :: rest) then multilineBasicBody true (c :: rest)
    else do prepend (← letterEscape? c) (multilineBasicBody false rest)
  | c :: rest =>
    if folding && isSpace c then multilineBasicBody true rest
    else if isTextChar c then prepend c (multilineBasicBody false rest)
    else none

/-- Read a string of several lines up to its three closing single quotes. -/
def multilineLiteralBody : List Char → Option (List Char × List Char)
  | [] => none
  | '\'' :: '\'' :: '\'' :: '\'' :: '\'' :: rest => some (['\'', '\''], rest)
  | '\'' :: '\'' :: '\'' :: '\'' :: rest => some (['\''], rest)
  | '\'' :: '\'' :: '\'' :: rest => some ([], rest)
  | '\r' :: '\n' :: rest => prepend '\r' (prepend '\n' (multilineLiteralBody rest))
  | '\n' :: rest => prepend '\n' (multilineLiteralBody rest)
  | c :: rest => if isTextChar c then prepend c (multilineLiteralBody rest) else none

/-- Skip a line end directly behind three opening quotes. -/
def skipFirstNewline (chars : List Char) : List Char :=
  (newline? chars).getD chars

/-- Read a string of any kind. -/
def stringChars? : List Char → Option (List Char × List Char)
  | '"' :: '"' :: '"' :: rest => multilineBasicBody false (skipFirstNewline rest)
  | '\'' :: '\'' :: '\'' :: rest => multilineLiteralBody (skipFirstNewline rest)
  | '"' :: rest => basicBody rest
  | '\'' :: rest => literalBody rest
  | _ => none

/-- Read a string of any kind, with its place, which covers the quotes. -/
def string? (chars : List Char) : Option (Located String × List Char) := do
  let (value, rest) ← stringChars? chars
  some (⟨String.ofList value, chars, rest⟩, rest)

end QuietSource.Document
