/-
# Layout between the tokens of a document

Documents are written in TOML. Between their tokens stand spaces and tabs, line ends and comments.
A line ends with a line feed, which a carriage return may precede; a carriage return anywhere else
is an error. A comment runs from `#` to the end of its line and holds no control characters.

The readers of this library take the characters still to be read and answer with what they found
and the characters left over, or with nothing if the document is not well formed.
-/

namespace QuietSource.Document

/-- Whether a character may stand in a comment or, quotes apart, in a string. -/
def isTextChar (c : Char) : Bool :=
  c == '\t' || (0x20 ≤ c.toNat && c.toNat != 0x7F)

/-- Whether a character is a space or a tab. -/
def isSpace (c : Char) : Bool :=
  c == ' ' || c == '\t'

/-- Skip spaces and tabs. -/
def skipSpaces (chars : List Char) : List Char :=
  chars.dropWhile isSpace

/-- Skip one line end. -/
def newline? : List Char → Option (List Char)
  | '\n' :: rest => some rest
  | '\r' :: '\n' :: rest => some rest
  | _ => none

/-- Skip the rest of a comment and the end of its line. The end of the document will do too. -/
def restOfComment : List Char → Option (List Char)
  | [] => some []
  | '\n' :: rest => some rest
  | '\r' :: '\n' :: rest => some rest
  | c :: rest => if isTextChar c then restOfComment rest else none

/-- Skip what may follow the last token of a line, and the end of the line. -/
def lineEnd (chars : List Char) : Option (List Char) :=
  match skipSpaces chars with
  | [] => some []
  | '#' :: rest => restOfComment rest
  | rest => newline? rest

/-- Skip spaces, line ends and comments. The flag tells whether a comment has begun. -/
def skipLayout (inComment : Bool) : List Char → Option (List Char)
  | [] => some []
  | '\n' :: rest => skipLayout false rest
  | '\r' :: '\n' :: rest => skipLayout false rest
  | c :: rest =>
    if inComment then
      if isTextChar c then skipLayout true rest else none
    else if isSpace c then skipLayout false rest
    else if c = '#' then skipLayout true rest
    else some (c :: rest)

end QuietSource.Document
