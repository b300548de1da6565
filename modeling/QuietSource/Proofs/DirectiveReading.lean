/-
# Directives can be read back

A literal is written piece by piece: the quote and the backslash each behind a backslash, every
other character as itself. A directive is a lone literal, or literals between braces with a comma
and a space between each two. This module states that grammar by its parse trees, together with a
reader that finds the tree of a text. Since the reader finds every tree from its text, no text
has two, whatever characters the categories are made of, and a directive can be told from its text.
-/

import QuietSource.Proofs.FirstMention
import QuietSource.Warning.Directive

namespace QuietSource.Text

/-- One piece of the inside of a literal. -/
inductive LiteralPiece
  /-- A quote behind a backslash. -/
  | quote
  /-- A backslash behind a backslash. -/
  | backslash
  /-- Any other character as itself. -/
  | plain (c : Char) (h : c ≠ '"' ∧ c ≠ '\\')

namespace LiteralPiece

/-- A piece as it is written. -/
def chars : LiteralPiece → List Char
  | .quote => ['\\', '"']
  | .backslash => ['\\', '\\']
  | .plain c _ => [c]

/-- The character that a piece stands for. -/
def char : LiteralPiece → Char
  | .quote => '"'
  | .backslash => '\\'
  | .plain c _ => c

/-- The piece that stands for a character. -/
def ofChar (c : Char) : LiteralPiece :=
  if quote : c = '"' then .quote
  else if backslash : c = '\\' then .backslash
  else .plain c ⟨quote, backslash⟩

theorem char_ofChar (c : Char) : (ofChar c).char = c := by
  unfold ofChar
  split
  · next same => exact same.symm
  · split
    · next same => exact same.symm
    · rfl

end LiteralPiece

/-- A literal made of pieces, with its quotes. -/
def literalOfPieces (pieces : List LiteralPiece) : List Char :=
  '"' :: (pieces.flatMap LiteralPiece.chars ++ ['"'])

/-- The text that the pieces of a literal stand for. -/
def textOfPieces (pieces : List LiteralPiece) : String :=
  String.ofList (pieces.map LiteralPiece.char)

/-- The pieces of the literal for a text. -/
def piecesOfText (text : String) : List LiteralPiece :=
  text.toList.map LiteralPiece.ofChar

theorem textOfPieces_piecesOfText (text : String) : textOfPieces (piecesOfText text) = text := by
  rw [textOfPieces, piecesOfText, List.map_map]
  simp [Function.comp_def, LiteralPiece.char_ofChar]

theorem literalChars_eq (chars : List Char) :
    literalChars chars = (chars.map LiteralPiece.ofChar).flatMap LiteralPiece.chars := by
  induction chars with
  | nil => rfl
  | cons c rest ih =>
    rw [literalChars, List.map_cons, List.flatMap_cons, ← ih, LiteralPiece.ofChar]
    by_cases quote : c = '"'
    · simp [quote, LiteralPiece.chars]
    · by_cases backslash : c = '\\'
      · simp [backslash, LiteralPiece.chars]
      · simp [quote, backslash, LiteralPiece.chars]

theorem toList_literal (text : String) :
    (literal text).toList = literalOfPieces (piecesOfText text) := by
  simp [literal, literalChars_eq, literalOfPieces, piecesOfText]

/-- Read the inside of a literal up to its closing quote. What stands behind is left over. -/
def readPieces? : List Char → Option (List LiteralPiece × List Char)
  | [] => none
  | '"' :: rest => some ([], rest)
  | '\\' :: '"' :: rest => (readPieces? rest).map fun read => (.quote :: read.1, read.2)
  | '\\' :: '\\' :: rest => (readPieces? rest).map fun read => (.backslash :: read.1, read.2)
  | c :: rest =>
    if h : c ≠ '"' ∧ c ≠ '\\' then
      (readPieces? rest).map fun read => (.plain c h :: read.1, read.2)
    else none

/-- Reading stops at the quote behind the pieces, since no piece looks like one. -/
theorem readPieces?_flatMap (pieces : List LiteralPiece) (rest : List Char) :
    readPieces? (pieces.flatMap LiteralPiece.chars ++ '"' :: rest) = some (pieces, rest) := by
  induction pieces with
  | nil => rfl
  | cons piece pieces ih =>
    rw [List.flatMap_cons, List.append_assoc]
    cases piece with
    | quote => simp [LiteralPiece.chars, readPieces?, ih]
    | backslash => simp [LiteralPiece.chars, readPieces?, ih]
    | plain c h => simp [LiteralPiece.chars, readPieces?, ih, h]

/-- What was read, the closing quote and what is left over make up the whole. -/
theorem eq_of_readPieces? {chars rest : List Char} {pieces : List LiteralPiece}
    (read : readPieces? chars = some (pieces, rest)) :
    chars = pieces.flatMap LiteralPiece.chars ++ '"' :: rest := by
  induction chars using readPieces?.induct generalizing pieces with
  | case1 => exact nomatch read
  | case2 left =>
    cases read
    rfl
  | case3 inside ih | case4 inside ih =>
    obtain ⟨⟨more, left⟩, readMore, same⟩ := Option.map_eq_some_iff.mp read
    cases same
    rw [ih readMore]
    rfl
  | case5 c inside notQuote notEscapedQuote notEscapedBackslash h ih =>
    -- The reader comes here only past its other patterns, which the rewriting asks for.
    rw [readPieces?, dif_pos h] at read
    · obtain ⟨⟨more, left⟩, readMore, same⟩ := Option.map_eq_some_iff.mp read
      cases same
      rw [ih readMore]
      rfl
    all_goals assumption
  | case6 c inside notQuote notEscapedQuote notEscapedBackslash h =>
    rw [readPieces?, dif_neg h] at read
    · exact nomatch read
    all_goals assumption

end QuietSource.Text

namespace QuietSource.Warning.Directive

open Text

/-- A directive as it is put together from literals. -/
inductive Form
  /-- A lone literal. -/
  | bare (literal : List LiteralPiece)
  /-- Braces around nothing. -/
  | emptyBraces
  /-- Braces around a literal and further ones. -/
  | braces (first : List LiteralPiece) (more : List (List LiteralPiece))

/-- Further literals, each behind a comma and a space. -/
def furtherLiterals (more : List (List LiteralPiece)) : List Char :=
  more.flatMap fun literal => ',' :: ' ' :: literalOfPieces literal

namespace Form

/-- A form as it is written. -/
def chars : Form → List Char
  | .bare literal => literalOfPieces literal
  | .emptyBraces => ['\x7b', ' ', ' ', '\x7d']
  | .braces first more =>
    '\x7b' :: ' ' :: (literalOfPieces first ++ furtherLiterals more ++ [' ', '\x7d'])

/-- A form as a text. -/
def text (form : Form) : String :=
  String.ofList form.chars

/-- The directive that a form stands for. -/
def directive : Form → Directive
  | .bare literal => .single (textOfPieces literal)
  | .emptyBraces => .list []
  | .braces first more => .list (textOfPieces first :: more.map textOfPieces)

/-- The form in which a directive is written. -/
def ofDirective : Directive → Form
  | .single category => .bare (piecesOfText category)
  | .list [] => .emptyBraces
  | .list (first :: more) => .braces (piecesOfText first) (more.map piecesOfText)

theorem directive_ofDirective (directive : Directive) :
    (ofDirective directive).directive = directive := by
  match directive with
  | .single category => simp [ofDirective, Form.directive, textOfPieces_piecesOfText]
  | .list [] => rfl
  | .list (first :: more) =>
    simp [ofDirective, Form.directive, textOfPieces_piecesOfText, Function.comp_def]

theorem intercalate_eq_furtherLiterals (first : String) (more : List String) :
    (String.intercalate ", " ((first :: more).map literal)).toList =
      literalOfPieces (piecesOfText first) ++ furtherLiterals (more.map piecesOfText) := by
  induction more generalizing first with
  | nil => simp [toList_literal, furtherLiterals]
  | cons second more ih =>
    rw [List.map_cons, List.map_cons, String.intercalate_cons_cons, ← List.map_cons,
      String.toList_append, String.toList_append, ih, toList_literal]
    simp [furtherLiterals]

theorem text_ofDirective (directive : Directive) :
    (ofDirective directive).text = directive.text := by
  rw [← String.toList_inj, text, String.toList_ofList]
  match directive with
  | .single category => exact (toList_literal category).symm
  | .list [] => rfl
  | .list (first :: more) =>
    rw [Directive.text, String.toList_append, String.toList_append, intercalate_eq_furtherLiterals]
    rfl

/-- Read further literals up to the closing brace. -/
def readFurther? (chars : List Char) : Option (List (List LiteralPiece)) :=
  match chars with
  | [' ', '\x7d'] => some []
  | ',' :: ' ' :: '"' :: inside =>
    match _read : readPieces? inside with
    | none => none
    | some (literal, rest) => (readFurther? rest).map (literal :: ·)
  | _ => none
termination_by chars.length
decreasing_by
  -- What is left behind a literal is shorter than the literal with it.
  rw [eq_of_readPieces? ‹readPieces? inside = some (literal, rest)›]
  simp only [List.length_cons, List.length_append]
  omega

theorem readFurther?_furtherLiterals (more : List (List LiteralPiece)) :
    readFurther? (furtherLiterals more ++ [' ', '\x7d']) = some more := by
  induction more with
  | nil => simp [furtherLiterals, readFurther?]
  | cons literal more ih =>
    have parts : furtherLiterals (literal :: more) ++ [' ', '\x7d'] =
        ',' :: ' ' :: '"' :: (literal.flatMap LiteralPiece.chars ++
          '"' :: (furtherLiterals more ++ [' ', '\x7d'])) := by
      simp [furtherLiterals, literalOfPieces]
    rw [parts, readFurther?]
    split
    · next failed =>
      rw [readPieces?_flatMap] at failed
      exact nomatch failed
    · next found rest read =>
      rw [readPieces?_flatMap] at read
      cases read
      rw [ih]
      rfl

theorem eq_of_readFurther? {chars : List Char} {more : List (List LiteralPiece)}
    (read : readFurther? chars = some more) :
    chars = furtherLiterals more ++ [' ', '\x7d'] := by
  induction chars using readFurther?.induct generalizing more with
  | case1 =>
    rw [readFurther?] at read
    cases read
    rfl
  | case2 inside failed =>
    rw [readFurther?] at read
    split at read
    · exact nomatch read
    · next literal rest found => exact nomatch failed.symm.trans found
  | case3 inside literal rest found ih =>
    rw [readFurther?] at read
    split at read
    · exact nomatch read
    · next literal rest foundAgain =>
      cases found.symm.trans foundAgain
      obtain ⟨others, readOthers, same⟩ := Option.map_eq_some_iff.mp read
      cases same
      rw [eq_of_readPieces? found, ih readOthers]
      simp [furtherLiterals, literalOfPieces]
  | case4 chars notClosed notFurther =>
    rw [readFurther?] at read
    · exact nomatch read
    all_goals assumption

/-- Read a directive, which is all of a text. -/
def ofChars? : List Char → Option Form
  | '"' :: inside =>
    match readPieces? inside with
    | some (literal, []) => some (.bare literal)
    | _ => none
  | ['\x7b', ' ', ' ', '\x7d'] => some .emptyBraces
  | '\x7b' :: ' ' :: '"' :: inside =>
    match readPieces? inside with
    | some (first, rest) => (readFurther? rest).map (.braces first)
    | none => none
  | _ => none

theorem ofChars?_chars (form : Form) : ofChars? form.chars = some form := by
  cases form with
  | bare literal =>
    rw [chars, literalOfPieces, ofChars?, readPieces?_flatMap]
  | emptyBraces => rfl
  | braces first more =>
    have parts : (Form.braces first more).chars =
        '\x7b' :: ' ' :: '"' :: (first.flatMap LiteralPiece.chars ++
          '"' :: (furtherLiterals more ++ [' ', '\x7d'])) := by
      simp [chars, literalOfPieces]
    rw [parts, ofChars?, readPieces?_flatMap]
    simp only [readFurther?_furtherLiterals, Option.map_some]

theorem eq_of_ofChars? {written : List Char} {form : Form} (read : ofChars? written = some form) :
    form.chars = written := by
  unfold ofChars? at read
  split at read
  · split at read
    · next inside literal found =>
      cases read
      rw [eq_of_readPieces? found]
      rfl
    · exact nomatch read
  · cases read
    rfl
  · split at read
    · next inside first rest found =>
      obtain ⟨more, readMore, rfl⟩ := Option.map_eq_some_iff.mp read
      rw [eq_of_readPieces? found, eq_of_readFurther? readMore]
      simp [chars, literalOfPieces]
    · exact nomatch read
  · exact nomatch read

/-- Read a directive from a text. -/
def ofText? (text : String) : Option Form :=
  ofChars? text.toList

/-- The reader finds the forms in which a text is a directive. So there is at most one. -/
theorem ofText?_eq_some_iff {text : String} {form : Form} :
    ofText? text = some form ↔ form.text = text := by
  constructor
  · intro read
    rw [Form.text, eq_of_ofChars? read, String.ofList_toList]
  · rintro rfl
    rw [ofText?, Form.text, String.toList_ofList, ofChars?_chars]

theorem ofText?_text (directive : Directive) :
    ofText? directive.text = some (ofDirective directive) :=
  ofText?_eq_some_iff.mpr (text_ofDirective directive)

theorem text_eq_iff {directive : Directive} {form : Form} :
    form.text = directive.text ↔ form = ofDirective directive := by
  rw [← ofText?_eq_some_iff, ofText?_text, Option.some.injEq, eq_comm]

theorem ofDirective_eq_bare_iff (directive : Directive) :
    (∃ literal, ofDirective directive = .bare literal) ↔ directive.isSingle = true := by
  match directive with
  | .single category => simp [ofDirective, isSingle]
  | .list [] => simp [ofDirective, isSingle]
  | .list (first :: more) => simp [ofDirective, isSingle]

end Form

/-- Different directives have different texts. -/
theorem text_inj {first second : Directive} : first.text = second.text ↔ first = second := by
  constructor
  · intro same
    rw [← Form.directive_ofDirective first, ← Form.directive_ofDirective second]
    rw [← Form.text_ofDirective, Form.text_eq_iff] at same
    rw [same]
  · exact congrArg Directive.text

/-- The reader finds for each text the form in which it is a directive, and there is only one. Hence
whatever the categories of a directive are, its text is read in one way and stands for this
directive, and directives with the same text are the same. After any run of observations there is no
directive exactly if nothing was noted, and otherwise its text is read as what was noted, in the
order of first mention, as a lone literal exactly if it is one category. -/
theorem text_reads_back :
    (∀ (text : String) (form : Form), Form.ofText? text = some form ↔ form.text = text) ∧
    (∀ directive : Directive, ∃ form : Form, form.directive = directive ∧
      ∀ other : Form, other.text = directive.text ↔ other = form) ∧
    (∀ directive : Directive, (Form.ofText? directive.text).map Form.directive = some directive) ∧
    (∀ first second : Directive, first.text = second.text ↔ first = second) ∧
    (∀ observations : List Observation,
      (Observation.run ∅ observations).directive? = none ↔
        (observations.flatMap Observation.contribution).eraseDups = []) ∧
    (∀ (observations : List Observation) (directive : Directive),
      (Observation.run ∅ observations).directive? = some directive →
        ∃ form : Form, Form.ofText? directive.text = some form ∧
          form.directive.categories =
            (observations.flatMap Observation.contribution).eraseDups ∧
          ((∃ literal, form = .bare literal) ↔
            (observations.flatMap Observation.contribution).eraseDups.length = 1)) := by
  have noted (observations : List Observation) :
      (Observation.run ∅ observations).categories.toList =
        (observations.flatMap Observation.contribution).eraseDups := by
    rw [Observation.categories_run]
    exact OrderedSet.toList_ofList _
  refine ⟨fun text form => Form.ofText?_eq_some_iff, ?_, ?_, fun first second => text_inj, ?_, ?_⟩
  · intro directive
    exact ⟨Form.ofDirective directive, Form.directive_ofDirective directive,
      fun other => Form.text_eq_iff⟩
  · intro directive
    rw [Form.ofText?_text, Option.map_some, Form.directive_ofDirective]
  · intro observations
    rw [Ledger.directive?, ofCategories?_eq_none_iff, noted]
  · intro observations directive made
    rw [Ledger.directive?, noted] at made
    refine ⟨Form.ofDirective directive, Form.ofText?_text directive, ?_, ?_⟩
    · rw [Form.directive_ofDirective]
      exact categories_of_ofCategories? made
    · rw [Form.ofDirective_eq_bare_iff]
      exact isSingle_of_ofCategories? made

/-- Categories that end in a backslash, begin with a quote, and look like a separator and like the
end of a directive, in a run that also notes others. -/
def escapingRun : List Observation :=
  [.named ["a\\", "\"b", "\", \"", "\" \x7d"], .element ⟨true, false⟩, .named ["a\\"]]

/-- What the run notes, in the order of first mention. -/
def escapingCategories : List String :=
  ["a\\", "\"b", "\", \"", "\" \x7d", "deprecation"]

theorem text_reads_back_escapingRun :
    ∃ directive, (Observation.run ∅ escapingRun).directive? = some directive ∧
      directive.text =
        "\x7b \"a\\\\\", \"\\\"b\", \"\\\", \\\"\", \"\\\" \x7d\", \"deprecation\" \x7d" ∧
      ∃ form : Form, Form.ofText? directive.text = some form ∧
        form.directive.categories = escapingCategories ∧
        ((∃ literal, form = .bare literal) ↔ escapingCategories.length = 1) := by
  have made : (Observation.run ∅ escapingRun).directive? = some (.list escapingCategories) := by
    decide
  have noted : (escapingRun.flatMap Observation.contribution).eraseDups = escapingCategories := by
    decide
  obtain ⟨-, -, -, -, -, reads⟩ := text_reads_back
  obtain ⟨form, read, listed, alone⟩ := reads escapingRun _ made
  rw [noted] at listed alone
  exact ⟨_, made, by decide, form, read, listed, alone⟩

end QuietSource.Warning.Directive
