/-
# What readers leave over

A reader takes characters from the front and hands back the rest untouched: whatever it finds, the
characters left over are a suffix of those it was given. Strings are the tokens whose places matter.
A string that was read keeps the characters before and after it, and both are suffixes of the text,
so that the place computed from them is where the token stands.
-/

import Mathlib.Data.List.TakeDrop
import QuietSource.Document.Statement

namespace QuietSource.Document

open Text

/-! ## Layout -/

theorem skipSpaces_suffix (chars : List Char) : skipSpaces chars <:+ chars :=
  List.dropWhile_suffix isSpace

theorem newline?_suffix {chars left : List Char} (h : newline? chars = some left) :
    left <:+ chars := by
  unfold newline? at h
  split at h
  · cases h
    exact ⟨['\n'], rfl⟩
  · cases h
    exact ⟨['\r', '\n'], rfl⟩
  · exact nomatch h

theorem restOfComment_suffix {chars left : List Char} (h : restOfComment chars = some left) :
    left <:+ chars := by
  fun_induction restOfComment chars with
  | case1 =>
    cases h
    exact List.suffix_refl _
  | case2 rest =>
    cases h
    exact ⟨['\n'], rfl⟩
  | case3 rest =>
    cases h
    exact ⟨['\r', '\n'], rfl⟩
  | case4 c rest _ _ _ ih => exact (ih h).trans ⟨[c], rfl⟩
  | case5 => exact nomatch h

theorem lineEnd_suffix {chars left : List Char} (h : lineEnd chars = some left) :
    left <:+ chars := by
  refine List.IsSuffix.trans ?_ (skipSpaces_suffix chars)
  unfold lineEnd at h
  split at h
  · cases h
    exact List.nil_suffix
  · rename_i rest spaced
    rw [spaced]
    exact (restOfComment_suffix h).trans ⟨['#'], rfl⟩
  · exact newline?_suffix h

theorem skipLayout_suffix {inComment : Bool} {chars left : List Char}
    (h : skipLayout inComment chars = some left) : left <:+ chars := by
  fun_induction skipLayout inComment chars with
  | case1 =>
    cases h
    exact List.suffix_refl _
  | case2 _ rest ih => exact (ih h).trans ⟨['\n'], rfl⟩
  | case3 _ rest ih => exact (ih h).trans ⟨['\r', '\n'], rfl⟩
  | case4 c rest _ _ _ ih => exact (ih h).trans ⟨[c], rfl⟩
  | case5 => exact nomatch h
  | case6 _ c rest _ _ _ _ ih => exact (ih h).trans ⟨[c], rfl⟩
  | case7 _ rest _ _ _ _ ih => exact (ih h).trans ⟨['#'], rfl⟩
  | case8 =>
    cases h
    exact List.suffix_refl _

/-! ## Strings -/

/-- Putting a character before what was found leaves the same characters over. -/
theorem exists_of_prepend {c : Char} {found : Option (List Char × List Char)}
    {value left : List Char} (h : prepend c found = some (value, left)) :
    ∃ more, found = some (more, left) := by
  unfold prepend at h
  rw [Option.map_eq_some_iff] at h
  obtain ⟨⟨more, rest⟩, read, same⟩ := h
  cases same
  exact ⟨more, read⟩

theorem exists_of_escape {code : Option Char} {found : Option (List Char × List Char)}
    {value left : List Char} (h : (do prepend (← code) found) = some (value, left)) :
    ∃ more, found = some (more, left) := by
  cases code with
  | none => exact nomatch h
  | some c => exact exists_of_prepend h

theorem basicBody_suffix {chars value left : List Char}
    (h : basicBody chars = some (value, left)) : left <:+ chars := by
  fun_induction basicBody chars generalizing value with
  | case1 => exact nomatch h
  | case2 rest =>
    cases h
    exact ⟨['"'], rfl⟩
  | case3 a b rest ih =>
    obtain ⟨more, read⟩ := exists_of_escape h
    exact (ih read).trans ⟨['\\', 'x', a, b], rfl⟩
  | case4 a b c d rest ih =>
    obtain ⟨more, read⟩ := exists_of_escape h
    exact (ih read).trans ⟨['\\', 'u', a, b, c, d], rfl⟩
  | case5 a b c d e f g i rest ih =>
    obtain ⟨more, read⟩ := exists_of_escape h
    exact (ih read).trans ⟨['\\', 'U', a, b, c, d, e, f, g, i], rfl⟩
  | case6 c rest _ _ _ ih =>
    obtain ⟨more, read⟩ := exists_of_escape h
    exact (ih read).trans ⟨['\\', c], rfl⟩
  | case7 c rest _ _ _ _ _ _ ih =>
    obtain ⟨more, read⟩ := exists_of_prepend h
    exact (ih read).trans ⟨[c], rfl⟩
  | case8 => exact nomatch h

theorem literalBody_suffix {chars value left : List Char}
    (h : literalBody chars = some (value, left)) : left <:+ chars := by
  fun_induction literalBody chars generalizing value with
  | case1 => exact nomatch h
  | case2 rest =>
    cases h
    exact ⟨['\''], rfl⟩
  | case3 c rest _ _ ih =>
    obtain ⟨more, read⟩ := exists_of_prepend h
    exact (ih read).trans ⟨[c], rfl⟩
  | case4 => exact nomatch h

theorem multilineBasicBody_suffix {folding : Bool} {chars value left : List Char}
    (h : multilineBasicBody folding chars = some (value, left)) : left <:+ chars := by
  fun_induction multilineBasicBody folding chars generalizing value with
  | case1 => exact nomatch h
  | case2 _ rest =>
    cases h
    exact ⟨['"', '"', '"', '"', '"'], rfl⟩
  | case3 _ rest =>
    cases h
    exact ⟨['"', '"', '"', '"'], rfl⟩
  | case4 _ rest =>
    cases h
    exact ⟨['"', '"', '"'], rfl⟩
  | case5 rest ih => exact (ih h).trans ⟨['\r', '\n'], rfl⟩
  | case6 _ rest _ ih =>
    obtain ⟨_, readAfter⟩ := exists_of_prepend h
    obtain ⟨more, read⟩ := exists_of_prepend readAfter
    exact (ih read).trans ⟨['\r', '\n'], rfl⟩
  | case7 rest ih => exact (ih h).trans ⟨['\n'], rfl⟩
  | case8 _ rest _ ih =>
    obtain ⟨more, read⟩ := exists_of_prepend h
    exact (ih read).trans ⟨['\n'], rfl⟩
  | case9 _ a b rest ih =>
    obtain ⟨more, read⟩ := exists_of_escape h
    exact (ih read).trans ⟨['\\', 'x', a, b], rfl⟩
  | case10 _ a b c d rest ih =>
    obtain ⟨more, read⟩ := exists_of_escape h
    exact (ih read).trans ⟨['\\', 'u', a, b, c, d], rfl⟩
  | case11 _ a b c d e f g i rest ih =>
    obtain ⟨more, read⟩ := exists_of_escape h
    exact (ih read).trans ⟨['\\', 'U', a, b, c, d, e, f, g, i], rfl⟩
  | case12 _ c rest _ _ _ _ ih => exact (ih h).trans ⟨['\\'], rfl⟩
  | case13 _ c rest _ _ _ _ ih =>
    obtain ⟨more, read⟩ := exists_of_escape h
    exact (ih read).trans ⟨['\\', c], rfl⟩
  | case14 _ c rest _ _ _ _ _ _ _ _ _ _ ih => exact (ih h).trans ⟨[c], rfl⟩
  | case15 _ c rest _ _ _ _ _ _ _ _ _ _ _ ih =>
    obtain ⟨more, read⟩ := exists_of_prepend h
    exact (ih read).trans ⟨[c], rfl⟩
  | case16 => exact nomatch h

theorem multilineLiteralBody_suffix {chars value left : List Char}
    (h : multilineLiteralBody chars = some (value, left)) : left <:+ chars := by
  fun_induction multilineLiteralBody chars generalizing value with
  | case1 => exact nomatch h
  | case2 rest =>
    cases h
    exact ⟨['\'', '\'', '\'', '\'', '\''], rfl⟩
  | case3 rest =>
    cases h
    exact ⟨['\'', '\'', '\'', '\''], rfl⟩
  | case4 rest =>
    cases h
    exact ⟨['\'', '\'', '\''], rfl⟩
  | case5 rest ih =>
    obtain ⟨_, readAfter⟩ := exists_of_prepend h
    obtain ⟨more, read⟩ := exists_of_prepend readAfter
    exact (ih read).trans ⟨['\r', '\n'], rfl⟩
  | case6 rest ih =>
    obtain ⟨more, read⟩ := exists_of_prepend h
    exact (ih read).trans ⟨['\n'], rfl⟩
  | case7 c rest _ _ _ _ _ _ ih =>
    obtain ⟨more, read⟩ := exists_of_prepend h
    exact (ih read).trans ⟨[c], rfl⟩
  | case8 => exact nomatch h

theorem skipFirstNewline_suffix (chars : List Char) : skipFirstNewline chars <:+ chars := by
  unfold skipFirstNewline
  cases ended : newline? chars with
  | none => exact List.suffix_refl _
  | some left => exact newline?_suffix ended

theorem stringChars?_suffix {chars value left : List Char}
    (h : stringChars? chars = some (value, left)) : left <:+ chars := by
  unfold stringChars? at h
  split at h
  · rename_i rest
    exact ((multilineBasicBody_suffix h).trans (skipFirstNewline_suffix rest)).trans
      ⟨['"', '"', '"'], rfl⟩
  · rename_i rest
    exact ((multilineLiteralBody_suffix h).trans (skipFirstNewline_suffix rest)).trans
      ⟨['\'', '\'', '\''], rfl⟩
  · exact (basicBody_suffix h).trans ⟨['"'], rfl⟩
  · exact (literalBody_suffix h).trans ⟨['\''], rfl⟩
  · exact nomatch h

/-- A located string was read from characters: its place is among them, and what the reader of
strings finds there is this string. -/
structure IsReadFrom (token : Located String) (chars : List Char) : Prop where
  /-- What stood before it is a suffix of the characters. -/
  within : token.before <:+ chars
  /-- Reading at its place finds its value and leaves what stands after it. -/
  read : stringChars? token.before = some (token.value.toList, token.after)

theorem IsReadFrom.mono {token : Located String} {chars text : List Char}
    (h : IsReadFrom token chars) (part : chars <:+ text) : IsReadFrom token text :=
  ⟨h.within.trans part, h.read⟩

theorem string?_reads {chars left : List Char} {token : Located String}
    (h : string? chars = some (token, left)) : IsReadFrom token chars ∧ left <:+ chars := by
  unfold string? at h
  obtain ⟨⟨value, rest⟩, read, same⟩ := Option.bind_eq_some_iff.mp h
  cases same
  exact ⟨⟨List.suffix_refl _, by rw [String.toList_ofList]; exact read⟩,
    stringChars?_suffix read⟩

/-! ## Keys -/

theorem keyPart?_suffix {chars left : List Char} {part : String}
    (h : keyPart? chars = some (part, left)) : left <:+ chars := by
  unfold keyPart? at h
  split at h
  · obtain ⟨⟨value, rest⟩, read, same⟩ := Option.map_eq_some_iff.mp h
    cases same
    exact (basicBody_suffix read).trans ⟨['"'], rfl⟩
  · obtain ⟨⟨value, rest⟩, read, same⟩ := Option.map_eq_some_iff.mp h
    cases same
    exact (literalBody_suffix read).trans ⟨['\''], rfl⟩
  · rw [List.span_eq_takeWhile_dropWhile] at h
    split at h
    · exact nomatch h
    · rename_i rest cut
      cases h
      cases cut
      exact List.dropWhile_suffix isBareChar

theorem keyParts?_suffix {limit : Nat} {chars left : List Char} {key : Key}
    (h : keyParts? limit chars = some (key, left)) : left <:+ chars := by
  induction limit generalizing chars left key with
  | zero => exact nomatch h
  | succ limit ih =>
    unfold keyParts? at h
    obtain ⟨⟨part, rest⟩, read, h⟩ := Option.bind_eq_some_iff.mp h
    have spaced : skipSpaces rest <:+ chars :=
      (skipSpaces_suffix rest).trans (keyPart?_suffix read)
    dsimp only at h
    split at h
    · rename_i afterDot dotted
      obtain ⟨⟨parts, rest⟩, readMore, same⟩ := Option.bind_eq_some_iff.mp h
      cases same
      rw [dotted] at spaced
      exact ((ih readMore).trans (skipSpaces_suffix afterDot)).trans
        (List.IsSuffix.trans ⟨['.'], rfl⟩ spaced)
    · cases h
      exact spaced

theorem key?_suffix {chars left : List Char} {key : Key} (h : key? chars = some (key, left)) :
    left <:+ chars :=
  keyParts?_suffix h

theorem assignee?_suffix {chars left : List Char} {key : Key}
    (h : assignee? chars = some (key, left)) : left <:+ chars := by
  unfold assignee? at h
  obtain ⟨⟨found, rest⟩, read, h⟩ := Option.bind_eq_some_iff.mp h
  split at h
  · rename_i rest same
    cases h
    cases same
    exact ((skipSpaces_suffix rest).trans ⟨['='], rfl⟩).trans (key?_suffix read)
  · exact nomatch h

theorem inlineAssignee?_suffix {chars left : List Char} {key : Key}
    (h : inlineAssignee? chars = some (key, left)) : left <:+ chars := by
  unfold inlineAssignee? at h
  obtain ⟨⟨found, rest⟩, read, h⟩ := Option.bind_eq_some_iff.mp h
  obtain ⟨spaced, skipped, h⟩ := Option.bind_eq_some_iff.mp h
  have part : spaced <:+ chars := (skipLayout_suffix skipped).trans (key?_suffix read)
  split at h
  · rename_i rest
    obtain ⟨more, skippedMore, same⟩ := Option.bind_eq_some_iff.mp h
    cases same
    exact ((skipLayout_suffix skippedMore).trans ⟨['='], rfl⟩).trans part
  · exact nomatch h

/-! ## Values and statements -/

/-- The strings that a value holds, in order. -/
def Value.tokens : Value → List (Located String)
  | .strings listed => listed
  | .table assignments => assignments.flatMap Prod.snd

/-- The strings that a statement holds, in order. -/
def Statement.tokens : Statement → List (Located String)
  | .header _ => []
  | .assign _ value => value.tokens

theorem listItems?_reads {limit : Nat} {chars left : List Char} {items : Strings}
    (h : listItems? limit chars = some (items, left)) :
    (∀ token ∈ items, IsReadFrom token chars) ∧ left <:+ chars := by
  induction limit generalizing chars left items with
  | zero => exact nomatch h
  | succ limit ih =>
    unfold listItems? at h
    obtain ⟨start, skipped, h⟩ := Option.bind_eq_some_iff.mp h
    have fromStart : start <:+ chars := skipLayout_suffix skipped
    split at h
    · cases h
      exact ⟨by simp, List.IsSuffix.trans ⟨[']'], rfl⟩ fromStart⟩
    · obtain ⟨⟨token, rest⟩, read, h⟩ := Option.bind_eq_some_iff.mp h
      obtain ⟨next, skippedNext, h⟩ := Option.bind_eq_some_iff.mp h
      obtain ⟨tokenRead, restPart⟩ := string?_reads read
      have fromNext : next <:+ chars :=
        ((skipLayout_suffix skippedNext).trans restPart).trans fromStart
      split at h
      · obtain ⟨⟨more, rest⟩, readMore, same⟩ := Option.bind_eq_some_iff.mp h
        cases same
        obtain ⟨moreRead, leftPart⟩ := ih readMore
        have fromComma := List.IsSuffix.trans ⟨[','], rfl⟩ fromNext
        refine ⟨?_, leftPart.trans fromComma⟩
        intro other member
        rcases List.mem_cons.mp member with rfl | later
        · exact tokenRead.mono fromStart
        · exact (moreRead other later).mono fromComma
      · cases h
        refine ⟨?_, List.IsSuffix.trans ⟨[']'], rfl⟩ fromNext⟩
        intro other member
        obtain rfl := List.mem_singleton.mp member
        exact tokenRead.mono fromStart
      · exact nomatch h

theorem list?_reads {chars left : List Char} {items : Strings}
    (h : list? chars = some (items, left)) :
    (∀ token ∈ items, IsReadFrom token chars) ∧ left <:+ chars := by
  unfold list? at h
  split at h
  · rename_i rest
    obtain ⟨tokensRead, leftPart⟩ := listItems?_reads h
    exact ⟨fun token member => (tokensRead token member).mono ⟨['['], rfl⟩,
      leftPart.trans ⟨['['], rfl⟩⟩
  · exact nomatch h

theorem inlineItems?_reads {limit : Nat} {chars left : List Char}
    {assignments : List (Key × Strings)}
    (h : inlineItems? limit chars = some (assignments, left)) :
    (∀ token ∈ assignments.flatMap Prod.snd, IsReadFrom token chars) ∧ left <:+ chars := by
  induction limit generalizing chars left assignments with
  | zero => exact nomatch h
  | succ limit ih =>
    unfold inlineItems? at h
    obtain ⟨start, skipped, h⟩ := Option.bind_eq_some_iff.mp h
    have fromStart : start <:+ chars := skipLayout_suffix skipped
    split at h
    · cases h
      exact ⟨by simp, List.IsSuffix.trans ⟨['\x7d'], rfl⟩ fromStart⟩
    · obtain ⟨⟨key, afterKey⟩, readKey, h⟩ := Option.bind_eq_some_iff.mp h
      obtain ⟨⟨strings, rest⟩, read, h⟩ := Option.bind_eq_some_iff.mp h
      obtain ⟨next, skippedNext, h⟩ := Option.bind_eq_some_iff.mp h
      obtain ⟨tokensRead, restPart⟩ := list?_reads read
      have fromKey : afterKey <:+ chars := (inlineAssignee?_suffix readKey).trans fromStart
      have fromNext : next <:+ chars :=
        ((skipLayout_suffix skippedNext).trans restPart).trans fromKey
      split at h
      · obtain ⟨⟨more, rest⟩, readMore, same⟩ := Option.bind_eq_some_iff.mp h
        cases same
        obtain ⟨moreRead, leftPart⟩ := ih readMore
        have fromComma := List.IsSuffix.trans ⟨[','], rfl⟩ fromNext
        refine ⟨?_, leftPart.trans fromComma⟩
        intro token member
        rw [List.flatMap_cons, List.mem_append] at member
        rcases member with here | later
        · exact (tokensRead token here).mono fromKey
        · exact (moreRead token later).mono fromComma
      · cases h
        refine ⟨?_, List.IsSuffix.trans ⟨['\x7d'], rfl⟩ fromNext⟩
        intro token member
        rw [List.flatMap_singleton] at member
        exact (tokensRead token member).mono fromKey
      · exact nomatch h

theorem value?_reads {chars left : List Char} {value : Value}
    (h : value? chars = some (value, left)) :
    (∀ token ∈ value.tokens, IsReadFrom token chars) ∧ left <:+ chars := by
  unfold value? at h
  split at h
  · rename_i rest
    obtain ⟨⟨assignments, more⟩, read, same⟩ := Option.map_eq_some_iff.mp h
    cases same
    obtain ⟨tokensRead, leftPart⟩ := inlineItems?_reads read
    exact ⟨fun token member => (tokensRead token member).mono ⟨['\x7b'], rfl⟩,
      leftPart.trans ⟨['\x7b'], rfl⟩⟩
  · obtain ⟨⟨strings, more⟩, read, same⟩ := Option.map_eq_some_iff.mp h
    cases same
    exact list?_reads read

theorem statement?_reads {chars left : List Char} {statement : Statement}
    (h : statement? chars = some (statement, left)) :
    (∀ token ∈ statement.tokens, IsReadFrom token chars) ∧ left <:+ chars := by
  unfold statement? at h
  split at h
  · rename_i rest
    obtain ⟨⟨key, afterKey⟩, readKey, h⟩ := Option.bind_eq_some_iff.mp h
    split at h
    · rename_i afterBracket same
      obtain ⟨more, ended, found⟩ := Option.bind_eq_some_iff.mp h
      cases same
      cases found
      have fromKey := (key?_suffix readKey).trans (skipSpaces_suffix rest)
      exact ⟨by simp [Statement.tokens], (((lineEnd_suffix ended).trans ⟨[']'], rfl⟩).trans
        fromKey).trans ⟨['['], rfl⟩⟩
    · exact nomatch h
  · obtain ⟨⟨key, afterKey⟩, readKey, h⟩ := Option.bind_eq_some_iff.mp h
    obtain ⟨⟨value, rest⟩, read, h⟩ := Option.bind_eq_some_iff.mp h
    obtain ⟨more, ended, same⟩ := Option.bind_eq_some_iff.mp h
    cases same
    obtain ⟨tokensRead, restPart⟩ := value?_reads read
    have fromKey := assignee?_suffix readKey
    exact ⟨fun token member => (tokensRead token member).mono fromKey,
      ((lineEnd_suffix ended).trans restPart).trans fromKey⟩

theorem statements?_reads {limit : Nat} {chars : List Char} {statements : List Statement}
    (h : statements? limit chars = some statements) :
    ∀ statement ∈ statements, ∀ token ∈ statement.tokens, IsReadFrom token chars := by
  induction limit generalizing chars statements with
  | zero => exact nomatch h
  | succ limit ih =>
    unfold statements? at h
    obtain ⟨start, skipped, h⟩ := Option.bind_eq_some_iff.mp h
    have fromStart : start <:+ chars := skipLayout_suffix skipped
    split at h
    · cases h
      simp
    · obtain ⟨⟨statement, rest⟩, read, h⟩ := Option.bind_eq_some_iff.mp h
      obtain ⟨more, readMore, same⟩ := Option.bind_eq_some_iff.mp h
      cases same
      obtain ⟨tokensRead, restPart⟩ := statement?_reads read
      intro other member token held
      rcases List.mem_cons.mp member with rfl | later
      · exact (tokensRead token held).mono fromStart
      · exact (ih readMore other later token held).mono (restPart.trans fromStart)

/-- Every string in the statements of a document was read from the document's text. -/
theorem statementsOf?_reads {text : String} {statements : List Statement}
    (h : statementsOf? text = some statements) :
    ∀ statement ∈ statements, ∀ token ∈ statement.tokens, IsReadFrom token text.toList := by
  unfold statementsOf? at h
  split at h
  · rename_i rest marked
    rw [marked]
    intro statement member token held
    exact (statements?_reads h statement member token held).mono ⟨['\ufeff'], rfl⟩
  · exact statements?_reads h

/-! ## Places -/

theorem byteCount_append (front back : List Char) :
    byteCount (front ++ back) = byteCount front + byteCount back := by
  induction front with
  | nil => rw [List.nil_append, byteCount, Nat.zero_add]
  | cons c rest ih => rw [List.cons_append, byteCount, byteCount, ih, Nat.add_assoc]

/-- The place of a string that was read covers exactly the characters that spell it, quotes
included. -/
theorem IsReadFrom.spanIn_eq {token : Located String} {source : Source}
    (h : IsReadFrom token source.text.toList) :
    ∃ front spelling, source.text.toList = front ++ spelling ++ token.after ∧
      stringChars? (spelling ++ token.after) = some (token.value.toList, token.after) ∧
      token.spanIn source = ⟨byteCount front, byteCount spelling⟩ := by
  obtain ⟨front, atFront⟩ := h.within
  obtain ⟨spelling, spelled⟩ := stringChars?_suffix h.read
  refine ⟨front, spelling, ?_, ?_, ?_⟩
  · rw [← atFront, ← spelled, List.append_assoc]
  · rw [spelled]
    exact h.read
  · rw [Located.spanIn, Source.size, ← atFront, ← spelled, byteCount_append, byteCount_append,
      Nat.add_sub_cancel, Nat.add_sub_cancel]

end QuietSource.Document
