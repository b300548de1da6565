/-
# Deprecation notices can be read back

A notice makes up to two points, each a word and a quoted text. The quoted texts may be about
anything, also about points of a notice, but a quote inside of them is always escaped, so a reader
knows where each point ends and which of the two it is. It finds in the text of a notice what was
said last on each point. Hence notices with the same text are the same, and every notice is a single
line.
-/

import Mathlib.Data.List.Basic
import QuietSource.Crate.Attribute
import QuietSource.Proofs.EditHistory
import QuietSource.Proofs.EscapedReading

namespace QuietSource.Crate.DeprecationNotice

open Text

/-- The version that a change sets. -/
def Edit.since? : Edit → Option String
  | .since version => some version
  | .note _ => none

/-- The note that a change sets. -/
def Edit.note? : Edit → Option String
  | .note text => some text
  | .since _ => none

/-- The notice with what changes said last on each point. -/
def ofLastSet (edits : List Edit) : DeprecationNotice where
  since := lastSet? Edit.since? edits
  note := lastSet? Edit.note? edits

theorem ofEdits_eq_ofLastSet (edits : List Edit) : ofEdits edits = ofLastSet edits := by
  have versions : (ofEdits edits).since = lastSet? Edit.since? edits := by
    rw [ofEdits, foldl_eq_lastSet edit since Edit.since?]
    · exact Option.or_none
    · intro notice change
      cases change <;> rfl
  have notes : (ofEdits edits).note = lastSet? Edit.note? edits := by
    rw [ofEdits, foldl_eq_lastSet edit note Edit.note?]
    · exact Option.or_none
    · intro notice change
      cases change <;> rfl
  rw [ofLastSet, ← versions, ← notes]

/-- A point under a word. -/
def point (word text : String) : String :=
  word ++ " = " ++ escaped text

/-- How a notice is written: with a word alone if it makes no point, and otherwise with its points
in brackets, the version first. -/
def written : DeprecationNotice → String
  | ⟨none, none⟩ => "deprecated"
  | ⟨some version, none⟩ => "deprecated(" ++ point "since" version ++ ")"
  | ⟨none, some note⟩ => "deprecated(" ++ point "note" note ++ ")"
  | ⟨some version, some note⟩ =>
    "deprecated(" ++ point "since" version ++ ", " ++ point "note" note ++ ")"

theorem text_eq_written (notice : DeprecationNotice) : notice.text = notice.written := by
  match notice with
  | ⟨none, none⟩ => rfl
  | ⟨some version, none⟩ => rfl
  | ⟨none, some note⟩ => rfl
  | ⟨some version, some note⟩ => simp [text, points, written, point, String.append_assoc]

theorem isPrintable_point {word : String} (printable : IsPrintable word) (text : String) :
    IsPrintable (point word text) := by
  rw [point, isPrintable_append, isPrintable_append]
  exact ⟨⟨printable, by decide⟩, isPrintable_escaped text⟩

theorem isPrintable_text (notice : DeprecationNotice) : IsPrintable notice.text := by
  have opening : IsPrintable "deprecated(" := by decide
  have closing : IsPrintable ")" := by decide
  have separator : IsPrintable ", " := by decide
  have sincePoint := isPrintable_point (show IsPrintable "since" by decide)
  have notePoint := isPrintable_point (show IsPrintable "note" by decide)
  rw [text_eq_written]
  match notice with
  | ⟨none, none⟩ => decide
  | ⟨some version, none⟩ =>
    rw [written, isPrintable_append, isPrintable_append]
    exact ⟨⟨opening, sincePoint version⟩, closing⟩
  | ⟨none, some note⟩ =>
    rw [written, isPrintable_append, isPrintable_append]
    exact ⟨⟨opening, notePoint note⟩, closing⟩
  | ⟨some version, some note⟩ =>
    rw [written, isPrintable_append, isPrintable_append, isPrintable_append, isPrintable_append]
    exact ⟨⟨⟨⟨opening, sincePoint version⟩, separator⟩, notePoint note⟩, closing⟩

/-- Read a point under a word. -/
def readPoint? (word : String) (chars : List Char) : Option (String × List Char) :=
  ((word ++ " = ").toList.isPrefixOf? chars).bind readEscaped?

/-- Read the points of a notice up to its closing bracket. -/
def readPoints? (chars : List Char) : Option DeprecationNotice :=
  match readPoint? "since" chars with
  | some (version, [')']) => some ⟨some version, none⟩
  | some (version, ',' :: ' ' :: more) =>
    match readPoint? "note" more with
    | some (note, [')']) => some ⟨some version, some note⟩
    | _ => none
  | some _ => none
  | none =>
    match readPoint? "note" chars with
    | some (note, [')']) => some ⟨none, some note⟩
    | _ => none

/-- Read a notice, which is all of a text. -/
def ofText? (text : String) : Option DeprecationNotice :=
  match "deprecated".toList.isPrefixOf? text.toList with
  | some [] => some ⟨none, none⟩
  | some ('(' :: points) => readPoints? points
  | _ => none

theorem readPoint?_point (word text : String) (rest : List Char) :
    readPoint? word ((point word text).toList ++ rest) = some (text, rest) := by
  have front : (point word text).toList = (word ++ " = ").toList ++ (escaped text).toList :=
    String.toList_append
  rw [readPoint?, front, List.append_assoc, List.isPrefixOf?_eq_some_iff_append_eq.mpr rfl,
    Option.bind_some, readEscaped?_escaped]

theorem readPoint?_since_note (text : String) (rest : List Char) :
    readPoint? "since" ((point "note" text).toList ++ rest) = none := by
  have front : (point "note" text).toList = 'n' :: ("ote = " ++ escaped text).toList := by
    simp [point]
  rw [readPoint?, front]
  rfl

theorem ofText?_bracket (points : String) :
    ofText? ("deprecated(" ++ points) = readPoints? points.toList := by
  have front : ("deprecated(" ++ points).toList = "deprecated".toList ++ '(' :: points.toList := by
    simp
  rw [ofText?, front, List.isPrefixOf?_eq_some_iff_append_eq.mpr rfl]
  rfl

/-- Reading finds the points that were written, whatever their texts are. -/
theorem ofText?_written (notice : DeprecationNotice) : ofText? notice.written = some notice := by
  match notice with
  | ⟨none, none⟩ => decide
  | ⟨some version, none⟩ =>
    rw [written, String.append_assoc, ofText?_bracket, String.toList_append, readPoints?,
      readPoint?_point]
    rfl
  | ⟨none, some note⟩ =>
    rw [written, String.append_assoc, ofText?_bracket, String.toList_append, readPoints?,
      readPoint?_since_note, readPoint?_point]
    rfl
  | ⟨some version, some note⟩ =>
    have parts : (point "since" version ++ (", " ++ (point "note" note ++ ")"))).toList =
        (point "since" version).toList ++ ',' :: ' ' :: ((point "note" note).toList ++ [')']) := by
      simp
    rw [written, String.append_assoc, String.append_assoc, String.append_assoc, ofText?_bracket,
      parts, readPoints?, readPoint?_point]
    simp only [readPoint?_point]

/-- After any changes a notice has the point that was set last for each word, and its text is the
word alone or these points in brackets, the version first. There is no line break in it. Its quoted
texts are read as the texts that were set, whatever stands behind them, and the whole as the notice.
Hence notices with the same text are the same. -/
theorem notice_reads_back :
    (∀ edits, ofEdits edits = ofLastSet edits ∧ (ofEdits edits).text = (ofLastSet edits).written) ∧
    (∀ edits, (ofEdits edits).text.toList.Disjoint lineBreaks) ∧
    (∀ (text : String) (rest : List Char),
      readEscaped? ((escaped text).toList ++ rest) = some (text, rest)) ∧
    (∀ edits, ofText? (ofEdits edits).text = some (ofLastSet edits)) ∧
    (∀ first second : DeprecationNotice, first.text = second.text ↔ first = second) := by
  have reads (notice : DeprecationNotice) : ofText? notice.text = some notice := by
    rw [text_eq_written, ofText?_written]
  refine ⟨?_, fun edits => (isPrintable_text _).disjoint_lineBreaks, readEscaped?_escaped, ?_, ?_⟩
  · intro edits
    rw [text_eq_written, ofEdits_eq_ofLastSet]
    exact ⟨rfl, rfl⟩
  · intro edits
    rw [reads, ofEdits_eq_ofLastSet]
  · intro first second
    constructor
    · intro same
      exact Option.some.inj ((reads first).symm.trans (same ▸ reads second))
    · exact congrArg DeprecationNotice.text

/-- A note that looks like a version and another note, and has a line break in it. -/
example : (ofEdits [.note "lost", .note "\", since = \"1\n"]).text =
    "deprecated(note = \"\\\", since = \\\"1\\n\")" := by decide

end QuietSource.Crate.DeprecationNotice
