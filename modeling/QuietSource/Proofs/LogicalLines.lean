/-
# Layout, line by line

What a fragment adds to a text is a list of lines, which the fragment alone decides: what each line
says and how deep inside the fragment it stands. A writer supplies the unit of indentation and the
level at which depth zero stands, and writes these lines behind whatever it has written. It comes
back to its level after every fragment, so fragments can be written in one go or in parts, and
the text of fragments that stand alone is the texts of its parts one after the other.
-/

import QuietSource.Code.Writer

namespace QuietSource.Code

/-- A line as it is before indentation. -/
inductive LogicalLine
  /-- A line that stands so many levels deep. -/
  | indented (depth : Nat) (text : String)
  /-- A line without anything on it, not even indentation. -/
  | empty

namespace LogicalLine

/-- A line with its line feed, if depth zero is at this level. -/
def written (unit : Indent) (level : Nat) : LogicalLine → String
  | .indented depth text =>
    String.join (List.replicate (level + depth) unit.text) ++ text ++ "\n"
  | .empty => "\n"

/-- Lines one after the other. -/
def allWritten (unit : Indent) (level : Nat) (lines : List LogicalLine) : String :=
  String.join (lines.map (written unit level))

theorem allWritten_append (unit : Indent) (level : Nat) (first second : List LogicalLine) :
    allWritten unit level (first ++ second) =
      allWritten unit level first ++ allWritten unit level second := by
  rw [allWritten, List.map_append, String.join_append]
  rfl

theorem allWritten_cons (unit : Indent) (level : Nat) (line : LogicalLine)
    (rest : List LogicalLine) :
    allWritten unit level (line :: rest) =
      line.written unit level ++ allWritten unit level rest :=
  String.join_cons

theorem allWritten_singleton (unit : Indent) (level : Nat) (line : LogicalLine) :
    allWritten unit level [line] = line.written unit level := by
  rw [allWritten_cons]
  exact String.append_empty

end LogicalLine

mutual

/-- The lines of a fragment at a depth. The body of a block is one deeper than its first and its
last line. -/
def Fragment.linesAt (depth : Nat) : Fragment → List LogicalLine
  | .line text => [.indented depth text]
  | .blank => [.empty]
  | .block header body close =>
    .indented depth header :: (Fragment.linesOf (depth + 1) body ++ [.indented depth close])
  | .javadoc text => [.indented depth ("/** " ++ text ++ " */")]
  | .rustdoc text =>
    (Text.lines text).map fun line => .indented depth (Text.trimEnd ("/// " ++ line))

/-- The lines of fragments at a depth, one fragment after the other. -/
def Fragment.linesOf (depth : Nat) : List Fragment → List LogicalLine
  | [] => []
  | fragment :: rest => fragment.linesAt depth ++ Fragment.linesOf depth rest

end

/-- The text of fragments whose outermost lines stand at a level. -/
def laidOut (unit : Indent) (level : Nat) (fragments : List Fragment) : String :=
  LogicalLine.allWritten unit level (Fragment.linesOf 0 fragments)

theorem Fragment.linesOf_append (depth : Nat) (first second : List Fragment) :
    linesOf depth (first ++ second) = linesOf depth first ++ linesOf depth second := by
  induction first with
  | nil => rfl
  | cons fragment rest ih => rw [List.cons_append, linesOf, linesOf, ih, List.append_assoc]

namespace Writer

/-- A writer with more behind what it has written. -/
def add (writer : Writer) (more : String) : Writer :=
  { writer with text := writer.text ++ more }

theorem add_empty (writer : Writer) : writer.add "" = writer := by
  rw [add, String.append_empty]

/-- Whatever is written one level deeper, the way back ends at the level it began from. -/
theorem shallower_add_deeper (writer : Writer) (more : String) :
    (writer.deeper.add more).shallower = writer.add more := rfl

theorem add_add (writer : Writer) (first second : String) :
    (writer.add first).add second = writer.add (first ++ second) := by
  rw [add, add, add, String.append_assoc]

open LogicalLine

/-- A line goes out at the writer's level. -/
theorem line_eq_add {writer : Writer} {level depth : Nat} (h : writer.level = level + depth)
    (text : String) :
    writer.line text =
      writer.add ((LogicalLine.indented depth text).written writer.unit level) := by
  rw [line, indentation, add, written, ← h, String.append_assoc, String.append_assoc,
    String.append_assoc]

theorem foldl_line_eq_add {writer : Writer} {level depth : Nat}
    (h : writer.level = level + depth) (texts : List String) :
    texts.foldl line writer =
      writer.add (allWritten writer.unit level (texts.map (.indented depth))) := by
  induction texts generalizing writer with
  | nil => exact writer.add_empty.symm
  | cons text rest ih =>
    have later : (writer.line text).level = level + depth := h
    rw [List.foldl_cons, ih later, line_eq_add h, add_add, List.map_cons, allWritten_cons]
    rfl

mutual

/-- Writing a fragment adds its lines. The induction goes through all levels, since the body of a
block is written one level deeper, and its depth is counted from where the whole began. -/
theorem write_eq_add (writer : Writer) {level depth : Nat} (h : writer.level = level + depth) :
    (fragment : Fragment) →
      writer.write fragment =
        writer.add (allWritten writer.unit level (fragment.linesAt depth))
  | .line text => by
    rw [write, line_eq_add h, Fragment.linesAt, allWritten_singleton]
  | .blank => by
    rw [write, Fragment.linesAt, allWritten_singleton]
    rfl
  | .block header body close => by
    have inside : (writer.line header).deeper.level = level + (depth + 1) := by
      show writer.level + 1 = level + (depth + 1)
      omega
    have bodyAdded := writeAll_eq_add (writer.line header).deeper inside body
    -- The last line goes out at the level of the first, whatever the body has added before it.
    have closed (before : String) : (writer.add before).line close =
        (writer.add before).add
          ((LogicalLine.indented depth close).written writer.unit level) :=
      line_eq_add (show (writer.add before).level = level + depth from h) close
    rw [write, bodyAdded, shallower_add_deeper, line_eq_add h header, add_add, closed, add_add,
      Fragment.linesAt, allWritten_cons, allWritten_append, allWritten_singleton,
      String.append_assoc]
    rfl
  | .javadoc text => by
    rw [write, javadoc, line_eq_add h, Fragment.linesAt, allWritten_singleton]
  | .rustdoc text => by
    rw [write, rustdoc, Fragment.linesAt]
    have eachLine := foldl_line_eq_add h ((Text.lines text).map rustdocLine)
    rw [List.foldl_map, List.map_map] at eachLine
    exact eachLine

theorem writeAll_eq_add (writer : Writer) {level depth : Nat} (h : writer.level = level + depth) :
    (fragments : List Fragment) →
      writer.writeAll fragments =
        writer.add (allWritten writer.unit level (Fragment.linesOf depth fragments))
  | [] => writer.add_empty.symm
  | fragment :: rest => by
    have later : (writer.write fragment).level = level + depth := by
      rw [write_eq_add writer h fragment]
      exact h
    rw [writeAll, writeAll_eq_add _ later rest, write_eq_add writer h fragment, add_add,
      Fragment.linesOf, allWritten_append]
    rfl

end

theorem writeAll_eq_add_laidOut (writer : Writer) (fragments : List Fragment) :
    writer.writeAll fragments = writer.add (laidOut writer.unit writer.level fragments) :=
  writer.writeAll_eq_add rfl fragments

/-- Writing in parts is writing in one go. -/
theorem writeAll_append (writer : Writer) (first second : List Fragment) :
    writer.writeAll (first ++ second) = (writer.writeAll first).writeAll second := by
  induction first generalizing writer with
  | nil => rfl
  | cons fragment rest ih => exact ih (writer.write fragment)

/-- Whatever a writer has written, its unit and its level, fragments only add to the text, and what
they add is their lines in order: each line of text behind as many units as the level and its depth
together make, each empty line bare. When the body of a block is done, the writer is one level
deeper than before the block, so the way back is always open, and at the end it is at its level
again. Hence fragments add the same text behind other fragments as they do alone, and to write
fragments together is to write some of them first and then the others. -/
theorem writeAll_adds_lines (writer : Writer) (fragments : List Fragment) :
    writer.writeAll fragments = writer.add (laidOut writer.unit writer.level fragments) ∧
    (∀ fragment, writer.write fragment =
      writer.add (laidOut writer.unit writer.level [fragment])) ∧
    (∀ {α : Type} [HasFragments α] (node : α), writer.emit node =
      writer.add (laidOut writer.unit writer.level (HasFragments.fragments node))) ∧
    (writer.writeAll fragments).level = writer.level ∧
    (∀ header, ((writer.line header).deeper.writeAll fragments).level = writer.level + 1) ∧
    (∀ earlier, (writer.writeAll earlier).writeAll fragments =
      (writer.writeAll earlier).add (laidOut writer.unit writer.level fragments)) ∧
    (∀ more, writer.writeAll (fragments ++ more) =
      (writer.writeAll fragments).writeAll more) := by
  refine ⟨writer.writeAll_eq_add_laidOut fragments, ?_, ?_, ?_, ?_, ?_,
    writer.writeAll_append fragments⟩
  · intro fragment
    exact writer.writeAll_eq_add_laidOut [fragment]
  · intro α _ node
    exact writer.writeAll_eq_add_laidOut (HasFragments.fragments node)
  · rw [writeAll_eq_add_laidOut]
    rfl
  · intro header
    rw [writeAll_eq_add_laidOut]
    rfl
  · intro earlier
    rw [writeAll_eq_add_laidOut _ fragments, writeAll_eq_add_laidOut writer earlier]
    rfl

example : laidOut .tab 1 [.block "begin" [.blank, .rustdoc "a\n\nb", .line ""] "end"] =
    "\tbegin\n\n\t\t/// a\n\t\t///\n\t\t/// b\n\t\t\n\tend\n" := by decide

end Writer

theorem render_eq_laidOut {α : Type} [HasFragments α] (unit : Indent) (node : α) :
    render unit node = laidOut unit 0 (fragments node) := by
  rw [render, Writer.emit, Writer.writeAll_eq_add_laidOut]
  exact String.empty_append

theorem laidOut_append (unit : Indent) (level : Nat) (first second : List Fragment) :
    laidOut unit level (first ++ second) =
      laidOut unit level first ++ laidOut unit level second := by
  simp only [laidOut, Fragment.linesOf_append, LogicalLine.allWritten_append]

theorem laidOut_blank_cons (unit : Indent) (level : Nat) (rest : List Fragment) :
    laidOut unit level (.blank :: rest) = "\n" ++ laidOut unit level rest := by
  rw [← List.singleton_append, laidOut_append]
  rfl

theorem render_append (unit : Indent) (first second : List Fragment) :
    render unit (first ++ second) = render unit first ++ render unit second := by
  rw [render_eq_laidOut, render_eq_laidOut, render_eq_laidOut]
  exact laidOut_append unit 0 first second

/-- A line outside all blocks is not indented. -/
theorem render_line (unit : Indent) (text : String) :
    render unit [Fragment.line text] = text ++ "\n" := by
  rw [render_eq_laidOut]
  exact LogicalLine.allWritten_singleton unit 0 (.indented 0 text)

theorem render_lines (unit : Indent) (texts : List String) :
    render unit (texts.map Fragment.line) = String.join (texts.map (· ++ "\n")) := by
  induction texts with
  | nil => rfl
  | cons text rest ih =>
    rw [List.map_cons, ← List.singleton_append, render_append, ih, render_line, List.map_cons,
      String.join_cons]

end QuietSource.Code
