/-
# Members inside their item

The functions of a block and the members of a class are laid out one level deeper than they would be
alone. If no line of them is broken by a line feed of its own and none is left bare, this puts one
unit of indentation before each of their lines and changes nothing else. So an item reads as its
preamble, its first line, the texts of its members indented line by line with an empty line between
each two, and its last line. Documentation that takes a comment mark on each line may hold line
feeds, since it is cut at them before it is written.
-/

import QuietSource.Proofs.DirectivePlacement
import QuietSource.Proofs.FileSections
import QuietSource.Proofs.LineBreaks

namespace QuietSource

open Code Text

namespace Code

theorem Indent.isUnbroken_text (unit : Indent) : IsUnbroken unit.text := by
  unfold Indent.text
  split <;> decide

/-- An indented line without a line feed in its text. -/
def LogicalLine.IsPlain : LogicalLine → Prop
  | .indented _ text => IsUnbroken text
  | .empty => False

mutual

/-- A fragment whose lines are all indented and unbroken. -/
def Fragment.IsPlain : Fragment → Prop
  | .line text | .javadoc text => IsUnbroken text
  | .blank => False
  | .block header body close => IsUnbroken header ∧ Fragment.ArePlain body ∧ IsUnbroken close
  | .rustdoc _ => True

/-- Fragments whose lines are all indented and unbroken. -/
def Fragment.ArePlain : List Fragment → Prop
  | [] => True
  | fragment :: rest => fragment.IsPlain ∧ Fragment.ArePlain rest

end

theorem Fragment.arePlain_iff {fragments : List Fragment} :
    ArePlain fragments ↔ ∀ fragment ∈ fragments, fragment.IsPlain := by
  induction fragments with
  | nil => simp [ArePlain]
  | cons fragment rest ih => rw [ArePlain, ih, List.forall_mem_cons]

theorem Fragment.arePlain_append {first second : List Fragment} :
    ArePlain (first ++ second) ↔ ArePlain first ∧ ArePlain second := by
  simp only [arePlain_iff, List.forall_mem_append]

theorem Fragment.arePlain_map {α : Type} {fragmentOf : α → Fragment} {parts : List α}
    (h : ∀ part ∈ parts, (fragmentOf part).IsPlain) : ArePlain (parts.map fragmentOf) := by
  rw [arePlain_iff, List.forall_mem_map]
  exact h

/-- An item is laid out plainly if what stands before it is, and its lines are unbroken. -/
theorem Fragment.arePlain_item {preamble : List Fragment} (before : ArePlain preamble)
    {header close : String} {body : List String} (opens : IsUnbroken header)
    (inside : ∀ line ∈ body, IsUnbroken line) (closes : IsUnbroken close) :
    ArePlain (preamble ++ [.block header (body.map .line) close]) :=
  arePlain_append.mpr ⟨before, ⟨opens, arePlain_map inside, closes⟩, trivial⟩

mutual

theorem Fragment.isPlain_of_mem_linesAt {depth : Nat} {line : LogicalLine} :
    (fragment : Fragment) → fragment.IsPlain → line ∈ fragment.linesAt depth → line.IsPlain
  | .line text, plain, member => by
    rw [linesAt, List.mem_singleton] at member
    rw [member]
    exact plain
  | .javadoc text, plain, member => by
    rw [linesAt, List.mem_singleton] at member
    rw [member, LogicalLine.IsPlain, isUnbroken_append, isUnbroken_append]
    exact ⟨⟨by decide, plain⟩, by decide⟩
  | .block header body close, plain, member => by
    rw [linesAt, List.mem_cons, List.mem_append, List.mem_singleton] at member
    rcases member with rfl | inBody | rfl
    · exact plain.1
    · exact isPlain_of_mem_linesOf body plain.2.1 inBody
    · exact plain.2.2
  | .rustdoc text, _, member => by
    obtain ⟨line, listed, rfl⟩ := List.mem_map.mp member
    rw [LogicalLine.IsPlain]
    exact IsUnbroken.trimEnd (isUnbroken_append.mpr ⟨by decide, .of_mem_lines listed⟩)

theorem Fragment.isPlain_of_mem_linesOf {depth : Nat} {line : LogicalLine} :
    (fragments : List Fragment) → ArePlain fragments → line ∈ linesOf depth fragments →
      line.IsPlain
  | fragment :: rest, plain, member => by
    rw [linesOf, List.mem_append] at member
    rcases member with inFirst | inRest
    · exact isPlain_of_mem_linesAt fragment plain.1 inFirst
    · exact isPlain_of_mem_linesOf rest plain.2 inRest

end

/-- One level more is one unit more before a line. -/
theorem LogicalLine.indentLines_written (unit : Indent) (level : Nat) {line : LogicalLine}
    (plain : line.IsPlain) (rest : String) :
    indentLines unit.text (line.written unit level ++ rest) =
      line.written unit (level + 1) ++ indentLines unit.text rest := by
  cases line with
  | empty => exact absurd plain not_false
  | indented depth text =>
    have margin : IsUnbroken (String.join (List.replicate (level + depth) unit.text)) :=
      IsUnbroken.join fun part listed => (List.eq_of_mem_replicate listed) ▸ unit.isUnbroken_text
    have deeper : String.join (List.replicate (level + 1 + depth) unit.text) =
        unit.text ++ String.join (List.replicate (level + depth) unit.text) := by
      rw [Nat.add_right_comm, List.replicate_succ, String.join_cons]
    rw [written, indentLines_line unit.text (isUnbroken_append.mpr ⟨margin, plain⟩), written,
      deeper]
    simp only [String.append_assoc]

theorem LogicalLine.indentLines_allWritten (unit : Indent) (level : Nat)
    {lines : List LogicalLine} (plain : ∀ line ∈ lines, line.IsPlain) :
    indentLines unit.text (allWritten unit level lines) = allWritten unit (level + 1) lines := by
  induction lines with
  | nil => rfl
  | cons line rest ih =>
    rw [List.forall_mem_cons] at plain
    rw [allWritten_cons, indentLines_written unit level plain.1, ih plain.2, allWritten_cons]

theorem indentLines_laidOut (unit : Indent) (level : Nat) {fragments : List Fragment}
    (plain : Fragment.ArePlain fragments) :
    indentLines unit.text (laidOut unit level fragments) = laidOut unit (level + 1) fragments :=
  LogicalLine.indentLines_allWritten unit level fun _ =>
    Fragment.isPlain_of_mem_linesOf fragments plain

/-- The body of a block counts its depth from the block, or one level deeper from itself. -/
theorem allWritten_linesOf_succ (unit : Indent) (level depth : Nat) (fragments : List Fragment) :
    LogicalLine.allWritten unit level (Fragment.linesOf (depth + 1) fragments) =
      LogicalLine.allWritten unit (level + 1) (Fragment.linesOf depth fragments) := by
  -- Both are what a writer adds that stands where the two counts meet.
  let writer : Writer := ⟨unit, level + 1 + depth, ""⟩
  have fromBlock := writer.writeAll_eq_add (show level + 1 + depth = level + (depth + 1) by omega)
    fragments
  have fromBody := writer.writeAll_eq_add (rfl : level + 1 + depth = level + 1 + depth) fragments
  have same := congrArg Writer.text (fromBlock.symm.trans fromBody)
  simpa [Writer.add, writer] using same

/-- A block begins and ends at its level, and its body is one level deeper. -/
theorem laidOut_block (unit : Indent) (level : Nat) (header close : String)
    (body : List Fragment) :
    laidOut unit level [.block header body close] =
      Writer.indentation unit level ++ header ++ "\n" ++ laidOut unit (level + 1) body ++
        (Writer.indentation unit level ++ close ++ "\n") := by
  have lines : Fragment.linesOf 0 [.block header body close] =
      .indented 0 header :: (Fragment.linesOf 1 body ++ [.indented 0 close]) :=
    List.append_nil _
  rw [laidOut, lines, LogicalLine.allWritten_cons, LogicalLine.allWritten_append,
    LogicalLine.allWritten_singleton, allWritten_linesOf_succ, ← String.append_assoc]
  rfl

/-- A block outside all blocks begins and ends at the margin, and its body is one level deeper. -/
theorem render_block (unit : Indent) (header close : String) (body : List Fragment) :
    render unit [Fragment.block header body close] =
      header ++ "\n" ++ laidOut unit 1 body ++ (close ++ "\n") := by
  have margin : Writer.indentation unit 0 = "" := rfl
  have block := laidOut_block unit 0 header close body
  rw [margin, String.empty_append, String.empty_append] at block
  rw [render_eq_laidOut]
  exact block

/-- A block of plain groups reads as the groups alone with a unit before each line. -/
theorem render_block_separated (unit : Indent) (header close : String)
    {groups : List (List Fragment)} (plain : ∀ group ∈ groups, Fragment.ArePlain group) :
    render unit [Fragment.block header (separated groups) close] =
      header ++ "\n" ++
        String.intercalate "\n"
          (groups.map fun group => indentLines unit.text (render unit group)) ++
        (close ++ "\n") := by
  have nested : groups.map (laidOut unit 1) =
      groups.map fun group => indentLines unit.text (render unit group) := by
    apply List.map_congr_left
    intro group listed
    rw [render_eq_laidOut]
    exact (indentLines_laidOut unit 0 (plain group listed)).symm
  rw [render_block, laidOut_separated, nested]

end Code

namespace Crate

theorem Parameter.isUnbroken_text {parameter : Parameter}
    (h : IsUnbroken parameter.name ∧ IsUnbroken parameter.type) : IsUnbroken parameter.text := by
  unfold Parameter.text
  split <;> simp +decide [h]

/-- No part of a function has a line feed in it, except that its documentation may. -/
structure Function.PartsUnbroken (function : Function) : Prop where
  attributes : ∀ attr ∈ function.attributes, IsUnbroken attr.text
  name : IsUnbroken function.name
  parameters : ∀ parameter ∈ function.parameters,
    IsUnbroken parameter.name ∧ IsUnbroken parameter.type
  returns : ∀ type ∈ function.returns, IsUnbroken type
  body : ∀ line ∈ function.body, IsUnbroken line

namespace Function.PartsUnbroken

variable {function : Function}

theorem signature (h : function.PartsUnbroken) : IsUnbroken function.signature := by
  have visible : IsUnbroken (visibility function.isPublic) := by
    cases function.isPublic <;> decide
  have parameters : IsUnbroken
      (String.intercalate ", " (function.parameters.map Parameter.text)) := by
    apply IsUnbroken.intercalate_map (by decide)
    intro parameter listed
    exact Parameter.isUnbroken_text (h.parameters parameter listed)
  unfold Function.signature
  cases result : function.returns with
  | none => simp +decide [visible, h.name, parameters]
  | some type => simp +decide [visible, h.name, parameters, h.returns type result]

theorem arePlain (h : function.PartsUnbroken) : Fragment.ArePlain (fragments function) := by
  have docs : Fragment.ArePlain (function.doc.toList.map .rustdoc) :=
    Fragment.arePlain_map fun _ _ => trivial
  have marks : Fragment.ArePlain (function.attributes.map Attribute.line) := by
    apply Fragment.arePlain_map
    intro attr listed
    simp +decide [Attribute.line, Fragment.IsPlain, h.attributes attr listed]
  exact Fragment.arePlain_item (Fragment.arePlain_append.mpr ⟨docs, marks⟩) h.signature h.body
    (by decide)

end Function.PartsUnbroken

theorem ImplBlock.arePlain_functions {block : ImplBlock}
    (unbroken : ∀ function ∈ block.functions, function.PartsUnbroken) :
    ∀ group ∈ block.functions.map fragments, Fragment.ArePlain group := by
  rw [List.forall_mem_map]
  exact fun function listed => (unbroken function listed).arePlain

end Crate

namespace Package

theorem isUnbroken_modifierText {modifiers : List String}
    (h : ∀ word ∈ modifiers, IsUnbroken word) : IsUnbroken (modifierText modifiers) := by
  have words := IsUnbroken.intercalate (show IsUnbroken " " by decide) h
  dsimp only [modifierText]
  split <;> simp +decide [words]

/-- No part of a method has a line feed in it. -/
structure Method.PartsUnbroken (method : Method) : Prop where
  doc : ∀ text ∈ method.doc, IsUnbroken text
  annotations : ∀ mark ∈ method.annotations, IsUnbroken mark.text
  modifiers : ∀ word ∈ method.modifiers, IsUnbroken word
  returns : IsUnbroken method.returns
  name : IsUnbroken method.name
  parameters : ∀ parameter ∈ method.parameters,
    IsUnbroken parameter.type ∧ IsUnbroken parameter.name
  body : ∀ line ∈ method.body, IsUnbroken line

namespace Method.PartsUnbroken

variable {method : Method}

theorem signature (h : method.PartsUnbroken) : IsUnbroken method.signature := by
  have parameters : IsUnbroken
      (String.intercalate ", " (method.parameters.map Parameter.text)) := by
    apply IsUnbroken.intercalate_map (by decide)
    intro parameter listed
    simp +decide [Parameter.text, h.parameters parameter listed]
  simp +decide [Method.signature, isUnbroken_modifierText h.modifiers, h.returns, h.name,
    parameters]

theorem arePlain (h : method.PartsUnbroken) : Fragment.ArePlain (fragments method) := by
  have docs : Fragment.ArePlain (method.doc.toList.map .javadoc) :=
    Fragment.arePlain_map fun text listed => h.doc text (Option.mem_toList.mp listed)
  have marks : Fragment.ArePlain (method.annotations.map AnnotationUse.line) :=
    Fragment.arePlain_map h.annotations
  exact Fragment.arePlain_item (Fragment.arePlain_append.mpr ⟨docs, marks⟩) h.signature h.body
    (by decide)

end Method.PartsUnbroken

/-- No part of a field has a line feed in it. -/
structure ClassField.PartsUnbroken (field : ClassField) : Prop where
  modifiers : ∀ word ∈ field.modifiers, IsUnbroken word
  type : IsUnbroken field.type
  name : IsUnbroken field.name
  init : ∀ value ∈ field.init, IsUnbroken value

theorem ClassField.PartsUnbroken.text {field : ClassField} (h : field.PartsUnbroken) :
    IsUnbroken field.text := by
  unfold ClassField.text
  cases initial : field.init with
  | none => simp +decide [isUnbroken_modifierText h.modifiers, h.type, h.name]
  | some value =>
    simp +decide [isUnbroken_modifierText h.modifiers, h.type, h.name, h.init value initial]

/-- The texts of the members of a class: its fields together, and each method for itself. -/
def ClassDecl.memberTexts (decl : ClassDecl) : List String :=
  linesSection (decl.fields.map ClassField.text) ++ decl.methods.map Method.text

theorem ClassDecl.map_render_memberGroups (decl : ClassDecl) :
    decl.memberGroups.map (render .java) = decl.memberTexts := by
  have fields := map_render_linesSection .java (decl.fields.map ClassField.text)
  rw [List.isEmpty_map, List.map_map] at fields
  rw [memberGroups, List.map_append, memberTexts, ← fields, List.map_map]
  rfl

theorem ClassDecl.arePlain_memberGroups {decl : ClassDecl}
    (fieldsUnbroken : ∀ field ∈ decl.fields, field.PartsUnbroken)
    (methodsUnbroken : ∀ method ∈ decl.methods, method.PartsUnbroken) :
    ∀ group ∈ decl.memberGroups, Fragment.ArePlain group := by
  rw [memberGroups, List.forall_mem_append, List.forall_mem_map]
  refine ⟨?_, fun method listed => (methodsUnbroken method listed).arePlain⟩
  split
  · exact List.forall_mem_nil _
  · rw [List.forall_mem_singleton]
    exact Fragment.arePlain_map fun field listed => (fieldsUnbroken field listed).text

end Package

/-- A block reads as its attributes, its first line, the texts of its functions with four spaces
before each line and an empty line between each two, and its last line, if no part of a function but
its documentation has a line feed in it. A class reads as what stands before it, its first line, its
fields together and each method for itself, with a tab before each line and an empty line between
each two of these, and its last line, if no part of a field or a method has a line feed in it. -/
theorem nesting_indents_members :
    (∀ block : Crate.ImplBlock, (∀ function ∈ block.functions, function.PartsUnbroken) →
      block.text = render .rust block.preamble ++
        (block.header ++ "\n" ++
          String.intercalate "\n"
            (block.functions.map fun function => indentLines "    " function.text) ++ "\x7d\n")) ∧
    (∀ decl : Package.ClassDecl, (∀ field ∈ decl.fields, field.PartsUnbroken) →
      (∀ method ∈ decl.methods, method.PartsUnbroken) →
        decl.text = render .java decl.preamble ++
          (decl.header ++ "\n" ++
            String.intercalate "\n" (decl.memberTexts.map (indentLines "\t")) ++ "\x7d\n")) := by
  constructor
  · intro block unbroken
    have nested := render_block_separated .rust block.header "\x7d"
      (Crate.ImplBlock.arePlain_functions unbroken)
    rw [List.map_map] at nested
    show render .rust (block.preamble ++ [block.definition]) = _
    rw [render_append, Crate.ImplBlock.definition_eq, nested]
    rfl
  · intro decl fieldsUnbroken methodsUnbroken
    have nested := render_block_separated .java decl.header "\x7d"
      (Package.ClassDecl.arePlain_memberGroups fieldsUnbroken methodsUnbroken)
    show render .java (decl.preamble ++ [decl.definition]) = _
    rw [render_append, Package.ClassDecl.definition, Package.ClassDecl.members_eq, nested,
      ← Package.ClassDecl.map_render_memberGroups, List.map_map]
    rfl

/-- A block with a function that has documentation of three lines and a body with an empty line. -/
def documentedBlock : Crate.ImplBlock where
  typeName := "Bean"
  functions :=
    [{ name := "new", doc := some "First.\n\nLast.", returns := some "Self", body := ["", "Bean"] },
      { name := "name", parameters := [⟨"&self", ""⟩] }]

/-- A class with fields and methods. -/
def holderClass : Package.ClassDecl where
  name := "Holder"
  annotations := [.deprecated]
  fields := [{ type := "int", name := "size" }]
  methods :=
    [{ name := "first", doc := some "Empty.", body := [""] },
      { name := "second", annotations := [.deprecated] }]

theorem nesting_in_documentedBlock_holderClass :
    ((∀ function ∈ documentedBlock.functions, function.PartsUnbroken) ∧
      documentedBlock.text =
        "impl Bean \x7b\n" ++
          "    /// First.\n    ///\n    /// Last.\n" ++
          "    pub fn new() -> Self \x7b\n        \n        Bean\n    \x7d\n\n" ++
          "    pub fn name(&self) \x7b\n    \x7d\n\x7d\n") ∧
      ((∀ field ∈ holderClass.fields, field.PartsUnbroken) ∧
        (∀ method ∈ holderClass.methods, method.PartsUnbroken) ∧
        holderClass.text =
          "@Deprecated\npublic class Holder \x7b\n\tprivate final int size;\n\n" ++
            "\t/** Empty. */\n\tpublic void first() \x7b\n\t\t\n\t\x7d\n\n" ++
            "\t@Deprecated\n\tpublic void second() \x7b\n\t\x7d\n\x7d\n") := by
  have functions : ∀ function ∈ documentedBlock.functions, function.PartsUnbroken := by
    simp only [documentedBlock, List.forall_mem_cons]
    exact ⟨by constructor <;> decide, by constructor <;> decide, List.forall_mem_nil _⟩
  have fields : ∀ field ∈ holderClass.fields, field.PartsUnbroken := by
    simp only [holderClass, List.forall_mem_cons]
    exact ⟨by constructor <;> decide, List.forall_mem_nil _⟩
  have methods : ∀ method ∈ holderClass.methods, method.PartsUnbroken := by
    simp only [holderClass, List.forall_mem_cons]
    exact ⟨by constructor <;> decide, by constructor <;> decide, List.forall_mem_nil _⟩
  obtain ⟨blockText, classText⟩ := nesting_indents_members
  exact ⟨⟨functions, (blockText documentedBlock functions).trans (by decide +kernel)⟩, fields,
    methods, (classText holderClass fields methods).trans (by decide +kernel)⟩

end QuietSource
