/-
# Sections and members with empty lines between them

A file counts the sections that it has written and begins a further one behind an empty line, and a
list of members looks at a member's index. Both come to the same: groups of fragments with an empty
line between each two. For files this is an invariant of the sections written so far, which each
further section keeps; for members it is a fact about indices.
-/

import QuietSource.Crate.ImplBlock
import QuietSource.Crate.SourceFile
import QuietSource.Package.CompilationUnit
import QuietSource.Proofs.LogicalLines

namespace QuietSource

namespace Code

/-- Groups of fragments with an empty line between each two. -/
def separated : List (List Fragment) → List Fragment
  | [] => []
  | [group] => group
  | group :: rest => group ++ .blank :: separated rest

theorem separated_cons_cons (group next : List Fragment) (rest : List (List Fragment)) :
    separated (group :: next :: rest) = group ++ .blank :: separated (next :: rest) := rfl

theorem separated_cons (group : List Fragment) (rest : List (List Fragment)) :
    separated (group :: rest) = group ++ rest.flatMap (.blank :: ·) := by
  induction rest generalizing group with
  | nil => exact group.append_nil.symm
  | cons next rest ih => rw [separated_cons_cons, ih, List.flatMap_cons, List.cons_append]

theorem separated_concat {groups : List (List Fragment)} (nonempty : groups ≠ [])
    (group : List Fragment) :
    separated (groups ++ [group]) = separated groups ++ .blank :: group := by
  obtain ⟨first, rest, rfl⟩ := List.exists_cons_of_ne_nil nonempty
  rw [List.cons_append, separated_cons, separated_cons, List.flatMap_append,
    List.flatMap_singleton, List.append_assoc]

/-- At every level, groups with an empty line between each two read as their texts joined by a line
feed. -/
theorem laidOut_separated (unit : Indent) (level : Nat) (groups : List (List Fragment)) :
    laidOut unit level (separated groups) =
      String.intercalate "\n" (groups.map (laidOut unit level)) := by
  induction groups with
  | nil => rfl
  | cons group rest ih =>
    cases rest with
    | nil => rw [separated, List.map_cons, List.map_nil, String.intercalate_singleton]
    | cons next rest =>
      simp only [List.map_cons] at ih ⊢
      rw [separated_cons_cons, laidOut_append, laidOut_blank_cons, ih,
        String.intercalate_cons_cons, String.append_assoc]

/-- Groups with an empty line between each two read as their texts joined by a line feed. -/
theorem render_separated (unit : Indent) (groups : List (List Fragment)) :
    render unit (separated groups) = String.intercalate "\n" (groups.map (render unit)) := by
  have alone : (render unit : List Fragment → String) = laidOut unit 0 :=
    funext (render_eq_laidOut unit)
  rw [alone]
  exact laidOut_separated unit 0 groups

/-! ## Members by their index -/

/-- Behind others, every group has its empty line. -/
theorem flatMap_zipIdx {start : Nat} {preceded : Bool} (later : 0 < start ∨ preceded = true)
    (groups : List (List Fragment)) :
    ((groups.zipIdx start).flatMap fun (group, index) =>
        (if 0 < index || preceded then [.blank] else []) ++ group) =
      groups.flatMap (.blank :: ·) := by
  induction groups generalizing start with
  | nil => rfl
  | cons group rest ih =>
    have parted : (0 < start || preceded) = true := by simpa using later
    rw [List.zipIdx_cons, List.flatMap_cons, List.flatMap_cons, ih (.inl start.succ_pos)]
    dsimp only
    rw [parted, if_pos rfl]
    rfl

theorem spaced_true (groups : List (List Fragment)) :
    spaced true groups = groups.flatMap (.blank :: ·) :=
  flatMap_zipIdx (.inr rfl) groups

theorem spaced_false (groups : List (List Fragment)) :
    spaced false groups = separated groups := by
  cases groups with
  | nil => rfl
  | cons group rest =>
    rw [separated_cons, spaced, List.zipIdx_cons, List.flatMap_cons,
      flatMap_zipIdx (.inl Nat.one_pos)]
    rfl

/-! ## Sections by their number -/

namespace Writer

/-- Lines that go out one by one are fragments. -/
theorem foldl_line (writer : Writer) (texts : List String) :
    texts.foldl line writer = writer.writeAll (texts.map .line) := by
  induction texts generalizing writer with
  | nil => rfl
  | cons text rest ih => exact ih (writer.line text)

theorem foldl_emit {α : Type} [HasFragments α] (writer : Writer) (nodes : List α) :
    nodes.foldl emit writer = writer.writeAll (nodes.flatMap fragments) := by
  induction nodes generalizing writer with
  | nil => rfl
  | cons node rest ih => rw [List.foldl_cons, ih, List.flatMap_cons, writeAll_append, emit]

end Writer

namespace SectionWriter

/-- A file in which some sections have been written, with an empty line between each two. -/
def after (unit : Indent) (sections : List (List Fragment)) : SectionWriter :=
  ⟨(Writer.new unit).writeAll (separated sections), sections.length⟩

variable {unit : Indent} {sections : List (List Fragment)}

theorem headed_eq_after (unit : Indent) (header : Option String) :
    headed unit header =
      after unit (header.toList.map fun text => (Text.lines text).map .line) := by
  cases header with
  | none => rfl
  | some text => rw [headed, Writer.foldl_line]; rfl

/-- Where a section begins, writing it makes it one more of the separated sections. -/
theorem writeAll_parted_after (group : List Fragment) :
    (after unit sections).parted.writeAll group =
      (Writer.new unit).writeAll (separated (sections ++ [group])) := by
  cases sections with
  | nil => rfl
  | cons first rest =>
    rw [separated_concat (List.cons_ne_nil first rest), Writer.writeAll_append]
    rfl

/-- One more section keeps the empty lines between the sections. -/
theorem next_after {write : Writer → Writer} {group : List Fragment}
    (writes : ∀ writer, write writer = writer.writeAll group) :
    (after unit sections).next write = after unit (sections ++ [group]) := by
  have longer : (sections ++ [group]).length = sections.length + 1 := List.length_append
  rw [next, writes, writeAll_parted_after, after, after, longer]

/-- A section for what is optional is there or not. -/
theorem ite_next_after {write : Writer → Writer} {group : List Fragment} (absent : Bool)
    (writes : ∀ writer, write writer = writer.writeAll group) :
    (if absent then after unit sections else (after unit sections).next write) =
      after unit (sections ++ if absent then [] else [group]) := by
  cases absent with
  | true => exact congrArg (after unit) (List.append_nil sections).symm
  | false => exact next_after writes

theorem foldl_next_after (more : List (List Fragment)) :
    more.foldl (fun state group => state.next (·.writeAll group)) (after unit sections) =
      after unit (sections ++ more) := by
  induction more generalizing sections with
  | nil => exact congrArg (after unit) (List.append_nil sections).symm
  | cons group rest ih =>
    rw [List.foldl_cons, next_after fun _ => rfl, ih, List.append_assoc]
    rfl

end SectionWriter

end Code

open Code

namespace Crate

/-- The sections of a file, from top to bottom. -/
def SourceFile.sections (file : SourceFile) : List (List Fragment) :=
  (file.header.toList.map fun header => (Text.lines header).map .line) ++
    (if file.uses.isEmpty then [] else [file.uses.flatMap fragments]) ++ file.items

/-- Counting the sections puts an empty line between each two of them. -/
theorem SourceFile.text_eq_render (file : SourceFile) :
    file.text = render .rust (separated file.sections) := by
  rw [text, SectionWriter.headed_eq_after,
    SectionWriter.ite_next_after _ fun writer => writer.foldl_emit file.uses,
    SectionWriter.foldl_next_after]
  rfl

theorem ImplBlock.definition_eq (block : ImplBlock) :
    block.definition =
      .block block.header (separated (block.functions.map fragments)) "\x7d" := by
  rw [definition, spaced_false]

end Crate

namespace Package

/-- The sections of a unit, from top to bottom. -/
def CompilationUnit.sections (compilation : CompilationUnit) : List (List Fragment) :=
  (compilation.header.toList.map fun header => (Text.lines header).map .line) ++
    (compilation.package.toList.map fun package => [.line ("package " ++ package ++ ";")]) ++
    (if compilation.imports.isEmpty then [] else [compilation.importLines.map .line]) ++
    [fragments compilation.decl]

/-- Counting the sections puts an empty line between each two of them. -/
theorem CompilationUnit.text_eq_render (compilation : CompilationUnit) :
    compilation.text = render .java (separated compilation.sections) := by
  have imports (writer : Writer) := writer.foldl_line compilation.importLines
  rw [text, sections, SectionWriter.headed_eq_after]
  cases compilation.package with
  | none =>
    dsimp only
    rw [SectionWriter.ite_next_after _ imports, SectionWriter.writeAll_parted_after,
      Option.toList_none, List.map_nil, List.append_nil]
    rfl
  | some package =>
    have line (writer : Writer) : writer.line ("package " ++ package ++ ";") =
        writer.writeAll [.line ("package " ++ package ++ ";")] := rfl
    dsimp only
    rw [SectionWriter.next_after line, SectionWriter.ite_next_after _ imports,
      SectionWriter.writeAll_parted_after]
    rfl

/-- The groups of a class's members: all fields together, and each method for itself. -/
def ClassDecl.memberGroups (decl : ClassDecl) : List (List Fragment) :=
  (if decl.fields.isEmpty then [] else [decl.fields.map fun field => .line field.text]) ++
    decl.methods.map fragments

theorem ClassDecl.members_eq (decl : ClassDecl) : decl.members = separated decl.memberGroups := by
  rw [members, memberGroups]
  cases decl.fields with
  | nil => exact spaced_false (decl.methods.map fragments)
  | cons field rest =>
    rw [List.isEmpty_cons, Bool.not_false, spaced_true]
    exact (separated_cons _ _).symm

end Package

end QuietSource
