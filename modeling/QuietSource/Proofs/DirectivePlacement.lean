/-
# Where directives stand

An item reads as what stands before it, its documentation and its marks, and then the item itself,
which is its last fragment. Whatever kind it is of, and whichever way a directive reaches it, the
directive becomes one line directly before that last fragment, behind all marks that are there, or
nothing at all. So the text before and the item itself stay as they are, and silencing an item
again puts the same line there once more.
-/

import Mathlib.Logic.Function.Iterate
import QuietSource.Crate.ImplBlock
import QuietSource.Crate.StructDecl
import QuietSource.Package.ClassDecl
import QuietSource.Proofs.LintTable
import QuietSource.Proofs.LogicalLines

namespace QuietSource

open Code Warning Lint

namespace Code

variable {α : Type} [HasFragments α]

/-- The text of all that stands before the last fragment of an item. -/
def textBefore (unit : Indent) (item : α) : String :=
  render unit (fragments item).dropLast

/-- The text of the last fragment of an item. -/
def textOfLast (unit : Indent) (item : α) : String :=
  render unit (fragments item).getLast?.toList

/-- Silencing an item puts a mark, which may be no text, between what stands before its last
fragment and that fragment, once for each time it is done. -/
structure MarksBeforeLast (unit : Indent) (silence : α → α) (mark : String) (item : α) : Prop where
  divided : render unit item = textBefore unit item ++ textOfLast unit item
  once : render unit (silence item) = textBefore unit item ++ mark ++ textOfLast unit item
  repeated : ∀ count, render unit (silence^[count] item) =
    textBefore unit item ++ String.join (List.replicate count mark) ++ textOfLast unit item
  unchanged_iff : render unit (silence item) = render unit item ↔ mark = ""

/-- A change inserts fragments before the last one and leaves all others in place. -/
def InsertsBeforeLast (change : α → α) (inserted : List Fragment) : Prop :=
  ∀ item before last, fragments item = before ++ [last] →
    fragments (change item) = before ++ inserted ++ [last]

theorem insertsBeforeLast_id : InsertsBeforeLast (id : α → α) [] := by
  intro item before last shape
  rw [id, shape, List.append_nil]

/-- What is done again inserts behind what was inserted before. -/
theorem InsertsBeforeLast.iterate {change : α → α} {inserted : List Fragment}
    (h : InsertsBeforeLast change inserted) (count : Nat) :
    InsertsBeforeLast change^[count] (List.replicate count inserted).flatten := by
  induction count with
  | zero => exact insertsBeforeLast_id
  | succ count ih =>
    intro item before last shape
    -- The later changes find the first insertion among what stands before the last fragment.
    rw [Function.iterate_succ_apply, ih (change item) (before ++ inserted) last (h item _ _ shape),
      List.replicate_succ, List.flatten_cons, List.append_assoc before]

theorem render_flatten_replicate (unit : Indent) (count : Nat) (group : List Fragment) :
    render unit (List.replicate count group).flatten =
      String.join (List.replicate count (render unit group)) := by
  induction count with
  | zero => rfl
  | succ count ih =>
    rw [List.replicate_succ, List.flatten_cons, render_append, ih, List.replicate_succ,
      String.join_cons]

theorem InsertsBeforeLast.marks {change : α → α} {inserted : List Fragment}
    (h : InsertsBeforeLast change inserted) (unit : Indent) {mark : String}
    (same : render unit inserted = mark) {item : α} {before : List Fragment} {last : Fragment}
    (shape : fragments item = before ++ [last]) : MarksBeforeLast unit change mark item := by
  have beforeText : textBefore unit item = render unit before := by
    rw [textBefore, shape, List.dropLast_concat]
  have lastText : textOfLast unit item = render unit [last] := by
    rw [textOfLast, shape, List.getLast?_concat]
    rfl
  have changed {change : α → α} {inserted : List Fragment} (h : InsertsBeforeLast change inserted) :
      render unit (change item) =
        textBefore unit item ++ render unit inserted ++ textOfLast unit item := by
    rw [beforeText, lastText, ← render_append, ← render_append, ← h item before last shape]
    rfl
  have divided : render unit item = textBefore unit item ++ textOfLast unit item := by
    rw [← String.append_empty (s := textBefore unit item)]
    exact changed insertsBeforeLast_id
  have once : render unit (change item) =
      textBefore unit item ++ mark ++ textOfLast unit item := by
    rw [changed h, same]
  refine ⟨divided, once, ?_, ?_⟩
  · intro count
    rw [changed (h.iterate count), render_flatten_replicate, same]
  · rw [once, divided, String.append_left_inj, String.append_eq_left_iff]

/-- A change inserts before the last fragment if it adds to the preamble of each item and keeps what
stands behind the preamble. -/
theorem InsertsBeforeLast.of_preamble {change : α → α} {inserted : List Fragment}
    (preamble : α → List Fragment) (definition : α → Fragment)
    (shape : ∀ item, fragments item = preamble item ++ [definition item])
    (grown : ∀ item, preamble (change item) = preamble item ++ inserted)
    (kept : ∀ item, definition (change item) = definition item) :
    InsertsBeforeLast change inserted := by
  intro item before last parts
  rw [shape] at parts
  obtain ⟨rfl, closing⟩ := List.append_inj' parts rfl
  obtain rfl := List.singleton_inj.mp closing
  rw [shape, grown, kept]

end Code

namespace Lint

open Crate

/-- The allowance that a ledger stands for in a table, if it stands for one. -/
def Table.allowanceOf? (table : Table) (ledger : Ledger) : Option Allowance :=
  ledger.directive?.bind table.allowance?

/-- The lints that a ledger makes a table allow. -/
def Table.lintsAllowed (table : Table) (ledger : Ledger) : List String :=
  match table.allowanceOf? ledger with
  | some allowance => allowance.lints
  | none => []

/-- The line that allows lints, if there are any to allow. -/
def allowLine (lints : List String) : String :=
  if lints = [] then "" else "#[allow(" ++ String.intercalate ", " lints ++ ")]\n"

theorem allowLine_eq_empty_iff (lints : List String) : allowLine lints = "" ↔ lints = [] := by
  unfold allowLine
  split <;> simp_all

theorem silenceThrough_eq_allowanceOf {τ : Type} [HasAttributes τ] (table : Table) (ledger : Ledger)
    (item : τ) :
    silenceThrough table ledger item =
      match table.allowanceOf? ledger with
      | some allowance => addAttribute (.allow allowance) item
      | none => item := by
  rw [silenceThrough_eq, Table.allowanceOf?]
  cases ledger.directive? <;> rfl

/-- The attributes that a ledger makes a table add. -/
def Table.allowAttributes (table : Table) (ledger : Ledger) : List Attribute :=
  (table.allowanceOf? ledger).toList.map .allow

theorem render_allowAttributes (table : Table) (ledger : Ledger) :
    render .rust ((table.allowAttributes ledger).map Attribute.line) =
      allowLine (table.lintsAllowed ledger) := by
  unfold Table.allowAttributes Table.lintsAllowed
  cases table.allowanceOf? ledger with
  | none => rfl
  | some allowance =>
    show render .rust [Attribute.line (.allow allowance)] = allowLine allowance.lints
    rw [Attribute.line, render_line, allowLine, if_neg allowance.nonempty, Attribute.text,
      Allowance.text, ← String.toList_inj]
    simp

/-- What a single attribute does to an item, silencing it does with the attributes of the ledger. -/
theorem silenceThrough_eq_grown {τ : Type} [HasAttributes τ] (table : Table) (ledger : Ledger)
    (item : τ) (grown : List Attribute → τ) (kept : grown [] = item)
    (added : ∀ attr, grown [attr] = addAttribute attr item) :
    silenceThrough table ledger item = grown (table.allowAttributes ledger) := by
  rw [silenceThrough_eq_allowanceOf, Table.allowAttributes]
  cases table.allowanceOf? ledger with
  | none => exact kept.symm
  | some allowance => exact (added (.allow allowance)).symm

/-- Silencing an item of any kind through a table is seen before its last fragment, if a single
attribute is. -/
theorem silenceThrough_marks {τ : Type} [HasFragments τ] [HasAttributes τ]
    (added : ∀ attr, InsertsBeforeLast (addAttribute attr : τ → τ) [attr.line])
    (table : Table) (ledger : Ledger) {item : τ} {before : List Fragment} {last : Fragment}
    (shape : fragments item = before ++ [last]) :
    MarksBeforeLast .rust (silenceThrough table ledger) (allowLine (table.lintsAllowed ledger))
      item := by
  have inserts : InsertsBeforeLast (silenceThrough table ledger : τ → τ)
      ((table.allowAttributes ledger).map Attribute.line) := by
    intro item before last shape
    rw [silenceThrough_eq_allowanceOf, Table.allowAttributes]
    cases table.allowanceOf? ledger with
    | none => exact insertsBeforeLast_id item before last shape
    | some allowance => exact added (.allow allowance) item before last shape
  exact inserts.marks .rust (render_allowAttributes table ledger) shape

end Lint

namespace Crate

theorem Function.fragments_eq (function : Function) :
    fragments function = function.preamble ++ [function.definition] := rfl

theorem Function.addAttribute_inserts (attr : Attribute) :
    InsertsBeforeLast (addAttribute attr : Function → Function) [attr.line] := by
  apply InsertsBeforeLast.of_preamble preamble definition fragments_eq
  · intro function
    show _ ++ (function.attributes ++ [attr]).map Attribute.line = _
    rw [List.map_append, ← List.append_assoc]
    rfl
  · intro function
    rfl

theorem Function.silenceThrough_eq (table : Table) (ledger : Ledger) (function : Function) :
    silenceThrough table ledger function =
      { function with attributes := function.attributes ++ table.allowAttributes ledger } := by
  apply silenceThrough_eq_grown table ledger function
    (fun more => { function with attributes := function.attributes ++ more })
  · rw [List.append_nil]
  · intro attr
    rfl

theorem ImplBlock.fragments_eq (block : ImplBlock) :
    fragments block = block.preamble ++ [block.definition] := rfl

theorem ImplBlock.addAttribute_inserts (attr : Attribute) :
    InsertsBeforeLast (addAttribute attr : ImplBlock → ImplBlock) [attr.line] := by
  apply InsertsBeforeLast.of_preamble preamble definition fragments_eq
  · intro block
    exact List.map_append
  · intro block
    rfl

theorem ImplBlock.silenceThrough_eq (table : Table) (ledger : Ledger) (block : ImplBlock) :
    silenceThrough table ledger block =
      { block with attributes := block.attributes ++ table.allowAttributes ledger } := by
  apply silenceThrough_eq_grown table ledger block
    (fun more => { block with attributes := block.attributes ++ more })
  · rw [List.append_nil]
  · intro attr
    rfl

theorem StructDecl.fragments_eq (decl : StructDecl) :
    fragments decl = decl.preamble ++ [decl.definition] := rfl

theorem StructDecl.addAttribute_inserts (attr : Attribute) :
    InsertsBeforeLast (addAttribute attr : StructDecl → StructDecl) [attr.line] := by
  apply InsertsBeforeLast.of_preamble preamble definition fragments_eq
  · intro decl
    show _ ++ (decl.attributes ++ [attr]).map Attribute.line = _
    rw [List.map_append, ← List.append_assoc]
    rfl
  · intro decl
    rfl

theorem StructDecl.silenceThrough_eq (table : Table) (ledger : Ledger) (decl : StructDecl) :
    silenceThrough table ledger decl =
      { decl with attributes := decl.attributes ++ table.allowAttributes ledger } := by
  apply silenceThrough_eq_grown table ledger decl
    (fun more => { decl with attributes := decl.attributes ++ more })
  · rw [List.append_nil]
  · intro attr
    rfl

end Crate

namespace Package

/-- The line that suppresses the warnings in a ledger, if there are any. -/
def suppressLine (ledger : Ledger) : String :=
  match ledger.directive? with
  | some directive => "@SuppressWarnings(" ++ directive.text ++ ")\n"
  | none => ""

/-- The annotations that suppress the warnings in a ledger. -/
def suppressMarks (ledger : Ledger) : List AnnotationUse :=
  ledger.directive?.toList.map .ofDirective

theorem render_suppressMarks (ledger : Ledger) :
    render .java ((suppressMarks ledger).map AnnotationUse.line) = suppressLine ledger := by
  unfold suppressMarks suppressLine
  cases ledger.directive? with
  | none => rfl
  | some directive =>
    show render .java [AnnotationUse.line (.ofDirective directive)] = _
    rw [AnnotationUse.line, render_line, AnnotationUse.text, ← String.toList_inj]
    simp [AnnotationUse.ofDirective]

theorem suppressLine_eq_empty_iff (ledger : Ledger) :
    suppressLine ledger = "" ↔ ledger.isEmpty = true := by
  have noDirective : ledger.directive? = none ↔ ledger.isEmpty = true := by
    rw [Ledger.directive?, Directive.ofCategories?_eq_none_iff, Ledger.isEmpty, OrderedSet.isEmpty,
      List.isEmpty_iff]
  rw [← noDirective, suppressLine]
  cases ledger.directive? <;> simp

/-- What a single directive does to a declaration, silencing it does with that of the ledger. -/
theorem silence_eq_grown {τ : Type} [Silenceable τ] (ledger : Ledger) (item : τ)
    (grown : List AnnotationUse → τ) (kept : grown [] = item)
    (attached : ∀ directive, grown [.ofDirective directive] = Silenceable.attach directive item) :
    ledger.silence item = grown (suppressMarks ledger) := by
  rw [Ledger.silence, suppressMarks]
  cases ledger.directive? with
  | none => exact kept.symm
  | some directive => exact (attached directive).symm

/-- Silencing a declaration of any kind is seen before its last fragment, if a single directive
is. -/
theorem silence_marks {τ : Type} [HasFragments τ] [Silenceable τ]
    (attached : ∀ directive, InsertsBeforeLast (Silenceable.attach directive : τ → τ)
      [(AnnotationUse.ofDirective directive).line])
    (ledger : Ledger) {item : τ} {before : List Fragment} {last : Fragment}
    (shape : fragments item = before ++ [last]) :
    MarksBeforeLast .java ledger.silence (suppressLine ledger) item := by
  have inserts : InsertsBeforeLast (ledger.silence : τ → τ)
      ((suppressMarks ledger).map AnnotationUse.line) := by
    intro item before last shape
    rw [Ledger.silence, suppressMarks]
    cases ledger.directive? with
    | none => exact insertsBeforeLast_id item before last shape
    | some directive => exact attached directive item before last shape
  exact inserts.marks .java (render_suppressMarks ledger) shape

theorem Method.fragments_eq (method : Method) :
    fragments method = method.preamble ++ [method.definition] := rfl

theorem Method.attach_inserts (directive : Directive) :
    InsertsBeforeLast (Silenceable.attach directive : Method → Method)
      [(AnnotationUse.ofDirective directive).line] := by
  apply InsertsBeforeLast.of_preamble preamble definition fragments_eq
  · intro method
    show _ ++ (method.annotations ++ [_]).map AnnotationUse.line = _
    rw [List.map_append, ← List.append_assoc]
    rfl
  · intro method
    rfl

theorem Method.silence_eq (ledger : Ledger) (method : Method) :
    ledger.silence method =
      { method with annotations := method.annotations ++ suppressMarks ledger } := by
  apply silence_eq_grown ledger method
    (fun more => { method with annotations := method.annotations ++ more })
  · rw [List.append_nil]
  · intro directive
    rfl

theorem ClassDecl.fragments_eq (decl : ClassDecl) :
    fragments decl = decl.preamble ++ [decl.definition] := rfl

theorem ClassDecl.attach_inserts (directive : Directive) :
    InsertsBeforeLast (Silenceable.attach directive : ClassDecl → ClassDecl)
      [(AnnotationUse.ofDirective directive).line] := by
  apply InsertsBeforeLast.of_preamble preamble definition fragments_eq
  · intro decl
    show _ ++ (decl.annotations ++ [_]).map AnnotationUse.line = _
    rw [List.map_append, ← List.append_assoc]
    rfl
  · intro decl
    rfl

theorem ClassDecl.silence_eq (ledger : Ledger) (decl : ClassDecl) :
    ledger.silence decl =
      { decl with annotations := decl.annotations ++ suppressMarks ledger } := by
  apply silence_eq_grown ledger decl
    (fun more => { decl with annotations := decl.annotations ++ more })
  · rw [List.append_nil]
  · intro directive
    rfl

end Package

/-- Silencing a function, a block or a structure through a table puts the one line that allows the
lints of the ledger directly before the item itself, or nothing if no lint is left. It adds this one
attribute to the item and changes nothing else, and without a table it is done through the standard
one. For a method and for a class the line is the annotation with the text of the directive, and the
text stays as it was exactly if the ledger is empty. Whatever is silenced several times has the
line as often. -/
theorem silencing_marks_before_last (ledger : Ledger) :
    (∀ (table : Table) (function : Crate.Function),
      MarksBeforeLast .rust (silenceThrough table ledger) (allowLine (table.lintsAllowed ledger))
        function ∧
      silenceThrough table ledger function =
        { function with
          attributes := function.attributes ++ table.allowAttributes ledger } ∧
      ledger.silence function = silenceThrough .standard ledger function) ∧
    (∀ (table : Table) (block : Crate.ImplBlock),
      MarksBeforeLast .rust (silenceThrough table ledger) (allowLine (table.lintsAllowed ledger))
        block ∧
      silenceThrough table ledger block =
        { block with attributes := block.attributes ++ table.allowAttributes ledger } ∧
      ledger.silence block = silenceThrough .standard ledger block) ∧
    (∀ (table : Table) (decl : Crate.StructDecl),
      MarksBeforeLast .rust (silenceThrough table ledger) (allowLine (table.lintsAllowed ledger))
        decl ∧
      silenceThrough table ledger decl =
        { decl with attributes := decl.attributes ++ table.allowAttributes ledger } ∧
      ledger.silence decl = silenceThrough .standard ledger decl) ∧
    (∀ lints, allowLine lints = "" ↔ lints = []) ∧
    (∀ method : Package.Method,
      MarksBeforeLast .java ledger.silence (Package.suppressLine ledger) method ∧
      ledger.silence method =
        { method with
          annotations := method.annotations ++ Package.suppressMarks ledger }) ∧
    (∀ decl : Package.ClassDecl,
      MarksBeforeLast .java ledger.silence (Package.suppressLine ledger) decl ∧
      ledger.silence decl =
        { decl with annotations := decl.annotations ++ Package.suppressMarks ledger }) ∧
    (Package.suppressLine ledger = "" ↔ ledger.isEmpty = true) := by
  refine ⟨?_, ?_, ?_, allowLine_eq_empty_iff, ?_, ?_, Package.suppressLine_eq_empty_iff ledger⟩
  · intro table function
    exact ⟨silenceThrough_marks Crate.Function.addAttribute_inserts table ledger
      function.fragments_eq,
      function.silenceThrough_eq table ledger,
      silence_eq_silenceThrough .standard ledger fun _ => rfl⟩
  · intro table block
    exact ⟨silenceThrough_marks Crate.ImplBlock.addAttribute_inserts table ledger
      block.fragments_eq,
      block.silenceThrough_eq table ledger,
      silence_eq_silenceThrough .standard ledger fun _ => rfl⟩
  · intro table decl
    exact ⟨silenceThrough_marks Crate.StructDecl.addAttribute_inserts table ledger
      decl.fragments_eq,
      decl.silenceThrough_eq table ledger,
      silence_eq_silenceThrough .standard ledger fun _ => rfl⟩
  · intro method
    exact ⟨Package.silence_marks Package.Method.attach_inserts ledger method.fragments_eq,
      method.silence_eq ledger⟩
  · intro decl
    exact ⟨Package.silence_marks Package.ClassDecl.attach_inserts ledger decl.fragments_eq,
      decl.silence_eq ledger⟩

end QuietSource
