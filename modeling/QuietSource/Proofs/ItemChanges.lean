/-
# Changes to functions, blocks and structures

What a list of changes makes of an item of a crate is read off the changes part by part: what was
set last, and all that was added. One change reads no part but its own, so that reading on from what
the earlier changes left is reading all of them. Silencing adds to the attributes what the lint
table makes of the ledger, and neither looks at the item.
-/

import QuietSource.Proofs.DecisiveChanges
import QuietSource.Proofs.DirectivePlacement

namespace QuietSource.Crate

open Warning Lint

namespace Function

/-- The part of a function that a change is about. -/
def Edit.part : Edit → Part
  | .doc _ => .doc
  | .attribute _ | .silence _ | .silenceThrough _ _ => .attributes
  | .makePrivate => .visibility
  | .parameter _ => .parameters
  | .returns _ => .returns
  | .bodyLine _ | .body _ => .body

/-- The documentation that a change sets. -/
@[simp]
def Edit.doc? : Edit → Option String
  | .doc text => some text
  | _ => none

/-- The attributes that a change adds. -/
@[simp]
def Edit.attributes : Edit → List Attribute
  | .attribute attr => [attr]
  | .silence ledger => Table.standard.allowAttributes ledger
  | .silenceThrough table ledger => table.allowAttributes ledger
  | _ => []

/-- The visibility that a change sets. -/
@[simp]
def Edit.isPublic? : Edit → Option Bool
  | .makePrivate => some false
  | _ => none

/-- The parameters that a change adds. -/
@[simp]
def Edit.parameters : Edit → List Parameter
  | .parameter declared => [declared]
  | _ => []

/-- The type of the result that a change sets. -/
@[simp]
def Edit.returns? : Edit → Option String
  | .returns type => some type
  | _ => none

/-- The lines that a change adds to the body. -/
@[simp]
def Edit.bodyLines : Edit → List String
  | .bodyLine line => [line]
  | .body content => Text.lines content
  | _ => []

/-- What changes lead to, read off the changes. -/
def changedBy (function : Function) (edits : List Edit) : Function where
  name := function.name
  doc := (lastSet? Edit.doc? edits).or function.doc
  attributes := function.attributes ++ edits.flatMap Edit.attributes
  isPublic := (lastSet? Edit.isPublic? edits).getD function.isPublic
  parameters := function.parameters ++ edits.flatMap Edit.parameters
  returns := (lastSet? Edit.returns? edits).or function.returns
  body := function.body ++ edits.flatMap Edit.bodyLines

theorem edit_eq (function : Function) (change : Edit) :
    function.edit change = function.changedBy [change] := by
  cases change with
  | silence ledger =>
    rw [edit, silence_eq_silenceThrough .standard ledger fun _ => rfl, silenceThrough_eq]
    simp [changedBy]
  | silenceThrough table ledger =>
    rw [edit, silenceThrough_eq]
    simp [changedBy]
  | _ => simp [edit, changedBy, addAttribute]

theorem foldl_edit (function : Function) (edits : List Edit) :
    edits.foldl edit function = function.changedBy edits := by
  induction edits generalizing function with
  | nil => simp [changedBy]
  | cons change rest ih =>
    rw [List.foldl_cons, ih, edit_eq]
    simp [changedBy, Option.or_assoc, Option.getD_or]

theorem changedBy_congr (function : Function) {edits edits' : List Edit}
    (agree : AgreeOnParts Edit.part edits edits') :
    function.changedBy edits = function.changedBy edits' := by
  have doc : lastSet? Edit.doc? edits = lastSet? Edit.doc? edits' :=
    agree.lastSet?_eq .doc rfl fun change => by cases change <;> rfl
  have visibility : lastSet? Edit.isPublic? edits = lastSet? Edit.isPublic? edits' :=
    agree.lastSet?_eq .visibility rfl fun change => by cases change <;> rfl
  have returns : lastSet? Edit.returns? edits = lastSet? Edit.returns? edits' :=
    agree.lastSet?_eq .returns rfl fun change => by cases change <;> rfl
  have attributes : edits.flatMap Edit.attributes = edits'.flatMap Edit.attributes :=
    agree.flatMap_eq .attributes rfl fun change => by cases change <;> simp [Edit.part]
  have parameters : edits.flatMap Edit.parameters = edits'.flatMap Edit.parameters :=
    agree.flatMap_eq .parameters rfl fun change => by cases change <;> simp [Edit.part]
  have body : edits.flatMap Edit.bodyLines = edits'.flatMap Edit.bodyLines :=
    agree.flatMap_eq .body rfl fun change => by cases change <;> simp [Edit.part]
  rw [changedBy, changedBy, doc, visibility, returns, attributes, parameters, body]

theorem ofEdits_eq (name : String) (edits : List Edit) :
    ofEdits name edits = changedBy { name } edits :=
  foldl_edit { name } edits

theorem parts_decide (name : String) :
    PartsDecide Edit.part fun edits => (ofEdits name edits).text :=
  .of_determined fun agree => by rw [ofEdits_eq, changedBy_congr _ agree, ← ofEdits_eq]

end Function

namespace ImplBlock

/-- The part of a block that a change is about. -/
def Edit.part : Edit → Part
  | .forTrait _ => .traitName
  | .attribute _ | .silence _ | .silenceThrough _ _ => .attributes
  | .function _ => .functions

/-- The trait that a change sets. -/
@[simp]
def Edit.traitName? : Edit → Option String
  | .forTrait traitName => some traitName
  | _ => none

/-- The attributes that a change adds. -/
@[simp]
def Edit.attributes : Edit → List Attribute
  | .attribute attr => [attr]
  | .silence ledger => Table.standard.allowAttributes ledger
  | .silenceThrough table ledger => table.allowAttributes ledger
  | _ => []

/-- The functions that a change adds. -/
@[simp]
def Edit.functions : Edit → List Function
  | .function declared => [declared]
  | _ => []

/-- What changes lead to, read off the changes. -/
def changedBy (block : ImplBlock) (edits : List Edit) : ImplBlock where
  typeName := block.typeName
  traitName := (lastSet? Edit.traitName? edits).or block.traitName
  attributes := block.attributes ++ edits.flatMap Edit.attributes
  functions := block.functions ++ edits.flatMap Edit.functions

theorem edit_eq (block : ImplBlock) (change : Edit) :
    block.edit change = block.changedBy [change] := by
  cases change with
  | silence ledger =>
    rw [edit, silence_eq_silenceThrough .standard ledger fun _ => rfl, silenceThrough_eq]
    simp [changedBy]
  | silenceThrough table ledger =>
    rw [edit, silenceThrough_eq]
    simp [changedBy]
  | _ => simp [edit, changedBy, addAttribute]

theorem foldl_edit (block : ImplBlock) (edits : List Edit) :
    edits.foldl edit block = block.changedBy edits := by
  induction edits generalizing block with
  | nil => simp [changedBy]
  | cons change rest ih =>
    rw [List.foldl_cons, ih, edit_eq]
    simp [changedBy, Option.or_assoc]

theorem changedBy_congr (block : ImplBlock) {edits edits' : List Edit}
    (agree : AgreeOnParts Edit.part edits edits') :
    block.changedBy edits = block.changedBy edits' := by
  have traitName : lastSet? Edit.traitName? edits = lastSet? Edit.traitName? edits' :=
    agree.lastSet?_eq .traitName rfl fun change => by cases change <;> rfl
  have attributes : edits.flatMap Edit.attributes = edits'.flatMap Edit.attributes :=
    agree.flatMap_eq .attributes rfl fun change => by cases change <;> simp [Edit.part]
  have functions : edits.flatMap Edit.functions = edits'.flatMap Edit.functions :=
    agree.flatMap_eq .functions rfl fun change => by cases change <;> simp [Edit.part]
  rw [changedBy, changedBy, traitName, attributes, functions]

theorem ofEdits_eq (typeName : String) (edits : List Edit) :
    ofEdits typeName edits = changedBy { typeName } edits :=
  foldl_edit { typeName } edits

theorem parts_decide (typeName : String) :
    PartsDecide Edit.part fun edits => (ofEdits typeName edits).text :=
  .of_determined fun agree => by rw [ofEdits_eq, changedBy_congr _ agree, ← ofEdits_eq]

end ImplBlock

namespace StructDecl

/-- The part of a structure that a change is about. -/
def Edit.part : Edit → Part
  | .doc _ => .doc
  | .derive _ => .derives
  | .attribute _ | .silence _ | .silenceThrough _ _ => .attributes
  | .field _ => .fields
  | .makePrivate => .visibility

/-- The documentation that a change sets. -/
@[simp]
def Edit.doc? : Edit → Option String
  | .doc text => some text
  | _ => none

/-- The traits that a change derives. -/
@[simp]
def Edit.derives : Edit → List String
  | .derive traitName => [traitName]
  | _ => []

/-- The attributes that a change adds. -/
@[simp]
def Edit.attributes : Edit → List Attribute
  | .attribute attr => [attr]
  | .silence ledger => Table.standard.allowAttributes ledger
  | .silenceThrough table ledger => table.allowAttributes ledger
  | _ => []

/-- The fields that a change adds. -/
@[simp]
def Edit.fields : Edit → List StructField
  | .field declared => [declared]
  | _ => []

/-- The visibility that a change sets. -/
@[simp]
def Edit.isPublic? : Edit → Option Bool
  | .makePrivate => some false
  | _ => none

/-- What changes lead to, read off the changes. -/
def changedBy (decl : StructDecl) (edits : List Edit) : StructDecl where
  name := decl.name
  doc := (lastSet? Edit.doc? edits).or decl.doc
  derives := decl.derives ++ edits.flatMap Edit.derives
  attributes := decl.attributes ++ edits.flatMap Edit.attributes
  fields := decl.fields ++ edits.flatMap Edit.fields
  isPublic := (lastSet? Edit.isPublic? edits).getD decl.isPublic

theorem edit_eq (decl : StructDecl) (change : Edit) :
    decl.edit change = decl.changedBy [change] := by
  cases change with
  | silence ledger =>
    rw [edit, silence_eq_silenceThrough .standard ledger fun _ => rfl, silenceThrough_eq]
    simp [changedBy]
  | silenceThrough table ledger =>
    rw [edit, silenceThrough_eq]
    simp [changedBy]
  | _ => simp [edit, changedBy, addAttribute]

theorem foldl_edit (decl : StructDecl) (edits : List Edit) :
    edits.foldl edit decl = decl.changedBy edits := by
  induction edits generalizing decl with
  | nil => simp [changedBy]
  | cons change rest ih =>
    rw [List.foldl_cons, ih, edit_eq]
    simp [changedBy, Option.or_assoc, Option.getD_or]

theorem changedBy_congr (decl : StructDecl) {edits edits' : List Edit}
    (agree : AgreeOnParts Edit.part edits edits') :
    decl.changedBy edits = decl.changedBy edits' := by
  have doc : lastSet? Edit.doc? edits = lastSet? Edit.doc? edits' :=
    agree.lastSet?_eq .doc rfl fun change => by cases change <;> rfl
  have visibility : lastSet? Edit.isPublic? edits = lastSet? Edit.isPublic? edits' :=
    agree.lastSet?_eq .visibility rfl fun change => by cases change <;> rfl
  have derives : edits.flatMap Edit.derives = edits'.flatMap Edit.derives :=
    agree.flatMap_eq .derives rfl fun change => by cases change <;> simp [Edit.part]
  have attributes : edits.flatMap Edit.attributes = edits'.flatMap Edit.attributes :=
    agree.flatMap_eq .attributes rfl fun change => by cases change <;> simp [Edit.part]
  have fields : edits.flatMap Edit.fields = edits'.flatMap Edit.fields :=
    agree.flatMap_eq .fields rfl fun change => by cases change <;> simp [Edit.part]
  rw [changedBy, changedBy, doc, visibility, derives, attributes, fields]

theorem ofEdits_eq (name : String) (edits : List Edit) :
    ofEdits name edits = changedBy { name } edits :=
  foldl_edit { name } edits

theorem parts_decide (name : String) :
    PartsDecide Edit.part fun edits => (ofEdits name edits).text :=
  .of_determined fun agree => by rw [ofEdits_eq, changedBy_congr _ agree, ← ofEdits_eq]

end StructDecl

end QuietSource.Crate
