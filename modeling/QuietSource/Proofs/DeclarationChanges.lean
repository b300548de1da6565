/-
# Changes to declarations

A method and a class are read off the changes to them part by part, as the items of a crate are.
Hence whatever is built by changes, the changes that decide the single parts decide its text, and
changes about different parts can trade places. Silencing is a change about the attributes or the
annotations like any other. It makes no difference whether it is done before or after the body is
written.
-/

import QuietSource.Proofs.ItemChanges

namespace QuietSource

open Warning Lint

namespace Package

namespace Method

/-- The part of a method that a change is about. -/
def Edit.part : Edit → Part
  | .doc _ => .doc
  | .annotate _ | .silence _ => .attributes
  | .modifiers _ => .modifiers
  | .returns _ => .returns
  | .parameter _ => .parameters
  | .bodyLine _ | .body _ => .body

/-- The documentation that a change sets. -/
@[simp]
def Edit.doc? : Edit → Option String
  | .doc text => some text
  | _ => none

/-- The annotations that a change adds. -/
@[simp]
def Edit.annotations : Edit → List AnnotationUse
  | .annotate mark => [mark]
  | .silence ledger => suppressMarks ledger
  | _ => []

/-- The modifiers that a change sets. -/
@[simp]
def Edit.modifiers? : Edit → Option (List String)
  | .modifiers words => some words
  | _ => none

/-- The type of the result that a change sets. -/
@[simp]
def Edit.returns? : Edit → Option String
  | .returns type => some type
  | _ => none

/-- The parameters that a change adds. -/
@[simp]
def Edit.parameters : Edit → List Parameter
  | .parameter declared => [declared]
  | _ => []

/-- The lines that a change adds to the body. -/
@[simp]
def Edit.bodyLines : Edit → List String
  | .bodyLine line => [line]
  | .body content => Text.lines content
  | _ => []

/-- What changes lead to, read off the changes. -/
def changedBy (method : Method) (edits : List Edit) : Method where
  name := method.name
  doc := (lastSet? Edit.doc? edits).or method.doc
  annotations := method.annotations ++ edits.flatMap Edit.annotations
  modifiers := (lastSet? Edit.modifiers? edits).getD method.modifiers
  returns := (lastSet? Edit.returns? edits).getD method.returns
  parameters := method.parameters ++ edits.flatMap Edit.parameters
  body := method.body ++ edits.flatMap Edit.bodyLines

theorem edit_eq (method : Method) (change : Edit) :
    method.edit change = method.changedBy [change] := by
  cases change with
  | silence ledger =>
    rw [edit, silence_eq]
    simp [changedBy]
  | _ => simp [edit, changedBy]

theorem foldl_edit (method : Method) (edits : List Edit) :
    edits.foldl edit method = method.changedBy edits := by
  induction edits generalizing method with
  | nil => simp [changedBy]
  | cons change rest ih =>
    rw [List.foldl_cons, ih, edit_eq]
    simp [changedBy, Option.or_assoc, Option.getD_or]

theorem changedBy_congr (method : Method) {edits edits' : List Edit}
    (agree : AgreeOnParts Edit.part edits edits') :
    method.changedBy edits = method.changedBy edits' := by
  have doc : lastSet? Edit.doc? edits = lastSet? Edit.doc? edits' :=
    agree.lastSet?_eq .doc rfl fun change => by cases change <;> rfl
  have modifiers : lastSet? Edit.modifiers? edits = lastSet? Edit.modifiers? edits' :=
    agree.lastSet?_eq .modifiers rfl fun change => by cases change <;> rfl
  have returns : lastSet? Edit.returns? edits = lastSet? Edit.returns? edits' :=
    agree.lastSet?_eq .returns rfl fun change => by cases change <;> rfl
  have annotations : edits.flatMap Edit.annotations = edits'.flatMap Edit.annotations :=
    agree.flatMap_eq .attributes rfl fun change => by cases change <;> simp [Edit.part]
  have parameters : edits.flatMap Edit.parameters = edits'.flatMap Edit.parameters :=
    agree.flatMap_eq .parameters rfl fun change => by cases change <;> simp [Edit.part]
  have body : edits.flatMap Edit.bodyLines = edits'.flatMap Edit.bodyLines :=
    agree.flatMap_eq .body rfl fun change => by cases change <;> simp [Edit.part]
  rw [changedBy, changedBy, doc, modifiers, returns, annotations, parameters, body]

theorem ofEdits_eq (name : String) (edits : List Edit) :
    ofEdits name edits = changedBy { name } edits :=
  foldl_edit { name } edits

theorem parts_decide (name : String) :
    PartsDecide Edit.part fun edits => (ofEdits name edits).text :=
  .of_determined fun agree => by rw [ofEdits_eq, changedBy_congr _ agree, ← ofEdits_eq]

end Method

namespace ClassDecl

/-- The part of a class that a change is about. -/
def Edit.part : Edit → Part
  | .doc _ => .doc
  | .annotate _ | .silence _ => .attributes
  | .field _ => .fields
  | .method _ => .functions

/-- The documentation that a change sets. -/
@[simp]
def Edit.doc? : Edit → Option String
  | .doc text => some text
  | _ => none

/-- The annotations that a change adds. -/
@[simp]
def Edit.annotations : Edit → List AnnotationUse
  | .annotate mark => [mark]
  | .silence ledger => suppressMarks ledger
  | _ => []

/-- The fields that a change adds. -/
@[simp]
def Edit.fields : Edit → List ClassField
  | .field declared => [declared]
  | _ => []

/-- The methods that a change adds. -/
@[simp]
def Edit.methods : Edit → List Method
  | .method declared => [declared]
  | _ => []

/-- What changes lead to, read off the changes. -/
def changedBy (decl : ClassDecl) (edits : List Edit) : ClassDecl where
  name := decl.name
  doc := (lastSet? Edit.doc? edits).or decl.doc
  annotations := decl.annotations ++ edits.flatMap Edit.annotations
  fields := decl.fields ++ edits.flatMap Edit.fields
  methods := decl.methods ++ edits.flatMap Edit.methods

theorem edit_eq (decl : ClassDecl) (change : Edit) :
    decl.edit change = decl.changedBy [change] := by
  cases change with
  | silence ledger =>
    rw [edit, silence_eq]
    simp [changedBy]
  | _ => simp [edit, changedBy]

theorem foldl_edit (decl : ClassDecl) (edits : List Edit) :
    edits.foldl edit decl = decl.changedBy edits := by
  induction edits generalizing decl with
  | nil => simp [changedBy]
  | cons change rest ih =>
    rw [List.foldl_cons, ih, edit_eq]
    simp [changedBy, Option.or_assoc]

theorem changedBy_congr (decl : ClassDecl) {edits edits' : List Edit}
    (agree : AgreeOnParts Edit.part edits edits') :
    decl.changedBy edits = decl.changedBy edits' := by
  have doc : lastSet? Edit.doc? edits = lastSet? Edit.doc? edits' :=
    agree.lastSet?_eq .doc rfl fun change => by cases change <;> rfl
  have annotations : edits.flatMap Edit.annotations = edits'.flatMap Edit.annotations :=
    agree.flatMap_eq .attributes rfl fun change => by cases change <;> simp [Edit.part]
  have fields : edits.flatMap Edit.fields = edits'.flatMap Edit.fields :=
    agree.flatMap_eq .fields rfl fun change => by cases change <;> simp [Edit.part]
  have methods : edits.flatMap Edit.methods = edits'.flatMap Edit.methods :=
    agree.flatMap_eq .functions rfl fun change => by cases change <;> simp [Edit.part]
  rw [changedBy, changedBy, doc, annotations, fields, methods]

theorem ofEdits_eq (name : String) (edits : List Edit) :
    ofEdits name edits = changedBy { name } edits :=
  foldl_edit { name } edits

theorem parts_decide (name : String) :
    PartsDecide Edit.part fun edits => (ofEdits name edits).text :=
  .of_determined fun agree => by rw [ofEdits_eq, changedBy_congr _ agree, ← ofEdits_eq]

end ClassDecl

end Package

open Crate Package

/-- A function, a block, a structure, a method and a class are what the changes to them say, read
off part by part: what was set last of what is set, and in order all that was added of what is added
to. Hence the text is decided by the last change of each kind that replaces, by whether the item was
made private, and by the changes in order that add attributes or annotations, silencing included,
that derive, and that add parameters, fields, functions and lines of the body. Two lists of changes
in which these are the same build the same text, and a change can trade places with changes about
other parts. So the text is the same whether warnings are silenced before or after the body is
written. -/
theorem text_decided_by_parts :
    (∀ name,
      (∀ edits, Function.ofEdits name edits = Function.changedBy { name } edits) ∧
      PartsDecide Function.Edit.part fun edits => (Function.ofEdits name edits).text) ∧
    (∀ typeName,
      (∀ edits, ImplBlock.ofEdits typeName edits = ImplBlock.changedBy { typeName } edits) ∧
      PartsDecide ImplBlock.Edit.part fun edits => (ImplBlock.ofEdits typeName edits).text) ∧
    (∀ name,
      (∀ edits, StructDecl.ofEdits name edits = StructDecl.changedBy { name } edits) ∧
      PartsDecide StructDecl.Edit.part fun edits => (StructDecl.ofEdits name edits).text) ∧
    (∀ name,
      (∀ edits, Method.ofEdits name edits = Method.changedBy { name } edits) ∧
      PartsDecide Method.Edit.part fun edits => (Method.ofEdits name edits).text) ∧
    (∀ name,
      (∀ edits, ClassDecl.ofEdits name edits = ClassDecl.changedBy { name } edits) ∧
      PartsDecide ClassDecl.Edit.part fun edits => (ClassDecl.ofEdits name edits).text) ∧
    (∀ name ledger (earlier written later : List Function.Edit),
      (∀ change ∈ written, change.part = .body) →
      (Function.ofEdits name (earlier ++ .silence ledger :: written ++ later)).text =
        (Function.ofEdits name (earlier ++ written ++ .silence ledger :: later)).text) ∧
    (∀ name ledger (earlier written later : List Method.Edit),
      (∀ change ∈ written, change.part = .body) →
      (Method.ofEdits name (earlier ++ .silence ledger :: written ++ later)).text =
        (Method.ofEdits name (earlier ++ written ++ .silence ledger :: later)).text) := by
  refine ⟨fun name => ⟨Function.ofEdits_eq name, Function.parts_decide name⟩,
    fun typeName => ⟨ImplBlock.ofEdits_eq typeName, ImplBlock.parts_decide typeName⟩,
    fun name => ⟨StructDecl.ofEdits_eq name, StructDecl.parts_decide name⟩,
    fun name => ⟨Method.ofEdits_eq name, Method.parts_decide name⟩,
    fun name => ⟨ClassDecl.ofEdits_eq name, ClassDecl.parts_decide name⟩, ?_, ?_⟩
  · intro name ledger earlier written later bodyOnly
    apply (Function.parts_decide name).moved earlier (.silence ledger) written later
    intro change among about
    exact nomatch (bodyOnly change among).symm.trans about
  · intro name ledger earlier written later bodyOnly
    apply (Method.parts_decide name).moved earlier (.silence ledger) written later
    intro change among about
    exact nomatch (bodyOnly change among).symm.trans about

/-- A function built in two orders, where the one replaces documentation and the other makes it
private twice, and a method that is silenced before and after its body is written. -/
theorem text_of_tradedChanges :
    (Function.ofEdits "run" [.doc "Old.", .silence (Ledger.empty.observe .deprecated),
        .bodyLine "old();", .makePrivate, .attribute (.raw "inline"), .doc "New."]).text =
      (Function.ofEdits "run" [.makePrivate, .silence (Ledger.empty.observe .deprecated),
        .doc "New.", .attribute (.raw "inline"), .makePrivate, .bodyLine "old();"]).text ∧
    (Function.ofEdits "run" [.makePrivate, .silence (Ledger.empty.observe .deprecated),
        .doc "New.", .attribute (.raw "inline"), .makePrivate, .bodyLine "old();"]).text =
      "/// New.\n#[allow(deprecated)]\n#[inline]\nfn run() \x7b\n    old();\n\x7d\n" ∧
    (Method.ofEdits "run" [.returns "int", .silence (Ledger.empty.observe .deprecated),
        .body "old();\nolder();", .bodyLine "return 1;", .annotate .deprecated]).text =
      (Method.ofEdits "run" [.returns "int", .body "old();\nolder();", .bodyLine "return 1;",
        .silence (Ledger.empty.observe .deprecated), .annotate .deprecated]).text := by
  refine ⟨(text_decided_by_parts.1 "run").2.determined _ _ ?_, by decide, ?_⟩
  · intro part
    cases part <;> rfl
  · exact text_decided_by_parts.2.2.2.2.2.2 "run" _ [.returns "int"]
      [.body "old();\nolder();", .bodyLine "return 1;"] [.annotate .deprecated]
      (by simp [Method.Edit.part])

/-- Changes about one part do not trade places. -/
example : (Method.ofEdits "run" [.returns "int", .returns "long"]).text ≠
    (Method.ofEdits "run" [.returns "long", .returns "int"]).text := by decide

end QuietSource
