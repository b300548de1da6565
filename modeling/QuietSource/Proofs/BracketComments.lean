/-
# Documentation between comment brackets

Documentation of Java items is written on one line, between `/**` and `*/`, as it stands. Nothing in
it is escaped or cut, so whether the line is one comment depends on the text: a line feed in it ends
the line, and a closing mark in it ends the comment, and what stands behind is read as code. This
module says that nothing else can go wrong, at whatever level the item stands and also inside a
class.
-/

import QuietSource.Proofs.DocComments

namespace QuietSource

namespace Text

/-- The mark that closes a comment occurs in a text. -/
def ClosesComment (text : String) : Prop :=
  ∃ before after, text = before ++ "*/" ++ after

/-- A text is one comment between brackets: behind the opening bracket, the closing mark stands at
the end of the text and nowhere before. -/
structure IsBracketComment (text : String) : Prop where
  enclosed : ∃ inside, text = "/**" ++ inside ++ "*/"
  closesAtEnd : ∀ inside rest, text = "/**" ++ inside ++ "*/" ++ rest → rest = ""

/-- A text is a single line, which consists of a margin and one comment between brackets. -/
def IsCommentLine (margin text : String) : Prop :=
  ∃ comment, text = margin ++ comment ++ "\n" ∧ IsUnbroken (margin ++ comment) ∧
    IsBracketComment comment

/-- A closing mark in a text that ends in one, with a space before it, is that last one or occurs
before the space. -/
theorem closing_mark_last {chars inside rest : List Char}
    (marked : chars ++ [' ', '*', '/'] = inside ++ '*' :: '/' :: rest) :
    rest = [] ∨ ∃ after, chars = inside ++ '*' :: '/' :: after := by
  rcases List.append_eq_append_iff.mp marked with ⟨more, -, ending⟩ | ⟨more, front, ending⟩
  · -- The mark begins behind the text, where there is room for one mark only.
    left
    cases more with
    | nil => simp at ending
    | cons c more =>
      have room := congrArg List.length ending
      simp only [List.length_cons, List.length_append, List.length_nil] at room
      exact List.eq_nil_of_length_eq_zero (by omega)
  · right
    match more, ending with
    | [], ending => simp at ending
    | [c], ending => simp at ending
    | c :: d :: more, ending =>
      simp only [List.cons_append, List.cons.injEq] at ending
      obtain ⟨rfl, rfl, -⟩ := ending
      exact ⟨more, front⟩

/-- A text between brackets, a space on each side, is one comment unless it closes it. -/
theorem isBracketComment_iff {text : String} :
    IsBracketComment ("/** " ++ text ++ " */") ↔ ¬ ClosesComment text := by
  constructor
  · rintro comment ⟨before, after, rfl⟩
    have early : "/** " ++ (before ++ "*/" ++ after) ++ " */" =
        "/**" ++ (" " ++ before) ++ "*/" ++ (after ++ " */") := by
      rw [← String.toList_inj]
      simp
    have nothing := congrArg String.toList (comment.closesAtEnd _ _ early)
    simp at nothing
  · intro unclosed
    refine ⟨⟨" " ++ text ++ " ", ?_⟩, ?_⟩
    · rw [← String.toList_inj]
      simp
    · intro inside rest marked
      have chars : (' ' :: text.toList) ++ [' ', '*', '/'] =
          inside.toList ++ '*' :: '/' :: rest.toList := by
        have same := congrArg String.toList marked
        simpa using same
      rcases closing_mark_last chars with atEnd | ⟨after, found⟩
      · rwa [String.toList_eq_nil_iff] at atEnd
      · refine absurd ?_ unclosed
        rcases spelled : inside.toList with _ | ⟨c, before⟩
        · simp [spelled] at found
        · rw [spelled, List.cons_append, List.cons.injEq] at found
          refine ⟨String.ofList before, String.ofList after, ?_⟩
          rw [← String.toList_inj, found.2]
          simp

theorem isCommentLine_iff {margin text : String} (unbroken : IsUnbroken margin) :
    IsCommentLine margin (margin ++ ("/** " ++ text ++ " */") ++ "\n") ↔
      IsUnbroken text ∧ ¬ ClosesComment text := by
  rw [← isBracketComment_iff]
  constructor
  · rintro ⟨comment, written, whole, isComment⟩
    obtain rfl := (String.append_right_inj _).mp ((String.append_left_inj _).mp written)
    simp only [isUnbroken_append] at whole
    exact ⟨whole.2.1.2, isComment⟩
  · rintro ⟨textUnbroken, isComment⟩
    refine ⟨_, rfl, ?_, isComment⟩
    simp +decide [unbroken, textUnbroken]

end Text

namespace Code

open Text

/-- What documentation adds to a text at a level, if there is any. -/
def docText (unit : Indent) (level : Nat) : Option String → String
  | none => ""
  | some text => Writer.indentation unit level ++ ("/** " ++ text ++ " */") ++ "\n"

theorem laidOut_docs (unit : Indent) (level : Nat) (doc : Option String) :
    laidOut unit level (doc.toList.map .javadoc) = docText unit level doc := by
  cases doc with
  | none => rfl
  | some text => exact LogicalLine.allWritten_singleton unit level (.indented 0 _)

end Code

namespace Package

open Code Text

/-- The method without its documentation. -/
def Method.undocumented (method : Method) : Method :=
  { method with doc := none }

/-- The texts of the members of a class at a level: its fields together, and each method for itself,
with its documentation first. -/
def ClassDecl.membersAt (unit : Indent) (level : Nat) (decl : ClassDecl) : List String :=
  (if decl.fields.isEmpty then []
    else [laidOut unit level (decl.fields.map fun field => .line field.text)]) ++
    decl.methods.map fun method =>
      docText unit level method.doc ++ laidOut unit level (fragments method.undocumented)

theorem Method.laidOut_eq (unit : Indent) (level : Nat) (method : Method) :
    laidOut unit level (fragments method) =
      docText unit level method.doc ++ laidOut unit level (fragments method.undocumented) := by
  show laidOut unit level ((_ ++ _) ++ _) = _ ++ laidOut unit level (([] ++ _) ++ _)
  rw [laidOut_append, laidOut_append, laidOut_docs, List.nil_append, laidOut_append,
    String.append_assoc]
  rfl

theorem ClassDecl.map_laidOut_memberGroups (unit : Indent) (level : Nat) (decl : ClassDecl) :
    decl.memberGroups.map (laidOut unit level) = decl.membersAt unit level := by
  rw [memberGroups, List.map_append, apply_ite (List.map (laidOut unit level)), List.map_map,
    membersAt]
  congr 1
  exact List.map_congr_left fun method _ => method.laidOut_eq unit level

theorem ClassDecl.laidOut_eq (unit : Indent) (level : Nat) (decl : ClassDecl) :
    laidOut unit level (fragments decl) =
      docText unit level decl.doc ++
        laidOut unit level (decl.annotations.map AnnotationUse.line) ++
        (Writer.indentation unit level ++ decl.header ++ "\n" ++
          String.intercalate "\n" (decl.membersAt unit (level + 1)) ++
          (Writer.indentation unit level ++ "\x7d\n")) := by
  have closed : Writer.indentation unit level ++ "\x7d" ++ "\n" =
      Writer.indentation unit level ++ "\x7d\n" := String.append_assoc
  show laidOut unit level ((_ ++ _) ++ [decl.definition]) = _
  rw [laidOut_append, laidOut_append, laidOut_docs, definition, members_eq, laidOut_block,
    laidOut_separated, map_laidOut_memberGroups, closed]

/-- At every level, documentation of a method or a class is one comment on one line exactly if it
has neither a line feed nor the mark that closes a comment. It is written before all else that the
item has, which does not depend on it, and a class writes its methods one level deeper, each with
its documentation first. -/
theorem documentation_is_one_comment_iff (unit : Indent) (level : Nat) :
    (∀ text : String,
      IsCommentLine (Writer.indentation unit level) (docText unit level (some text)) ↔
        IsUnbroken text ∧ ¬ ClosesComment text) ∧
    (∀ method : Method, laidOut unit level (fragments method) =
      docText unit level method.doc ++ laidOut unit level (fragments method.undocumented)) ∧
    (∀ decl : ClassDecl, laidOut unit level (fragments decl) =
      docText unit level decl.doc ++
        laidOut unit level (decl.annotations.map AnnotationUse.line) ++
        (Writer.indentation unit level ++ decl.header ++ "\n" ++
          String.intercalate "\n" (decl.membersAt unit (level + 1)) ++
          (Writer.indentation unit level ++ "\x7d\n"))) :=
  ⟨fun _ => isCommentLine_iff (isUnbroken_indentation unit level), Method.laidOut_eq unit level,
    ClassDecl.laidOut_eq unit level⟩

/-- Documentation with a line feed takes two lines, and documentation with a closing mark leaves its
comment. -/
theorem brokenDoc_leaves_comment :
    (Method.text { name := "apply", doc := some "First.\nSecond." } =
        docText .java 0 (some "First.\nSecond.") ++ "public void apply() \x7b\n\x7d\n" ∧
      docText .java 0 (some "First.\nSecond.") = "/** First.\nSecond. */\n" ∧
      ¬ IsCommentLine (Writer.indentation .java 0) (docText .java 0 (some "First.\nSecond."))) ∧
    (ClassDecl.text { name := "Holder", doc := some "Ends */ here." } =
        docText .java 0 (some "Ends */ here.") ++ "public class Holder \x7b\n\x7d\n" ∧
      docText .java 0 (some "Ends */ here.") = "/** Ends */ here. */\n" ∧
      ¬ IsCommentLine (Writer.indentation .java 0) (docText .java 0 (some "Ends */ here."))) := by
  have margin := isUnbroken_indentation .java 0
  refine ⟨⟨by decide, by decide, ?_⟩, by decide, by decide, ?_⟩
  · intro line
    exact absurd ((isCommentLine_iff margin).mp line).1 (by decide)
  · intro line
    exact ((isCommentLine_iff margin).mp line).2 ⟨"Ends ", " here.", rfl⟩

end Package

end QuietSource
