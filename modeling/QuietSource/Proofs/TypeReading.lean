/-
# Types can be read back

The text of a type nests: arguments stand between angle brackets with a comma and a space between
each two, and they are written as types themselves. A reader goes through such a text once, from
left to right, and keeps the types whose closing bracket it has not met yet on a stack. At every
moment what it keeps is all that it has read, so that it never takes a text for a type that is
written otherwise; and it finds every type whose names are free of brackets and commas. Hence among
these types no two have the same text, however deep they go and also where names are empty or have
spaces in them.
-/

import QuietSource.Crate.Catalogue
import QuietSource.Proofs.TypeText

namespace QuietSource.TypeTree

/-- A name that cannot be taken for the brackets or the commas around it. -/
def IsPlainName (name : String) : Prop :=
  ∀ c ∈ name.toList, c ≠ '<' ∧ c ≠ '>' ∧ c ≠ ','

instance (name : String) : Decidable (IsPlainName name) :=
  List.decidableBAll _ _

/-- All names in a type, at whatever depth, are plain. -/
def HasPlainNames {α : Type} (name : α → String) (tree : TypeTree α) : Prop :=
  ∀ label ∈ tree.labels, IsPlainName (name label)

instance {α : Type} (name : α → String) (tree : TypeTree α) : Decidable (HasPlainNames name tree) :=
  decidable_of_iff (∀ label ∈ tree.preorder.map TypeTree.label, IsPlainName (name label))
    (by rw [HasPlainNames, labels_eq_map_preorder])

theorem hasPlainNames_node {α : Type} {name : α → String} {label : α} {args : List (TypeTree α)} :
    HasPlainNames name (.node label args) ↔
      IsPlainName (name label) ∧ ∀ arg ∈ args, arg.HasPlainNames name := by
  simp only [HasPlainNames, labels, walk_node, List.map_cons, List.forall_mem_cons,
    List.map_flatMap, List.forall_mem_flatMap]
  rfl

theorem isPlainName_empty : IsPlainName "" := by decide

theorem isPlainName_push {name : String} {c : Char} :
    IsPlainName (name.push c) ↔ IsPlainName name ∧ c ≠ '<' ∧ c ≠ '>' ∧ c ≠ ',' := by
  rw [IsPlainName, String.toList_push, List.forall_mem_append, List.forall_mem_singleton]
  rfl

theorem hasPlainNames_leaf {name : String} : (leaf name).HasPlainNames id ↔ IsPlainName name := by
  rw [leaf, hasPlainNames_node]
  exact and_iff_left (List.forall_mem_nil _)

theorem hasPlainNames_map {α β : Type} {name : β → String} {relabel : α → β} {tree : TypeTree α} :
    (tree.map relabel).HasPlainNames name ↔ tree.HasPlainNames (name ∘ relabel) := by
  simp [HasPlainNames, labels_eq_map_preorder, preorder_map]

/-- A type whose closing bracket has not come yet. -/
structure Opened where
  name : String
  /-- The arguments that have been read. -/
  args : List (TypeTree String)

/-- The type with one more argument. -/
def Opened.add (inner : Opened) (arg : TypeTree String) : Opened :=
  { inner with args := inner.args ++ [arg] }

/-- The type with all its arguments. -/
def Opened.closed (inner : Opened) : TypeTree String :=
  .node inner.name inner.args

/-- Where a reader is, within the innermost of the brackets that are open. -/
inductive Point
  /-- Behind the beginning of a name. -/
  | inName (name : String)
  /-- Behind a type with its closing bracket. -/
  | behindBracket (type : TypeTree String)
  /-- Behind a type and a comma. -/
  | behindComma (type : TypeTree String)

/-- What a reader has found so far. -/
structure Reading where
  /-- The types whose brackets are open, the innermost first. -/
  opened : List Opened
  point : Point

namespace Reading

/-- Nothing has been read. -/
def start : Reading := ⟨[], .inName ""⟩

/-- Go on by one character. -/
def step : Reading → Char → Option Reading
  | ⟨opened, .inName name⟩, '<' => some ⟨⟨name, []⟩ :: opened, .inName ""⟩
  | ⟨opened, .inName name⟩, ',' => some ⟨opened, .behindComma (leaf name)⟩
  | ⟨opened, .inName name⟩, '>' =>
    match opened with
    | inner :: outer => some ⟨outer, .behindBracket (inner.add (leaf name)).closed⟩
    | [] => none
  | ⟨opened, .inName name⟩, c => some ⟨opened, .inName (name.push c)⟩
  | ⟨opened, .behindBracket type⟩, ',' => some ⟨opened, .behindComma type⟩
  | ⟨inner :: outer, .behindBracket type⟩, '>' =>
    some ⟨outer, .behindBracket (inner.add type).closed⟩
  | ⟨inner :: outer, .behindComma type⟩, ' ' => some ⟨inner.add type :: outer, .inName ""⟩
  | _, _ => none

/-- Go on through characters. -/
def steps (reading : Reading) (chars : List Char) : Option Reading :=
  chars.foldlM step reading

theorem steps_cons (reading : Reading) (c : Char) (rest : List Char) :
    reading.steps (c :: rest) = (reading.step c).bind (steps · rest) :=
  List.foldlM_cons

theorem steps_singleton (reading : Reading) (c : Char) : reading.steps [c] = reading.step c := by
  rw [steps_cons]
  exact Option.bind_fun_some _

theorem steps_append (reading : Reading) (first second : List Char) :
    reading.steps (first ++ second) = (reading.steps first).bind (steps · second) :=
  List.foldlM_append

/-- The type that has been read if the text ends here. -/
def type? : Reading → Option (TypeTree String)
  | ⟨[], .inName name⟩ => some (leaf name)
  | ⟨[], .behindBracket type⟩ => some type
  | _ => none

end Reading

/-- Read a type, which is all of a text. -/
def ofText? (text : String) : Option (TypeTree String) :=
  (Reading.start.steps text.toList).bind Reading.type?

namespace Reading

/-- The point behind the text of a type. The name of a type without arguments may still go on. -/
def behind : TypeTree String → Point
  | .node name [] => .inName name
  | .node name (first :: rest) => .behindBracket (.node name (first :: rest))

theorem step_comma (opened : List Opened) (tree : TypeTree String) :
    step ⟨opened, behind tree⟩ ',' = some ⟨opened, .behindComma tree⟩ := by
  match tree with
  | .node name [] => rfl
  | .node name (first :: rest) => rfl

theorem step_close (inner : Opened) (outer : List Opened) (tree : TypeTree String) :
    step ⟨inner :: outer, behind tree⟩ '>' =
      some ⟨outer, .behindBracket (inner.add tree).closed⟩ := by
  match tree with
  | .node name [] => rfl
  | .node name (first :: rest) => rfl

theorem step_name (opened : List Opened) (before : String) {c : Char}
    (plain : c ≠ '<' ∧ c ≠ '>' ∧ c ≠ ',') :
    step ⟨opened, .inName before⟩ c = some ⟨opened, .inName (before.push c)⟩ := by
  obtain ⟨notOpen, notClose, notComma⟩ := plain
  rw [step]
  all_goals assumption

theorem steps_nameChars (opened : List Opened) (before : String) {chars : List Char}
    (plain : ∀ c ∈ chars, c ≠ '<' ∧ c ≠ '>' ∧ c ≠ ',') :
    steps ⟨opened, .inName before⟩ chars =
      some ⟨opened, .inName (before ++ String.ofList chars)⟩ := by
  induction chars generalizing before with
  | nil =>
    have whole : before ++ String.ofList [] = before := String.append_empty
    rw [whole]
    rfl
  | cons c chars ih =>
    rw [List.forall_mem_cons] at plain
    have whole : before.push c ++ String.ofList chars = before ++ String.ofList (c :: chars) := by
      simp [← String.toList_inj]
    rw [steps_cons, step_name opened before plain.1, Option.bind_some, ih _ plain.2, whole]

/-- The characters of a plain name are all taken for the name. -/
theorem steps_name (opened : List Opened) {name : String} (plain : IsPlainName name) :
    steps ⟨opened, .inName ""⟩ name.toList = some ⟨opened, .inName name⟩ := by
  rw [steps_nameChars opened "" plain, String.empty_append, String.ofList_toList]

mutual

/-- The text of a type is read as this type, within whatever brackets it stands. -/
theorem steps_text (opened : List Opened) : (tree : TypeTree String) → tree.HasPlainNames id →
    steps ⟨opened, .inName ""⟩ (tree.text id).toList = some ⟨opened, behind tree⟩
  | .node name [], plain => steps_name opened (hasPlainNames_node.mp plain).1
  | .node name (first :: rest), plain => by
    obtain ⟨plainName, plainArgs⟩ := hasPlainNames_node.mp plain
    rw [List.forall_mem_cons] at plainArgs
    have named : steps ⟨opened, .inName ""⟩ name.toList = some ⟨opened, .inName name⟩ :=
      steps_name opened plainName
    have openedBracket : steps ⟨opened, .inName name⟩ ['<'] =
        some ⟨⟨name, []⟩ :: opened, .inName ""⟩ := rfl
    have parts : (text id (.node name (first :: rest))).toList =
        name.toList ++ (['<'] ++ ((first.text id).toList ++
          (continued (texts id rest) ++ ">").toList)) := by
      rw [text, texts, intercalate_eq_append_continued]
      simp
    rw [parts, steps_append, named, Option.bind_some, steps_append, openedBracket,
      Option.bind_some, steps_append, steps_text _ first plainArgs.1, Option.bind_some,
      steps_continued ⟨name, []⟩ opened first rest plainArgs.2]
    rfl

/-- Behind an argument, the text of the further ones is read as these, and the bracket behind them
closes the type that they all belong to. -/
theorem steps_continued (inner : Opened) (outer : List Opened) (tree : TypeTree String) :
    (rest : List (TypeTree String)) → (∀ arg ∈ rest, arg.HasPlainNames id) →
      steps ⟨inner :: outer, behind tree⟩ (continued (texts id rest) ++ ">").toList =
        some ⟨outer, .behindBracket (.node inner.name (inner.args ++ tree :: rest))⟩
  | [], _ => (steps_singleton _ _).trans (step_close inner outer tree)
  | next :: rest, plain => by
    rw [List.forall_mem_cons] at plain
    have parts : (continued (texts id (next :: rest)) ++ ">").toList =
        ',' :: ' ' :: ((next.text id).toList ++ (continued (texts id rest) ++ ">").toList) := by
      rw [texts, continued_cons]
      simp
    have space : step ⟨inner :: outer, .behindComma tree⟩ ' ' =
        some ⟨inner.add tree :: outer, .inName ""⟩ := rfl
    rw [parts, steps_cons, step_comma, Option.bind_some, steps_cons, space, Option.bind_some,
      steps_append, steps_text _ next plain.1, Option.bind_some,
      steps_continued (inner.add tree) outer next rest plain.2, Opened.add, List.append_assoc]
    rfl

end

end Reading

/-- Arguments with a separator behind each of them. -/
def preceding (args : List (TypeTree String)) : List Char :=
  args.flatMap fun arg => (arg.text id).toList ++ [',', ' ']

theorem preceding_concat (args : List (TypeTree String)) (last : TypeTree String) :
    preceding (args ++ [last]) = preceding args ++ ((last.text id).toList ++ [',', ' ']) := by
  rw [preceding, List.flatMap_append, List.flatMap_singleton]
  rfl

theorem toList_intercalate_concat (args : List (TypeTree String)) (last : TypeTree String) :
    (String.intercalate ", " (texts id (args ++ [last]))).toList =
      preceding args ++ (last.text id).toList := by
  induction args with
  | nil => rw [List.nil_append, texts, texts, String.intercalate_singleton]; rfl
  | cons arg rest ih =>
    obtain ⟨next, more, rest_eq⟩ : ∃ next more, rest ++ [last] = next :: more :=
      List.exists_cons_of_ne_nil (by simp)
    rw [rest_eq, texts] at ih
    rw [List.cons_append, rest_eq, texts, texts, String.intercalate_cons_cons,
      String.toList_append, ih]
    simp [preceding]

namespace Opened

/-- The type is plain as far as it has been read. -/
def IsPlain (inner : Opened) : Prop :=
  IsPlainName inner.name ∧ ∀ arg ∈ inner.args, arg.HasPlainNames id

/-- What has been read of the type. -/
def written (inner : Opened) : List Char :=
  inner.name.toList ++ '<' :: preceding inner.args

theorem IsPlain.add {inner : Opened} (plain : inner.IsPlain) {arg : TypeTree String}
    (plainArg : arg.HasPlainNames id) : (inner.add arg).IsPlain := by
  refine ⟨plain.1, ?_⟩
  rw [Opened.add, List.forall_mem_append, List.forall_mem_singleton]
  exact ⟨plain.2, plainArg⟩

theorem IsPlain.closed {inner : Opened} (plain : inner.IsPlain) :
    inner.closed.HasPlainNames id :=
  hasPlainNames_node.mpr plain

theorem written_add (inner : Opened) (arg : TypeTree String) :
    (inner.add arg).written = inner.written ++ ((arg.text id).toList ++ [',', ' ']) := by
  rw [written, add, preceding_concat, written]
  simp

/-- A closing bracket behind the last argument completes the text of the type. -/
theorem toList_text_closed (inner : Opened) (last : TypeTree String) :
    ((inner.add last).closed.text id).toList =
      inner.written ++ ((last.text id).toList ++ ['>']) := by
  obtain ⟨first, more, args_eq⟩ : ∃ first more, inner.args ++ [last] = first :: more :=
    List.exists_cons_of_ne_nil (by simp)
  have inside := toList_intercalate_concat inner.args last
  rw [args_eq] at inside
  rw [closed, add, args_eq, text, written]
  simp [inside]

end Opened

namespace Point

/-- The type or the name here is plain. -/
def IsPlain : Point → Prop
  | .inName name => IsPlainName name
  | .behindBracket type => type.HasPlainNames id
  | .behindComma type => type.HasPlainNames id

/-- What has been read since the arguments that are complete. -/
def written : Point → List Char
  | .inName name => name.toList
  | .behindBracket type => (type.text id).toList
  | .behindComma type => (type.text id).toList ++ [',']

end Point

namespace Reading

/-- What has been read, as far as it has been kept. -/
def written (reading : Reading) : List Char :=
  reading.opened.reverse.flatMap Opened.written ++ reading.point.written

/-- All names that have been kept are plain. -/
structure IsPlain (reading : Reading) : Prop where
  opened : ∀ inner ∈ reading.opened, inner.IsPlain
  point : reading.point.IsPlain

/-- Going on by a character keeps it, together with everything before it. -/
theorem written_step {reading next : Reading} {c : Char} (stepped : reading.step c = some next) :
    next.written = reading.written ++ [c] := by
  cases reading, c using step.fun_cases with
  | case1 opened name =>
    cases stepped
    simp [written, Opened.written, Point.written, preceding]
  | case2 opened name | case6 opened type =>
    cases stepped
    simp [written, Point.written, leaf, text]
  | case3 name inner outer | case7 inner outer type =>
    cases stepped
    simp [written, Point.written, Opened.toList_text_closed, leaf, text]
  | case5 opened name c notOpen notComma notClose =>
    rw [step] at stepped
    · cases stepped
      simp [written, Point.written]
    all_goals assumption
  | case8 inner outer type =>
    cases stepped
    simp [written, Point.written, Opened.written_add]
  | case4 => exact nomatch stepped
  | case9 =>
    rw [step] at stepped
    · exact nomatch stepped
    all_goals assumption

/-- Going on by a character takes nothing but plain characters into a name. -/
theorem IsPlain.step {reading next : Reading} {c : Char} (plain : reading.IsPlain)
    (stepped : reading.step c = some next) : next.IsPlain := by
  obtain ⟨plainOpened, plainPoint⟩ := plain
  cases reading, c using step.fun_cases with
  | case1 opened name =>
    cases stepped
    have plainNew : Opened.IsPlain ⟨name, []⟩ := ⟨plainPoint, List.forall_mem_nil _⟩
    exact ⟨List.forall_mem_cons.mpr ⟨plainNew, plainOpened⟩, isPlainName_empty⟩
  | case2 opened name =>
    cases stepped
    exact ⟨plainOpened, hasPlainNames_leaf.mpr plainPoint⟩
  | case6 opened type =>
    cases stepped
    exact ⟨plainOpened, plainPoint⟩
  | case3 name inner outer =>
    cases stepped
    rw [List.forall_mem_cons] at plainOpened
    exact ⟨plainOpened.2, (plainOpened.1.add (hasPlainNames_leaf.mpr plainPoint)).closed⟩
  | case7 inner outer type =>
    cases stepped
    rw [List.forall_mem_cons] at plainOpened
    exact ⟨plainOpened.2, (plainOpened.1.add plainPoint).closed⟩
  | case5 opened name c notOpen notComma notClose =>
    rw [Reading.step] at stepped
    · cases stepped
      exact ⟨plainOpened, isPlainName_push.mpr ⟨plainPoint, notOpen, notClose, notComma⟩⟩
    all_goals assumption
  | case8 inner outer type =>
    cases stepped
    rw [List.forall_mem_cons] at plainOpened
    exact ⟨List.forall_mem_cons.mpr ⟨plainOpened.1.add plainPoint, plainOpened.2⟩,
      isPlainName_empty⟩
  | case4 => exact nomatch stepped
  | case9 =>
    rw [Reading.step] at stepped
    · exact nomatch stepped
    all_goals assumption

theorem IsPlain.start : start.IsPlain :=
  ⟨List.forall_mem_nil _, isPlainName_empty⟩

/-- Going through characters keeps all of them. -/
theorem IsPlain.steps {reading next : Reading} {chars : List Char} (plain : reading.IsPlain)
    (stepped : reading.steps chars = some next) :
    next.IsPlain ∧ next.written = reading.written ++ chars := by
  induction chars generalizing reading with
  | nil =>
    cases stepped
    exact ⟨plain, (List.append_nil _).symm⟩
  | cons c rest ih =>
    rw [steps_cons] at stepped
    obtain ⟨between, one, others⟩ := Option.bind_eq_some_iff.mp stepped
    obtain ⟨plainNext, read⟩ := ih (plain.step one) others
    refine ⟨plainNext, ?_⟩
    rw [read, written_step one, List.append_assoc, List.singleton_append]

/-- The type at the end of a text is all that has been kept of it. -/
theorem IsPlain.type? {reading : Reading} {type : TypeTree String} (plain : reading.IsPlain)
    (found : reading.type? = some type) :
    type.HasPlainNames id ∧ (type.text id).toList = reading.written := by
  match reading with
  | ⟨[], .inName name⟩ =>
    cases found
    exact ⟨hasPlainNames_leaf.mpr plain.point, rfl⟩
  | ⟨[], .behindBracket type⟩ =>
    cases found
    exact ⟨plain.point, rfl⟩

theorem type?_behind (tree : TypeTree String) : type? ⟨[], behind tree⟩ = some tree := by
  match tree with
  | .node name [] => rfl
  | .node name (first :: rest) => rfl

end Reading

/-- The reader finds for each text the type with plain names that has this text, if there is one.
So there is at most one. -/
theorem ofText?_eq_some_iff {text : String} {type : TypeTree String} :
    ofText? text = some type ↔ type.HasPlainNames id ∧ type.text id = text := by
  constructor
  · intro read
    obtain ⟨reading, through, found⟩ := Option.bind_eq_some_iff.mp read
    obtain ⟨plain, kept⟩ := Reading.IsPlain.start.steps through
    obtain ⟨plainType, written⟩ := plain.type? found
    refine ⟨plainType, ?_⟩
    rw [← String.toList_inj, written, kept]
    rfl
  · rintro ⟨plain, rfl⟩
    have through : Reading.start.steps (type.text id).toList = some ⟨[], Reading.behind type⟩ :=
      Reading.steps_text [] type plain
    rw [ofText?, through, Option.bind_some, Reading.type?_behind]

theorem text_inj {first second : TypeTree String} (plainFirst : first.HasPlainNames id)
    (plainSecond : second.HasPlainNames id) :
    first.text id = second.text id ↔ first = second := by
  constructor
  · intro same
    have readFirst := ofText?_eq_some_iff.mpr ⟨plainFirst, same⟩
    have readSecond := ofText?_eq_some_iff.mpr ⟨plainSecond, rfl⟩
    exact Option.some.inj (readFirst.symm.trans readSecond)
  · exact congrArg (text id)

end QuietSource.TypeTree

namespace QuietSource

open TypeTree

/-- The text of a class type is that of its names. -/
theorem Package.ClassType.text_eq (type : Package.ClassType) :
    type.text = (type.map Package.Mention.name).text id := by
  rw [Package.ClassType.text, print_eq_text, text_map]
  rfl

/-- The reader finds for each text the type of paths that is printed as this text, provided that all
its paths are free of brackets and commas. Hence two such types are the same if they are printed
alike. Two class types of such names that are printed alike have the same names in the same places,
so that they differ at most in what is known about the classes. -/
theorem printed_types_read_back :
    (∀ (text : String) (type : Crate.PathType),
      ofText? text = some type ↔ type.HasPlainNames id ∧ Crate.PathType.text type = text) ∧
    (∀ first second : Crate.PathType, first.HasPlainNames id → second.HasPlainNames id →
      (Crate.PathType.text first = Crate.PathType.text second ↔ first = second)) ∧
    (∀ first second : Package.ClassType,
      first.HasPlainNames Package.Mention.name → second.HasPlainNames Package.Mention.name →
        (first.text = second.text ↔
          first.map Package.Mention.name = second.map Package.Mention.name)) := by
  refine ⟨?_, ?_, ?_⟩
  · intro text type
    rw [Crate.PathType.text, print_eq_text]
    exact ofText?_eq_some_iff
  · intro first second plainFirst plainSecond
    rw [Crate.PathType.text, Crate.PathType.text, print_eq_text, print_eq_text]
    exact text_inj plainFirst plainSecond
  · intro first second plainFirst plainSecond
    rw [Package.ClassType.text_eq, Package.ClassType.text_eq]
    exact text_inj (hasPlainNames_map.mpr plainFirst) (hasPlainNames_map.mpr plainSecond)

/-- Without the condition on names the text of a type can be that of another. -/
example : Crate.PathType.text (.leaf "a<b>") = Crate.PathType.text (.node "a" [.leaf "b"]) := by
  decide

/-- A type with empty paths, paths of spaces and arguments three levels deep. -/
def spacedType : Crate.PathType :=
  .node "Map" [.leaf "", .node " a b" [.leaf "", .node "" [.leaf " "]]]

/-- A class type, and the same with other knowledge about its classes. -/
def beanList (list bean : Warning.Deprecation) : Package.ClassType :=
  .node ⟨"java.util.List", list⟩ [.leaf ⟨"legacy.Bean", bean⟩, .leaf ⟨"", .current⟩]

theorem printed_types_read_back_spacedType :
    (spacedType.HasPlainNames id ∧ ofText? "Map<,  a b<, < >>>" = some spacedType) ∧
      (HasPlainNames id (.leaf "Map") ∧ HasPlainNames id (.node "Map" [.leaf ""]) ∧
        Crate.PathType.text (.leaf "Map") ≠ Crate.PathType.text (.node "Map" [.leaf ""])) ∧
      ((beanList .current .deprecated).HasPlainNames Package.Mention.name ∧
        (beanList .forRemoval .current).HasPlainNames Package.Mention.name ∧
        (beanList .current .deprecated).map Package.Mention.name =
          (beanList .forRemoval .current).map Package.Mention.name) := by
  obtain ⟨reads, pathsApart, classesAlike⟩ := printed_types_read_back
  have spaced : spacedType.HasPlainNames id := by decide
  have bare : HasPlainNames id (.leaf "Map") := by decide
  have emptyArgument : HasPlainNames id (.node "Map" [.leaf ""]) := by decide
  have carried : (beanList .current .deprecated).HasPlainNames Package.Mention.name := by decide
  have replaced : (beanList .forRemoval .current).HasPlainNames Package.Mention.name := by decide
  refine ⟨⟨spaced, (reads _ _).mpr ⟨spaced, by decide⟩⟩, ⟨bare, emptyArgument, ?_⟩, carried,
    replaced, (classesAlike _ _ carried replaced).mp (by decide)⟩
  rw [Ne, pathsApart _ _ bare emptyArgument]
  decide

end QuietSource
