/-
# Where writing a file reaches

A path names a place: its segments lead from the start of the path one after the other, whatever is
there. Following a path through a tree, creating directories along it and writing to it all keep to
this place. So writing changes one file at most, the one that the path names, and creating
directories changes no file at all. The place depends on where the working directory lies, which
stays the same.
-/

import QuietSource.Files.FileTree

namespace QuietSource.Files

/-- A path has its leading segments and its last one. -/
theorem Path.segments_eq (path : String) : segments path = leading path ++ [name path] := by
  have nonempty : segments path ≠ [] := by
    simp [segments, Text.split, Text.splitChars_ne_nil]
  rw [leading, name, List.getLastD_eq_getLast?, List.getLast?_eq_some_getLast nonempty]
  exact (List.dropLast_concat_getLast nonempty).symm

namespace Location

variable (home : List String)

/-- The place that a segment leads to. -/
def step (location : Location) (segment : String) : Location :=
  if Path.isIdle segment then location
  else if segment = ".." then location.parent home
  else location.child segment

/-- The place that segments lead to. -/
def follow (location : Location) (segments : List String) : Location :=
  segments.foldl (step home) location

/-- The place that a path names. -/
def ofPath (path : String) : Location :=
  (startOf path).follow home (Path.segments path)

/-- The place of names below a directory, the outermost name first. -/
def below (location : Location) (names : List String) : Location :=
  names.foldl child location

theorem follow_append (location : Location) (first second : List String) :
    location.follow home (first ++ second) = (location.follow home first).follow home second :=
  List.foldl_append

theorem step_child {segment : String} (leads : Path.isIdle segment = false)
    (down : segment ≠ "..") (location : Location) :
    location.step home segment = location.child segment := by
  rw [step, if_neg (Bool.eq_false_iff.mp leads), if_neg down]

/-- Segments that are all names lead down. -/
theorem follow_eq_below {segments : List String}
    (names : ∀ segment ∈ segments, Path.isIdle segment = false ∧ segment ≠ "..")
    (location : Location) : location.follow home segments = location.below segments := by
  induction segments generalizing location with
  | nil => rfl
  | cons segment rest ih =>
    rw [List.forall_mem_cons] at names
    rw [follow, List.foldl_cons, step_child home names.1.1 names.1.2]
    exact ih names.2 (location.child segment)

theorem base_below (location : Location) (names : List String) :
    (location.below names).base = location.base := by
  induction names generalizing location with
  | nil => rfl
  | cons name rest ih => exact ih (location.child name)

theorem names_below (location : Location) (names : List String) :
    (location.below names).names = names.reverse ++ location.names := by
  induction names generalizing location with
  | nil => rfl
  | cons name rest ih =>
    have deeper := ih (location.child name)
    rw [List.reverse_cons, List.append_assoc]
    exact deeper

end Location

namespace FileTree

open Location

/-- A tree has a file with some content at a place. -/
def HasFile (tree : FileTree) (location : Location) (content : ByteArray) : Prop :=
  tree.node? location = some (.file content)

/-- At first there is nothing. -/
theorem node?_scratch {location : Location} (loose : scratch.isFixed location = false) :
    scratch.node? location = none := by
  rw [node?, loose, if_neg Bool.false_ne_true]
  exact Std.HashMap.getElem?_emptyWithCapacity

/-- A place with nothing there is not fixed. -/
theorem isFixed_of_free {tree : FileTree} {place : Location} (free : tree.node? place = none) :
    tree.isFixed place = false :=
  isFixed_eq_false (by simp [free])

/-- A new directory in an empty place leaves the files as they are. -/
theorem hasFile_put_directory {tree : FileTree} {place location : Location} {content : ByteArray}
    (free : tree.node? place = none) :
    (tree.put place .directory).HasFile location content ↔ tree.HasFile location content := by
  rw [HasFile, HasFile, node?_put tree location _ (isFixed_of_free free)]
  split
  · next same => simp [same, free]
  · rfl

theorem hasFile_createAlong (tree : FileTree) (start : Location) (segments : List String)
    {location : Location} {content : ByteArray} :
    (tree.createAlong start segments).1.HasFile location content ↔
      tree.HasFile location content := by
  induction segments generalizing tree start with
  | nil => rfl
  | cons segment rest ih =>
    rw [createAlong]
    split
    · exact ih tree start
    · split
      · exact ih tree (start.parent tree.home)
      · split
        · exact ih tree (start.child segment)
        · rfl
        · next free =>
          rw [ih, hasFile_put_directory free]

/-- Creating directories changes neither the bounds nor the home of the working directory. -/
theorem createAlong_keeps (tree : FileTree) (start : Location) (segments : List String) :
    (tree.createAlong start segments).1.bounds = tree.bounds ∧
      (tree.createAlong start segments).1.home = tree.home := by
  induction segments generalizing tree start with
  | nil => exact ⟨rfl, rfl⟩
  | cons segment rest ih =>
    rw [createAlong]
    split
    · exact ih tree start
    · split
      · exact ih tree (start.parent tree.home)
      · split
        · exact ih tree (start.child segment)
        · exact ⟨rfl, rfl⟩
        · exact ih (tree.put (start.child segment) .directory) (start.child segment)

theorem createParents_keeps (tree : FileTree) (path : String) :
    (tree.createParents path).1.bounds = tree.bounds ∧
      (tree.createParents path).1.home = tree.home := by
  rw [createParents]
  split
  · exact createAlong_keeps tree _ _
  · exact ⟨rfl, rfl⟩

/-- Creating directories for a path leaves the files as they are. -/
theorem hasFile_createParents (tree : FileTree) (path : String) {location : Location}
    {content : ByteArray} :
    (tree.createParents path).1.HasFile location content ↔ tree.HasFile location content := by
  rw [createParents]
  split
  · exact hasFile_createAlong tree _ _
  · rfl

theorem step_of_enter? {tree : FileTree} {location entered : Location} {segment : String}
    (enters : tree.enter? location segment = some entered) :
    entered = location.step tree.home segment := by
  rw [enter?] at enters
  rw [step]
  split at enters
  · next idle => rw [if_pos idle, Option.some.inj enters]
  · next leads =>
    rw [if_neg leads]
    split at enters
    · next up => rw [if_pos up, Option.some.inj enters]
    · next down =>
      rw [if_neg down]
      split at enters
      · exact (Option.some.inj enters).symm
      · exact nomatch enters

/-- Directories that can be entered one after the other lead where their segments lead. -/
theorem follow_of_foldlM_enter? {tree : FileTree} {start reached : Location}
    {segments : List String} (enters : segments.foldlM tree.enter? start = some reached) :
    reached = start.follow tree.home segments := by
  induction segments generalizing start with
  | nil => exact (Option.some.inj enters).symm
  | cons segment rest ih =>
    rw [List.foldlM_cons] at enters
    obtain ⟨entered, enteredFirst, entersRest⟩ := Option.bind_eq_some_iff.mp enters
    rw [ih entersRest, step_of_enter? enteredFirst]
    rfl

/-- A file that can be located lies at the place that its path names. -/
theorem ofPath_of_locate? {tree : FileTree} {path : String} {location : Location}
    (located : tree.locate? path = some location) : location = ofPath tree.home path := by
  rw [locate?] at located
  split at located
  · next possible =>
    simp only [Bool.and_eq_true, Bool.not_eq_true', bne_iff_ne] at possible
    obtain ⟨directory, enters, rfl⟩ := Option.map_eq_some_iff.mp located
    rw [ofPath, Path.segments_eq path, follow_append, ← follow_of_foldlM_enter? enters]
    exact (step_child tree.home possible.1.2 possible.2 directory).symm
  · cases located

/-- A new file at a place is found there, and elsewhere the files stay as they are. -/
theorem hasFile_put_file {tree : FileTree} {place location : Location}
    {written content : ByteArray} (loose : tree.isFixed place = false) :
    (tree.put place (.file written)).HasFile location content ↔
      if location = place then content = written else tree.HasFile location content := by
  rw [HasFile, node?_put tree location _ loose]
  split
  · rw [Option.some.injEq, Node.file.injEq, eq_comm]
  · rfl

/-- Writing puts a file at the place that the path names. -/
theorem eq_put_of_write? {tree written : FileTree} {path : String} {content : ByteArray}
    (writes : tree.write? path content = some written) :
    tree.isFixed (ofPath tree.home path) = false ∧
      written = tree.put (ofPath tree.home path) (.file content) := by
  obtain ⟨location, located, placed⟩ := Option.bind_eq_some_iff.mp writes
  obtain rfl := ofPath_of_locate? located
  split at placed
  · exact nomatch placed
  · next notDirectory => exact ⟨isFixed_eq_false notDirectory, (Option.some.inj placed).symm⟩

/-- Creating what is missing and then writing does both, or only the first. -/
theorem writeDeep_eq (tree : FileTree) (path : String) (content : ByteArray) :
    tree.writeDeep path content = ((tree.createParents path).1, false) ∨
      (tree.createParents path).1.isFixed (ofPath tree.home path) = false ∧
        tree.writeDeep path content =
          ((tree.createParents path).1.put (ofPath tree.home path) (.file content), true) := by
  rw [writeDeep]
  split
  · next created failed =>
    left
    rw [failed]
  · next created made =>
    rw [made]
    split
    · next written writes =>
      right
      have sameHome := (tree.createParents_keeps path).2
      rw [made] at sameHome
      rw [← sameHome]
      obtain ⟨loose, rfl⟩ := eq_put_of_write? writes
      exact ⟨loose, rfl⟩
    · left
      rfl

/-- What was written is at the place that its path names, and all other files are as they were. So
they all are if nothing was written. -/
theorem hasFile_writeDeep (tree : FileTree) (path : String) (content : ByteArray)
    {location : Location} {found : ByteArray} :
    (tree.writeDeep path content).1.HasFile location found ↔
      if (tree.writeDeep path content).2 = true ∧ location = ofPath tree.home path then
        found = content
      else tree.HasFile location found := by
  rcases tree.writeDeep_eq path content with failed | ⟨loose, done⟩
  · rw [failed, if_neg (fun h => Bool.false_ne_true h.1)]
    exact hasFile_createParents tree path
  · rw [done, hasFile_put_file loose, hasFile_createParents]
    simp only [true_and]

end FileTree

end QuietSource.Files
