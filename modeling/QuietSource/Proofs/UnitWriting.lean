/-
# Writing a unit, or leaving the files as they are

Directories are created along a path one after the other, so writing can fail when some of them are
there already. It fails for two reasons only, bounds on paths and names apart: there is a file where
the path needs a directory, or a directory where the file should be. Either way no file is touched.
Missing directories are no reason to fail, since all of them are there before the file is written.
What the bounds are, if there are any, and where the working directory lies is up to the tree.
-/

import QuietSource.Proofs.SourceRoot

namespace QuietSource.Files

namespace Path

/-- A relative path keeps its segments when it is joined to a directory. -/
theorem exists_segments_join {path : String} (relative : isAbsolute path = false)
    (directory : String) : ∃ front, segments (join directory path) = front ++ segments path := by
  rw [join, if_neg (Bool.eq_false_iff.mp relative)]
  split
  · next isOpen =>
    rcases eq_empty_or_slash_of_isOpen isOpen with rfl | ⟨front, rfl⟩
    · exact ⟨[], by rw [String.empty_append, List.nil_append]⟩
    · exact ⟨segments front, Text.split_append '/' front path⟩
  · exact ⟨segments directory, Text.split_append '/' directory path⟩

end Path

namespace Location

/-- The places of the directories that segments lead into. -/
def stations (home : List String) (location : Location) : List String → List Location
  | [] => []
  | segment :: rest =>
    if Path.isIdle segment then location.stations home rest
    else if segment = ".." then (location.parent home).stations home rest
    else location.child segment :: (location.child segment).stations home rest

/-- The directories that have to be there for a file to be written at a path. -/
def wayTo (home : List String) (path : String) : List Location :=
  (startOf path).stations home (Path.leading path)

end Location

namespace FileTree

open Location

variable {tree : FileTree}

/-- Directories can be created along segments exactly if no file is in the way. -/
theorem createAlong_done_iff (tree : FileTree) (start : Location) (segments : List String) :
    (tree.createAlong start segments).2 = true ↔
      ∀ place ∈ start.stations tree.home segments, ∀ content,
        ¬ tree.HasFile place content := by
  induction segments generalizing tree start with
  | nil => simp [createAlong, stations]
  | cons segment rest ih =>
    rw [createAlong, stations]
    split
    · exact ih tree start
    · split
      · exact ih tree (start.parent tree.home)
      · rw [List.forall_mem_cons]
        split
        · next directory =>
          rw [ih, and_iff_right]
          intro content file
          cases directory.symm.trans file
        · next content file =>
          simp only [Bool.false_eq_true, false_iff, not_and]
          intro free
          exact absurd file (free content)
        · next free =>
          simp only [ih, hasFile_put_directory free, home_put]
          rw [and_iff_right]
          intro content file
          cases free.symm.trans file

/-- Directories that have been created are there, and nothing else has changed. -/
theorem node?_createAlong {start : Location} {segments : List String}
    (done : (tree.createAlong start segments).2 = true) (location : Location) :
    (tree.createAlong start segments).1.node? location =
      if location ∈ start.stations tree.home segments then some .directory
      else tree.node? location := by
  induction segments generalizing tree start with
  | nil => rfl
  | cons segment rest ih =>
    rw [createAlong] at done ⊢
    rw [stations]
    split at done
    · next idle =>
      rw [if_pos idle, if_pos idle]
      exact ih done
    · next leads =>
      rw [if_neg leads, if_neg leads]
      split at done
      · next up =>
        rw [if_pos up, if_pos up]
        exact ih done
      · next down =>
        rw [if_neg down, if_neg down]
        simp only [List.mem_cons]
        split at done
        · next there =>
          rw [ih done]
          by_cases here : location = start.child segment <;> simp [here, there]
        · cases done
        · next free =>
          rw [ih done, home_put, node?_put tree location _ (isFixed_of_free free)]
          by_cases here : location = start.child segment <;> simp [here]

/-- Directories that are there can be entered one after the other. -/
theorem foldlM_enter?_of_directories {start : Location} {segments : List String}
    (there : ∀ place ∈ start.stations tree.home segments, tree.node? place = some .directory) :
    segments.foldlM tree.enter? start = some (start.follow tree.home segments) := by
  induction segments generalizing start with
  | nil => rfl
  | cons segment rest ih =>
    rw [List.foldlM_cons, follow, List.foldl_cons, enter?, step]
    rw [stations] at there
    split at there
    · next idle =>
      rw [if_pos idle, if_pos idle]
      exact ih there
    · next leads =>
      rw [if_neg leads, if_neg leads]
      split at there
      · next up =>
        rw [if_pos up, if_pos up]
        exact ih there
      · next down =>
        rw [List.forall_mem_cons] at there
        rw [if_neg down, if_neg down, if_pos there.1]
        exact ih there.2

/-- A file can be written at a path, with all directories on the way to it. -/
structure Admits (tree : FileTree) (path : String) : Prop where
  /-- The path and the names in it keep within their bounds. -/
  short : Path.isShort tree.bounds path = true
  names : ∀ segment ∈ Path.segments path, Path.isName tree.bounds segment = true
  /-- There is no file where a directory is needed. -/
  noFileOnTheWay : ∀ place ∈ wayTo tree.home path, ∀ content, ¬ tree.HasFile place content
  /-- There is no directory where the file should be, and none is needed there. -/
  notDirectory : tree.node? (ofPath tree.home path) ≠ some .directory
  notOnTheWay : ofPath tree.home path ∉ wayTo tree.home path

/-- Without bounds, all that is asked of a path is that it has no NUL in it. -/
theorem isName_of_unbounded {path : String} (noNul : '\x00' ∉ path.toList) :
    ∀ segment ∈ Path.segments path, Path.isName .unbounded segment = true := by
  intro segment listed
  have noneInside : '\x00' ∉ segment.toList := fun inside =>
    noNul (Text.mem_of_mem_split listed '\x00' inside).1
  simp [Path.isName, Bounds.unbounded, noneInside]

theorem admits_iff_of_unbounded (unbounded : tree.bounds = .unbounded) {path : String}
    (noNul : '\x00' ∉ path.toList) :
    tree.Admits path ↔
      (∀ place ∈ wayTo tree.home path, ∀ content, ¬ tree.HasFile place content) ∧
        tree.node? (ofPath tree.home path) ≠ some .directory ∧
        ofPath tree.home path ∉ wayTo tree.home path := by
  constructor
  · intro admits
    exact ⟨admits.noFileOnTheWay, admits.notDirectory, admits.notOnTheWay⟩
  · rintro ⟨noFile, notDirectory, notOnTheWay⟩
    refine ⟨?_, ?_, noFile, notDirectory, notOnTheWay⟩
    · rw [unbounded]
      rfl
    · rw [unbounded]
      exact isName_of_unbounded noNul

theorem createParents_done_iff (tree : FileTree) (path : String) :
    (tree.createParents path).2 = true ↔
      Path.isShort tree.bounds path = true ∧
        (∀ segment ∈ Path.leading path, Path.isName tree.bounds segment = true) ∧
        ∀ place ∈ wayTo tree.home path, ∀ content, ¬ tree.HasFile place content := by
  rw [createParents]
  split
  · next possible =>
    rw [Bool.and_eq_true, List.all_eq_true] at possible
    rw [createAlong_done_iff, ← and_assoc, and_iff_right possible]
    rfl
  · next impossible =>
    rw [Bool.and_eq_true, List.all_eq_true] at impossible
    rw [← and_assoc, iff_false_left Bool.false_ne_true]
    exact fun possible => impossible possible.1

theorem node?_createParents {path : String} (done : (tree.createParents path).2 = true)
    (location : Location) :
    (tree.createParents path).1.node? location =
      if location ∈ wayTo tree.home path then some .directory else tree.node? location := by
  rw [createParents] at done ⊢
  split at done
  · next possible =>
    rw [if_pos possible]
    exact node?_createAlong done location
  · cases done

/-- Where all directories on the way are there, only the name decides. -/
theorem locate?_of_directories {path : String} (short : Path.isShort tree.bounds path = true)
    (down : Path.isIdle (Path.name path) = false) (notUp : Path.name path ≠ "..")
    (there : ∀ place ∈ wayTo tree.home path, tree.node? place = some .directory) :
    tree.locate? path =
      if Path.isName tree.bounds (Path.name path) = true then some (ofPath tree.home path)
      else none := by
  rw [locate?, short, down, foldlM_enter?_of_directories there, ofPath, Path.segments_eq path,
    follow_append]
  have reached (directory : Location) :
      directory.follow tree.home [Path.name path] = directory.child (Path.name path) :=
    step_child tree.home down notUp directory
  simp [notUp, reached]

theorem isSome_write?_iff {path : String} {content : ByteArray}
    (short : Path.isShort tree.bounds path = true) (down : Path.isIdle (Path.name path) = false)
    (notUp : Path.name path ≠ "..")
    (there : ∀ place ∈ wayTo tree.home path, tree.node? place = some .directory) :
    (tree.write? path content).isSome = true ↔
      Path.isName tree.bounds (Path.name path) = true ∧
        tree.node? (ofPath tree.home path) ≠ some .directory := by
  rw [write?, locate?_of_directories short down notUp there]
  by_cases named : Path.isName tree.bounds (Path.name path) = true <;>
    by_cases directory : tree.node? (ofPath tree.home path) = some .directory <;>
      simp [named, directory]

theorem writeDeep_done_iff_write? (tree : FileTree) (path : String) (content : ByteArray) :
    (tree.writeDeep path content).2 = true ↔
      (tree.createParents path).2 = true ∧
        ((tree.createParents path).1.write? path content).isSome = true := by
  rw [writeDeep]
  obtain ⟨created, made⟩ := tree.createParents path
  cases made with
  | false => simp
  | true =>
    dsimp only
    cases created.write? path content <;> simp

/-- Writing a file with all directories on its way succeeds exactly if the tree admits it. -/
theorem writeDeep_done_iff (tree : FileTree) {path : String} (content : ByteArray)
    (down : Path.isIdle (Path.name path) = false) (notUp : Path.name path ≠ "..") :
    (tree.writeDeep path content).2 = true ↔ tree.Admits path := by
  obtain ⟨sameBounds, sameHome⟩ := tree.createParents_keeps path
  have createdAt {location : Location} (made : (tree.createParents path).2 = true) :
      (tree.createParents path).1.node? location ≠ some .directory ↔
        location ∉ wayTo tree.home path ∧ tree.node? location ≠ some .directory := by
    rw [node?_createParents made]
    split <;> simp_all
  have written (made : (tree.createParents path).2 = true)
      (short : Path.isShort tree.bounds path = true) :
      ((tree.createParents path).1.write? path content).isSome = true ↔
        Path.isName tree.bounds (Path.name path) = true ∧
          (tree.createParents path).1.node? (ofPath tree.home path) ≠ some .directory := by
    rw [← sameBounds] at short ⊢
    rw [isSome_write?_iff short down notUp, sameHome]
    intro place onTheWay
    rw [sameHome] at onTheWay
    rw [node?_createParents made, if_pos onTheWay]
  rw [writeDeep_done_iff_write?]
  constructor
  · rintro ⟨made, wrote⟩
    obtain ⟨short, leading, noFile⟩ := (tree.createParents_done_iff path).mp made
    obtain ⟨named, free⟩ := (written made short).mp wrote
    obtain ⟨notOnTheWay, notDirectory⟩ := (createdAt made).mp free
    refine ⟨short, ?_, noFile, notDirectory, notOnTheWay⟩
    rw [Path.segments_eq path, List.forall_mem_append, List.forall_mem_singleton]
    exact ⟨leading, named⟩
  · intro admits
    have names := admits.names
    rw [Path.segments_eq path, List.forall_mem_append, List.forall_mem_singleton] at names
    have made : (tree.createParents path).2 = true :=
      (tree.createParents_done_iff path).mpr ⟨admits.short, names.1, admits.noFileOnTheWay⟩
    exact ⟨made, (written made admits.short).mpr
      ⟨names.2, (createdAt made).mpr ⟨admits.notOnTheWay, admits.notDirectory⟩⟩⟩

theorem writeDeep_keeps (tree : FileTree) (path : String) (content : ByteArray) :
    (tree.writeDeep path content).1.bounds = tree.bounds ∧
      (tree.writeDeep path content).1.home = tree.home := by
  rcases tree.writeDeep_eq path content with failed | ⟨-, wrote⟩
  · rw [failed]
    exact tree.createParents_keeps path
  · rw [wrote]
    exact tree.createParents_keeps path

/-- What is found once a file has been written: the file, the directories on the way to it, and
elsewhere what was there. -/
theorem node?_writeDeep {path : String} {content : ByteArray}
    (done : (tree.writeDeep path content).2 = true) (location : Location) :
    (tree.writeDeep path content).1.node? location =
      if location = ofPath tree.home path then some (.file content)
      else if location ∈ wayTo tree.home path then some .directory
      else tree.node? location := by
  obtain ⟨made, -⟩ := (tree.writeDeep_done_iff_write? path content).mp done
  rcases tree.writeDeep_eq path content with failed | ⟨loose, wrote⟩
  · rw [failed] at done
    exact nomatch done
  · rw [wrote, node?_put _ _ _ loose, node?_createParents made]

/-- What has been written can be read at the same path. -/
theorem read?_writeDeep {path : String} {content : ByteArray}
    (down : Path.isIdle (Path.name path) = false) (notUp : Path.name path ≠ "..")
    (done : (tree.writeDeep path content).2 = true) :
    (tree.writeDeep path content).1.read? path = some content := by
  have admits := (tree.writeDeep_done_iff content down notUp).mp done
  have names := admits.names
  rw [Path.segments_eq path, List.forall_mem_append, List.forall_mem_singleton] at names
  obtain ⟨sameBounds, sameHome⟩ := tree.writeDeep_keeps path content
  have short := admits.short
  rw [← sameBounds] at short
  have there : ∀ place ∈ wayTo (tree.writeDeep path content).1.home path,
      (tree.writeDeep path content).1.node? place = some .directory := by
    intro place onTheWay
    rw [sameHome] at onTheWay
    have other : place ≠ ofPath tree.home path := by
      rintro rfl
      exact admits.notOnTheWay onTheWay
    rw [node?_writeDeep done, if_neg other, if_pos onTheWay]
  rw [read?, locate?_of_directories short down notUp there, sameBounds, sameHome, if_pos names.2,
    Option.bind_some, node?_writeDeep done, if_pos rfl]

end FileTree

end QuietSource.Files

namespace QuietSource.Package.CompilationUnit

open Files

variable {compilation : CompilationUnit}

theorem name_join_path (plain : compilation.NamesWithoutSlash) (root : String) :
    Path.name (Path.join root compilation.path) = compilation.decl.name ++ ".java" := by
  obtain ⟨front, segments⟩ := Path.exists_segments_join (isAbsolute_path plain) root
  rw [Path.name, segments, segments_path plain, pathSegments, ← List.append_assoc,
    List.getLastD_concat]

/-- The last segment of the unit's path is a name, wherever the path is joined to. -/
theorem leads_down_name_join_path (plain : compilation.NamesWithoutSlash) (root : String) :
    Path.isIdle (Path.name (Path.join root compilation.path)) = false ∧
      Path.name (Path.join root compilation.path) ≠ ".." := by
  have last : compilation.decl.name ++ ".java" ∈ compilation.pathSegments := by
    simp [pathSegments]
  obtain ⟨notEmpty, notDot, notUp⟩ := leads_down_of_mem_pathSegments plain _ last
  rw [name_join_path plain]
  exact ⟨by simp [Path.isIdle, notEmpty, notDot], notUp⟩

theorem answer_writeTo_iff (plain : compilation.NamesWithoutSlash) (tree : FileTree)
    (root : String) :
    (compilation.writeTo tree root).2 = some (Path.join root compilation.path) ↔
      tree.Admits (Path.join root compilation.path) := by
  obtain ⟨down, notUp⟩ := leads_down_name_join_path plain root
  rw [← tree.writeDeep_done_iff compilation.text.toUTF8 down notUp, writeTo_eq]
  simp

/-- Where paths and names have no bounds, a unit is written exactly if no file stands where a
directory is needed and no directory where the file should be, however long its names are. -/
theorem answer_writeTo_iff_of_unbounded (plain : compilation.NamesWithoutSlash) {tree : FileTree}
    (unbounded : tree.bounds = .unbounded) {root : String}
    (noNul : '\x00' ∉ (Path.join root compilation.path).toList) :
    (compilation.writeTo tree root).2 = some (Path.join root compilation.path) ↔
      (∀ place ∈ Location.wayTo tree.home (Path.join root compilation.path), ∀ content,
        ¬ tree.HasFile place content) ∧
      tree.node? (compilation.placeBelow tree.home root) ≠ some .directory ∧
      compilation.placeBelow tree.home root ∉
        Location.wayTo tree.home (Path.join root compilation.path) := by
  rw [answer_writeTo_iff plain, FileTree.admits_iff_of_unbounded unbounded noNul,
    ofPath_join_path plain]

/-- Writing a unit below a directory, whatever is in the tree of files, has one of two outcomes.
Either the answer is the path of the unit joined to that directory, its file is read at this path as
the text of the unit, and every other file is as it was, or there is no answer and all files are as
they were. The unit is written exactly if no file stands where a directory is needed and no
directory where the file should be, as long as the path and its names keep within their bounds. -/
theorem writeTo_writes_or_leaves_files (plain : compilation.NamesWithoutSlash) (tree : FileTree)
    (root : String) :
    ((compilation.writeTo tree root).2 = some (Path.join root compilation.path) ∧
        (compilation.writeTo tree root).1.read? (Path.join root compilation.path) =
          some compilation.text.toUTF8 ∧
        (∀ location content, (compilation.writeTo tree root).1.HasFile location content ↔
          if location = compilation.placeBelow tree.home root then
            content = compilation.text.toUTF8
          else tree.HasFile location content) ∨
      (compilation.writeTo tree root).2 = none ∧
        ∀ location content, (compilation.writeTo tree root).1.HasFile location content ↔
          tree.HasFile location content) ∧
    ((compilation.writeTo tree root).2 = some (Path.join root compilation.path) ↔
      tree.Admits (Path.join root compilation.path)) := by
  refine ⟨?_, answer_writeTo_iff plain tree root⟩
  obtain ⟨down, notUp⟩ := leads_down_name_join_path plain root
  rw [writeTo_eq]
  cases done : (tree.writeDeep (Path.join root compilation.path) compilation.text.toUTF8).2 with
  | true =>
    refine Or.inl ⟨rfl, FileTree.read?_writeDeep down notUp done, ?_⟩
    intro location content
    rw [FileTree.hasFile_writeDeep, ofPath_join_path plain tree.home root, done]
    simp
  | false =>
    refine Or.inr ⟨rfl, ?_⟩
    intro location content
    rw [FileTree.hasFile_writeDeep, done]
    simp

/-- A tree with a file where a unit wants the directory of its package. -/
def occupiedTree : FileTree :=
  (FileTree.scratch.put ⟨.working, ["out"]⟩ .directory).put ⟨.working, ["app", "out"]⟩
    (.file ⟨#[33]⟩)

theorem node?_occupiedTree {names : List String}
    (elsewhere : names ∉ [[], ["out"], ["app", "out"]]) :
    occupiedTree.node? ⟨.working, names⟩ = none := by
  simp only [List.mem_cons, List.not_mem_nil, or_false, not_or] at elsewhere
  have loose : FileTree.scratch.isFixed ⟨.working, names⟩ = false := by
    simpa [FileTree.isFixed] using elsewhere.1
  rw [occupiedTree, FileTree.node?_put _ _ _ (by decide), FileTree.node?_put _ _ _ (by decide),
    if_neg (by simpa using elsewhere.2.2), if_neg (by simpa using elsewhere.2.1),
    FileTree.node?_scratch loose]

/-- The way below `src` is free, though none of its directories is there. -/
theorem admits_occupiedTree : occupiedTree.Admits "new/../src/app/generated/...java" := by
  have way : Location.wayTo occupiedTree.home "new/../src/app/generated/...java" =
      [⟨.working, ["new"]⟩, ⟨.working, ["src"]⟩, ⟨.working, ["app", "src"]⟩,
        ⟨.working, ["generated", "app", "src"]⟩] := by
    decide +kernel
  have place : Location.ofPath occupiedTree.home "new/../src/app/generated/...java" =
      ⟨.working, ["...java", "generated", "app", "src"]⟩ := by
    decide +kernel
  refine ⟨by decide +kernel, by decide +kernel, ?_, ?_, ?_⟩
  · intro station onTheWay content
    rw [way] at onTheWay
    simp only [List.mem_cons, List.not_mem_nil, or_false] at onTheWay
    rw [FileTree.HasFile]
    rcases onTheWay with rfl | rfl | rfl | rfl <;> rw [node?_occupiedTree (by decide)] <;> simp
  · rw [place, node?_occupiedTree (by decide)]
    simp
  · rw [place, way]
    decide

theorem hasFile_occupiedTree : occupiedTree.HasFile ⟨.working, ["app", "out"]⟩ ⟨#[33]⟩ := by
  rw [occupiedTree, FileTree.hasFile_put_file (by decide), if_pos rfl]

/-- Below `out` the file is in the way, though only behind a directory that can be created. -/
theorem not_admits_occupiedTree : ¬ occupiedTree.Admits "new/../out/app/generated/...java" := by
  intro admits
  have onTheWay : ⟨.working, ["app", "out"]⟩ ∈
      Location.wayTo occupiedTree.home "new/../out/app/generated/...java" := by
    decide +kernel
  exact admits.noFileOnTheWay _ onTheWay _ hasFile_occupiedTree

theorem writeTo_occupiedTree :
    dottedUnit.NamesWithoutSlash ∧
      ((dottedUnit.writeTo occupiedTree "new/../out").2 = none ∧
        (dottedUnit.writeTo occupiedTree "new/../out").1.HasFile ⟨.working, ["app", "out"]⟩
          ⟨#[33]⟩) ∧
      (dottedUnit.writeTo occupiedTree "new/../src").2 =
          some "new/../src/app/generated/...java" ∧
        (dottedUnit.writeTo occupiedTree "new/../src").1.read? "new/../src/app/generated/...java" =
          some dottedUnit.text.toUTF8 := by
  have plain : dottedUnit.NamesWithoutSlash := by
    refine ⟨by decide, ?_⟩
    rintro package ⟨⟩
    decide
  have path : dottedUnit.path = "app/generated/...java" :=
    (path_eq_intercalate plain).trans (by decide)
  refine ⟨plain, ?_, ?_⟩
  · have joined : Path.join "new/../out" dottedUnit.path = "new/../out/app/generated/...java" := by
      rw [path]
      decide +kernel
    obtain ⟨outcome, written⟩ := writeTo_writes_or_leaves_files plain occupiedTree "new/../out"
    rw [joined] at outcome written
    rcases outcome with ⟨answered, -, -⟩ | ⟨unanswered, files⟩
    · exact absurd (written.mp answered) not_admits_occupiedTree
    · exact ⟨unanswered, (files _ _).mpr hasFile_occupiedTree⟩
  · have joined : Path.join "new/../src" dottedUnit.path = "new/../src/app/generated/...java" := by
      rw [path]
      decide +kernel
    obtain ⟨outcome, written⟩ := writeTo_writes_or_leaves_files plain occupiedTree "new/../src"
    rw [joined] at outcome written
    rcases outcome with ⟨answered, read, -⟩ | ⟨unanswered, -⟩
    · exact ⟨answered, read⟩
    · exact nomatch unanswered.symm.trans (written.mpr admits_occupiedTree)

end QuietSource.Package.CompilationUnit
