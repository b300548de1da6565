/-
# Units below their source directory

The path of a unit has a directory for each part of its package that is not empty, and its class
file as the last segment. If neither the package nor the class has a slash in its name, all of these
are names of files or directories, so the path leads down from any directory to which it is joined,
and writing the unit below a directory puts its file there and nowhere else.
-/

import QuietSource.Package.CompilationUnit
import QuietSource.Proofs.JoinedPath

namespace QuietSource.Package.CompilationUnit

open Files Text

/-- The parts of the unit's package that are not empty. -/
def packageParts (compilation : CompilationUnit) : List String :=
  match compilation.package with
  | some package => (split '.' package).filter (· ≠ "")
  | none => []

/-- The segments of the unit's path. -/
def pathSegments (compilation : CompilationUnit) : List String :=
  compilation.packageParts ++ [compilation.decl.name ++ ".java"]

/-- The place of the unit's file below a source directory, where the working directory lies in
`home`. -/
def placeBelow (compilation : CompilationUnit) (home : List String) (root : String) : Location :=
  (Location.ofPath home root).below compilation.pathSegments

/-- Neither the class nor the package has a slash in its name. -/
structure NamesWithoutSlash (compilation : CompilationUnit) : Prop where
  decl : '/' ∉ compilation.decl.name.toList
  package : ∀ package ∈ compilation.package, '/' ∉ package.toList

variable {compilation : CompilationUnit}

/-- A part of the package is a segment without dots. -/
theorem isSegment_of_mem_packageParts (plain : compilation.NamesWithoutSlash) {part : String}
    (listed : part ∈ compilation.packageParts) : Path.IsSegment part ∧ '.' ∉ part.toList := by
  unfold packageParts at listed
  split at listed
  · next package set =>
    obtain ⟨cut, nonempty⟩ := List.mem_filter.mp listed
    have chars := mem_of_mem_split cut
    refine ⟨⟨by simpa using nonempty, ?_⟩, ?_⟩
    · exact fun slash => plain.package package set (chars '/' slash).1
    · exact fun dot => (chars '.' dot).2 rfl
  · exact absurd listed List.not_mem_nil

theorem isSegment_of_mem_pathSegments (plain : compilation.NamesWithoutSlash) :
    ∀ segment ∈ compilation.pathSegments, Path.IsSegment segment := by
  rw [pathSegments, List.forall_mem_append, List.forall_mem_singleton]
  refine ⟨fun part listed => (isSegment_of_mem_packageParts plain listed).1, ?_, ?_⟩
  · simp
  · simpa using plain.decl

/-- No segment of the path stays where it is or leads up. -/
theorem leads_down_of_mem_pathSegments (plain : compilation.NamesWithoutSlash) :
    ∀ segment ∈ compilation.pathSegments, segment ≠ "" ∧ segment ≠ "." ∧ segment ≠ ".." := by
  rw [pathSegments, List.forall_mem_append, List.forall_mem_singleton]
  constructor
  · intro part listed
    obtain ⟨isSegment, noDot⟩ := isSegment_of_mem_packageParts plain listed
    refine ⟨isSegment.nonempty, ?_, ?_⟩
    · rintro rfl
      exact noDot (by decide)
    · rintro rfl
      exact noDot (by decide)
  · have long (text : String) (short : text.length < 5) :
        compilation.decl.name ++ ".java" ≠ text := by
      rintro rfl
      have ending : ".java".length = 5 := by decide
      rw [String.length_append] at short
      omega
    exact ⟨long "" (by decide), long "." (by decide), long ".." (by decide)⟩

/-- The path of a unit is its segments with one slash between each two. -/
theorem path_eq_intercalate (plain : compilation.NamesWithoutSlash) :
    compilation.path = String.intercalate "/" compilation.pathSegments := by
  have directories : Path.IsMadeOf compilation.packageParts
      (match compilation.package with
        | some package => (split '.' package).foldl Path.join ""
        | none => "") := by
    unfold packageParts
    split
    · next package set =>
      have start : Path.IsMadeOf [] "" := Or.inl rfl
      apply start.foldl_join (List.forall_mem_nil _)
      intro part cut slash
      exact plain.package package set (mem_of_mem_split cut '/' slash).1
    · exact Or.inl rfl
  have segments := isSegment_of_mem_pathSegments plain
  rw [pathSegments, List.forall_mem_append, List.forall_mem_singleton] at segments
  exact directories.join_segment segments.1 segments.2

theorem isAbsolute_path (plain : compilation.NamesWithoutSlash) :
    Path.isAbsolute compilation.path = false := by
  rw [path_eq_intercalate plain]
  exact Path.isAbsolute_intercalate (isSegment_of_mem_pathSegments plain)

theorem segments_path (plain : compilation.NamesWithoutSlash) :
    Path.segments compilation.path = compilation.pathSegments := by
  have nonempty : compilation.pathSegments ≠ [] := List.concat_ne_nil _ _
  rw [path_eq_intercalate plain]
  exact Path.segments_intercalate nonempty (isSegment_of_mem_pathSegments plain)

/-- The path at which the unit is written names its place below the source directory. -/
theorem ofPath_join_path (plain : compilation.NamesWithoutSlash) (home : List String)
    (root : String) :
    Location.ofPath home (Path.join root compilation.path) = compilation.placeBelow home root := by
  rw [Location.ofPath_join home (isAbsolute_path plain), segments_path plain]
  apply Location.follow_eq_below
  intro segment listed
  obtain ⟨notEmpty, notDot, notUp⟩ := leads_down_of_mem_pathSegments plain segment listed
  exact ⟨by simp [Path.isIdle, notEmpty, notDot], notUp⟩

/-- Writing the unit is writing its text at its path below the source directory. -/
theorem writeTo_eq (compilation : CompilationUnit) (tree : FileTree) (root : String) :
    compilation.writeTo tree root =
      ((tree.writeDeep (Path.join root compilation.path) compilation.text.toUTF8).1,
        if (tree.writeDeep (Path.join root compilation.path) compilation.text.toUTF8).2 then
          some (Path.join root compilation.path)
        else none) := by
  dsimp only [writeTo]
  generalize tree.writeDeep (Path.join root compilation.path) compilation.text.toUTF8 = outcome
  match outcome with
  | (after, true) => rfl
  | (after, false) => rfl

/-- A unit whose class and package have no slash in their names has a relative path that leads down
only, and its file is written at this path below the source directory. -/
theorem path_stays_below_root (plain : compilation.NamesWithoutSlash) :
    compilation.path = String.intercalate "/" compilation.pathSegments ∧
      Path.isAbsolute compilation.path = false ∧
      Path.segments compilation.path = compilation.pathSegments ∧
      (∀ segment ∈ compilation.pathSegments, segment ≠ "" ∧ segment ≠ "." ∧ segment ≠ "..") ∧
      ∀ (root : String) (tree : FileTree),
        (compilation.placeBelow tree.home root).base = (Location.ofPath tree.home root).base ∧
        (compilation.placeBelow tree.home root).names =
          compilation.pathSegments.reverse ++ (Location.ofPath tree.home root).names ∧
        (∀ written ∈ (compilation.writeTo tree root).2,
          written = Path.join root compilation.path) ∧
        ∀ (location : Location) (content : ByteArray),
          (compilation.writeTo tree root).1.HasFile location content ↔
            if (compilation.writeTo tree root).2.isSome ∧
                location = compilation.placeBelow tree.home root
            then content = compilation.text.toUTF8
            else tree.HasFile location content := by
  refine ⟨path_eq_intercalate plain, isAbsolute_path plain, segments_path plain,
    leads_down_of_mem_pathSegments plain, ?_⟩
  intro root tree
  refine ⟨Location.base_below _ _, Location.names_below _ _, ?_, ?_⟩
  · intro written answered
    rw [writeTo_eq] at answered
    split at answered
    · exact (Option.some.inj answered).symm
    · exact nomatch answered
  · intro location content
    rw [writeTo_eq, FileTree.hasFile_writeDeep, ofPath_join_path plain tree.home root]
    simp

/-- A unit whose package has empty parts everywhere and whose class is called like the directory
above. -/
def dottedUnit : CompilationUnit where
  package := some ".app..generated."
  decl := { name := ".." }

theorem path_stays_below_root_dottedUnit :
    dottedUnit.NamesWithoutSlash ∧ dottedUnit.path = "app/generated/...java" ∧
      (dottedUnit.placeBelow [] "out").names = ["...java", "generated", "app", "out"] ∧
      (dottedUnit.writeTo .scratch "out").2 = some "out/app/generated/...java" ∧
      (dottedUnit.writeTo .scratch "out").1.HasFile (dottedUnit.placeBelow [] "out")
        dottedUnit.text.toUTF8 := by
  have plain : dottedUnit.NamesWithoutSlash := by
    refine ⟨by decide, ?_⟩
    rintro package ⟨⟩
    decide
  obtain ⟨spelled, -, -, -, below⟩ := path_stays_below_root plain
  obtain ⟨-, names, -, files⟩ := below "out" .scratch
  have path : dottedUnit.path = "app/generated/...java" := spelled.trans (by decide)
  have joined : Path.join "out" dottedUnit.path = "out/app/generated/...java" := by
    rw [path]
    decide +kernel
  have written : (dottedUnit.writeTo .scratch "out").2 = some "out/app/generated/...java" := by
    have leading : Path.leading "out/app/generated/...java" = ["out", "app", "generated"] := by
      decide
    have name : Path.name "out/app/generated/...java" = "...java" := by decide
    have start : Location.startOf "out/app/generated/...java" = ⟨.working, []⟩ := by
      decide +kernel
    rw [writeTo_eq, joined]
    simp +decide [FileTree.writeDeep, FileTree.createParents, FileTree.createAlong,
      FileTree.write?, FileTree.locate?, FileTree.enter?, FileTree.node?_put,
      FileTree.node?_scratch, leading, name, start, Location.child]
  refine ⟨plain, path, names.trans (by decide), written, ?_⟩
  rw [files, if_pos ⟨by rw [written]; rfl, rfl⟩]

end QuietSource.Package.CompilationUnit
