/-
# Trials of generators

A generator is tried out by letting it write into a scratch directory and handing the directory to
a compile check. A generator that gives up is not checked. What the check complains about is
reported with the compiler's output.
-/

import QuietSource.Files.FileTree

namespace QuietSource

open Files

/-- What a compile check complains about. -/
structure CompileFailure where
  /-- What failed. -/
  message : String
  /-- What the compiler said. -/
  output : String

/-- The complaint with the compiler's output. -/
def CompileFailure.text (failure : CompileFailure) : String :=
  failure.message ++ "\n\nOutput:\n" ++ failure.output

/-- A generator fills a directory, or gives up with a reason. -/
abbrev Generator := FileTree → Except String FileTree

/-- A compile check looks at a directory. -/
abbrev Checker := FileTree → Except CompileFailure Unit

/-- What a generator makes of an empty scratch directory. -/
def Generator.output (generator : Generator) : Except String FileTree :=
  generator .scratch

/-- What came of trying a generator. -/
structure Trial where
  /-- The directory that was checked, if it came to that. -/
  checked : Option FileTree
  /-- Why the trial failed, if it did. -/
  failure : Option String

/-- Try a generator with a check. -/
def Trial.of (generator : Generator) (checker : Checker) : Trial :=
  match generator.output with
  | .error reason => ⟨none, some reason⟩
  | .ok tree =>
    match checker tree with
    | .error failure => ⟨some tree, some ("Compile check failed: " ++ failure.text)⟩
    | .ok _ => ⟨some tree, none⟩

end QuietSource
