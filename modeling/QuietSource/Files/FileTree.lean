/-
# Trees of files

A finite tree of directories and files, and a working directory in it from which relative paths
start. There are no links and no permissions, so an operation fails only where a path asks for the
impossible: a directory that is missing or is a file, a file that is a directory, a name that no
file can have, or more bytes than a path may take.

The working directory is new, and nobody knows its name. It lies somewhere below the top, in a
directory that no operation removes. A segment `..` leads to the directory above, from the working
directory to the one it lies in and from the top to the top, but no path leads from the top into the
working directory.

Writing a file creates no directories. Creating directories goes along the path from left to right
and stops at the first file in the way; what it created before stays.
-/

import QuietSource.Files.Path
import Std.Data.HashMap

namespace QuietSource.Files

/-- The directories from which names are counted. -/
inductive Base
  | top
  | working
  deriving DecidableEq, Hashable

/-- A place in a tree of files. -/
structure Location where
  base : Base
  /-- The names from the node up to the base, the node's own name first. -/
  names : List String
  deriving DecidableEq, Hashable

namespace Location

/-- The place of a name in a directory. -/
def child (location : Location) (name : String) : Location :=
  { location with names := name :: location.names }

/-- The directory above, if the names of the directories from the one that the working directory
lies in up to the top are given. -/
def parent (home : List String) : Location → Location
  | ⟨.top, []⟩ => ⟨.top, []⟩
  | ⟨.working, []⟩ => ⟨.top, home⟩
  | ⟨base, _ :: names⟩ => ⟨base, names⟩

/-- The path from the base. -/
def path (location : Location) : String :=
  String.intercalate "/" location.names.reverse

/-- The directory from which a path starts. -/
def startOf (path : String) : Location :=
  ⟨if Path.isAbsolute path then .top else .working, []⟩

end Location

/-- What is found at a location. -/
inductive Node
  | directory
  | file (content : ByteArray)

instance : DecidableEq Node
  | .directory, .directory => isTrue rfl
  | .directory, .file _ => isFalse nofun
  | .file _, .directory => isFalse nofun
  | .file first, .file second =>
    match ByteArray.instDecidableEq first second with
    | isTrue same => isTrue (congrArg Node.file same)
    | isFalse other => isFalse fun same => other (Node.file.inj same)

/-- A tree of files. The working directory and all directories above it are always there and are not
listed. -/
structure FileTree where
  nodes : Std.HashMap Location Node
  /-- The bounds on paths and names. -/
  bounds : Bounds := .usual
  /-- The names of the directories from the one that the working directory lies in up to the top,
  its own name first. -/
  home : List String := []

namespace FileTree

/-- A tree with nothing in it but an empty working directory, directly below the top. -/
def scratch : FileTree where
  nodes := Std.HashMap.emptyWithCapacity

/-- Whether a location is the working directory or a directory above it. -/
def isFixed (tree : FileTree) : Location → Bool
  | ⟨.top, names⟩ => names.isSuffixOf tree.home
  | ⟨.working, names⟩ => names.isEmpty

/-- What is at a location. -/
def node? (tree : FileTree) (location : Location) : Option Node :=
  if tree.isFixed location then some .directory else tree.nodes[location]?

/-- The tree with something else at a location. -/
def put (tree : FileTree) (location : Location) (node : Node) : FileTree :=
  { tree with nodes := tree.nodes.insert location node }

@[simp] theorem home_put (tree : FileTree) (location : Location) (node : Node) :
    (tree.put location node).home = tree.home := rfl

/-- Only a directory is at a location that is fixed. -/
theorem isFixed_eq_false {tree : FileTree} {location : Location}
    (other : tree.node? location ≠ some .directory) : tree.isFixed location = false := by
  rw [← Bool.not_eq_true]
  exact fun fixed => other (if_pos fixed)

/-- What is found after a change: the new node at its location, the old ones elsewhere. -/
theorem node?_put (tree : FileTree) {location : Location} (wanted : Location) (node : Node)
    (loose : tree.isFixed location = false) :
    (tree.put location node).node? wanted =
      if wanted = location then some node else tree.node? wanted := by
  have sameFixed : (tree.put location node).isFixed = tree.isFixed := rfl
  rw [node?, node?, sameFixed, put]
  by_cases same : wanted = location
  · subst same
    simp [loose]
  · have other : ¬ location = wanted := fun h => same h.symm
    simp [same, other, Std.HashMap.getElem?_insert]

/-- Follow one segment from a directory to a directory. -/
def enter? (tree : FileTree) (location : Location) (segment : String) : Option Location :=
  if Path.isIdle segment then some location
  else if segment = ".." then some (location.parent tree.home)
  else if tree.node? (location.child segment) = some .directory then some (location.child segment)
  else none

/-- The location that a path names in an existing directory, whether or not there is a file. -/
def locate? (tree : FileTree) (path : String) : Option Location :=
  if Path.isShort tree.bounds path && Path.isName tree.bounds (Path.name path)
      && !Path.isIdle (Path.name path) && Path.name path != ".." then
    ((Path.leading path).foldlM tree.enter? (.startOf path)).map (·.child (Path.name path))
  else none

/-- The content of the file that a path names. -/
def read? (tree : FileTree) (path : String) : Option ByteArray :=
  match (tree.locate? path).bind tree.node? with
  | some (.file content) => some content
  | _ => none

/-- The tree with a file written, in place of the file that was there before. -/
def write? (tree : FileTree) (path : String) (content : ByteArray) : Option FileTree := do
  let location ← tree.locate? path
  if tree.node? location = some .directory then none
  else some (tree.put location (.file content))

/-- Create the directories along some segments. The answer tells whether all of them are there. -/
def createAlong (tree : FileTree) (location : Location) : List String → FileTree × Bool
  | [] => (tree, true)
  | segment :: rest =>
    if Path.isIdle segment then tree.createAlong location rest
    else if segment = ".." then tree.createAlong (location.parent tree.home) rest
    else
      match tree.node? (location.child segment) with
      | some .directory => tree.createAlong (location.child segment) rest
      | some (.file _) => (tree, false)
      | none =>
        (tree.put (location.child segment) .directory).createAlong (location.child segment) rest

/-- Create the directories in which a path's last segment would lie. -/
def createParents (tree : FileTree) (path : String) : FileTree × Bool :=
  if Path.isShort tree.bounds path && (Path.leading path).all (Path.isName tree.bounds) then
    tree.createAlong (.startOf path) (Path.leading path)
  else (tree, false)

/-- Create what is missing on the way and write a file. The answer tells whether it was written;
directories that were created on the way stay in any case. -/
def writeDeep (tree : FileTree) (path : String) (content : ByteArray) : FileTree × Bool :=
  match tree.createParents path with
  | (created, false) => (created, false)
  | (created, true) =>
    match created.write? path content with
    | some written => (written, true)
    | none => (created, false)

/-- The tree with a directory created and all directories above it, as far as possible. -/
def createDirectory (tree : FileTree) (path : String) : FileTree :=
  (tree.createAlong (.startOf path) (Path.segments path)).1

/-- The files below the working directory with their paths from there, in ascending order of the
paths. -/
def files (tree : FileTree) : List (String × ByteArray) :=
  let below := tree.nodes.toList.filterMap fun entry =>
    match entry with
    | (⟨.working, names⟩, .file content) => some (Location.path ⟨.working, names⟩, content)
    | _ => none
  below.mergeSort fun first second => decide (first.1 ≤ second.1)

end FileTree

end QuietSource.Files
