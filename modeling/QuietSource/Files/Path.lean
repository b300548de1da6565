/-
# Paths as texts

A path is a text whose segments stand between slashes. A part is joined to a path behind a slash,
which is left out where the path is empty or ends in one already; joining an empty part to a path
therefore makes it end in a slash. A part that begins with a slash is absolute and takes the place
of everything before it. Joining never removes a segment: `.` and `..` mean something only when a
path is followed through a tree of directories. Not every path can be followed: no name has a NUL in
it, and a system may bound the bytes of paths and names.
-/

import QuietSource.Text.Split

namespace QuietSource.Files

/-- Bounds on paths and names, where there are any. -/
structure Bounds where
  /-- The most bytes that a name can take. -/
  name? : Option Nat
  /-- The most bytes that a path can take. -/
  path? : Option Nat

namespace Bounds

/-- The bounds that systems usually have. -/
def usual : Bounds := ⟨some 255, some 4095⟩

/-- No bounds at all. -/
def unbounded : Bounds := ⟨none, none⟩

end Bounds

namespace Path

/-- Whether a path starts at the top. -/
def isAbsolute (path : String) : Bool :=
  path.startsWith (· == '/')

/-- Whether a part can be joined to a path without a slash of its own. -/
def isOpen (path : String) : Bool :=
  path.isEmpty || path.endsWith (· == '/')

/-- An absolute path is one whose first character is a slash. -/
theorem isAbsolute_eq (path : String) : isAbsolute path = path.toList.head?.any (· == '/') :=
  String.startsWith_bool_eq_head?

/-- An open path is one that has no last character other than a slash. -/
theorem isOpen_eq (path : String) : isOpen path = path.toList.getLast?.all (· == '/') := by
  unfold isOpen
  rw [String.endsWith_bool_eq_getLast?]
  cases h : path.toList.getLast? with
  | none => simp_all
  | some c =>
    have nonempty : path ≠ "" := by rintro rfl; simp at h
    simp [nonempty]

/-- A path with one more part. -/
def join (path part : String) : String :=
  if isAbsolute part then part
  else if isOpen path then path ++ part
  else path ++ "/" ++ part

/-- The segments of a path between its slashes. -/
def segments (path : String) : List String :=
  Text.split '/' path

/-- Whether a segment leads nowhere else. -/
def isIdle (segment : String) : Bool :=
  segment == "" || segment == "."

/-- Whether a segment can be a name: it holds no NUL and keeps within the bound on names. -/
def isName (bounds : Bounds) (segment : String) : Bool :=
  !segment.toList.contains '\x00' && bounds.name?.all (segment.utf8ByteSize ≤ ·)

/-- Whether a path is short enough to be followed: it keeps within the bound on paths. -/
def isShort (bounds : Bounds) (path : String) : Bool :=
  bounds.path?.all (path.utf8ByteSize ≤ ·)

/-- The segments that lead somewhere. -/
def components (path : String) : List String :=
  (segments path).filter fun segment => !isIdle segment

/-- The segments before the last one. -/
def leading (path : String) : List String :=
  (segments path).dropLast

/-- The last segment. -/
def name (path : String) : String :=
  (segments path).getLastD ""

end Path

end QuietSource.Files
