import SchemaBeans.Text.Parts

/-!
# Paths and files

A path is a list of segments, after one or two slashes if it is absolute. Its normal form leaves
out empty segments and the segment `.`, keeps the segment `..`, and writes an empty path as `.`;
it is what messages show. No normal form is empty (`Path.normalize_ne_empty`).

A tree holds the files and directories below a current directory. Reading a path walks from
directory to directory; a walk out of the tree finds directories there and no files. A segment is
refused where it is met if it is too long, and a path as a whole before the walk.
-/
namespace SchemaBeans.Path

/-- The segments of a path without the empty ones and those that stay in place. -/
def segments (path : String) : List String :=
  ((Text.words (· == '/') path.toList).map String.ofList).filter (· ≠ ".")

/-- The slashes before the first segment: two are kept, and three or more count as one. -/
def root (path : String) : String :=
  match path.toList with
  | '/' :: '/' :: '/' :: _ => "/"
  | '/' :: '/' :: _ => "//"
  | '/' :: _ => "/"
  | _ => ""

/-- Whether a path starts at the root of the file system. -/
def isAbsolute (path : String) : Bool := root path ≠ ""

/-- The normal form of a path. -/
def normalize (path : String) : String :=
  let normal := root path ++ "/".intercalate (segments path)
  if normal = "" then "." else normal

/-- No normal form is empty. -/
theorem normalize_ne_empty (path : String) : normalize path ≠ "" := by
  simp only [normalize]
  split
  · decide
  · assumption

end SchemaBeans.Path

namespace SchemaBeans

/-- Why a file cannot be read. -/
inductive ReadFault where
  /-- There is nothing under a segment. -/
  | noSuchFile
  /-- A segment follows a file. -/
  | notDirectory
  /-- The path leads to a directory. -/
  | isDirectory
  /-- A segment or the path is too long. -/
  | nameTooLong
  /-- Any other refusal of the system. -/
  | other (code : Nat) (reason : String)
deriving DecidableEq, Repr

namespace ReadFault

/-- The number of a fault. -/
def code : ReadFault → Nat
  | noSuchFile => 2
  | notDirectory => 20
  | isDirectory => 21
  | nameTooLong => 36
  | other code _ => code

/-- The wording of a fault. -/
def reason : ReadFault → String
  | noSuchFile => "No such file or directory"
  | notDirectory => "Not a directory"
  | isDirectory => "Is a directory"
  | nameTooLong => "File name too long"
  | other _ reason => reason

end ReadFault

/-- A reader of files by path. -/
abbrev FileReader := String → Except ReadFault (List UInt8)

/-- Files and directories by their segments below the current directory. -/
structure Tree where
  /-- The files with their bytes. -/
  files : List (List String × List UInt8) := []
  /-- The directories that are there beside those that hold a file. -/
  directories : List (List String) := []

namespace Tree

/-- Where a walk has led. -/
inductive Place where
  /-- A directory of the tree. -/
  | directory (segments : List String)
  /-- A file of the tree. -/
  | file (bytes : List UInt8)
  /-- A directory out of the tree. -/
  | outside

/-- The longest segment, in bytes. -/
def maxSegmentSize : Nat := 255

/-- The longest path, in bytes. -/
def maxPathSize : Nat := 4095

/-- Add a file. -/
def addFile (tree : Tree) (path : String) (bytes : List UInt8) : Tree :=
  { tree with files := (Path.segments path, bytes) :: tree.files }

/-- Add a directory. -/
def addDirectory (tree : Tree) (path : String) : Tree :=
  { tree with directories := Path.segments path :: tree.directories }

/-- Whether there is a directory under the given segments. -/
def isDirectory (tree : Tree) (segments : List String) : Bool :=
  segments.isEmpty || tree.directories.any (segments.isPrefixOf ·) ||
    tree.files.any fun file => segments.isPrefixOf file.1 && segments != file.1

/-- Go from a place to the place of a segment. -/
def step (tree : Tree) (place : Place) (segment : String) : Except ReadFault Place :=
  match place with
  | .file _ => .error .notDirectory
  | .outside =>
    if segment = ".." then .ok .outside
    else if maxSegmentSize < segment.utf8ByteSize then .error .nameTooLong
    else .error .noSuchFile
  | .directory segments =>
    if segment = ".." then
      if segments.isEmpty then .ok .outside else .ok (.directory segments.dropLast)
    else if maxSegmentSize < segment.utf8ByteSize then .error .nameTooLong
    else
      let below := segments ++ [segment]
      if tree.isDirectory below then .ok (.directory below)
      else
        match tree.files.lookup below with
        | some bytes => .ok (.file bytes)
        | none => .error .noSuchFile

/-- The bytes of the file under a path. -/
def read (tree : Tree) (path : String) : Except ReadFault (List UInt8) :=
  if maxPathSize < path.utf8ByteSize then .error .nameTooLong
  else do
    let start := if Path.isAbsolute path then Place.outside else .directory []
    match ← (Path.segments path).foldlM tree.step start with
    | .file bytes => return bytes
    | .directory _ | .outside => .error .isDirectory

end Tree

end SchemaBeans
