import RecordFill.Failure
import RecordFill.Files.Format

namespace RecordFill

/-- The files of a directory tree under the names that lead to them, and the directories named for
themselves. -/
structure FileTree where
  files : List (List (List Char) × ByteArray) := []
  directories : List (List (List Char)) := []

namespace FileTree

/-- The tree with one more file, whose directories come with it. -/
def addFile (tree : FileTree) (path : String) (bytes : ByteArray) : FileTree :=
  { tree with files := ((Path.names path.toList).filter (!Path.isHere ·), bytes) :: tree.files }

/-- The tree with one more directory. -/
def addDirectory (tree : FileTree) (path : String) : FileTree :=
  { tree with directories := (Path.names path.toList).filter (!Path.isHere ·) :: tree.directories }

/-- The contents of the file under the names. -/
def file? (tree : FileTree) (names : List (List Char)) : Option ByteArray :=
  tree.files.lookup names

/-- Whether the names lead to a directory, which is named for itself or has something under it. -/
def hasDirectory (tree : FileTree) (names : List (List Char)) : Bool :=
  names.isEmpty || tree.directories.any names.isPrefixOf ||
    tree.files.any fun (file, _) => names.isPrefixOf file && file ≠ names

/-- The names of the directory around one that is given by its names, if that lies in the tree. -/
def parent? (directory : List (List Char)) : Option (List (List Char)) :=
  if directory.isEmpty then none else some directory.dropLast

/-- The contents at the end of a path, from a directory that is given by its names if it lies in the tree. Of the
directories around the tree nothing else is known. Only the last name may be that of a file. -/
def follow (tree : FileTree) (place : Option (List (List Char))) :
    List (List Char) → Except FileTrouble ByteArray
  | [] => .error .directory
  | name :: rest =>
    if Path.isHere name then follow tree place rest
    else if name = ['.', '.'] then follow tree (place.bind parent?) rest
    else
      match place.map (· ++ [name]) with
      | none => .error .missing
      | some next =>
        match tree.file? next with
        | some bytes => if rest.isEmpty then .ok bytes else .error .notDirectory
        | none => if tree.hasDirectory next then follow tree (some next) rest else .error .missing

/-- The contents at the end of a path. A slash begins a path that leads from around the tree, and an empty path
leads nowhere. -/
def read (tree : FileTree) (path : String) : Except FileTrouble ByteArray :=
  match path.toList with
  | [] => .error .missing
  | '/' :: rest => tree.follow none (Path.names rest)
  | characters => tree.follow (some []) (Path.names characters)

end FileTree

end RecordFill
