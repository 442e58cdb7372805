/-!
# Trees of files

The working directory as a value.  A path is looked up name by name: a dot stays where it is, two
dots lead to the directory above, and every other name has to be an entry of a directory.  The
working directory is all that is known: the directories above it have no entries.
-/

namespace Backtracking

inductive FileError where
  | notFound
  | notDirectory
  | isDirectory
  | nameTooLong
  | permissionDenied
  | other (reason : String)
deriving DecidableEq

def FileError.message : FileError → String
  | .notFound => "No such file or directory (os error 2)"
  | .permissionDenied => "Permission denied (os error 13)"
  | .notDirectory => "Not a directory (os error 20)"
  | .isDirectory => "Is a directory (os error 21)"
  | .nameTooLong => "File name too long (os error 36)"
  | .other reason => reason

/-- A file with its bytes, one whose bytes cannot be read, or a directory with named entries. -/
inductive FileTree where
  | file (content : ByteArray)
  | unreadable (error : FileError)
  | directory (entries : List (String × FileTree))

namespace FileTree

def empty : FileTree := .directory []

/-- The entries with one more, which takes the place of an entry of the same name. -/
def setEntry (name : String) (tree : FileTree) (entries : List (String × FileTree)) :
    List (String × FileTree) :=
  entries.filter (·.1 != name) ++ [(name, tree)]

/-- Adds a file at a path of names to a directory. -/
def insertAt (content : ByteArray) : (names : List String) → FileTree → FileTree
  | [], _ => .file content
  | name :: names, tree =>
      let entries :=
        match tree with
        | .directory entries => entries
        | _ => []
      let inner := (entries.lookup name).getD empty
      .directory (setEntry name (insertAt content names inner) entries)

def insert (tree : FileTree) (path : String) (content : ByteArray) : FileTree :=
  insertAt content ((path.splitOn "/").filter fun name => name != "" && name != ".") tree

def greatestNameSize : Nat := 255

def greatestPathSize : Nat := 4095

/-- Follows names from a tree, where `above` holds the directories that lead to it, the nearest one
first. -/
def follow (above : List FileTree) (tree : FileTree) : List String → Except FileError FileTree
  | [] => .ok tree
  | name :: names =>
      match tree with
      | .directory entries =>
          if name = "" || name = "." then follow above tree names
          else if name = ".." then follow above.tail (above.headD empty) names
          else if name.utf8ByteSize > greatestNameSize then .error .nameTooLong
          else
            match entries.lookup name with
            | some inner => follow (tree :: above) inner names
            | none => .error .notFound
      | _ => .error .notDirectory

/-- What a path names, in a working directory. -/
def find (tree : FileTree) (path : String) : Except FileError FileTree :=
  if path.utf8ByteSize > greatestPathSize then .error .nameTooLong
  else if path = "" then .error .notFound
  else if path.startsWith "/" then follow [] empty (path.splitOn "/")
  else follow [] tree (path.splitOn "/")

def entryPath (path name : String) : String :=
  if path.endsWith "/" then path ++ name else path ++ "/" ++ name

mutual

/-- The files of a tree with their paths, in the order of a walk that takes the entries of each
directory in the order of their names. -/
def filesWithin (path : String) : FileTree → List (String × Except FileError ByteArray)
  | .file content => [(path, .ok content)]
  | .unreadable error => [(path, .error error)]
  | .directory entries =>
      let inner := filesOfEntries path entries
      (inner.mergeSort fun left right => left.1 ≤ right.1).flatMap (·.2)

/-- The files of each entry of a directory, with its name. -/
def filesOfEntries (path : String) :
    List (String × FileTree) → List (String × List (String × Except FileError ByteArray))
  | [] => []
  | (name, tree) :: entries =>
      (name, filesWithin (entryPath path name) tree) :: filesOfEntries path entries

end

end FileTree

end Backtracking
