import Backtracking.Tool.Run

/-!
# The command line

The program reads the files that its arguments name, and the standard input where it is searched,
and hands them over to a run of the tool.
-/

namespace Backtracking

namespace Tool

/-- The name of the file of settings in the home directory. -/
def homeSettingsName : String := ".backre.toml"

/-- Why the system could not read a path that is no directory. -/
def systemError : IO.Error → FileError
  | .noFileOrDirectory _ _ _ => .notFound
  | .permissionDenied _ _ _ => .permissionDenied
  | .inappropriateType _ _ _ => .notDirectory
  | .invalidArgument _ _ _ => .nameTooLong
  | error => .other (toString error)

/-- Reads the files of a directory and of the directories in it.  Links are not followed. -/
partial def readTree (path : String) : IO FileTree := do
  let place := (← IO.currentDir) / path
  if ← place.isDir then
    let mut entries := []
    for entry in ← place.readDir do
      if (← entry.path.symlinkMetadata).type != .symlink then
        let inner ←
          try readTree entry.path.toString
          catch error => pure (.unreadable (systemError error))
        entries := (entry.fileName, inner) :: entries
    return .directory entries
  else
    return .file (← IO.FS.readBinFile place)

def readPath (path : String) : IO (Except FileError FileTree) := do
  if path.isEmpty then
    return .error .notFound
  try return .ok (← readTree path)
  catch error => return .error (systemError error)

def readHomeSettings : IO (Option FileTree) := do
  match ← IO.getEnv "HOME" with
  | some home =>
      if home.isEmpty then
        return none
      return (← readPath (FileTree.entryPath home homeSettingsName)).toOption
  | none => return none

/-- Reads the surroundings that a request depends on. -/
def readEnvironment (request : Request) : IO Environment := do
  let trees ← request.paths.mapM fun path => return (path, ← readPath path)
  let input ← if request.readsInput then (← IO.getStdin).readBinToEnd else pure .empty
  return {
    find := fun path => (trees.lookup path).getD (.error .notFound)
    input := input
    homeSettings? := ← readHomeSettings }

end Tool

end Backtracking

/-- Runs the tool, which stops with an exit code of its own if a search overflows. -/
def main (arguments : List String) : IO UInt32 := do
  let environment ←
    match Backtracking.Tool.Request.ofArguments arguments with
    | .ok request => Backtracking.Tool.readEnvironment request
    | .error _ => pure { find := fun _ => .error .notFound }
  match Backtracking.Tool.run environment arguments with
  | .error _ =>
      IO.eprintln "attempt to add with overflow"
      return 101
  | .ok outcome =>
      IO.print outcome.output
      match outcome.failure? with
      | some failure => IO.eprintln failure.message
      | none => pure ()
      return outcome.exitCode.toUInt32
