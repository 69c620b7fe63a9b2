import TagCheck.CommandLine.Session

/-!
# The program

Checks the tags of a snapshot, or writes a settings file. Everything but the reading and writing of files
is decided by `Session.run`.
-/

namespace TagCheck

/-- What stands at a path of the disk. -/
def entryAt (path : String) : IO Entry := do
  if path.isEmpty then return .missing
  let isDirectory ← try
      let _ ← IO.FS.realPath (path ++ "/.")
      pure true
    catch _ => pure false
  if isDirectory then return .directory
  try
    return .file (← IO.FS.readFile path)
  catch
    | .noFileOrDirectory .. => return .missing
    | .inappropriateType .. => return .blocked
    | .invalidArgument .. => return .tooLong
    | e => return .unreadable (toString e)

/-- The paths that a run may look at. -/
def pathsOf (arguments : List String) : List String :=
  match CommandLine.request arguments with
  | .ok (.run (.check path ..) ..) => [Session.settingsFile, path]
  | .ok (.run (.init dir _) ..) => [dir, joinPath dir Session.settingsFile]
  | _ => []

end TagCheck

open TagCheck in
/-- Reads what the run may look at, and then writes and prints what it leaves behind. -/
def main (arguments : List String) : IO UInt32 := do
  let entries ← (pathsOf arguments).mapM fun path => return (path, ← entryAt path)
  let disk : Disk :=
    ⟨(← IO.currentDir).toString, fun path => (entries.lookup path).getD .missing⟩
  let session := Session.run disk arguments
  if let some (path, text) := session.written then
    try IO.FS.writeFile path text
    catch e =>
      IO.eprintln ("Error: Failed to write '" ++ path ++ "': " ++ toString e)
      return 1
  IO.print session.shown
  IO.eprint session.told
  return session.status.toUInt32
