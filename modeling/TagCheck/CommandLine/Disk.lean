/-!
# Files and directories

What a run sees of the disk: what stands at a path, and where the run takes place. A tree holds files and
directories by the names that lead to them, and answers for paths with `.`, `..` and doubled slashes.
-/

namespace TagCheck

/-- What stands at a path. -/
inductive Entry where
  | file (text : String)
  | directory
  | missing
  /-- The path cannot be followed to its end. -/
  | unreachable (reason : String)
  /-- Something stands there, but its text cannot be read. -/
  | unreadable (reason : String)
  deriving DecidableEq, Repr

namespace Entry

def isPresent : Entry → Bool
  | .file _ | .directory | .unreadable _ => true
  | .missing | .unreachable _ => false

/-- The text of a file, or why there is none. -/
def read : Entry → Except String String
  | .file text => .ok text
  | .directory => .error "Is a directory (os error 21)"
  | .missing => .error "No such file or directory (os error 2)"
  | .unreachable reason | .unreadable reason => .error reason

/-- Why no file can be written here, given that the directory is there. -/
def writeFault? : Entry → Option String
  | .directory => some "Is a directory (os error 21)"
  | .unreachable reason => some reason
  | .file _ | .missing | .unreadable _ => none

/-- A file stands where a path needs a directory. -/
def blocked : Entry :=
  .unreachable "Not a directory (os error 20)"

/-- A path, or a name in it, is too long. -/
def tooLong : Entry :=
  .unreachable "File name too long (os error 36)"

end Entry

structure Disk where
  /-- The path of the working directory. -/
  here : String
  entry : String → Entry

/-- The path of a file in a directory. -/
def joinPath (dir file : String) : String :=
  if dir.isEmpty then file
  else if dir.toList.getLast? == some '/' then dir ++ file
  else dir ++ "/" ++ file

/-! ### Trees -/

/-- Files and directories below one directory, by the names that lead to them. -/
structure Tree where
  files : List (List String × String) := []
  dirs : List (List String) := [[]]

namespace Tree

/-- The directory above the one that the names lead to. Those above the tree are named by dots alone. -/
def above (names : List String) : List String :=
  match names.getLast? with
  | none | some ".." => names ++ [".."]
  | some _ => names.dropLast

/-- What the names lead to. Nothing but directories is known outside the tree. -/
def look (t : Tree) (names : List String) : Entry :=
  match t.files.lookup names with
  | some text => .file text
  | none => if t.dirs.contains names || names.all (· == "..") then .directory else .missing

/-- The longest name, in bytes. -/
def maxName : Nat := 255

/-- The longest path, in bytes. -/
def maxPath : Nat := 4095

/-- The place that a path leads to from a directory, or what stops it. Only the last name of a path may
be a file or missing. -/
def walk (t : Tree) (dir : List String) : List String → Except Entry (List String)
  | [] => .ok dir
  | name :: rest =>
    if name == "" || name == "." then t.walk dir rest
    else if name == ".." then t.walk (above dir) rest
    else if maxName < name.utf8ByteSize then .error .tooLong
    else
      let place := dir ++ [name]
      if rest.isEmpty then .ok place
      else
        match t.look place with
        | .directory => t.walk place rest
        | .file _ => .error .blocked
        | other => .error other

/-- A part of a path that is neither empty nor dots for a directory. -/
def isName (part : String) : Bool :=
  part != "" && part != "." && part != ".."

/-- The parts of a path between its slashes. -/
def parts (path : String) : List String :=
  path.splitOn "/"

/-- What stands at a path. Of the paths from the root only the root itself is known. -/
def entry (t : Tree) (path : String) : Entry :=
  if path.isEmpty then .missing
  else if maxPath < path.utf8ByteSize then .tooLong
  else if path.toList.head? == some '/' then
    match (parts path).find? isName with
    | none => .directory
    | some name => if maxName < name.utf8ByteSize then .tooLong else .missing
  else
    match t.walk [] (parts path) with
    | .ok names => t.look names
    | .error stop => stop

/-- The place that one part of a path leads to, without a look at what stands there. -/
def step (dir : List String) (name : String) : List String :=
  if name == "" || name == "." then dir
  else if name == ".." then above dir
  else dir ++ [name]

/-- The places that the parts of a path lead through, the last one included. -/
def trail (dir : List String) : List String → List (List String)
  | [] => [dir]
  | name :: rest => dir :: trail (step dir name) rest

/-- The tree with a directory and those that lead to it. -/
def addDir (t : Tree) (path : String) : Tree :=
  { t with dirs := trail [] (parts path) ++ t.dirs }

/-- The tree with a file and the directories that lead to it. A file that stands there is replaced. -/
def addFile (t : Tree) (path text : String) : Tree :=
  { files := ((parts path).foldl step [], text) :: t.files
    dirs := trail [] (parts path).dropLast ++ t.dirs }

/-- The tree as a run sees it. -/
def disk (t : Tree) (here : String) : Disk :=
  ⟨here, t.entry⟩

end Tree

end TagCheck
