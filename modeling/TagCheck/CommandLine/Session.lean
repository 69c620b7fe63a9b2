import TagCheck.Check.Basic
import TagCheck.CommandLine.Arguments
import TagCheck.CommandLine.Disk
import TagCheck.Report.Overview
import TagCheck.Report.Problem
import TagCheck.Settings.File
import TagCheck.Snapshot.Decoder

/-!
# Runs of the command line

One run of the program as a function of its arguments and of the disk: the text it shows, the messages it
tells beside it, the file it writes, and the status it ends with. Problems and overviews are shown;
progress, traces and errors are told.
-/

namespace TagCheck

/-- What a run leaves behind. -/
structure Session where
  shown : String := ""
  told : String := ""
  /-- A path, and the text that is written there. -/
  written : Option (String × String) := none
  status : UInt8 := 0

namespace Session

def settingsFile : String :=
  "yardcheck.toml"

def display (s : Session) (text : String) : Session :=
  { s with shown := s.shown ++ text }

/-- Tells some lines. -/
def tell (s : Session) (lines : List String) : Session :=
  { s with told := s.told ++ String.join (lines.map (· ++ "\n")) }

/-- The end of a run that cannot go on. -/
def fail (s : Session) (message : String) : Session :=
  { s.tell ["Error: " ++ message] with status := 1 }

/-- A line about how the run ended, unless it is quiet. -/
def conclude (s : Session) (v : Verbosity) (text : String) : Session :=
  if v.showsProgress then s.tell ["--> " ++ text] else s

/-- The message of a document that is no snapshot. -/
def decodeMessage (e : DecodeError) : String :=
  match e, e.message? with
  | _, some message => message
  | .unreadable .truncated, none => "the document ends too early"
  | _, none => "the document is malformed"

/-- The settings of a run: those of the settings file, with those of the command line on top. -/
def overlay (s : Settings) (profile : Option Profile) (arity : Option ArityPolicy)
    (builtins : List String) : Settings where
  profile := profile.getD s.profile
  arity := arity.getD s.arity
  skip := s.skip
  builtins := appendNew s.builtins builtins

/-- The settings file in the working directory, if there is one. -/
def readSettings (disk : Disk) : Except String (Option Settings) :=
  let path := joinPath disk.here settingsFile
  let entry := disk.entry settingsFile
  if entry.isPresent then
    match entry.read with
    | .error reason => .error ("Failed to read '" ++ path ++ "': " ++ reason)
    | .ok text =>
      match Settings.ofText text with
      | .ok settings => .ok (some settings)
      | .error e => .error ("Invalid '" ++ path ++ "': " ++ e.message)
  else .ok none

def readSnapshot (disk : Disk) (path : String) : Except String Snapshot :=
  match (disk.entry path).read with
  | .error reason => .error ("Failed to read snapshot '" ++ path ++ "': " ++ reason)
  | .ok text =>
    match Snapshot.ofText text with
    | .ok snapshot => .ok snapshot
    | .error e => .error ("Malformed snapshot '" ++ path ++ "': " ++ decodeMessage e)

def arityTitle : ArityPolicy → String
  | .ignore => "Ignore"
  | .report => "Report"

/-- The settings as traces show them. -/
def settingsLine (s : Settings) : String :=
  "profile=" ++ s.profile.name ++ " arity=" ++ arityTitle s.arity ++ " builtins=" ++
    quoteList s.builtins

/-- Shows the overviews of a program that are asked for before its problems. Working out the lineages for
them is traced once more. -/
def showProgram (s : Session) (v : Verbosity) (overviews : List Overview) (t : Task) : Session :=
  let lineage := overviews.contains .lineage
  let signatures := overviews.contains .signatures
  let s := if lineage || signatures then s.tell (t.ancestry.events.flatMap v.eventLine) else s
  let s := if lineage then s.display ("\n" ++ t.ancestry.overview ++ "\n") else s
  if signatures then s.display ("\n" ++ t.signatureOverview ++ "\n") else s

/-- Shows problems one after the other. One that cannot be shown ends the run. -/
def render (s : Session) (sources : SourceMap) : List Problem → Except Session Session
  | [] => .ok s
  | p :: ps =>
    match p.render? false sources with
    | some text => (s.display text).render sources ps
    | none => .error { s.tell ["capacity overflow"] with status := 101 }

/-- Shows the problems of a program, and ends the run. -/
def showProblems (s : Session) (v : Verbosity) (overviews : List Overview) (path : String)
    (sources : SourceMap) (problems : List Problem) : Session :=
  match s.render sources problems with
  | .error s => s
  | .ok s =>
    let s :=
      if overviews.contains .problems then s.display ("\n" ++ problemOverview sources problems ++ "\n") else s
    if problems.isEmpty then s.conclude v ("No problems in " ++ path)
    else
      let s := s.conclude v (toString problems.length ++ " problem(s) in " ++ path)
      if problems.any Problem.isError then { s with status := 1 } else s

/-- Checks a snapshot under given settings. -/
def checkSnapshot (s : Session) (v : Verbosity) (overviews : List Overview) (path : String)
    (snapshot : Snapshot) (settings : Settings) : Session :=
  let t : Task := ⟨.ofSnapshot snapshot, settings⟩
  let outcome := t.check
  let s := s.tell (outcome.events.flatMap v.eventLine)
  match outcome.result with
  | .error e => s.fail ("Inconsistent snapshot: " ++ e.message)
  | .ok problems =>
    (s.showProgram v overviews t).showProblems v overviews path snapshot.sources problems

/-- Checks the snapshot at a path. -/
def check (disk : Disk) (v : Verbosity) (overviews : List Overview) (path : String)
    (profile : Option Profile) (arity : Option ArityPolicy) (builtins : List String) : Session :=
  match readSettings disk with
  | .error message => Session.fail {} message
  | .ok found =>
    let source := if found.isSome then v.mainLine ("using " ++ joinPath disk.here settingsFile) else []
    let settings := overlay (found.getD {}) profile arity builtins
    let s : Session := {}
    let s := s.tell (source ++ v.traceLine .cli (settingsLine settings))
    let s := if v.showsProgress then s.tell ["    --> Checking... " ++ path] else s
    match readSnapshot disk path with
    | .error message => s.fail message
    | .ok snapshot => s.checkSnapshot v overviews path snapshot settings

/-- Writes a settings file with the default settings into a directory. -/
def init (disk : Disk) (v : Verbosity) (dir : String) (force : Bool) : Session :=
  let s : Session := {}
  if disk.entry dir != .directory then s.fail ("Not a directory: '" ++ dir ++ "'")
  else
    let path := joinPath dir settingsFile
    let entry := disk.entry path
    if entry.isPresent && !force then
      s.fail ("Refusing to overwrite existing file '" ++ path ++ "' (use --force)")
    else
      match entry.writeFault? with
      | some reason => s.fail ("Failed to write '" ++ path ++ "': " ++ reason)
      | none => { s.conclude v ("Created " ++ path) with written := some (path, ({} : Settings).toText) }

def usage : String :=
  "Usage: yardcheck [OPTIONS] check <SNAPSHOT> [CHECK OPTIONS]\n" ++
  "       yardcheck [OPTIONS] init [DIR] [--force]\n" ++
  "\n" ++
  "Check options:\n" ++
  "      --profile <PROFILE>   normal, typed, strict or strong\n" ++
  "      --arity <ARITY>       ignore or report\n" ++
  "      --builtin <NAME>      Take a type name as declared\n" ++
  "\n" ++
  "Options:\n" ++
  "      --dump <KIND>         lineage, signatures or problems\n" ++
  "      --debug               Show all traces\n" ++
  "      --debug-trace <PART>  types, hierarchy, signature, rules or cli\n" ++
  "  -q, --quiet               Show nothing but problems\n" ++
  "  -v, --verbose             Show more\n" ++
  "  -h, --help                Show this text\n" ++
  "  -V, --version             Show the version\n"

/-- One run of the program. -/
def run (disk : Disk) (arguments : List String) : Session :=
  match CommandLine.request arguments with
  | .error e => { told := "error: " ++ e.message ++ "\n\n" ++ usage, status := 2 }
  | .ok .help => { shown := usage }
  | .ok (.version none) => { shown := "yardcheck 0.1.0\n" }
  | .ok (.version (some name)) => { shown := "yardcheck-" ++ name ++ " 0.1.0\n" }
  | .ok (.run (.check path profile arity builtins) v overviews) =>
    check disk v overviews path profile arity builtins
  | .ok (.run (.init dir force) v _) => init disk v dir force

end Session

end TagCheck
