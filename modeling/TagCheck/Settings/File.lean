import TagCheck.Settings.Basic
import TagCheck.Toml.Reader
import TagCheck.Toml.Writer

/-!
# Settings files

A settings file is a TOML document with a section for the checks and one for the index. What it does not
give has its default, and keys that mean nothing are passed over. A section may also be given as the array
of its values in order, and a word with a choice of values as a table whose only key is that word.
-/

namespace TagCheck

namespace Settings

/-- The values of a section for its keys. A date counts as a section with none of them. -/
def valuesOf (keys : List String) : Toml → Except TomlError (List (Option Toml))
  | .table entries => .ok (keys.map fun key => entries.lookup key)
  | .array items => .ok (keys.zipIdx.map fun (_, n) => items[n]?)
  | .date _ => .ok (keys.map fun _ => none)
  | _ => .error (.wrongType "a section")

def asWord : Toml → Except TomlError String
  | .string s => .ok s
  | .table [(word, .table [])] | .table [(word, .array [])] => .ok word
  | _ => .error (.wrongType "a word")

/-- One of a choice of words. -/
def asChoice {α : Type} (table : List (String × α)) (v : Toml) : Except TomlError α := do
  match table.lookup (← asWord v) with
  | some a => return a
  | none => throw (.wrongType ("one of " ++ ", ".intercalate (table.map (·.1))))

def asText : Toml → Except TomlError String
  | .string s => .ok s
  | _ => .error (.wrongType "a string")

def asItems {α : Type} (asItem : Toml → Except TomlError α) : Toml → Except TomlError (List α)
  | .array items => items.mapM asItem
  | _ => .error (.wrongType "an array")

/-- A value, or its default where none is given. -/
def given {α : Type} (decode : Toml → Except TomlError α) (default : α) :
    Option Toml → Except TomlError α
  | some v => decode v
  | none => .ok default

/-- The settings with those of the section for the checks. -/
def withChecks (s : Settings) (v : Toml) : Except TomlError Settings := do
  match ← valuesOf ["profile", "arity", "skip"] v with
  | [profile, arity, skip] => do
    let profile ← given (asChoice Profile.table) .normal profile
    let arity ← given (asChoice ArityPolicy.table) .ignore arity
    let skip ← given (asItems (asChoice RuleFamily.table)) [] skip
    return { s with profile := profile, arity := arity, skip := skip }
  | _ => return s

/-- The settings with those of the section for the index. -/
def withIndex (s : Settings) (v : Toml) : Except TomlError Settings := do
  match ← valuesOf ["builtins"] v with
  | [builtins] => do
    let builtins ← given (asItems asText) [] builtins
    return { s with builtins := builtins }
  | _ => return s

/-- The settings of a document. -/
def ofToml (v : Toml) : Except TomlError Settings := do
  match ← valuesOf ["check", "index"] v with
  | [check, index] => do
    let s ← given (withChecks {}) {} check
    given (withIndex s) s index
  | _ => return {}

/-- The settings that the text of a settings file gives. -/
def ofText (text : String) : Except TomlError Settings :=
  (Toml.ofText text).bind ofToml

/-- The text of a settings file. -/
def toText (s : Settings) : String :=
  "[check]\n" ++
  "profile = " ++ Toml.quoted s.profile.name ++ "\n" ++
  "arity = " ++ Toml.quoted s.arity.name ++ "\n" ++
  "skip = " ++ Toml.quotedList (s.skip.map (·.name)) ++ "\n" ++
  "\n" ++
  "[index]\n" ++
  "builtins = " ++ Toml.quotedList s.builtins ++ "\n"

end Settings

end TagCheck
