/-!
# TOML values

A TOML document is a table. While a document is read its tables also carry how they came about, because
that decides who may add to them: a table that only stands above a headed table may still get a header of
its own, and one made by dotted keys may only grow by dotted keys.
-/

namespace TagCheck

inductive Toml where
  | string (s : String)
  /-- A number or a truth value, by its text. -/
  | scalar (text : String)
  /-- A date, a time or both, by its text. -/
  | date (text : String)
  | array (items : List Toml)
  | table (entries : List (String × Toml))

inductive TomlError where
  | malformed
  | duplicateKey (key : String)
  | notATable (key : String)
  | wrongType (expected : String)
  deriving DecidableEq, Repr

def TomlError.message : TomlError → String
  | .malformed => "not a TOML document"
  | .duplicateKey key => "duplicate key `" ++ key ++ "`"
  | .notATable key => "`" ++ key ++ "` is not a table"
  | .wrongType expected => "expected " ++ expected

/-- A key, whose parts before the last one name the tables that lead to it. -/
structure TomlKey where
  path : List String
  last : String
  deriving DecidableEq, Repr

/-- All parts of a key. -/
def TomlKey.parts (key : TomlKey) : List String :=
  key.path ++ [key.last]

mutual

/-- What a key stands for while the document is read. -/
inductive TomlItem where
  | value (v : Toml)
  | table (t : TomlTable)
  /-- The tables of one array, the latest first. -/
  | tables (ts : List TomlTable)

structure TomlTable where
  entries : List (String × TomlItem)
  /-- The table has no header of its own. -/
  implicit : Bool
  /-- The table was made by dotted keys. -/
  dotted : Bool

end

namespace TomlTable

def empty : TomlTable :=
  ⟨[], false, false⟩

def find? (t : TomlTable) (key : String) : Option TomlItem :=
  t.entries.lookup key

/-- The entries with that of a key replaced, or added at the end. -/
def setEntry (key : String) (item : TomlItem) : List (String × TomlItem) → List (String × TomlItem)
  | [] => [(key, item)]
  | (k, i) :: rest => if k == key then (k, item) :: rest else (k, i) :: setEntry key item rest

def set (t : TomlTable) (key : String) (item : TomlItem) : TomlTable :=
  { t with entries := setEntry key item t.entries }

/-- Changes the table at the end of a path. Tables that are missing on the way are made, and of an array of
tables the latest is taken. Dotted keys do not enter a table that has a header. -/
def alter (dotted : Bool) (f : TomlTable → Except TomlError TomlTable) :
    List String → TomlTable → Except TomlError TomlTable
  | [], t => f t
  | key :: path, t =>
    match t.find? key with
    | none => do
      let sub ← alter dotted f path ⟨[], true, dotted⟩
      return t.set key (.table sub)
    | some (.table sub) =>
      if dotted && !sub.implicit then throw (.duplicateKey key)
      else do
        let sub ← alter dotted f path sub
        return t.set key (.table sub)
    | some (.tables (sub :: rest)) => do
      let sub ← alter dotted f path sub
      return t.set key (.tables (sub :: rest))
    | some _ => throw (.notATable key)

/-- The table with a value at a key that may be dotted. -/
def define (key : TomlKey) (v : Toml) (t : TomlTable) : Except TomlError TomlTable :=
  alter true (fun t =>
    if t.dotted == key.path.isEmpty then throw (.duplicateKey key.last)
    else if (t.find? key.last).isSome then throw (.duplicateKey key.last)
    else return t.set key.last (.value v)) key.path t

/-- The table with the header of a table below it. -/
def openTable (key : TomlKey) (t : TomlTable) : Except TomlError TomlTable :=
  alter false (fun t =>
    match t.find? key.last with
    | none => return t.set key.last (.table empty)
    | some (.table sub) =>
      if sub.implicit && !sub.dotted then return t.set key.last (.table { sub with implicit := false })
      else throw (.duplicateKey key.last)
    | some _ => throw (.duplicateKey key.last)) key.path t

/-- The table with the header of one more table in an array below it. -/
def openRow (key : TomlKey) (t : TomlTable) : Except TomlError TomlTable :=
  alter false (fun t =>
    match t.find? key.last with
    | none => return t.set key.last (.tables [empty])
    | some (.tables rows) => return t.set key.last (.tables (empty :: rows))
    | some _ => throw (.duplicateKey key.last)) key.path t

end TomlTable

mutual

def TomlItem.toToml : TomlItem → Toml
  | .value v => v
  | .table t => t.toToml
  | .tables ts => .array (tomlOfRows ts).reverse

def TomlTable.toToml : TomlTable → Toml
  | ⟨entries, _, _⟩ => .table (tomlOfEntries entries)

def tomlOfRows : List TomlTable → List Toml
  | [] => []
  | t :: ts => t.toToml :: tomlOfRows ts

def tomlOfEntries : List (String × TomlItem) → List (String × Toml)
  | [] => []
  | (key, item) :: rest => (key, item.toToml) :: tomlOfEntries rest

end

end TagCheck
