import TagCheck.Json.Error
import TagCheck.Json.Reader

/-!
# Decoding a document

Decoders for texts, numbers, lists, choices and records. Of several errors the first in the order of the
text is reported; fields that are missing are noticed at the end of their record, in the order of the
record's description. A record is written as an object, or as an array of its fields in that order, where
fields at the end may be left out if they have a default.
-/

namespace TagCheck

abbrev Decode (α : Type) := Json → Except DecodeError α

namespace Decode

/-- The error of a value that is not of the expected kind. -/
def mismatch {α : Type} (expected : String) : Decode α
  | .null => throw (.invalidType .null expected)
  | .bool b => throw (.invalidType (.bool b) expected)
  | .int n => throw (.invalidType (.int n) expected)
  | .float text => throw (.invalidType (.float text) expected)
  | .str s => throw (.invalidType (.str s) expected)
  | .arr _ _ => throw (.invalidType .sequence expected)
  | .obj _ _ => throw (.invalidType .map expected)
  | .broken stop => throw (.unreadable stop.read)

def text : Decode String
  | .str s => pure s
  | v => mismatch "a string" v

def word32 : Decode UInt32
  | .int n =>
    if 0 ≤ n ∧ n.toNat < 1 <<< 32 then pure n.toNat.toUInt32 else throw (.invalidValue n "u32")
  | v => mismatch "u32" v

/-- The error of a container that could not be read to its end. -/
def checkStop : Option Stop → Except DecodeError Unit
  | some stop => throw (.unreadable stop.read)
  | none => pure ()

/-- The items of an array, from the first on. -/
def items {α : Type} (decode : Decode α) : List Json → Except DecodeError (List α)
  | [] => pure []
  | v :: vs => do
    let a ← decode v
    let as ← items decode vs
    return a :: as

def list {α : Type} (decode : Decode α) : Decode (List α)
  | .arr vs stop => do
    let as ← items decode vs
    checkStop stop
    return as
  | v => mismatch "a sequence" v

/-- A value that may be null. -/
def nullable {α : Type} (decode : Decode α) : Decode (Option α)
  | .null => pure none
  | v => some <$> decode v

/-- The choice with a given name. -/
def chosen {α : Type} (table : List (String × α)) (name : String) : Except DecodeError α :=
  match table.lookup name with
  | some a => pure a
  | none => throw (.unknownVariant name (table.map Prod.fst))

/-- One of several named choices: its name, or an object that maps its name to null. -/
def choice {α : Type} (table : List (String × α)) : Decode α
  | .str name => chosen table name
  | .obj [] (some stop) => throw (.unreadable stop.name)
  | .obj ((name, v) :: more) stop => do
    let a ← chosen table name
    match v with
    | .null => pure ()
    | v => mismatch "unit" v
    match more, stop with
    | [], none => return a
    | [], some stop => throw (.unreadable stop.name)
    | _ :: _, _ => throw (.unreadable .malformed)
  | .broken stop => throw (.unreadable stop.name)
  | _ => throw (.unreadable .malformed)

end Decode

/-! ### Records -/

/-- An error together with its place among the fields of a record. -/
abbrev Failure := Nat × DecodeError

/-- The earlier of two failures. -/
def earlier (a b : Failure) : Failure :=
  if b.1 < a.1 then b else a

/-- The fields of a record as they are written, in order. `count` is the text for an array of the
fields, and absent for an object. -/
structure Written where
  fields : List (String × Json)
  count : Option String

/-- The place and the value of a field. -/
def Written.find? (w : Written) (name : String) : Option (Nat × Json) :=
  go 0 w.fields
where
  go (place : Nat) : List (String × Json) → Option (Nat × Json)
    | [] => none
    | (key, v) :: rest => if key == name then some (place, v) else go (place + 1) rest

/-- The failure of a field that is not written and has no default, the field number `n` of its record. -/
def Written.missing (w : Written) (n : Nat) (name : String) : Failure :=
  (w.fields.length + 1, match w.count with
    | none => .missingField name
    | some count => .invalidLength n count)

/-- A reader of some fields of a record. `read n` reads them as the fields from number `n` on. -/
structure Fields (α : Type) where
  names : List String
  read : Nat → Written → Except Failure α

namespace Fields

def map {α β : Type} (f : α → β) (r : Fields α) : Fields β where
  names := r.names
  read n w := (r.read n w).map f

/-- Two readers together: of two failures the earlier one counts. -/
def andThen {α β : Type} (f : Fields (α → β)) (r : Fields α) : Fields β where
  names := f.names ++ r.names
  read n w :=
    match f.read n w, r.read (n + f.names.length) w with
    | .ok f, .ok a => .ok (f a)
    | .ok _, .error e => .error e
    | .error e, .ok _ => .error e
    | .error e, .error e' => .error (earlier e e')

instance : Functor Fields where
  map := map

instance : Seq Fields where
  seq f r := andThen f (r ())

/-- One field; without a default it has to be written. -/
def one {α : Type} (name : String) (decode : Decode α) (default : Option α) : Fields α where
  names := [name]
  read n w :=
    match w.find? name with
    | some (place, v) => (decode v).mapError fun e => (place, e)
    | none =>
      match default with
      | some a => .ok a
      | none => .error (w.missing n name)

def required {α : Type} (name : String) (decode : Decode α) : Fields α :=
  one name decode none

def withDefault {α : Type} (name : String) (default : α) (decode : Decode α) : Fields α :=
  one name decode (some default)

/-- What goes wrong at the fields as such: a known field written twice, or an unknown one that cannot be
passed over. `seen` are the known fields before `place`. -/
def surroundings (names seen : List String) (place : Nat) : List (String × Json) → Option Failure
  | [] => none
  | (key, v) :: rest =>
    if names.contains key then
      if seen.contains key then some (place, .duplicateField key)
      else surroundings names (key :: seen) (place + 1) rest
    else
      match v.passFault? with
      | some fault => some (place, .unreadable fault)
      | none => surroundings names seen (place + 1) rest

/-- The record that a reader gives, unless some failure comes first. -/
def settle {α : Type} (outcome : Except Failure α) (failures : List (Option Failure)) :
    Except DecodeError α :=
  match outcome, failures.reduceOption with
  | .ok a, [] => .ok a
  | .ok _, e :: es => .error (es.foldl earlier e).2
  | .error e, es => .error (es.foldl earlier e).2

/-- A record written as an object. -/
def ofObject {α : Type} (r : Fields α) (fields : List (String × Json)) (stop : Option Stop) :
    Except DecodeError α :=
  settle (r.read 0 ⟨fields, none⟩)
    [surroundings r.names [] 0 fields, stop.map fun stop => (fields.length, .unreadable stop.read)]

/-- A record called `what` and written as an array; `surplus` is the error of more items than fields. -/
def ofArray {α : Type} (what : String) (surplus : Nat → DecodeError) (r : Fields α)
    (items : List Json) (stop : Option Stop) : Except DecodeError α :=
  let size := r.names.length
  let unit := if size == 1 then " element" else " elements"
  let extra : Option Failure :=
    if size < items.length then some (size, surplus items.length)
    else stop.map fun stop => (items.length, .unreadable stop.read)
  settle (r.read 0 ⟨r.names.zip items, some (what ++ " with " ++ toString size ++ unit)⟩) [extra]

/-- A record called `what` in either form. -/
def decode {α : Type} (what : String) (r : Fields α) : Decode α
  | .obj fields stop => r.ofObject fields stop
  | .arr items stop => r.ofArray ("struct " ++ what) (fun _ => .unreadable .malformed) items stop
  | v => Decode.mismatch ("struct " ++ what) v

end Fields

end TagCheck
