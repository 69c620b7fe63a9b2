/-!
# Documents

A document is a JSON value that also remembers where its text could not be read. Whoever decodes it
meets the unreadable places in the order of the text, so a fault of the text is reported only if nothing
before it is wrong. Some texts can be passed over but not read, for instance a string with half of a
surrogate pair: a value that nobody asks for is only passed over.
-/

namespace TagCheck

/-- Why a text cannot be read: it ends too early, or a character is wrong. -/
inductive Fault where
  | truncated
  | malformed
  deriving DecidableEq, Repr

/-- A place where reading stops: the fault met on reading, the one met on passing over, and the one met
where the name of a choice is looked for. -/
structure Stop where
  read : Fault
  pass : Option Fault
  name : Fault
  deriving DecidableEq, Repr

/-- A place that can neither be read nor be passed over. -/
def Stop.hard (f : Fault) : Stop :=
  ⟨f, some f, f⟩

/-- The place with something that is clearly not a name. -/
def Stop.nameless (stop : Stop) : Stop :=
  { stop with name := .malformed }

/-- A JSON value. Whole numbers are those that fit 64 bits with or without a sign, all others are given
by their shortest text. -/
inductive Json where
  | null
  | bool (b : Bool)
  | int (n : Int)
  | float (text : String)
  | str (s : String)
  | arr (items : List Json) (stop : Option Stop)
  | obj (fields : List (String × Json)) (stop : Option Stop)
  | broken (stop : Stop)
  deriving Inhabited

namespace Json

/-- An array that was read to its end. -/
def array (items : List Json) : Json :=
  .arr items none

/-- An object that was read to its end. -/
def object (fields : List (String × Json)) : Json :=
  .obj fields none

def text? (s : Option String) : Json :=
  s.elim .null .str

mutual

/-- The first fault of a value, in the order of the text, among those that `f` sees. -/
def firstFault (f : Stop → Option Fault) : Json → Option Fault
  | .broken stop => f stop
  | .arr items stop => (firstFaultOfItems f items).or (stop.bind f)
  | .obj fields stop => (firstFaultOfFields f fields).or (stop.bind f)
  | _ => none

def firstFaultOfItems (f : Stop → Option Fault) : List Json → Option Fault
  | [] => none
  | v :: vs => (firstFault f v).or (firstFaultOfItems f vs)

def firstFaultOfFields (f : Stop → Option Fault) : List (String × Json) → Option Fault
  | [] => none
  | (_, v) :: fields => (firstFault f v).or (firstFaultOfFields f fields)

end

/-- The fault met on reading the whole value. -/
def readFault? (v : Json) : Option Fault :=
  v.firstFault fun stop => some stop.read

/-- The fault met on passing over the value. -/
def passFault? (v : Json) : Option Fault :=
  v.firstFault Stop.pass

mutual

/-- How deeply arrays and objects are nested in a value. -/
def depth : Json → Nat
  | .arr items _ => depthOfItems items + 1
  | .obj fields _ => depthOfFields fields + 1
  | _ => 0

def depthOfItems : List Json → Nat
  | [] => 0
  | v :: vs => max (depth v) (depthOfItems vs)

def depthOfFields : List (String × Json) → Nat
  | [] => 0
  | (_, v) :: fields => max (depth v) (depthOfFields fields)

end

/-- The place of a value that is nested too deeply: it can be passed over but not read. -/
def tooDeep (v : Json) : Stop :=
  ⟨.malformed, v.passFault?, .malformed⟩

mutual

/-- The value as far as it is nested to the given number of levels. -/
def within : Nat → Json → Json
  | 0, .arr items stop => .arr [] (some (tooDeep (.arr items stop)))
  | 0, .obj fields stop => .obj [] (some (tooDeep (.obj fields stop)))
  | levels + 1, .arr items stop => .arr (itemsWithin levels items) stop
  | levels + 1, .obj fields stop => .obj (fieldsWithin levels fields) stop
  | _, v => v

def itemsWithin (levels : Nat) : List Json → List Json
  | [] => []
  | v :: vs => within levels v :: itemsWithin levels vs

def fieldsWithin (levels : Nat) : List (String × Json) → List (String × Json)
  | [] => []
  | (key, v) :: fields => (key, within levels v) :: fieldsWithin levels fields

end

end Json

end TagCheck
