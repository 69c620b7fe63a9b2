import TagCheck.Index.Basic

/-!
# Lineages

The lineage of a type is the type itself, its superclasses from the nearest on, and then the lineages of
the modules included along that chain, in order. What occurs twice keeps its first place. The lineages of
all types are found in one walk: a finished lineage is kept and used again, and a type that is met while
its own lineage is still under way adds nothing there. A lineage cut short in this way is kept only for
the type that the walk started from.
-/

namespace TagCheck

namespace Index

/-- The type and its superclasses up to the first that is already among them. -/
def climb (ix : Index) : Nat → List String → String → List String
  | 0, _, _ => []
  | fuel + 1, seen, name =>
    if seen.contains name then []
    else
      match ix.superclass? name with
      | none => [name]
      | some superclass => name :: climb ix fuel (name :: seen) superclass

/-- The chain of superclasses of a type, from the type itself on. All but its last name are in the
index, which bounds its length. -/
def superclassChain (ix : Index) (name : String) : List String :=
  ix.climb (ix.types.length + 2) [] name

/-- The modules included along the chain of superclasses, in order. -/
def mixinsAlong (ix : Index) (name : String) : List String :=
  (ix.superclassChain name).flatMap ix.mixins

end Index

/-- The lineages found so far, and the types whose lineage is under way. -/
structure Progress where
  finished : List (String × List String) := []
  visiting : List String := []

/-- The outcome of a walk: a lineage, whether it is complete, and the progress made. -/
structure Walk where
  lineage : List String
  complete : Bool
  progress : Progress

/-- The outcome where nothing has to be walked: the lineage is known, the type is not in the index, or its
lineage is under way. -/
def Progress.answer? (ix : Index) (p : Progress) (name : String) : Option Walk :=
  match p.finished.lookup name with
  | some lineage => some ⟨lineage, true, p⟩
  | none =>
    if !ix.contains name then some ⟨[], true, p⟩
    else if p.visiting.contains name then some ⟨[], false, p⟩
    else none

namespace Walk

/-- A walk at its start. -/
def enter (ix : Index) (p : Progress) (name : String) : Walk :=
  ⟨ix.superclassChain name, true, { p with visiting := name :: p.visiting }⟩

/-- A walk with the outcome of a further one added. -/
def join (w sub : Walk) : Walk :=
  ⟨appendNew w.lineage sub.lineage, w.complete && sub.complete, sub.progress⟩

/-- A walk at its end. The lineage is kept if it is complete or nothing else is under way. -/
def leave (w : Walk) (name : String) : Walk :=
  let visiting := w.progress.visiting.erase name
  let finished :=
    if w.complete || visiting.isEmpty then (name, w.lineage) :: w.progress.finished
    else w.progress.finished
  ⟨w.lineage, w.complete, ⟨finished, visiting⟩⟩

end Walk

/-- The lineage of a type, given the lineages found so far. -/
def walk (ix : Index) : Nat → Progress → String → Walk
  | 0, p, _ => ⟨[], false, p⟩
  | fuel + 1, p, name =>
    match p.answer? ix name with
    | some w => w
    | none =>
      let w := (ix.mixinsAlong name).foldl (fun w mixin => w.join (walk ix fuel w.progress mixin))
        (Walk.enter ix p name)
      w.leave name

/-- The progress after walks from several types in turn. No walk nests deeper than there are types. -/
def walkAll (ix : Index) (names : List String) : Progress :=
  names.foldl (fun p name => (walk ix (ix.types.length + 1) p name).progress) {}

/-- The types of an index with their lineages. -/
structure Ancestry where
  index : Index
  lineages : List (String × List String)

namespace Ancestry

/-- The lineages found by walks from the given names, in their order. -/
def inOrder (ix : Index) (names : List String) : Ancestry :=
  ⟨ix, (walkAll ix names).finished⟩

def ofIndex (ix : Index) : Ancestry :=
  inOrder ix ix.typeNames

/-- Whether the lineage of a type is known. -/
def knows (a : Ancestry) (name : String) : Bool :=
  (a.lineages.lookup name).isSome

/-- The lineage of a type; an unknown one has none. -/
def lineage (a : Ancestry) (name : String) : List String :=
  (a.lineages.lookup name).getD []

/-- The names of the types with a lineage in increasing order. -/
def typeNames (a : Ancestry) : List String :=
  (a.lineages.map Prod.fst).mergeSort fun a b => decide (a ≤ b)

/-- Whether the instances of a type have a method; nothing is said of an unknown type. -/
def respondsTo? (a : Ancestry) (name method : String) : Option Bool :=
  if a.knows name then
    some ((a.lineage name).any fun owner => a.index.declares owner method .onInstance)
  else none

/-- The first tag for a member along the lineage of a type, and the type that writes it. -/
def nearestTag? (a : Ancestry) (name member : String) (scope : MethodScope) (selector : TagSelector)
    (skipSelf : Bool) : Option (String × String) :=
  ((a.lineage name).drop (if skipSelf then 1 else 0)).findSome? fun owner =>
    (a.index.tag? owner member scope selector).map fun text => (owner, text)

end Ancestry

end TagCheck
