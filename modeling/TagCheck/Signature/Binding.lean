import TagCheck.Signature.Basic

/-!
# Binding arguments to parameters

Positional arguments are bound in order. The required parameters come first in importance: only what is
left over after them goes to the optional parameters, and what is still left over to the rest parameter.
Keyword arguments are bound by name; a method without keyword parameters takes them as one hash, which is
the last positional argument.
-/

namespace TagCheck

/-- An argument by its place among the positional or the keyword arguments. -/
inductive ArgPlace where
  | positional (n : Nat)
  | keyword (n : Nat)
  deriving DecidableEq, Repr

structure Argument where
  place : ArgPlace
  value : Expr

structure Binding where
  pairs : List (Parameter × Argument)
  /-- The required keyword parameters that no argument names. -/
  missing : List Parameter
  /-- The arguments that no parameter accepts, in words. -/
  unbound : List String

namespace Binding

/-- A positional argument, or nothing for the hash of keyword arguments. -/
abbrev Slot := Option Argument

/-- The positional arguments in order, the hash last. -/
def slots (args : List Expr) (hash : Bool) : List Slot :=
  args.zipIdx.map (fun (value, n) => some ⟨.positional n, value⟩) ++ if hash then [none] else []

/-- How many slots a parameter takes, and how many optional parameters may still take one. -/
def share (restCount optionalLeft : Nat) : ParamKind → Nat × Nat
  | .required => (1, optionalLeft)
  | .optional => if optionalLeft > 0 then (1, optionalLeft - 1) else (0, optionalLeft)
  | .rest => (restCount, optionalLeft)
  | _ => (0, optionalLeft)

/-- The slots dealt out to the parameters in order, and those left over. -/
def deal (restCount : Nat) :
    Nat → List Parameter → List Slot → List (Parameter × Argument) × List Slot
  | _, [], slots => ([], slots)
  | optionalLeft, p :: ps, slots =>
    let (taken, optionalLeft) := share restCount optionalLeft p.kind
    let (pairs, leftover) := deal restCount optionalLeft ps (slots.drop taken)
    ((slots.take taken).reduceOption.map (fun arg => (p, arg)) ++ pairs, leftover)

/-- A slot that is left over, in words. -/
def slotText : Slot → String
  | some ⟨.positional n, _⟩ => "argument " ++ toString (n + 1)
  | _ => "keyword arguments"

/-- The parameter that a keyword argument goes to: one of its name, or else the first that takes all. -/
def keywordParam? (params : List Parameter) (name : String) : Option Parameter :=
  (params.find? fun p => p.kind.isKeyword && p.name == name).or
    (params.find? fun p => p.kind == .doubleRest)

/-- The keyword arguments dealt out by name, and those that no parameter accepts. -/
def dealKeywords (params : List Parameter) : List (KeywordArg × Nat) →
    List (Parameter × Argument) × List String
  | [] => ([], [])
  | (arg, n) :: rest =>
    let (pairs, unbound) := dealKeywords params rest
    match keywordParam? params arg.name with
    | some p => ((p, ⟨.keyword n, arg.value⟩) :: pairs, unbound)
    | none => (pairs, (arg.name ++ ":") :: unbound)

end Binding

open Binding in
/-- The arguments of a call bound to the parameters. -/
def Signature.bind (s : Signature) (args : List Expr) (kwargs : List KeywordArg) : Binding :=
  let hash := !kwargs.isEmpty && !s.hasKeywords
  let slots := slots args hash
  let spare := slots.length - s.params.countP (fun p => p.kind == .required)
  let optionalCount := min spare (s.params.countP fun p => p.kind == .optional)
  let (pairs, leftover) := deal (spare - optionalCount) optionalCount s.params slots
  let (keywordPairs, keywordUnbound) := if hash then ([], []) else dealKeywords s.params kwargs.zipIdx
  { pairs := pairs ++ keywordPairs
    missing := s.params.filter fun p => p.kind == .keyword && !kwargs.any fun k => k.name == p.name
    unbound := leftover.map slotText ++ keywordUnbound }

end TagCheck
