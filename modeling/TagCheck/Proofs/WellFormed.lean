import TagCheck.Inference
import TagCheck.Proofs.Grammar
import TagCheck.Proofs.Names

/-!
# Well-formed types

A type is well formed if it is absent, void or a list of one or more alternatives, where each alternative has as many
parameters as its shape takes and each parameter is again such a list, never absent or void.  Whatever is read from a
text is well formed, and so is whatever comes of well-formed types by merging them, by replacing names or by resolving.
What is inferred is open or a list of alternatives (`Inferred.Proper`), so that nothing passes a comparison for want of
alternatives.
-/

namespace TagCheck

/-! ### Well-formed types -/

/-- The shape goes with the number of parameters. -/
def Shape.Takes : Shape → Nat → Prop
  | .list, n => n ≤ 1
  | .keyValue, n => n = 2
  | .fixed, n => 1 ≤ n

instance : (shape : Shape) → (n : Nat) → Decidable (shape.Takes n)
  | .list, n => inferInstanceAs (Decidable (n ≤ 1))
  | .keyValue, n => inferInstanceAs (Decidable (n = 2))
  | .fixed, n => inferInstanceAs (Decidable (1 ≤ n))

mutual

/-- The alternative has as many parameters as its shape takes, and all of them are lists of alternatives. -/
def Variant.WellFormed : Variant → Prop
  | ⟨_, params, shape, _⟩ => shape.Takes params.length ∧ UnionParams params

/-- The type is a list of one or more well-formed alternatives. -/
def DocType.IsUnion : DocType → Prop
  | .union vs => vs ≠ [] ∧ WellFormedVariants vs
  | _ => False

def WellFormedVariants : List Variant → Prop
  | [] => True
  | v :: vs => v.WellFormed ∧ WellFormedVariants vs

def UnionParams : List DocType → Prop
  | [] => True
  | t :: ts => t.IsUnion ∧ UnionParams ts

end

mutual

def Variant.decWellFormed : (v : Variant) → Decidable v.WellFormed
  | ⟨_, params, shape, _⟩ =>
    have := decUnionParams params
    inferInstanceAs (Decidable (shape.Takes params.length ∧ UnionParams params))

def DocType.decIsUnion : (t : DocType) → Decidable t.IsUnion
  | .absent | .void => isFalse fun h => h
  | .union vs =>
    have := decWellFormedVariants vs
    inferInstanceAs (Decidable (vs ≠ [] ∧ WellFormedVariants vs))

def decWellFormedVariants : (vs : List Variant) → Decidable (WellFormedVariants vs)
  | [] => isTrue trivial
  | v :: vs =>
    have := v.decWellFormed
    have := decWellFormedVariants vs
    inferInstanceAs (Decidable (v.WellFormed ∧ WellFormedVariants vs))

def decUnionParams : (ts : List DocType) → Decidable (UnionParams ts)
  | [] => isTrue trivial
  | t :: ts =>
    have := t.decIsUnion
    have := decUnionParams ts
    inferInstanceAs (Decidable (t.IsUnion ∧ UnionParams ts))

end

instance (t : DocType) : Decidable t.IsUnion := t.decIsUnion

/-- The type is absent, void or a list of one or more well-formed alternatives. -/
def DocType.WellFormed (t : DocType) : Prop :=
  t = .absent ∨ t = .void ∨ t.IsUnion

instance (t : DocType) : Decidable t.WellFormed :=
  inferInstanceAs (Decidable (_ ∨ _ ∨ _))

theorem wellFormedVariants_iff {vs : List Variant} : WellFormedVariants vs ↔ ∀ v ∈ vs, v.WellFormed := by
  induction vs with
  | nil => simp [WellFormedVariants]
  | cons v vs ih => simp [WellFormedVariants, ih]

namespace DocType

theorem isUnion_union_iff {vs : List Variant} : (union vs).IsUnion ↔ vs ≠ [] ∧ ∀ v ∈ vs, v.WellFormed := by
  rw [IsUnion, wellFormedVariants_iff]

theorem IsUnion.wellFormed {t : DocType} (h : t.IsUnion) : t.WellFormed :=
  Or.inr (Or.inr h)

theorem wellFormed_absent : absent.WellFormed :=
  Or.inl rfl

theorem wellFormed_void : void.WellFormed :=
  Or.inr (Or.inl rfl)

theorem isUnion_named (name : String) : (named name).IsUnion := by
  simp [named, Variant.named, IsUnion, WellFormedVariants, Variant.WellFormed, Shape.Takes, UnionParams]

theorem isUnion_classOf (name : String) : (classOf name).IsUnion := by
  simp [classOf, IsUnion, WellFormedVariants, Variant.WellFormed, Shape.Takes, UnionParams, isUnion_named]

end DocType

/-! ### Merging -/

namespace DocType

theorem IsUnion.merge {t u : DocType} (ht : t.IsUnion) (hu : u.IsUnion) : (t.merge u).IsUnion := by
  cases t with
  | absent => exact ht.elim
  | void => exact ht.elim
  | union vs =>
    cases u with
    | absent => exact hu.elim
    | void => exact hu.elim
    | union ws =>
      obtain ⟨hne, hvs⟩ := isUnion_union_iff.1 ht
      obtain ⟨-, hws⟩ := isUnion_union_iff.1 hu
      refine isUnion_union_iff.2 ⟨?_, ?_⟩
      · -- the first list stays in front
        exact fun h => hne (List.prefix_nil.1 (h ▸ prefix_appendNew vs ws))
      · intro v hv
        rcases mem_appendNew.1 hv with hv | hv
        · exact hvs v hv
        · exact hws v hv

theorem WellFormed.merge {t u : DocType} (ht : t.WellFormed) (hu : u.WellFormed) : (t.merge u).WellFormed := by
  rcases ht with rfl | rfl | ht
  · exact hu
  · rw [void_merge]
    exact wellFormed_void
  · rcases hu with rfl | rfl | hu
    · rw [merge_absent]
      exact ht.wellFormed
    · rw [merge_void]
      exact wellFormed_void
    · exact (ht.merge hu).wellFormed

theorem wellFormed_foldl_merge {t : DocType} (ht : t.WellFormed) {ts : List DocType} (hts : ∀ u ∈ ts, u.WellFormed) :
    (ts.foldl merge t).WellFormed := by
  induction ts generalizing t with
  | nil => exact ht
  | cons u ts ih =>
    rw [List.forall_mem_cons] at hts
    exact ih (ht.merge hts.1) hts.2

end DocType

/-! ### Changing names -/

theorem length_mapNamesOfParams (f : String → String) (ts : List DocType) :
    (mapNamesOfParams f ts).length = ts.length := by
  induction ts with
  | nil => rfl
  | cons t ts ih => simp [mapNamesOfParams, ih]

theorem mapNamesOfVariants_eq_nil_iff {f : String → String} {vs : List Variant} :
    mapNamesOfVariants f vs = [] ↔ vs = [] := by
  cases vs <;> simp [mapNamesOfVariants]

mutual

theorem Variant.wellFormed_mapNames (f : String → String) : (v : Variant) → ((v.mapNames f).WellFormed ↔ v.WellFormed)
  | ⟨name, params, shape, nilable⟩ => by
    simp only [Variant.mapNames, Variant.WellFormed, length_mapNamesOfParams, unionParams_mapNames f params]

theorem DocType.isUnion_mapNames (f : String → String) : (t : DocType) → ((t.mapNames f).IsUnion ↔ t.IsUnion)
  | .absent | .void => Iff.rfl
  | .union vs => by
    simp only [DocType.mapNames, DocType.IsUnion, ne_eq, mapNamesOfVariants_eq_nil_iff, wellFormedVariants_mapNames f vs]

theorem wellFormedVariants_mapNames (f : String → String) : (vs : List Variant) →
    (WellFormedVariants (mapNamesOfVariants f vs) ↔ WellFormedVariants vs)
  | [] => Iff.rfl
  | v :: vs => by
    simp only [mapNamesOfVariants, WellFormedVariants, v.wellFormed_mapNames f, wellFormedVariants_mapNames f vs]

theorem unionParams_mapNames (f : String → String) : (ts : List DocType) →
    (UnionParams (mapNamesOfParams f ts) ↔ UnionParams ts)
  | [] => Iff.rfl
  | t :: ts => by
    simp only [mapNamesOfParams, UnionParams, t.isUnion_mapNames f, unionParams_mapNames f ts]

end

theorem DocType.wellFormed_mapNames (f : String → String) (t : DocType) : (t.mapNames f).WellFormed ↔ t.WellFormed := by
  have habsent : t.mapNames f = .absent ↔ t = .absent := by cases t <;> simp [mapNames]
  have hvoid : t.mapNames f = .void ↔ t = .void := by cases t <;> simp [mapNames]
  rw [WellFormed, WellFormed, habsent, hvoid, t.isUnion_mapNames f]

/-! ### Resolving -/

/-- The type that a resolution gives, or gives back, is well formed. -/
def Resolution.WellFormed : Resolution → Prop
  | .resolved t => t.WellFormed
  | .unresolved t _ => t.WellFormed

theorem Scope.wellFormed_resolve (s : Scope) {t : DocType} (h : t.WellFormed) : (s.resolve t).WellFormed := by
  cases hres : s.resolve t with
  | resolved type =>
    obtain ⟨-, rfl⟩ := Scope.resolve_eq_resolved_iff.1 hres
    exact (t.wellFormed_mapNames s.fullName).2 h
  | unresolved type missing =>
    obtain ⟨rfl, -⟩ := Scope.missing_of_resolve hres
    exact h

/-! ### Reading -/

/-- What a phrase stands for is well formed. -/
def Phrase.WellFormed : (k : Phrase) → k.Meaning → Prop
  | .alternative, v => v.WellFormed
  | .parameters, (params, shape) => shape.Takes params.length ∧ UnionParams params
  | .union _, vs => (DocType.union vs).IsUnion
  | .elements, types => 1 ≤ types.length ∧ UnionParams types

/-- The grammar has no phrase whose meaning is not well formed. -/
theorem wellFormed_of_derives {k : Phrase} {ts : List Token} {m : k.Meaning} (h : Derives k ts m) : k.WellFormed m := by
  induction h with
  | alternative _ ihParams => exact ihParams
  | bare => exact ⟨Nat.zero_le 1, trivial⟩
  | list _ ih => exact ⟨Nat.le_refl 1, ih, trivial⟩
  | keyValue _ _ ihKeys ihValues => exact ⟨rfl, ihKeys, ihValues, trivial⟩
  | fixed _ ih => exact ih
  | one _ ih => exact ⟨by simp, ih, trivial⟩
  | more _ _ _ ihFirst ihRest => exact ⟨by simp, ihFirst, ihRest.2⟩
  | lastElement _ ih => exact ⟨Nat.le_refl 1, ih, trivial⟩
  | nextElement _ _ ihFirst ihRest => exact ⟨by simp, ihFirst, ihRest.2⟩

namespace DocType

theorem wellFormed_of_denotes {cs : List Char} {t : DocType} (h : Denotes cs t) : t.WellFormed := by
  cases h with
  | absent => exact wellFormed_absent
  | void => exact wellFormed_void
  | union h =>
    obtain ⟨ts, -, hderives⟩ := h
    have hunion : (union _).IsUnion := wellFormed_of_derives hderives
    exact hunion.wellFormed
  | other => exact (isUnion_named _).wellFormed

theorem wellFormed_parse (text : String) : (parse text).WellFormed := by
  obtain ⟨t, ht⟩ := exists_denotes (trimChars text.toList)
  rw [parse_eq_of_denotes (trimsTo_trimChars text.toList) ht]
  exact wellFormed_of_denotes ht

theorem wellFormed_parseAll (texts : List String) : (parseAll texts).WellFormed := by
  refine wellFormed_foldl_merge wellFormed_absent ?_
  intro t ht
  obtain ⟨text, -, rfl⟩ := List.mem_map.1 ht
  exact wellFormed_parse text

theorem WellFormed.replaceSelf {t : DocType} (h : t.WellFormed) (name : String) : (t.replaceSelf name).WellFormed :=
  (t.wellFormed_mapNames _).2 h

end DocType

/-! ### Inference -/

namespace Inferred

/-- The type is open or a list of one or more well-formed alternatives, but not absent or void. -/
inductive Proper : Inferred → Prop
  | undetermined : Proper .undetermined
  | known {t : DocType} (h : t.IsUnion) : Proper (.known t)

theorem proper_ofType {t : DocType} (h : t.WellFormed) : (ofType t).Proper := by
  rcases h with rfl | rfl | h
  · exact .undetermined
  · exact .undetermined
  · cases t with
    | absent => exact .undetermined
    | void => exact .undetermined
    | union vs => exact .known h

theorem proper_named (name : String) : (named name).Proper :=
  .known (DocType.isUnion_named name)

theorem Proper.join {i j : Inferred} (hi : i.Proper) (hj : j.Proper) : (i.join j).Proper := by
  cases hi with
  | undetermined => exact .undetermined
  | known ht =>
    cases hj with
    | undetermined => exact .undetermined
    | known hu => exact .known (ht.merge hu)

theorem Proper.foldl_join {α : Type} {f : α → Inferred} (hf : ∀ a, (f a).Proper) {i : Inferred} (hi : i.Proper)
    (as : List α) : (as.foldl (fun i a => i.join (f a)) i).Proper := by
  induction as generalizing i with
  | nil => exact hi
  | cons a as ih => exact ih (hi.join (hf a))

theorem proper_of_resolve {s : Scope} {t t' : DocType} (h : t.WellFormed) (hres : s.resolve t = .resolved t') :
    (ofType t').Proper := by
  have hwellFormed := s.wellFormed_resolve h
  rw [hres] at hwellFormed
  exact proper_ofType hwellFormed

end Inferred

namespace Ancestry

open Inferred (proper_named proper_of_resolve)

theorem documentedReturn_proper (a : Ancestry) (n : Nat) : (a.documentedReturn n).Proper := by
  unfold documentedReturn
  split
  next => exact .undetermined
  next m _ =>
    dsimp only
    split
    next => exact .undetermined
    next text _ =>
      have hparse := DocType.wellFormed_parse text
      split
      next t hres =>
        refine proper_of_resolve ?_ hres
        cases m.owner with
        | none => exact hparse
        | some owner => exact hparse.replaceSelf owner
      next => exact .undetermined

theorem documentedReturns_proper (a : Ancestry) (ns : List Nat) : (a.documentedReturns ns).Proper := by
  cases ns with
  | nil => exact .undetermined
  | cons n ns => exact (a.documentedReturn_proper n).foldl_join a.documentedReturn_proper ns

theorem inferNew_proper (a : Ancestry) (within : Option String) (name : String) : (a.inferNew within name).Proper := by
  unfold inferNew
  split
  next name _ =>
    split
    next => exact .undetermined
    next => exact proper_named name
  next => exact .undetermined

theorem infer_proper (a : Ancestry) (within : Option String) (e : Expr) : (a.infer within e).Proper := by
  fun_cases Ancestry.infer a within e with
  | case1 typeName => exact proper_named typeName
  | case2 => exact proper_named "nil"
  | case3 name => exact a.inferNew_proper within name
  | case4 name =>
    cases (a.scope within).qualify? name with
    | none => exact .undetermined
    | some name => exact .known (DocType.isUnion_classOf name)
  | case5 =>
    cases within with
    | none => exact .undetermined
    | some name => exact proper_named name
  | case6 text t hres => exact proper_of_resolve (DocType.wellFormed_parse text) hres
  | case7 => exact .undetermined
  | case8 name => exact a.inferNew_proper within name
  | case9 name method => exact a.documentedReturns_proper _
  | case10 receiver method => exact a.documentedReturns_proper _
  | case11 method => exact a.documentedReturns_proper _
  | case12 => exact .undetermined

/-- To stop at an undetermined type is to join all expressions: nothing determines it again. -/
theorem inferRest_eq_foldl (a : Ancestry) (within : Option String) (i : Inferred) (es : List Expr) :
    a.inferRest within i es = es.foldl (fun i e => i.join (a.infer within e)) i := by
  induction es generalizing i with
  | nil => rfl
  | cons e es ih =>
    cases i with
    | undetermined =>
      rw [List.foldl_cons, Inferred.undetermined_join, ← ih]
      cases es <;> rfl
    | known t => exact ih _

theorem inferBody_proper (a : Ancestry) (n : Nat) : (a.inferBody n).Proper := by
  unfold inferBody
  split
  next => exact .undetermined
  next m _ =>
    split
    next => exact proper_named "nil"
    next e es _ =>
      rw [inferRest_eq_foldl]
      exact (a.infer_proper m.owner e).foldl_join (a.infer_proper m.owner) es

end Ancestry

/-! ### All operations -/

/-- Whatever is read, merged, renamed or resolved is well formed, and whatever is inferred is open or a list of one or
more well-formed alternatives. -/
theorem wellFormed_throughout :
    (∀ text, (DocType.parse text).WellFormed) ∧
    (∀ texts, (DocType.parseAll texts).WellFormed) ∧
    (∀ t u : DocType, t.WellFormed → u.WellFormed → (t.merge u).WellFormed) ∧
    (∀ (t : DocType) (name : String), t.WellFormed → (t.replaceSelf name).WellFormed) ∧
    (∀ (s : Scope) (t : DocType), t.WellFormed → (s.resolve t).WellFormed) ∧
    (∀ (a : Ancestry) (within : Option String) (e : Expr), (a.infer within e).Proper) ∧
    (∀ (a : Ancestry) (n : Nat), (a.inferBody n).Proper) ∧
    (∀ i j : Inferred, i.Proper → j.Proper → (i.join j).Proper) := by
  refine ⟨DocType.wellFormed_parse, DocType.wellFormed_parseAll, ?_, ?_, ?_, Ancestry.infer_proper,
    Ancestry.inferBody_proper, ?_⟩
  · exact fun t u ht hu => ht.merge hu
  · exact fun t name ht => ht.replaceSelf name
  · exact fun s t ht => s.wellFormed_resolve ht
  · exact fun i j hi hj => hi.join hj

/-- A pair whose second element is a list of the type itself or nil. -/
def pairWithSelf : DocType :=
  .union [⟨"Array", [.named "Integer", .union [⟨"Array", [.union [.named "self", .named "nil"]], .list, true⟩]], .fixed,
    false⟩]

theorem wellFormed_throughout_pairWithSelf :
    pairWithSelf.WellFormed ∧ (DocType.union [hashOfArrays]).WellFormed ∧
      (pairWithSelf.merge (.union [hashOfArrays])).WellFormed ∧ (pairWithSelf.replaceSelf "Node").WellFormed ∧
      (Scope.resolve ⟨.ofSnapshot {}, some "Node", []⟩ (pairWithSelf.replaceSelf "Node")).WellFormed ∧
      ((Inferred.known pairWithSelf).join (.known (.union [hashOfArrays]))).Proper := by
  obtain ⟨-, -, hmerge, hreplace, hresolve, -, -, hjoin⟩ := wellFormed_throughout
  have hpair : pairWithSelf.WellFormed := by decide +kernel
  have hhash : (DocType.union [hashOfArrays]).WellFormed := by decide +kernel
  have hself : (pairWithSelf.replaceSelf "Node").WellFormed := hreplace _ "Node" hpair
  exact ⟨hpair, hhash, hmerge _ _ hpair hhash, hself, hresolve _ _ hself,
    hjoin _ _ (.known (by decide)) (.known (by decide))⟩

/-- A parameter that is void, and a hash with one parameter. -/
example : ¬ (DocType.union [⟨"Array", [.void], .list, false⟩]).WellFormed ∧
    ¬ (DocType.union [⟨"Hash", [.named "Symbol"], .keyValue, false⟩]).WellFormed := by decide +kernel

end TagCheck
