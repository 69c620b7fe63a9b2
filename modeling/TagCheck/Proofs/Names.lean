import TagCheck.Proofs.Distinct
import TagCheck.Proofs.Qualification

/-!
# Names in types

A change of names reaches every name of a type and nothing else: two changes in a row are one
(`DocType.mapNames_mapNames`), and two changes give the same type exactly when they agree on the names that the type
mentions (`DocType.mapNames_eq_iff`).  The pass that resolves a type is such a change, and it collects the unknown names
in the order in which the type mentions them (`Scope.resolve_eq`).  So a type is resolved if all of its names are known
(`Scope.resolve_eq_resolved_iff`); otherwise the names that are not known are missing (`Scope.missing_of_resolve`).  A
name stands for nothing if the index has no type for it (`Scope.qualify?_eq_none_iff`).
-/

namespace TagCheck

/-! ### Changing names -/

mutual

theorem Variant.mapNames_mapNames (f g : String → String) : (v : Variant) →
    (v.mapNames f).mapNames g = v.mapNames fun name => g (f name)
  | ⟨name, params, shape, nilable⟩ => by
    simp only [Variant.mapNames, mapNamesOfParams_mapNamesOfParams f g params]

theorem DocType.mapNames_mapNames (f g : String → String) : (t : DocType) →
    (t.mapNames f).mapNames g = t.mapNames fun name => g (f name)
  | .absent | .void => rfl
  | .union vs => by simp only [DocType.mapNames, mapNamesOfVariants_mapNamesOfVariants f g vs]

theorem mapNamesOfVariants_mapNamesOfVariants (f g : String → String) : (vs : List Variant) →
    mapNamesOfVariants g (mapNamesOfVariants f vs) = mapNamesOfVariants (fun name => g (f name)) vs
  | [] => rfl
  | v :: vs => by
    simp only [mapNamesOfVariants, v.mapNames_mapNames f g, mapNamesOfVariants_mapNamesOfVariants f g vs]

theorem mapNamesOfParams_mapNamesOfParams (f g : String → String) : (ts : List DocType) →
    mapNamesOfParams g (mapNamesOfParams f ts) = mapNamesOfParams (fun name => g (f name)) ts
  | [] => rfl
  | t :: ts => by
    simp only [mapNamesOfParams, t.mapNames_mapNames f g, mapNamesOfParams_mapNamesOfParams f g ts]

end

mutual

theorem Variant.mapNames_eq_iff {f g : String → String} : (v : Variant) →
    (v.mapNames f = v.mapNames g ↔ ∀ name ∈ v.names, f name = g name)
  | ⟨name, params, shape, nilable⟩ => by
    simp [Variant.mapNames, Variant.names, mapNamesOfParams_eq_iff params]

theorem DocType.mapNames_eq_iff {f g : String → String} : (t : DocType) →
    (t.mapNames f = t.mapNames g ↔ ∀ name ∈ t.names, f name = g name)
  | .absent | .void => by simp [DocType.mapNames, DocType.names]
  | .union vs => by simp [DocType.mapNames, DocType.names, mapNamesOfVariants_eq_iff vs]

theorem mapNamesOfVariants_eq_iff {f g : String → String} : (vs : List Variant) →
    (mapNamesOfVariants f vs = mapNamesOfVariants g vs ↔ ∀ name ∈ namesOfVariants vs, f name = g name)
  | [] => by simp [mapNamesOfVariants, namesOfVariants]
  | v :: vs => by
    simp [mapNamesOfVariants, namesOfVariants, v.mapNames_eq_iff, mapNamesOfVariants_eq_iff vs, or_imp, forall_and]

theorem mapNamesOfParams_eq_iff {f g : String → String} : (ts : List DocType) →
    (mapNamesOfParams f ts = mapNamesOfParams g ts ↔ ∀ name ∈ namesOfParams ts, f name = g name)
  | [] => by simp [mapNamesOfParams, namesOfParams]
  | t :: ts => by
    simp [mapNamesOfParams, namesOfParams, t.mapNames_eq_iff, mapNamesOfParams_eq_iff ts, or_imp, forall_and]

end

mutual

theorem Variant.names_mapNames (f : String → String) : (v : Variant) → (v.mapNames f).names = v.names.map f
  | ⟨name, params, shape, nilable⟩ => by
    simp only [Variant.mapNames, Variant.names, List.map_cons, namesOfParams_mapNamesOfParams f params]

theorem DocType.names_mapNames (f : String → String) : (t : DocType) → (t.mapNames f).names = t.names.map f
  | .absent | .void => rfl
  | .union vs => by simp only [DocType.mapNames, DocType.names, namesOfVariants_mapNamesOfVariants f vs]

theorem namesOfVariants_mapNamesOfVariants (f : String → String) : (vs : List Variant) →
    namesOfVariants (mapNamesOfVariants f vs) = (namesOfVariants vs).map f
  | [] => rfl
  | v :: vs => by
    simp only [mapNamesOfVariants, namesOfVariants, List.map_append, v.names_mapNames f,
      namesOfVariants_mapNamesOfVariants f vs]

theorem namesOfParams_mapNamesOfParams (f : String → String) : (ts : List DocType) →
    namesOfParams (mapNamesOfParams f ts) = (namesOfParams ts).map f
  | [] => rfl
  | t :: ts => by
    simp only [mapNamesOfParams, namesOfParams, List.map_append, t.names_mapNames f,
      namesOfParams_mapNamesOfParams f ts]

end

theorem DocType.isUnchecked_mapNames (f : String → String) (t : DocType) :
    (t.mapNames f).isUnchecked = t.isUnchecked := by
  cases t <;> rfl

/-! ### Looking names up -/

/-- The index has a type for the name: one of the name without the colons at its front or, if there are none, one of the
name in a namespace around it. -/
def Scope.Indexes (s : Scope) (name : String) : Prop :=
  s.index.contains (String.ofList (stripColons name.toList)) = true ∨
    name.startsWith "::" = false ∧
      ∃ ns ∈ s.within, ∃ around ∈ enclosing ns, s.index.contains (around ++ "::" ++ name) = true

theorem Scope.qualify?_eq_none_iff {s : Scope} {name : String} : s.qualify? name = none ↔ ¬ s.Indexes name := by
  unfold qualify? Indexes
  cases hbare : s.index.contains (String.ofList (stripColons name.toList)) with
  | true => simp [hbare]
  | false =>
    cases hcolons : name.startsWith "::" with
    | true => simp [hbare]
    | false =>
      have hself := ofList_stripColons hcolons
      rw [hself] at hbare
      cases s.within with
      | none => simp [hself, hbare]
      | some ns => simp [hself, hbare, searchOutward_eq_find?]

theorem Scope.isSome_qualify?_iff {s : Scope} {name : String} : (s.qualify? name).isSome = true ↔ s.Indexes name := by
  rw [Option.isSome_iff_ne_none, ne_eq, qualify?_eq_none_iff, not_not]

/-- The name needs no type: it is built in, asks for a method or is one of those that are configured. -/
def Exempt (builtins : List String) (name : String) : Prop :=
  name ∈ builtinNames ∨ (Variant.named name).isDuck = true ∨ name ∈ builtins

instance (builtins : List String) : DecidablePred (Exempt builtins) :=
  fun _ => inferInstanceAs (Decidable (_ ∨ _ ∨ _))

theorem Exempt.mono {builtins builtins' : List String} (hsubset : builtins ⊆ builtins') {name : String}
    (h : Exempt builtins name) : Exempt builtins' name :=
  h.imp_right (Or.imp_right fun hconfigured => hsubset hconfigured)

/-- The name may stand in a type: it needs no type or stands for one. -/
def Scope.Known (s : Scope) (name : String) : Prop :=
  Exempt s.builtins name ∨ (s.qualify? name).isSome = true

instance (s : Scope) : DecidablePred s.Known :=
  fun _ => inferInstanceAs (Decidable (_ ∨ _))

theorem Scope.isKnown_iff {s : Scope} {name : String} : s.isKnown name = true ↔ s.Known name := by
  have hbuiltin : (Variant.named name).isBuiltin = true ↔ name ∈ builtinNames := List.contains_iff_mem
  simp only [isKnown, Known, Exempt, Bool.or_eq_true, hbuiltin, List.contains_iff_mem, or_assoc]

/-! ### Resolving -/

private theorem run_bind {σ α β : Type} (x : StateM σ α) (f : α → StateM σ β) (st : σ) :
    (x >>= f).run st = (f (x.run st).1).run (x.run st).2 := rfl

private theorem run_pure {σ α : Type} (a : α) (st : σ) : (pure a : StateM σ α).run st = (a, st) := rfl

namespace Scope

theorem fullName_of_not_isKnown {s : Scope} {name : String} (h : s.isKnown name = false) : s.fullName name = name := by
  have hnone : s.qualify? name = none := by
    simp only [isKnown, Bool.or_eq_false_iff] at h
    exact Option.not_isSome_iff_eq_none.1 (by simp [h.2])
  rw [fullName, hnone, Option.getD_none]

/-- The names of a list that are not known. -/
def unknownAmong (s : Scope) (names : List String) : List String :=
  names.filter fun name => !s.isKnown name

variable (s : Scope)

theorem unknownAmong_append (names names' : List String) :
    s.unknownAmong (names ++ names') = s.unknownAmong names ++ s.unknownAmong names' :=
  List.filter_append names names'

/-- One name is put in full, and is missing from then on if it is not known. -/
theorem run_qualifyName (name : String) (missing : List String) :
    (s.qualifyName name).run missing = (s.fullName name, appendNew missing (s.unknownAmong [name])) := by
  unfold qualifyName unknownAmong
  cases h : s.isKnown name with
  | true =>
    rw [List.filter_cons_of_neg (by simp [h])]
    rfl
  | false =>
    rw [List.filter_cons_of_pos (by simp [h]), fullName_of_not_isKnown h]
    rfl

mutual

theorem run_qualifyVariant : (v : Variant) → (missing : List String) →
    (s.qualifyVariant v).run missing = (v.mapNames s.fullName, appendNew missing (s.unknownAmong v.names))
  | ⟨name, params, shape, nilable⟩, missing => by
    have hnames : name :: namesOfParams params = [name] ++ namesOfParams params := rfl
    simp only [qualifyVariant, run_bind, run_pure, run_qualifyName, run_qualifyParams params,
      Variant.mapNames, Variant.names, hnames, unknownAmong_append, appendNew_append]

theorem run_qualifyType : (t : DocType) → (missing : List String) →
    (s.qualifyType t).run missing = (t.mapNames s.fullName, appendNew missing (s.unknownAmong t.names))
  | .absent, _ | .void, _ => rfl
  | .union vs, missing => by
    simp only [qualifyType, run_bind, run_pure, run_qualifyVariants vs, DocType.mapNames,
      DocType.names]

theorem run_qualifyVariants : (vs : List Variant) → (missing : List String) →
    (s.qualifyVariants vs).run missing =
      (mapNamesOfVariants s.fullName vs, appendNew missing (s.unknownAmong (namesOfVariants vs)))
  | [], _ => rfl
  | v :: vs, missing => by
    simp only [qualifyVariants, run_bind, run_pure, run_qualifyVariant v, run_qualifyVariants vs,
      mapNamesOfVariants, namesOfVariants, unknownAmong_append, appendNew_append]

theorem run_qualifyParams : (ts : List DocType) → (missing : List String) →
    (s.qualifyParams ts).run missing =
      (mapNamesOfParams s.fullName ts, appendNew missing (s.unknownAmong (namesOfParams ts)))
  | [], _ => rfl
  | t :: ts, missing => by
    simp only [qualifyParams, run_bind, run_pure, run_qualifyType t, run_qualifyParams ts,
      mapNamesOfParams, namesOfParams, unknownAmong_append, appendNew_append]

end

/-- The pass through a type ends with the type in full names and with the first occurrences of its unknown names. -/
theorem resolve_eq (t : DocType) :
    s.resolve t =
      if (distinct (s.unknownAmong t.names)).isEmpty then .resolved (t.mapNames s.fullName)
      else .unresolved t (distinct (s.unknownAmong t.names)) := by
  rw [resolve, run_qualifyType]
  rfl

end Scope

/-- A plain name is resolved if it is known, and else is all that is missing. -/
theorem Scope.resolve_named (s : Scope) (name : String) :
    s.resolve (.named name) =
      if s.isKnown name then .resolved (.named (s.fullName name)) else .unresolved (.named name) [name] := by
  have hnames : (DocType.named name).names = [name] := rfl
  rw [resolve_eq, hnames, unknownAmong]
  cases hknown : s.isKnown name with
  | true =>
    rw [List.filter_cons_of_neg (by simp [hknown])]
    rfl
  | false =>
    rw [List.filter_cons_of_pos (by simp [hknown])]
    rfl

theorem Scope.distinct_unknownAmong_eq_nil_iff {s : Scope} {names : List String} :
    distinct (s.unknownAmong names) = [] ↔ ∀ name ∈ names, s.isKnown name = true := by
  simp [distinct, unknownAmong, List.eq_nil_iff_forall_not_mem]

theorem Scope.resolve_eq_resolved_iff {s : Scope} {t t' : DocType} :
    s.resolve t = .resolved t' ↔ (∀ name ∈ t.names, s.isKnown name = true) ∧ t' = t.mapNames s.fullName := by
  rw [resolve_eq, ← distinct_unknownAmong_eq_nil_iff, ← List.isEmpty_iff]
  split
  next hempty =>
    rw [Resolution.resolved.injEq]
    constructor
    · rintro rfl
      exact ⟨hempty, rfl⟩
    · rintro ⟨-, rfl⟩
      rfl
  next hne =>
    constructor
    · intro hres
      cases hres
    · rintro ⟨hempty, -⟩
      exact absurd hempty hne

/-- A type is unresolved if one of its names is not known. -/
theorem Scope.resolve_eq_unresolved_iff {s : Scope} {t : DocType} :
    (∃ type missing, s.resolve t = .unresolved type missing) ↔ ∃ name ∈ t.names, s.isKnown name = false := by
  cases h : s.resolve t with
  | resolved t' =>
    have hknown := (Scope.resolve_eq_resolved_iff.1 h).1
    simp only [reduceCtorEq, exists_false, false_iff]
    rintro ⟨name, hname, hunknown⟩
    exact absurd ((hknown name hname).symm.trans hunknown) (by decide)
  | unresolved type missing =>
    simp only [Resolution.unresolved.injEq, exists_and_left, exists_eq', and_true, true_iff]
    by_contra hnone
    have hknown : ∀ name ∈ t.names, s.isKnown name = true := by
      intro name hname
      by_contra hunknown
      exact hnone ⟨name, hname, Bool.eq_false_iff.2 hunknown⟩
    cases h.symm.trans (Scope.resolve_eq_resolved_iff.2 ⟨hknown, rfl⟩)

theorem Scope.resolve_eq_unresolved_missing_iff {s : Scope} {t type : DocType} {missing : List String} :
    s.resolve t = .unresolved type missing ↔
      type = t ∧ missing ≠ [] ∧ missing = distinct (s.unknownAmong t.names) := by
  rw [resolve_eq]
  split
  next hempty =>
    constructor
    · intro hres
      cases hres
    · rintro ⟨-, hne, rfl⟩
      exact absurd (List.isEmpty_iff.1 hempty) hne
  next hne =>
    rw [Resolution.unresolved.injEq]
    constructor
    · rintro ⟨rfl, rfl⟩
      exact ⟨rfl, fun hempty => hne (List.isEmpty_iff.2 hempty), rfl⟩
    · rintro ⟨rfl, -, rfl⟩
      exact ⟨rfl, rfl⟩

/-- What is missing are the names that are not known, each of them once. -/
theorem Scope.missing_of_resolve {s : Scope} {t type : DocType} {missing : List String}
    (h : s.resolve t = .unresolved type missing) :
    type = t ∧ missing.Nodup ∧ ∀ name, name ∈ missing ↔ name ∈ t.names ∧ s.isKnown name = false := by
  obtain ⟨rfl, -, rfl⟩ := resolve_eq_unresolved_missing_iff.1 h
  refine ⟨rfl, nodup_appendNew List.nodup_nil _, ?_⟩
  intro name
  simp [distinct, unknownAmong]

end TagCheck
