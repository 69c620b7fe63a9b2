import TagCheck.Proofs.Binding
import TagCheck.Proofs.WrittenTag

/-!
# Parameters and their tags

A method has a signature if its parameters are known (`Task.signature_eq_ok_iff`).  Arguments are bound to parameters of
the signature only (`Signature.mem_params_of_mem_pairs`), and each parameter has the tag that is in effect for its name
(`Task.tag_eq_some_iff`).
-/

namespace TagCheck

/-! ### Bound parameters -/

namespace Binding

theorem mem_params_of_mem_takers {params : List Parameter} {shares : List Nat} {p : Parameter}
    (h : p ∈ takers params shares) : p ∈ params := by
  obtain ⟨⟨q, share⟩, hq, hp⟩ := List.mem_flatMap.1 h
  rw [List.eq_of_mem_replicate hp]
  exact (List.of_mem_zip hq).1

theorem mem_params_of_keywordParam? {params : List Parameter} {name : String} {p : Parameter}
    (h : keywordParam? params name = some p) : p ∈ params := by
  rcases Option.or_eq_some_iff.1 h with h | ⟨-, h⟩
  · exact List.mem_of_find?_eq_some h
  · exact List.mem_of_find?_eq_some h

end Binding

theorem Signature.mem_params_of_mem_pairs {s : Signature} {args : List Expr} {kwargs : List KeywordArg}
    {p : Parameter} {arg : Argument} (h : (p, arg) ∈ (s.bind args kwargs).pairs) : p ∈ s.params := by
  rw [pairs_bind, List.mem_append] at h
  rcases h with h | h
  · obtain ⟨⟨q, value⟩, hq, heq⟩ := List.mem_map.1 h
    obtain rfl : q = p := congrArg Prod.fst heq
    exact Binding.mem_params_of_mem_takers (List.of_mem_zip hq).1
  · split at h
    next => cases h
    next =>
      obtain ⟨kwarg, -, hpair⟩ := List.mem_filterMap.1 h
      obtain ⟨q, hq, heq⟩ := Option.map_eq_some_iff.1 hpair
      obtain rfl : q = p := congrArg Prod.fst heq
      exact Binding.mem_params_of_keywordParam? hq

/-! ### Signatures -/

namespace Task

theorem signature_eq_ok_iff {t : Task} {n : Nat} {sig : Signature} :
    t.signature n = .ok sig ↔
      ∃ m params, t.program.snapshot.methods[n]? = some m ∧ m.params = some params ∧
        sig = .build n m params (t.paramTag? m) := by
  unfold Task.signature
  cases t.program.snapshot.methods[n]? with
  | none => simp
  | some m => cases hparams : m.params <;> simp [hparams, eq_comm]

theorem signature_eq_error_iff {t : Task} {n : Nat} {e : CheckError} :
    t.signature n = .error e ↔
      (t.program.snapshot.methods[n]? = none ∧ e = .unknownMethod n) ∨
        ∃ m, t.program.snapshot.methods[n]? = some m ∧ m.params = none ∧ e = .missingSignature m.path := by
  unfold Task.signature
  cases t.program.snapshot.methods[n]? with
  | none => simp [eq_comm]
  | some m => cases hparams : m.params <;> simp [hparams, eq_comm]

/-- A parameter has the tag in effect for its name, to be read in the namespace of the type that writes it. -/
theorem tag_eq_some_iff {s : Snapshot} {settings : Settings} {n : Nat} {m : MethodDecl} {params : List ParamDecl}
    (hm : m ∈ s.methods) {p : Parameter}
    (hp : p ∈ (Signature.build n m params (Task.paramTag? ⟨.ofSnapshot s, settings⟩ m)).params) {text : String}
    {writer : Option String} :
    p.tag = some text ∧ p.inheritedFrom.or m.owner = writer ↔ s.TagInEffect (.param p.name) m text writer := by
  obtain ⟨decl, -, rfl⟩ := List.mem_map.1 hp
  rw [← @tagInEffect?_eq_some_iff s settings _ m hm, ← paramTag?]
  dsimp only [Signature.parameter]
  cases Task.paramTag? ⟨.ofSnapshot s, settings⟩ m decl.name with
  | none => simp
  | some tag => simp [Prod.ext_iff, and_assoc]

end Task

end TagCheck
