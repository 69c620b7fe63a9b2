import TagCheck.Proofs.Objection
import TagCheck.Proofs.Substitution

/-!
# Ancestors that a type names itself

The superclass of a type is in its lineage whether the index has it or not.  A module that the type includes is there
only if the index has it, or if it is the superclass of a type of the lineage (`Ancestry.mem_lineage_iff_of_direct`).

An ancestor in the lineage may be asked for where the type is given: nothing that the check compares is found to be
wrong if the one side has an alternative for the ancestor and the other side a value of the type, and so no listed
mismatch is of this kind (`Task.check_direct_ancestor`).  The comparisons of a check are those of `Snapshot.Compares`.
-/

namespace TagCheck

open Relation (ReflTransGen)

/-! ### The lineage and the ancestors that a type names -/

namespace Index

variable {ix : Index} {name a : String}

theorem mem_ancestors_iff : a ∈ ix.ancestors name ↔ ix.Superclass name a ∨ a ∈ ix.mixins name := by
  rw [ancestors, List.mem_append, Option.mem_toList, Superclass]

theorem Ancestor.of_superclass {x : String} (hx : ix.Ancestor name x) (h : ix.Superclass x a) : ix.Ancestor name a := by
  obtain ⟨y, hy, hyx⟩ := hx
  exact ⟨y, hy, hyx.tail h⟩

theorem Ancestor.of_mixin (h : a ∈ ix.mixins name) (hc : ix.contains a = true) : ix.Ancestor name a :=
  .of_brings ⟨name, .refl, h, hc⟩ (.refl ix a)

/-- Inclusion leads from the types of the index to types of the index, so that an ancestor outside of it is a
superclass. -/
theorem Ancestor.contains_or_superclass (hc : ix.contains name = true) (h : ix.Ancestor name a) :
    ix.contains a = true ∨ ∃ x, ix.Ancestor name x ∧ ix.Superclass x a := by
  obtain ⟨x, hx, hxa⟩ := h
  rcases ReflTransGen.cases_tail_iff _ _ _ |>.1 hxa with rfl | ⟨y, hxy, hya⟩
  · left
    rcases ReflTransGen.cases_tail_iff _ _ _ |>.1 hx with rfl | ⟨b, -, hb⟩
    · exact hc
    · exact (brings_iff.1 hb).2
  · exact Or.inr ⟨y, ⟨x, hx, hxy⟩, hya⟩

end Index

/-- An ancestor that a type names itself is in its lineage if the index has it or if some type of the lineage has it
for its superclass. -/
theorem Ancestry.mem_lineage_iff_of_direct {ix : Index} {name a : String} (hc : ix.contains name = true)
    (ha : a ∈ ix.ancestors name) :
    a ∈ (ofIndex ix).lineage name ↔
      ix.contains a = true ∨ ∃ x ∈ (ofIndex ix).lineage name, ix.superclass? x = some a := by
  constructor
  · intro h
    rcases (mem_lineage_iff.1 h).2.contains_or_superclass hc with hindexed | ⟨x, hx, hsuperclass⟩
    · exact Or.inl hindexed
    · exact Or.inr ⟨x, mem_lineage_iff.2 ⟨hc, hx⟩, hsuperclass⟩
  · rintro (hindexed | ⟨x, hx, hsuperclass⟩)
    · rcases Index.mem_ancestors_iff.1 ha with hsuperclass | hmixin
      · exact mem_lineage_iff.2 ⟨hc, (Index.Ancestor.refl ix name).of_superclass hsuperclass⟩
      · exact mem_lineage_iff.2 ⟨hc, .of_mixin hmixin hindexed⟩
    · have hx := (mem_lineage_iff.1 hx).2
      exact mem_lineage_iff.2 ⟨hc, hx.of_superclass hsuperclass⟩

/-! ### What is accepted -/

/-- An alternative for a type of the lineage is satisfied.  Only nil, methods and truth values are asked for by other
means. -/
theorem Variant.satisfies_of_mem_lineage {a : Ancestry} {d v : Variant} (hv : v.isNil = false) (hnil : d.isNil = false)
    (hduck : d.isDuck = false) (hboolean : d.name ≠ "Boolean") (h : d.name ∈ a.lineage (className v.name)) :
    d.satisfies a v = true := by
  have hduck : d.duckMethod? = none := Option.not_isSome_iff_eq_none.1 (Bool.eq_false_iff.1 hduck)
  have hknows : a.knows (className v.name) = true := Ancestry.knows_of_mem_lineage h
  unfold Variant.satisfies
  simp [hv, hnil, hduck, hboolean, hknows, h]

theorem Variant.isNil_eq_false_of_className {v : Variant} (h : className v.name ∉ ["nil", "NilClass"]) :
    v.isNil = false := by
  have hname : v.name ≠ "nil" := fun hv => h (by rw [hv]; decide)
  have hclass : v.name ≠ "NilClass" := fun hv => h (by rw [hv]; decide)
  simp [Variant.isNil, hname, hclass]

theorem DocType.accepts_of_satisfies {a : Ancestry} {declared actual : DocType} {d v : Variant}
    (hd : d ∈ declared.variants) (hv : v ∈ actual.variants) (h : d.satisfies a v = true) :
    declared.accepts a (.known actual) = true := by
  have hany : (declared.variants.any fun d => actual.variants.any fun v => d.satisfies a v) = true :=
    List.any_eq_true.2 ⟨d, hd, List.any_eq_true.2 ⟨v, hv, h⟩⟩
  simp [DocType.accepts, hany]

/-- One of the alternatives of the type is for the given name. -/
def DocType.Asks (t : DocType) (name : String) : Prop :=
  ∃ d ∈ t.variants, d.name = name

/-- One of the alternatives of the type stands for values of the given class. -/
def DocType.Offers (t : DocType) (name : String) : Prop :=
  ∃ v ∈ t.variants, className v.name = name

/-! ### What a check compares -/

/-- The check compares the two types at the place, and `found` is what it finds there: a return tag with what a body
returns, the tag of an assignment with the assigned value, or the tag of a parameter with an argument. -/
inductive Snapshot.Compares (s : Snapshot) (settings : Settings) (declared actual : DocType) (found : Option Finding) :
    Anchor → Prop
  | returned {i : Nat} {m : MethodDecl} {text : String} {writer : Option String} (hm : s.methods[i]? = some m)
      (htag : s.TagInEffect .returned m text writer) (hmeans : s.Means settings writer text declared)
      (hactual : (Program.ofSnapshot s).ancestry.inferBody i = .known actual)
      (hfound : Task.returnFinding? ⟨.ofSnapshot s, settings⟩ m i = found) :
      s.Compares settings declared actual found (.method i)
  | assigned {j : Nat} {v : Assignment} (hv : s.assignments[j]? = some v)
      (hmeans : s.Means settings v.within v.tag declared)
      (hactual : (Program.ofSnapshot s).ancestry.infer v.within v.value = .known actual)
      (hfound : Task.variableFinding? ⟨.ofSnapshot s, settings⟩ v j = found) :
      s.Compares settings declared actual found (.assignment j)
  | passed {j n : Nat} {call : CallSite} {m : MethodDecl} {sig : Signature} {p : Parameter} {arg : Argument}
      {text : String} {writer : Option String} (hcall : s.calls[j]? = some call)
      (hn : n ∈ (Program.ofSnapshot s).callees call) (hm : s.methods[n]? = some m)
      (hsig : Task.signature ⟨.ofSnapshot s, settings⟩ n = .ok sig)
      (hbound : (p, arg) ∈ (sig.bind call.args call.kwargs).pairs) (htag : s.TagInEffect (.param p.name) m text writer)
      (hmeans : s.Means settings writer text declared)
      (hactual : (Program.ofSnapshot s).ancestry.infer call.within arg.value = .known actual)
      (hfound : Task.argumentFinding? ⟨.ofSnapshot s, settings⟩ sig call p arg = found) :
      s.Compares settings declared actual found (.call j)

namespace Snapshot

variable {s : Snapshot} {settings : Settings} {declared actual : DocType} {anchor : Anchor} {f : Finding}

theorem Means.unique {writer : Option String} {text : String} {declared' : DocType}
    (h : s.Means settings writer text declared) (h' : s.Means settings writer text declared') : declared = declared' :=
  Resolution.resolved.inj (h.symm.trans h')

theorem TagInEffect.unique {selector : TagSelector} {m : MethodDecl} {text text' : String}
    {writer writer' : Option String} (hm : m ∈ s.methods) (h : s.TagInEffect selector m text writer)
    (h' : s.TagInEffect selector m text' writer') : text = text' ∧ writer = writer' := by
  obtain ⟨inheritedFrom, htag, rfl⟩ := (@Task.tagInEffect?_eq_some_iff s {} selector m hm text writer).2 h
  obtain ⟨inheritedFrom', htag', rfl⟩ := (@Task.tagInEffect?_eq_some_iff s {} selector m hm text' writer').2 h'
  obtain ⟨rfl, rfl⟩ := Prod.mk.inj (Option.some.inj (htag.symm.trans htag'))
  exact ⟨rfl, rfl⟩

/-- What is found wrong in a comparison is that the documented type turns the other down. -/
theorem Compares.accepts_eq_false (h : s.Compares settings declared actual (some f) anchor) :
    declared.accepts (Program.ofSnapshot s).ancestry (.known actual) = false := by
  cases h with
  | @returned i m text writer hm htag hmeans hactual hfound =>
    have hmem := List.mem_of_getElem? hm
    obtain ⟨text', inheritedFrom, htag', hrest⟩ := Task.returnFinding?_eq_some_iff.1 hfound
    have htag' : s.TagInEffect .returned m text' (inheritedFrom.or m.owner) :=
      (Task.tagInEffect?_eq_some_iff hmem).1 ⟨inheritedFrom, htag', rfl⟩
    obtain ⟨rfl, rfl⟩ := htag.unique hmem htag'
    rcases hrest with ⟨type, missing, hres, -⟩ | ⟨declared', hres, -, haccepts, -⟩
    · cases hmeans.symm.trans hres
    · rw [hmeans.unique hres, ← hactual]
      exact haccepts
  | @assigned j v hv hmeans hactual hfound =>
    obtain ⟨-, hrest⟩ := Task.variableFinding?_eq_some_iff.1 hfound
    rcases hrest with ⟨type, missing, hres, -⟩ | ⟨declared', hres, -, haccepts, -⟩
    · cases hmeans.symm.trans hres
    · rw [hmeans.unique hres, ← hactual]
      exact haccepts
  | @passed j n call m sig p arg text writer hcall hn hm hsig hbound htag hmeans hactual hfound =>
    have hp := Signature.mem_params_of_mem_pairs hbound
    obtain ⟨-, -, text', writer', declared', actual', htag', hmeans', habsent, hvoid, hactual', hcontradicts, -⟩ :=
      (Task.argumentFinding?_iff hm hsig hp).1 hfound
    obtain ⟨rfl, rfl⟩ := htag.unique (List.mem_of_getElem? hm) htag'
    obtain rfl := hmeans.unique hmeans'
    obtain rfl : actual = actual' := Inferred.known.inj (hactual.symm.trans hactual')
    have hdeclared := DocType.isUnchecked_eq_false_iff.2 ⟨habsent, hvoid⟩
    have hcomparable := (Program.ofSnapshot s).ancestry.infer_comparable call.within arg.value
    rw [← hactual]
    exact (DocType.accepts_eq_false_iff hdeclared hcomparable).2 ⟨actual, hactual, hcontradicts⟩

theorem Compares.not_satisfies (h : s.Compares settings declared actual (some f) anchor) {d v : Variant}
    (hd : d ∈ declared.variants) (hv : v ∈ actual.variants) :
    ¬ d.satisfies (Program.ofSnapshot s).ancestry v = true := by
  intro hsatisfies
  have haccepts := DocType.accepts_of_satisfies hd hv hsatisfies
  exact absurd (h.accepts_eq_false.symm.trans haccepts) (by decide)

end Snapshot

/-! ### Listed mismatches -/

namespace Task

variable {s : Snapshot} {settings : Settings}

private theorem compares_of_returnFinding {i : Nat} {m : MethodDecl} {f : Finding} (hm : s.methods[i]? = some m)
    (hf : Task.returnFinding? ⟨.ofSnapshot s, settings⟩ m i = some f) (hkind : f.kind ≠ .unresolved) :
    ∃ declared actual, s.Compares settings declared actual (some f) (.method i) := by
  obtain ⟨text, inheritedFrom, htag, hrest⟩ := Task.returnFinding?_eq_some_iff.1 hf
  rcases hrest with ⟨type, missing, -, -, rfl⟩ | ⟨declared, hmeans, hdeclared, haccepts, -⟩
  · exact absurd rfl hkind
  · have hbody := (Program.ofSnapshot s).ancestry.inferBody_comparable i
    obtain ⟨actual, hactual, -⟩ := (DocType.accepts_eq_false_iff hdeclared hbody).1 haccepts
    have htag : s.TagInEffect .returned m text (inheritedFrom.or m.owner) :=
      (Task.tagInEffect?_eq_some_iff (List.mem_of_getElem? hm)).1 ⟨inheritedFrom, htag, rfl⟩
    exact ⟨declared, actual, .returned hm htag hmeans hactual hf⟩

private theorem compares_of_variableFinding {j : Nat} {v : Assignment} {f : Finding} (hv : s.assignments[j]? = some v)
    (hf : Task.variableFinding? ⟨.ofSnapshot s, settings⟩ v j = some f) (hkind : f.kind ≠ .unresolved) :
    ∃ declared actual, s.Compares settings declared actual (some f) (.assignment j) := by
  obtain ⟨-, hrest⟩ := Task.variableFinding?_eq_some_iff.1 hf
  rcases hrest with ⟨type, missing, -, rfl⟩ | ⟨declared, hmeans, hdeclared, haccepts, -⟩
  · exact absurd rfl hkind
  · have hvalue := (Program.ofSnapshot s).ancestry.infer_comparable v.within v.value
    obtain ⟨actual, hactual, -⟩ := (DocType.accepts_eq_false_iff hdeclared hvalue).1 haccepts
    exact ⟨declared, actual, .assigned hv hmeans hactual hf⟩

private theorem compares_of_callFinding {j : Nat} {call : CallSite} {f : Finding} {fs : List Finding}
    (hcall : s.calls[j]? = some call)
    (hfs : Task.callFindings ⟨.ofSnapshot s, settings⟩ call none ((Program.ofSnapshot s).callees call) = .ok fs)
    (hf : f ∈ fs) (hkind : f.kind = .mismatch ∨ f.kind = .wrongArgumentType) :
    ∃ declared actual, s.Compares settings declared actual (some f) (.call j) := by
  obtain ⟨n, hn, sig, hsig, hf⟩ := Task.exists_signature_of_mem_callFindings hfs hf
  obtain ⟨m, params, hm, -⟩ := Task.signature_eq_ok_iff.1 hsig
  -- of the three kinds of findings about a call only one is about types
  rcases Task.mem_argumentFindings.1 hf with ⟨p, -, rfl⟩ | ⟨p, arg, hbound, hf⟩ | ⟨-, rfl⟩
  · simp [Finding.kind] at hkind
  · have hp := Signature.mem_params_of_mem_pairs hbound
    obtain ⟨-, -, text, writer, declared, actual, htag, hmeans, -, -, hactual, -, -⟩ :=
      (Task.argumentFinding?_iff hm hsig hp).1 hf
    exact ⟨declared, actual, .passed hcall hn hm hsig hbound htag hmeans hactual hf⟩
  · simp [Finding.kind] at hkind

/-- A listed mismatch, of an argument or of anything else, comes from a comparison at its place. -/
theorem exists_compares {ps : List Problem} (h : (Task.check ⟨.ofSnapshot s, settings⟩).result = .ok ps) {p : Problem}
    (hp : p ∈ ps) (hkind : p.kind = .mismatch ∨ p.kind = .wrongArgumentType) :
    ∃ declared actual f, s.Compares settings declared actual (some f) p.location.anchor ∧ p = f.report p.location := by
  obtain ⟨all, rfl, hall⟩ := Task.exists_listing h
  obtain ⟨family, found, -, hfound, hp⟩ := (hall p).1 (Collector.mem_of_mem_listing hp)
  have hresolved : p.kind ≠ .unresolved := by
    rcases hkind with hkind | hkind <;> simp [hkind]
  match family with
  | .returns =>
    cases hfound
    obtain ⟨i, m, hm, hp⟩ := mem_flatMap_zipIdx.1 hp
    obtain ⟨f, hf, rfl⟩ := List.mem_map.1 hp
    obtain ⟨declared, actual, hcompares⟩ := compares_of_returnFinding hm (Option.mem_toList.1 hf) hresolved
    exact ⟨declared, actual, f, hcompares, rfl⟩
  | .variables =>
    cases hfound
    obtain ⟨j, v, hv, hp⟩ := mem_flatMap_zipIdx.1 hp
    obtain ⟨f, hf, rfl⟩ := List.mem_map.1 hp
    obtain ⟨declared, actual, hcompares⟩ := compares_of_variableFinding hv (Option.mem_toList.1 hf) hresolved
    exact ⟨declared, actual, f, hcompares, rfl⟩
  | .params =>
    cases hfound
    obtain ⟨i, m, -, hp⟩ := mem_flatMap_zipIdx.1 hp
    obtain ⟨f, hf, rfl⟩ := List.mem_map.1 hp
    obtain ⟨tag, -, hf⟩ := List.mem_filterMap.1 hf
    obtain ⟨-, type, missing, -, rfl⟩ := paramFinding?_eq_some_iff.1 hf
    exact absurd rfl hresolved
  | .calls =>
    obtain ⟨problems, hproblems, rfl⟩ := gather_eq_ok_iff.1 hfound
    obtain ⟨j, call, hcall, hp⟩ := mem_flatMap_zipIdx.1 hp
    obtain ⟨fs, hfs, hmap⟩ := callProblems_eq_ok_iff.1 (hproblems (call, j) (List.mem_zipIdx_iff_getElem?.2 hcall))
    rw [← hmap] at hp
    obtain ⟨f, hf, rfl⟩ := List.mem_map.1 hp
    obtain ⟨declared, actual, hcompares⟩ := compares_of_callFinding hcall hfs hf hkind
    exact ⟨declared, actual, f, hcompares, rfl⟩

end Task

/-- An ancestor that a type names itself is in its lineage if the index has it or if it is the superclass of the type or
of another type of the lineage.  Then a value of the type satisfies an alternative for the ancestor, and no mismatch that
a check lists is one between the two. -/
theorem Task.check_direct_ancestor (s : Snapshot) {name ancestor : String}
    (hname : (Index.ofSnapshot s).contains name = true) (hdirect : ancestor ∈ (Index.ofSnapshot s).ancestors name) :
    (ancestor ∈ s.lineage name ↔
      (Index.ofSnapshot s).contains ancestor = true ∨
        ∃ x ∈ s.lineage name, (Index.ofSnapshot s).superclass? x = some ancestor) ∧
    (ancestor ∈ s.lineage name → name ∉ ["nil", "NilClass"] → ancestor ∉ ["nil", "NilClass", "Boolean"] →
      (Variant.named ancestor).isDuck = false →
      (∀ d v : Variant, d.name = ancestor → className v.name = name →
        d.satisfies (Program.ofSnapshot s).ancestry v = true) ∧
      ∀ settings ps, (Task.check ⟨.ofSnapshot s, settings⟩).result = .ok ps →
        ∀ p ∈ ps, p.kind = .mismatch ∨ p.kind = .wrongArgumentType →
          (∃ declared actual f, s.Compares settings declared actual (some f) p.location.anchor ∧
            p = f.report p.location) ∧
          ∀ declared actual f, s.Compares settings declared actual (some f) p.location.anchor →
            ¬ (declared.Asks ancestor ∧ actual.Offers name)) := by
  refine ⟨Ancestry.mem_lineage_iff_of_direct hname hdirect, ?_⟩
  intro hlineage hnil hspecial hduck
  have hsatisfies : ∀ d v : Variant, d.name = ancestor → className v.name = name →
      d.satisfies (Program.ofSnapshot s).ancestry v = true := by
    rintro d v rfl rfl
    have hd : d.isNil = false := by simp_all [Variant.isNil]
    have hboolean : d.name ≠ "Boolean" := fun h => hspecial (by simp [h])
    exact Variant.satisfies_of_mem_lineage (Variant.isNil_eq_false_of_className hnil) hd hduck hboolean hlineage
  refine ⟨hsatisfies, ?_⟩
  intro settings ps h p hp hkind
  refine ⟨Task.exists_compares h hp hkind, ?_⟩
  rintro declared actual f hcompares ⟨⟨d, hd, hdname⟩, v, hv, hvname⟩
  exact hcompares.not_satisfies hd hv (hsatisfies d v hdname hvname)

/-- A class with a superclass and a module from elsewhere, and a module of its own.  A variable for each of the three is
assigned a new instance of the class. -/
def foreign : Snapshot where
  types := [
    { name := "Report", superclass := some "Gem::Base", includes := ["Listed", "Gem::Node"] },
    { name := "Listed", kind := .moduleType }
  ]
  assignments := [
    { name := "base", tag := "Gem::Base", value := .new "Report" },
    { name := "listed", tag := "Listed", value := .new "Report" },
    { name := "node", tag := "Gem::Node", value := .new "Report" }
  ]

/-- The names from elsewhere count as declared. -/
def trusting : Settings where
  builtins := ["Gem::Base", "Gem::Node"]

/-- The only problem that is listed for the three variables. -/
def nodeMismatch : Problem :=
  (Finding.variableMismatch "node" "Gem::Node" "Report").report ⟨.assignment 2, {}⟩

private theorem check_foreign : (Task.check ⟨.ofSnapshot foreign, trusting⟩).result = .ok [nodeMismatch] := by
  rw [Task.check_result_eq_inOrder]
  decide +kernel

/-- The superclass is in the lineage though the index does not have it, and the mismatch is not about it. -/
theorem check_direct_ancestor_foreign :
    (Index.ofSnapshot foreign).contains "Gem::Base" = false ∧ "Gem::Base" ∈ foreign.lineage "Report" ∧
      (Variant.named "Gem::Base").satisfies (Program.ofSnapshot foreign).ancestry (.named "Report") = true ∧
      (Task.check ⟨.ofSnapshot foreign, trusting⟩).result = .ok [nodeMismatch] ∧
      ∀ declared actual f, foreign.Compares trusting declared actual (some f) (.assignment 2) →
        ¬ (declared.Asks "Gem::Base" ∧ actual.Offers "Report") := by
  have hname : (Index.ofSnapshot foreign).contains "Report" = true := by decide +kernel
  have hdirect : "Gem::Base" ∈ (Index.ofSnapshot foreign).ancestors "Report" := by decide +kernel
  have hself : "Report" ∈ foreign.lineage "Report" := Ancestry.self_mem_lineage hname
  obtain ⟨hiff, hrest⟩ := Task.check_direct_ancestor foreign hname hdirect
  have hlineage := hiff.2 (Or.inr ⟨"Report", hself, by decide +kernel⟩)
  obtain ⟨hsatisfies, hlisted⟩ := hrest hlineage (by decide) (by decide) (by decide)
  exact ⟨by decide +kernel, hlineage, hsatisfies _ _ rfl rfl, check_foreign,
    (hlisted trusting _ check_foreign nodeMismatch List.mem_cons_self (Or.inl rfl)).2⟩

/-- A module that a type includes and that the index does not have is not in the lineage, so that the type is turned
down where the module is asked for. -/
theorem foreign_mixin_mismatch :
    (Index.ofSnapshot foreign).contains "Report" = true ∧
      "Gem::Node" ∈ (Index.ofSnapshot foreign).ancestors "Report" ∧ "Gem::Node" ∉ foreign.lineage "Report" ∧
      (Variant.named "Gem::Node").satisfies (Program.ofSnapshot foreign).ancestry (.named "Report") = false ∧
      (Task.check ⟨.ofSnapshot foreign, trusting⟩).result = .ok [nodeMismatch] := by
  refine ⟨by decide +kernel, by decide +kernel, ?_, ?_, check_foreign⟩
  · rw [Snapshot.lineage, Program.ofSnapshot_eq_inOrder]
    decide +kernel
  · rw [Program.ofSnapshot_eq_inOrder]
    decide +kernel

end TagCheck
