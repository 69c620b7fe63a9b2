import TagCheck.Proofs.Mismatch
import TagCheck.Proofs.Signature

/-!
# Objections to a call

`Snapshot.Objection` says what a method may hold against a call: a required keyword that the call does not name, an
argument that clashes with the tag of its parameter or, if the settings ask for it, an argument that no parameter takes.
A method accepts a call if it has parameters and holds nothing against it.  The rule for calls finds the objections of
the nearest method and drops them if any method accepts (`Task.callFindings_eq_ok`).  So a check lists nothing at a call
that is accepted, and else the objections of the nearest method, each once (`Task.check_call_site`).
-/

namespace TagCheck

/-! ### What the methods find -/

namespace Task

/-- What the method of the given number finds wrong with a call. -/
def objections (t : Task) (call : CallSite) (n : Nat) : Except CheckError (List Finding) :=
  (t.signature n).map fun sig => t.argumentFindings sig call

/-- The method finds something wrong with the call. -/
def Rejects (t : Task) (call : CallSite) (n : Nat) : Prop :=
  ∃ f fs, t.objections call n = .ok (f :: fs)

variable {t : Task} {call : CallSite}

theorem objections_eq_ok_iff {n : Nat} {fs : List Finding} :
    t.objections call n = .ok fs ↔ ∃ sig, t.signature n = .ok sig ∧ t.argumentFindings sig call = fs := by
  unfold objections
  cases t.signature n <;> simp [Except.map]

theorem callFindings_cons (t : Task) (call : CallSite) (reported : Option (List Finding)) (n : Nat) (ns : List Nat) :
    t.callFindings call reported (n :: ns) =
      match t.objections call n with
      | .error e => .error e
      | .ok [] => .ok []
      | .ok (f :: fs) => t.callFindings call (reported.or (some (f :: fs))) ns := by
  rw [callFindings, objections]
  cases t.signature n with
  | error e => rfl
  | ok sig =>
    cases hfs : t.argumentFindings sig call with
    | nil => simp [Except.map, hfs]
    | cons f fs => simp [Except.map, hfs]

/-- Once a method has found something, the others either all do or one of them lets the call pass. -/
theorem callFindings_some_eq_ok {fs found : List Finding} {ns : List Nat}
    (h : t.callFindings call (some fs) ns = .ok found) :
    (found = [] ∧ ∃ n ∈ ns, t.objections call n = .ok []) ∨ (∀ n ∈ ns, t.Rejects call n) ∧ found = fs := by
  induction ns with
  | nil =>
    obtain rfl : fs = found := Except.ok.inj h
    exact Or.inr ⟨by simp, rfl⟩
  | cons n ns ih =>
    rw [callFindings_cons] at h
    split at h
    next => cases h
    next hn =>
      obtain rfl : [] = found := Except.ok.inj h
      exact Or.inl ⟨rfl, n, List.mem_cons_self, hn⟩
    next g gs hn =>
      rcases ih h with ⟨hfound, k, hk, haccepts⟩ | ⟨hrejects, hfound⟩
      · exact Or.inl ⟨hfound, k, List.mem_cons_of_mem n hk, haccepts⟩
      · exact Or.inr ⟨List.forall_mem_cons.2 ⟨⟨g, gs, hn⟩, hrejects⟩, hfound⟩

/-- A call passes, or all methods find something and what counts is what the first of them finds. -/
theorem callFindings_eq_ok {found : List Finding} {n : Nat} {ns : List Nat}
    (h : t.callFindings call none (n :: ns) = .ok found) :
    (found = [] ∧ ∃ k ∈ n :: ns, t.objections call k = .ok []) ∨
      (∀ k ∈ n :: ns, t.Rejects call k) ∧ t.objections call n = .ok found := by
  rw [callFindings_cons] at h
  split at h
  next => cases h
  next hn =>
    obtain rfl : [] = found := Except.ok.inj h
    exact Or.inl ⟨rfl, n, List.mem_cons_self, hn⟩
  next f fs hn =>
    rcases callFindings_some_eq_ok h with ⟨hfound, k, hk, haccepts⟩ | ⟨hrejects, rfl⟩
    · exact Or.inl ⟨hfound, k, List.mem_cons_of_mem n hk, haccepts⟩
    · exact Or.inr ⟨List.forall_mem_cons.2 ⟨⟨f, fs, hn⟩, hrejects⟩, hn⟩

theorem exists_signature_of_mem_callFindings {found : List Finding} {ns : List Nat}
    (h : t.callFindings call none ns = .ok found) {f : Finding} (hf : f ∈ found) :
    ∃ n ∈ ns, ∃ sig, t.signature n = .ok sig ∧ f ∈ t.argumentFindings sig call := by
  cases ns with
  | nil =>
    obtain rfl : [] = found := Except.ok.inj h
    cases hf
  | cons n ns =>
    rcases callFindings_eq_ok h with ⟨rfl, -⟩ | ⟨-, hfirst⟩
    · cases hf
    · obtain ⟨sig, hsig, rfl⟩ := objections_eq_ok_iff.1 hfirst
      exact ⟨n, List.mem_cons_self, sig, hsig, hf⟩

/-! ### Problems at a call -/

/-- What is found wrong with a call is told by its kind and its words. -/
theorem report_eq_of_key_eq {f g : Finding} (hf : f.family = .calls) (hg : g.family = .calls) {location : Location}
    (hkey : (f.report location).key = (g.report location).key) : f.report location = g.report location := by
  obtain ⟨hkind, -, hmessage⟩ := ProblemKey.mk.inj hkey
  have hkind : f.kind = g.kind := hkind
  have hmessage : f.message = g.message := hmessage
  have hrest : f.severity = g.severity ∧ f.code = g.code ∧ f.notes = g.notes := by
    cases f <;> cases g <;> simp_all [Finding.family, Finding.kind, Finding.severity, Finding.code, Finding.notes]
  rw [Finding.report, Finding.report, hkind, hmessage, hrest.1, hrest.2.1, hrest.2.2]

variable {ps : List Problem} {j : Nat}

/-- What is listed at a call was found wrong with a call. -/
theorem exists_call_of_mem_check (h : t.check.result = .ok ps) {p : Problem} (hp : p ∈ ps)
    (hanchor : p.location.anchor = .call j) :
    t.settings.checks .calls = true ∧ ∃ call fs, t.program.snapshot.calls[j]? = some call ∧
      t.callFindings call none (t.program.callees call) = .ok fs ∧ ∃ f ∈ fs, p = f.report ⟨.call j, call.span⟩ := by
  obtain ⟨all, rfl, hall⟩ := exists_listing h
  obtain ⟨family, found, hchecks, hfound, hp⟩ := (hall p).1 (Collector.mem_of_mem_listing hp)
  obtain rfl : family = .calls := by
    obtain ⟨f, location, rfl, -, hat⟩ := reportedBy_of_mem_problemsOf hfound p hp
    have hanchor : location.anchor = .call j := hanchor
    cases family <;> simp_all [RuleFamily.reportsAt]
  refine ⟨hchecks, ?_⟩
  obtain ⟨problems, hproblems, rfl⟩ := gather_eq_ok_iff.1 hfound
  obtain ⟨k, call, hcall, hp⟩ := mem_flatMap_zipIdx.1 hp
  obtain ⟨fs, hfs, hmap⟩ := callProblems_eq_ok_iff.1 (hproblems (call, k) (List.mem_zipIdx_iff_getElem?.2 hcall))
  rw [← hmap] at hp
  obtain ⟨f, hf, rfl⟩ := List.mem_map.1 hp
  obtain rfl : k = j := Anchor.call.inj hanchor
  exact ⟨call, fs, hcall, hfs, f, hf, rfl⟩

theorem callFinding_of_mem_check (h : t.check.result = .ok ps) (hcall : t.program.snapshot.calls[j]? = some call)
    {p : Problem} (hp : p ∈ ps) (hanchor : p.location.anchor = .call j) :
    t.settings.checks .calls = true ∧ ∃ fs, t.callFindings call none (t.program.callees call) = .ok fs ∧
      ∃ f ∈ fs, p = f.report ⟨.call j, call.span⟩ := by
  obtain ⟨hchecks, other, fs, hother, hfs, hf⟩ := exists_call_of_mem_check h hp hanchor
  obtain rfl : call = other := Option.some.inj (hcall.symm.trans hother)
  exact ⟨hchecks, fs, hfs, hf⟩

/-- A check lists at a call what it finds wrong with the call. -/
theorem callFindings_of_check (h : t.check.result = .ok ps) (hchecks : t.settings.checks .calls = true)
    (hcall : t.program.snapshot.calls[j]? = some call) :
    ∃ fs, t.callFindings call none (t.program.callees call) = .ok fs ∧
      ∀ p, p ∈ ps ∧ p.location.anchor = .call j ↔ ∃ f ∈ fs, p = f.report ⟨.call j, call.span⟩ := by
  obtain ⟨all, hps, hall⟩ := exists_listing h
  obtain ⟨found, hfound⟩ : ∃ found, t.problemsOf .calls = .ok found := by
    obtain ⟨problems, hproblems, -⟩ := check_eq_ok_iff.1 h
    exact ⟨_, hproblems .calls (List.mem_filter.2 ⟨by decide, hchecks⟩)⟩
  obtain ⟨problems, hproblems, hflat⟩ := gather_eq_ok_iff.1 hfound
  obtain ⟨fs, hfs, hmap⟩ := callProblems_eq_ok_iff.1 (hproblems (call, j) (List.mem_zipIdx_iff_getElem?.2 hcall))
  refine ⟨fs, hfs, ?_⟩
  have hlisted : ∀ p ∈ ps, p.location.anchor = .call j → ∃ f ∈ fs, p = f.report ⟨.call j, call.span⟩ := by
    intro p hp hanchor
    obtain ⟨-, gs, hgs, hp⟩ := callFinding_of_mem_check h hcall hp hanchor
    obtain rfl : fs = gs := Except.ok.inj (hfs.symm.trans hgs)
    exact hp
  intro p
  constructor
  · rintro ⟨hp, hanchor⟩
    exact hlisted p hp hanchor
  · rintro ⟨f, hf, rfl⟩
    have hmem : f.report ⟨.call j, call.span⟩ ∈ found := by
      rw [hflat, mem_flatMap_zipIdx]
      refine ⟨j, call, hcall, ?_⟩
      rw [← hmap]
      exact List.mem_map.2 ⟨f, hf, rfl⟩
    -- what is listed under the same key was found wrong with the same call, so it is the same
    obtain ⟨b, hb, hkey⟩ := Collector.exists_mem_listing ((hall _).2 ⟨.calls, found, hchecks, hfound, hmem⟩)
    rw [← hps] at hb
    have hanchor : b.location.anchor = .call j := congrArg (fun key => key.location.anchor) hkey
    obtain ⟨g, hg, rfl⟩ := hlisted b hb hanchor
    have hfamily := family_of_mem_callFindings (by simp) hfs
    rw [← report_eq_of_key_eq (hfamily g hg) (hfamily f hf) hkey]
    exact ⟨hb, rfl⟩

end Task

/-! ### Objections -/

/-- What a method with the given signature holds against a call. -/
inductive Snapshot.Objection (s : Snapshot) (settings : Settings) (call : CallSite) (m : MethodDecl) (sig : Signature) :
    Finding → Prop
  | missingKeyword {p : Parameter} (hp : p ∈ sig.params) (hkind : p.kind = .keyword)
      (hmissing : ∀ kwarg ∈ call.kwargs, kwarg.name ≠ p.name) :
      s.Objection settings call m sig (.missingKeyword m.path p.name)
  /-- The tag in effect for the parameter means a type to its writer that contradicts what is known of the argument. -/
  | wrongArgument {p : Parameter} {arg : Argument} {text : String} {writer : Option String} {declared actual : DocType}
      (hbound : (p, arg) ∈ (sig.bind call.args call.kwargs).pairs) (hrest : p.kind ≠ .rest)
      (hdoubleRest : p.kind ≠ .doubleRest) (htag : s.TagInEffect (.param p.name) m text writer)
      (hmeans : s.Means settings writer text declared) (habsent : declared ≠ .absent) (hvoid : declared ≠ .void)
      (hactual : (Program.ofSnapshot s).ancestry.infer call.within arg.value = .known actual)
      (hcontradicts : declared.Contradicts (Program.ofSnapshot s).ancestry actual) :
      s.Objection settings call m sig (.wrongArgument m.path p.name declared.text actual.text)
  | tooManyArguments (harity : settings.arity = .report) (hunbound : (sig.bind call.args call.kwargs).unbound ≠ []) :
      s.Objection settings call m sig (.tooManyArguments m.path (sig.bind call.args call.kwargs).unbound)

/-- Resolving leaves absent and void types as they are. -/
theorem Task.isUnchecked_of_resolution {t : Task} {key : TagKey} {type : DocType}
    (h : t.resolution key = .resolved type) : type.isUnchecked = (DocType.parse key.text).isUnchecked := by
  unfold Task.resolution at h
  cases hwithin : key.within with
  | none =>
    rw [hwithin] at h
    obtain ⟨-, rfl⟩ := Scope.resolve_eq_resolved_iff.1 h
    exact DocType.isUnchecked_mapNames _ _
  | some ns =>
    rw [hwithin] at h
    obtain ⟨-, rfl⟩ := Scope.resolve_eq_resolved_iff.1 h
    exact (DocType.isUnchecked_mapNames _ _).trans (DocType.isUnchecked_mapNames _ _)

/-- A parameter is typed by its tag. -/
theorem Signature.isTyped_of_mem_params {n : Nat} {m : MethodDecl} {params : List ParamDecl}
    {tagFor : String → Option (String × Option String)} {p : Parameter} (hp : p ∈ (build n m params tagFor).params)
    {text : String} (htag : p.tag = some text) : p.isTyped = !(DocType.parse text).isUnchecked := by
  obtain ⟨decl, -, rfl⟩ := List.mem_map.1 hp
  obtain ⟨⟨_, inheritedFrom⟩, hfor, rfl⟩ := Option.map_eq_some_iff.1 htag
  simp [Parameter.isTyped, Signature.parameter, hfor]

section Candidates

variable {s : Snapshot} {settings : Settings} {call : CallSite} {n : Nat} {m : MethodDecl} {sig : Signature}

/-- The bound arguments that are found to be wrong are those that a method objects to. -/
theorem Task.argumentFinding?_iff (hm : s.methods[n]? = some m)
    (hsig : Task.signature ⟨.ofSnapshot s, settings⟩ n = .ok sig) {p : Parameter} {arg : Argument}
    (hp : p ∈ sig.params) {f : Finding} :
    Task.argumentFinding? ⟨.ofSnapshot s, settings⟩ sig call p arg = some f ↔
      p.kind ≠ .rest ∧ p.kind ≠ .doubleRest ∧ ∃ text writer declared actual,
        s.TagInEffect (.param p.name) m text writer ∧ s.Means settings writer text declared ∧
        declared ≠ .absent ∧ declared ≠ .void ∧
        (Program.ofSnapshot s).ancestry.infer call.within arg.value = .known actual ∧
        declared.Contradicts (Program.ofSnapshot s).ancestry actual ∧
        .wrongArgument m.path p.name declared.text actual.text = f := by
  obtain ⟨m', params, hm', -, rfl⟩ := Task.signature_eq_ok_iff.1 hsig
  obtain rfl : m = m' := Option.some.inj (hm.symm.trans hm')
  have hvalue := (Program.ofSnapshot s).ancestry.infer_comparable call.within arg.value
  rw [Task.argumentFinding?_eq_some_iff]
  constructor
  · rintro ⟨htyped, hrest, hdoubleRest, text, declared, htag, hres, haccepts, rfl⟩
    rw [Signature.isTyped_of_mem_params hp htag, Bool.not_eq_true', ← Task.isUnchecked_of_resolution hres] at htyped
    obtain ⟨actual, hactual, hcontradicts⟩ := (DocType.accepts_eq_false_iff htyped hvalue).1 haccepts
    obtain ⟨habsent, hvoid⟩ := DocType.isUnchecked_eq_false_iff.1 htyped
    have heffect := (Task.tag_eq_some_iff (List.mem_of_getElem? hm) hp).1 ⟨htag, rfl⟩
    refine ⟨hrest, hdoubleRest, text, _, declared, actual, heffect, hres, habsent, hvoid, hactual, hcontradicts, ?_⟩
    exact congrArg (fun i => Finding.wrongArgument m.path p.name declared.text (Inferred.text i)) hactual.symm
  · rintro ⟨hrest, hdoubleRest, text, writer, declared, actual, heffect, hmeans, habsent, hvoid, hactual, hcontradicts,
      rfl⟩
    obtain ⟨htag, rfl⟩ := (Task.tag_eq_some_iff (List.mem_of_getElem? hm) hp).2 heffect
    have hres : Task.resolution ⟨.ofSnapshot s, settings⟩ ⟨.method n, p.inheritedFrom.or m.owner, text⟩ =
        .resolved declared := hmeans
    have hdeclared := DocType.isUnchecked_eq_false_iff.2 ⟨habsent, hvoid⟩
    have htyped : p.isTyped = true := by
      rw [Signature.isTyped_of_mem_params hp htag, ← Task.isUnchecked_of_resolution hres, hdeclared]
      rfl
    have haccepts := (DocType.accepts_eq_false_iff hdeclared hvalue).2 ⟨actual, hactual, hcontradicts⟩
    refine ⟨htyped, hrest, hdoubleRest, text, declared, htag, hres, haccepts, ?_⟩
    exact congrArg (fun i => Finding.wrongArgument m.path p.name declared.text (Inferred.text i)) hactual

/-- What is found wrong with a call that reaches a method is what the method holds against it. -/
theorem Task.mem_argumentFindings_iff (hm : s.methods[n]? = some m)
    (hsig : Task.signature ⟨.ofSnapshot s, settings⟩ n = .ok sig) {f : Finding} :
    f ∈ Task.argumentFindings ⟨.ofSnapshot s, settings⟩ sig call ↔ s.Objection settings call m sig f := by
  have hpath : sig.path = m.path := by
    obtain ⟨m', params, hm', -, rfl⟩ := Task.signature_eq_ok_iff.1 hsig
    obtain rfl : m = m' := Option.some.inj (hm.symm.trans hm')
    rfl
  rw [Task.mem_argumentFindings, hpath]
  constructor
  · rintro (⟨p, hp, rfl⟩ | ⟨p, arg, hbound, hf⟩ | ⟨⟨harity, hunbound⟩, rfl⟩)
    · obtain ⟨hp, hmissing⟩ := List.mem_filter.1 hp
      obtain ⟨hkind, hmissing⟩ : p.kind = .keyword ∧ ∀ kwarg ∈ call.kwargs, kwarg.name ≠ p.name := by
        simpa using hmissing
      exact .missingKeyword hp hkind hmissing
    · have hp := Signature.mem_params_of_mem_pairs hbound
      obtain ⟨hrest, hdoubleRest, text, writer, declared, actual, htag, hmeans, habsent, hvoid, hactual, hcontradicts,
        rfl⟩ := (Task.argumentFinding?_iff hm hsig hp).1 hf
      exact .wrongArgument hbound hrest hdoubleRest htag hmeans habsent hvoid hactual hcontradicts
    · exact .tooManyArguments harity hunbound
  · intro h
    cases h with
    | missingKeyword hp hkind hmissing =>
      refine Or.inl ⟨_, List.mem_filter.2 ⟨hp, ?_⟩, rfl⟩
      simpa [hkind] using hmissing
    | wrongArgument hbound hrest hdoubleRest htag hmeans habsent hvoid hactual hcontradicts =>
      have hp := Signature.mem_params_of_mem_pairs hbound
      exact Or.inr (Or.inl ⟨_, _, hbound, (Task.argumentFinding?_iff hm hsig hp).2
        ⟨hrest, hdoubleRest, _, _, _, _, htag, hmeans, habsent, hvoid, hactual, hcontradicts, rfl⟩⟩)
    | tooManyArguments harity hunbound => exact Or.inr (Or.inr ⟨⟨harity, hunbound⟩, rfl⟩)

end Candidates

namespace Snapshot

variable (s : Snapshot) (settings : Settings) (call : CallSite)

/-- The method of the given number has parameters, and the finding is what it holds against the call. -/
def Objects (n : Nat) (f : Finding) : Prop :=
  ∃ m sig, s.methods[n]? = some m ∧ Task.signature ⟨.ofSnapshot s, settings⟩ n = .ok sig ∧
    s.Objection settings call m sig f

/-- The method of the given number has parameters and holds something against the call. -/
def Rejects (n : Nat) : Prop :=
  ∃ f, s.Objects settings call n f

/-- The method of the given number has parameters and holds nothing against the call. -/
def Accepts (n : Nat) : Prop :=
  (∃ sig, Task.signature ⟨.ofSnapshot s, settings⟩ n = .ok sig) ∧ ∀ f, ¬ s.Objects settings call n f

variable {s settings call}

theorem objects_iff_mem {n : Nat} {fs : List Finding}
    (h : Task.objections ⟨.ofSnapshot s, settings⟩ call n = .ok fs) {f : Finding} :
    s.Objects settings call n f ↔ f ∈ fs := by
  obtain ⟨sig, hsig, rfl⟩ := Task.objections_eq_ok_iff.1 h
  constructor
  · rintro ⟨m, sig', hm, hsig', hf⟩
    obtain rfl : sig = sig' := Except.ok.inj (hsig.symm.trans hsig')
    exact (Task.mem_argumentFindings_iff hm hsig).2 hf
  · intro hf
    obtain ⟨m, -, hm, -⟩ := Task.signature_eq_ok_iff.1 hsig
    exact ⟨m, sig, hm, hsig, (Task.mem_argumentFindings_iff hm hsig).1 hf⟩

theorem exists_objections (call : CallSite) {n : Nat} {sig : Signature}
    (h : Task.signature ⟨.ofSnapshot s, settings⟩ n = .ok sig) :
    ∃ fs, Task.objections ⟨.ofSnapshot s, settings⟩ call n = .ok fs :=
  ⟨_, Task.objections_eq_ok_iff.2 ⟨sig, h, rfl⟩⟩

theorem rejects_iff {n : Nat} : s.Rejects settings call n ↔ Task.Rejects ⟨.ofSnapshot s, settings⟩ call n := by
  constructor
  · rintro ⟨f, m, sig, hm, hsig, hf⟩
    obtain ⟨fs, hfs⟩ := exists_objections call hsig
    cases fs with
    | nil => cases (objects_iff_mem hfs).1 ⟨m, sig, hm, hsig, hf⟩
    | cons g gs => exact ⟨g, gs, hfs⟩
  · rintro ⟨f, fs, hfs⟩
    exact ⟨f, (objects_iff_mem hfs).2 List.mem_cons_self⟩

theorem accepts_iff {n : Nat} :
    s.Accepts settings call n ↔ Task.objections ⟨.ofSnapshot s, settings⟩ call n = .ok [] := by
  constructor
  · rintro ⟨⟨sig, hsig⟩, hnone⟩
    obtain ⟨fs, hfs⟩ := exists_objections call hsig
    cases fs with
    | nil => exact hfs
    | cons f fs => exact absurd ((objects_iff_mem hfs).2 List.mem_cons_self) (hnone f)
  · intro hfs
    obtain ⟨sig, hsig, -⟩ := Task.objections_eq_ok_iff.1 hfs
    refine ⟨⟨sig, hsig⟩, ?_⟩
    intro f hf
    cases (objects_iff_mem hfs).1 hf

end Snapshot

/-! ### Listed objections -/

/-- A check that succeeds lists nothing at a call that reaches no method or is accepted by a method that it reaches.  At
any other call it lists, each once, the objections of the first method that the call reaches.  A check without the calls
lists nothing at any call. -/
theorem Task.check_call_site (s : Snapshot) (settings : Settings) {ps : List Problem}
    (h : (Task.check ⟨.ofSnapshot s, settings⟩).result = .ok ps) {j : Nat} {call : CallSite}
    (hcall : s.calls[j]? = some call) :
    (settings.checks .calls = true →
      ((∃ n ∈ (Program.ofSnapshot s).callees call, s.Accepts settings call n) →
        ∀ p ∈ ps, p.location.anchor ≠ .call j) ∧
      ((Program.ofSnapshot s).callees call = [] → ∀ p ∈ ps, p.location.anchor ≠ .call j) ∧
      ∀ n rest, (Program.ofSnapshot s).callees call = n :: rest →
        (∀ k ∈ n :: rest, ¬ s.Accepts settings call k) →
        (∀ k ∈ n :: rest, s.Rejects settings call k) ∧
        (ps.filter fun p => p.location.anchor = .call j).Nodup ∧
        ∀ p, p ∈ ps ∧ p.location.anchor = .call j ↔
          ∃ f, s.Objects settings call n f ∧ p = f.report ⟨.call j, call.span⟩) ∧
    (settings.checks .calls = false → ∀ p ∈ ps, p.location.anchor ≠ .call j) := by
  constructor
  · intro hchecks
    obtain ⟨fs, hfs, hlisted⟩ := Task.callFindings_of_check h hchecks hcall
    have hempty : fs = [] → ∀ p ∈ ps, p.location.anchor ≠ .call j := by
      rintro rfl p hp hanchor
      obtain ⟨f, hf, -⟩ := (hlisted p).1 ⟨hp, hanchor⟩
      cases hf
    refine ⟨?_, ?_, ?_⟩
    · rintro ⟨n, hn, haccepts⟩
      obtain ⟨first, rest, hcallees⟩ := List.exists_cons_of_ne_nil (List.ne_nil_of_mem hn)
      rw [hcallees] at hn hfs
      rcases Task.callFindings_eq_ok hfs with ⟨hnone, -⟩ | ⟨hrejects, -⟩
      · exact hempty hnone
      · obtain ⟨f, fs, hfs⟩ := hrejects n hn
        cases hfs.symm.trans (Snapshot.accepts_iff.1 haccepts)
    · intro hcallees
      rw [hcallees] at hfs
      exact hempty (Except.ok.inj hfs).symm
    · intro n rest hcallees hnone
      rw [hcallees] at hfs
      rcases Task.callFindings_eq_ok hfs with ⟨-, k, hk, haccepts⟩ | ⟨hrejects, hobjections⟩
      · exact absurd (Snapshot.accepts_iff.2 haccepts) (hnone k hk)
      · refine ⟨fun k hk => Snapshot.rejects_iff.2 (hrejects k hk), ?_, ?_⟩
        · obtain ⟨all, rfl, -⟩ := Task.exists_listing h
          exact (Collector.nodup_keys_listing all).of_map.filter _
        · intro p
          rw [hlisted]
          simp only [Snapshot.objects_iff_mem hobjections]
  · intro hskips p hp hanchor
    have hchecks := (Task.callFinding_of_mem_check h hcall hp hanchor).1
    exact absurd (hskips.symm.trans hchecks) (by decide)

/-- A call with an integer, one argument more and no keyword, on a value of the given type. -/
def sloppyCall (receiver : String) : CallSite where
  receiver := some (.typed receiver)
  method := "run"
  args := [.literal "Integer", .nil]

/-- A method that inherits the tag of its parameter and asks for a keyword, and one that takes any arguments. -/
def overloaded : Snapshot where
  types := [{ name := "Sup" }, { name := "Sub", superclass := some "Sup" }, { name := "Loose" }]
  methods := [
    { owner := some "Sup", name := "run", params := some [⟨"x", .required⟩], paramTags := [⟨"x", "String"⟩] },
    { owner := some "Sub", name := "run", params := some [⟨"x", .required⟩, ⟨"k", .keyword⟩] },
    { owner := some "Loose", name := "run", params := some [⟨"xs", .rest⟩], paramTags := [⟨"xs", "String"⟩] }
  ]
  calls := [sloppyCall "Sub, Loose", sloppyCall "Sub"]

/-- What the method of `Sub` holds against the call. -/
def sloppiness : List Finding :=
  [.missingKeyword "Sub#run" "k", .wrongArgument "Sub#run" "x" "String" "Integer",
    .tooManyArguments "Sub#run" ["argument 2"]]

/-- The call that may reach `Loose` passes, and the other one meets all three objections. -/
theorem check_call_site_overloaded :
    (Task.check ⟨.ofSnapshot overloaded, { arity := .report }⟩).result =
        .ok (sloppiness.map fun f => f.report ⟨.call 1, {}⟩) ∧
      (¬ overloaded.Accepts { arity := .report } (sloppyCall "Sub, Loose") 1 ∧
        overloaded.Accepts { arity := .report } (sloppyCall "Sub, Loose") 2 ∧
        ∀ p ∈ sloppiness.map fun f => f.report ⟨.call 1, {}⟩, p.location.anchor ≠ .call 0) ∧
      (¬ overloaded.Accepts { arity := .report } (sloppyCall "Sub") 1 ∧
        ∀ f ∈ sloppiness, ∃ g, overloaded.Objects { arity := .report } (sloppyCall "Sub") 1 g ∧
          f.report ⟨.call 1, {}⟩ = g.report ⟨.call 1, {}⟩) := by
  have hcheck : (Task.check ⟨.ofSnapshot overloaded, { arity := .report }⟩).result =
      .ok (sloppiness.map fun f => f.report ⟨.call 1, {}⟩) := by
    rw [Task.check_result_eq_inOrder]
    decide +kernel
  have heither : (Program.ofSnapshot overloaded).callees (sloppyCall "Sub, Loose") = [1, 2] := by
    rw [Program.ofSnapshot_eq_inOrder]
    decide +kernel
  have hone : (Program.ofSnapshot overloaded).callees (sloppyCall "Sub") = [1] := by
    rw [Program.ofSnapshot_eq_inOrder]
    decide +kernel
  have hsub : ∀ receiver ∈ ["Sub, Loose", "Sub"],
      ¬ overloaded.Accepts { arity := .report } (sloppyCall receiver) 1 := by
    simp only [Snapshot.accepts_iff]
    rw [Program.ofSnapshot_eq_inOrder]
    decide +kernel
  have hloose : overloaded.Accepts { arity := .report } (sloppyCall "Sub, Loose") 2 := by
    rw [Snapshot.accepts_iff, Program.ofSnapshot_eq_inOrder]
    decide +kernel
  have hfirst := (Task.check_call_site overloaded { arity := .report } hcheck (j := 0) rfl).1 rfl
  have hsecond := (Task.check_call_site overloaded { arity := .report } hcheck (j := 1) rfl).1 rfl
  have hsub' := hsub "Sub" (by decide)
  obtain ⟨-, -, hlisted⟩ := hsecond.2.2 1 [] hone (by simpa using hsub')
  refine ⟨hcheck, ⟨hsub _ (by decide), hloose, ?_⟩, hsub', ?_⟩
  · exact hfirst.1 ⟨2, by rw [heither]; decide, hloose⟩
  · intro f hf
    exact (hlisted _).1 ⟨List.mem_map.2 ⟨f, hf, rfl⟩, rfl⟩

end TagCheck
