import TagCheck.Proofs.Objection

/-!
# Surplus arguments

Where the settings ask for it, a method objects to arguments that none of its parameters takes.  This objection comes
behind its others (`Task.argumentFindings_report`).  It may also be the one that turns a call down, and then the call
has problems that need not be about surplus arguments: they are the objections of the nearest method.  Either way what
was found wrong with a call before is found again, in front (`Task.callFindings_report`).  New problems are told apart
by their code or by their call, and without them the list is the one of the check that ignores surplus arguments
(`Task.filter_check_report`).
-/

namespace TagCheck

/-- What a method of the signature finds wrong with a call if surplus arguments count. -/
def Signature.surplus (sig : Signature) (call : CallSite) : List Finding :=
  if (sig.bind call.args call.kwargs).unbound = [] then []
  else [.tooManyArguments sig.path (sig.bind call.args call.kwargs).unbound]

theorem Signature.code_of_mem_surplus {sig : Signature} {call : CallSite} {f : Finding} (h : f ∈ sig.surplus call) :
    f.code = "Y0022" := by
  unfold Signature.surplus at h
  split at h
  next => cases h
  next =>
    obtain rfl := List.mem_singleton.1 h
    rfl

namespace Task

/-- The task with the given setting for surplus arguments. -/
def withArity (t : Task) (arity : ArityPolicy) : Task :=
  { t with settings := { t.settings with arity := arity } }

variable {t : Task} {call : CallSite}

/-! ### Findings at a call -/

theorem argumentFindings_report (t : Task) (sig : Signature) (call : CallSite) :
    (t.withArity .report).argumentFindings sig call =
      (t.withArity .ignore).argumentFindings sig call ++ sig.surplus call := by
  have hreport : (t.withArity .report).settings.arity = .report := rfl
  have hignore : (t.withArity .ignore).settings.arity ≠ .report := by simp [withArity]
  have hargument : (t.withArity .report).argumentFinding? = (t.withArity .ignore).argumentFinding? := rfl
  simp only [argumentFindings, hreport, hignore, hargument, Signature.surplus, true_and, false_and, if_false,
    List.append_nil, ne_eq, ite_not]

theorem code_of_mem_argumentFindings_ignore {sig : Signature} {f : Finding}
    (h : f ∈ (t.withArity .ignore).argumentFindings sig call) : f.code ≠ "Y0022" := by
  rcases mem_argumentFindings.1 h with ⟨p, -, rfl⟩ | ⟨p, arg, -, hwrong⟩ | ⟨⟨hreport, -⟩, -⟩
  · simp [Finding.code]
  · obtain ⟨-, -, -, _, _, -, -, -, rfl⟩ := argumentFinding?_eq_some_iff.1 hwrong
    simp [Finding.code]
  · simp [withArity] at hreport

theorem objections_report {n : Nat} {fs : List Finding} (h : (t.withArity .ignore).objections call n = .ok fs) :
    ∃ sig, t.signature n = .ok sig ∧ (t.withArity .report).objections call n = .ok (fs ++ sig.surplus call) := by
  obtain ⟨sig, hsig, rfl⟩ := objections_eq_ok_iff.1 h
  have hsig : t.signature n = .ok sig := hsig
  exact ⟨sig, hsig, objections_eq_ok_iff.2 ⟨sig, hsig, argumentFindings_report t sig call⟩⟩

/-- If surplus arguments count, what was found wrong with a call comes first, and where nothing was found, nothing is
found now either or a method that accepted the call has a surplus. -/
theorem callFindings_report {ns : List Nat} {fs gs : List Finding}
    (h : (t.withArity .ignore).callFindings call none ns = .ok fs)
    (h' : (t.withArity .report).callFindings call none ns = .ok gs) :
    (fs = [] ∧ (gs = [] ∨ ∃ n ∈ ns, (t.withArity .ignore).objections call n = .ok [] ∧
        ∃ sig, t.signature n = .ok sig ∧ sig.surplus call ≠ [])) ∨
      fs ≠ [] ∧ ∃ n ∈ ns, ∃ sig, t.signature n = .ok sig ∧ gs = fs ++ sig.surplus call := by
  cases ns with
  | nil =>
    obtain rfl : [] = fs := Except.ok.inj h
    obtain rfl : [] = gs := Except.ok.inj h'
    exact Or.inl ⟨rfl, Or.inl rfl⟩
  | cons n ns =>
    rcases callFindings_eq_ok h with ⟨rfl, k, hk, haccepts⟩ | ⟨hrejects, hfirst⟩
    · refine Or.inl ⟨rfl, ?_⟩
      rcases callFindings_eq_ok h' with ⟨hgs, -⟩ | ⟨hrejects', -⟩
      · exact Or.inl hgs
      · obtain ⟨f, rest, hrest⟩ := hrejects' k hk
        obtain ⟨sig, hsig, hobjects⟩ := objections_report haccepts
        refine Or.inr ⟨k, hk, haccepts, sig, hsig, ?_⟩
        intro hempty
        rw [hempty] at hobjects
        cases hrest.symm.trans hobjects
    · have hne : fs ≠ [] := by
        obtain ⟨f, rest, hrest⟩ := hrejects n List.mem_cons_self
        rw [Except.ok.inj (hfirst.symm.trans hrest)]
        exact List.cons_ne_nil f rest
      refine Or.inr ⟨hne, n, List.mem_cons_self, ?_⟩
      rcases callFindings_eq_ok h' with ⟨-, k, hk, haccepts⟩ | ⟨-, hfirst'⟩
      · -- a method that accepts the call now accepted it before
        obtain ⟨f, rest, hrest⟩ := hrejects k hk
        obtain ⟨sig, -, hobjects⟩ := objections_report hrest
        cases haccepts.symm.trans hobjects
      · obtain ⟨sig, hsig, hobjects⟩ := objections_report hfirst
        exact ⟨sig, hsig, Except.ok.inj (hfirst'.symm.trans hobjects)⟩

theorem code_of_mem_callFindings_ignore {ns : List Nat} {fs : List Finding}
    (h : (t.withArity .ignore).callFindings call none ns = .ok fs) {f : Finding} (hf : f ∈ fs) : f.code ≠ "Y0022" := by
  obtain ⟨n, -, sig, -, hf⟩ := exists_signature_of_mem_callFindings h hf
  exact code_of_mem_argumentFindings_ignore hf

/-! ### Problems that are there either way -/

/-- The place is that of a call with which nothing is found wrong. -/
def passesAt (t : Task) : Anchor → Bool
  | .call j => t.program.snapshot.calls[j]?.any fun call =>
      (t.callFindings call none (t.program.callees call)).toOption.any List.isEmpty
  | _ => false

/-- The problem is not about surplus arguments, nor is it at a call that passes. -/
def keeps (t : Task) (p : Problem) : Bool :=
  p.code != "Y0022" && !t.passesAt p.location.anchor

/-- Only at calls are there problems that come or go. -/
theorem keeps_of_reportedBy (t : Task) {family : RuleFamily} (hfamily : family ≠ .calls) {p : Problem}
    (h : p.ReportedBy family) : t.keeps p = true := by
  obtain ⟨f, location, rfl, rfl, hlocation⟩ := h
  have hcode : f.code ≠ "Y0022" := by
    intro hcode
    have hmem : f.code ∈ RuleFamily.calls.codes := by
      rw [hcode]
      decide
    exact hfamily ((f.code_mem_codes .calls).1 hmem)
  have hplace : t.passesAt location.anchor = false := by
    cases hanchor : location.anchor with
    | call j =>
      rw [hanchor] at hlocation
      cases hf : f.family <;> simp_all [RuleFamily.reportsAt]
    | method n => rfl
    | assignment n => rfl
  simp [keeps, Finding.report, hcode, hplace]

theorem filter_callProblems {j : Nat} (hcall : t.program.snapshot.calls[j]? = some call) {ps qs : List Problem}
    (h : (t.withArity .ignore).callProblems call j = .ok ps)
    (h' : (t.withArity .report).callProblems call j = .ok qs) : qs.filter (t.withArity .ignore).keeps = ps := by
  obtain ⟨fs, hfs, rfl⟩ := callProblems_eq_ok_iff.1 h
  obtain ⟨gs, hgs, rfl⟩ := callProblems_eq_ok_iff.1 h'
  have hpasses : (t.withArity .ignore).passesAt (.call j) = fs.isEmpty := by
    have hcall : (t.withArity .ignore).program.snapshot.calls[j]? = some call := hcall
    simp only [passesAt, hcall, Option.any_some, hfs, Except.toOption]
  rcases callFindings_report hfs hgs with ⟨rfl, -⟩ | ⟨hne, n, -, sig, -, rfl⟩
  · rw [List.map_nil, List.filter_eq_nil_iff]
    intro p hp
    obtain ⟨f, -, rfl⟩ := List.mem_map.1 hp
    simp [keeps, Finding.report, hpasses]
  · -- something was found before, so that only the code decides
    have hkeeps : ∀ f : Finding, (t.withArity .ignore).keeps (f.report ⟨.call j, call.span⟩) = (f.code != "Y0022") := by
      intro f
      simp [keeps, Finding.report, hpasses, hne]
    have hold : (fs.map fun f => f.report ⟨.call j, call.span⟩).filter (t.withArity .ignore).keeps =
        fs.map fun f => f.report ⟨.call j, call.span⟩ := by
      rw [List.filter_eq_self]
      intro p hp
      obtain ⟨f, hf, rfl⟩ := List.mem_map.1 hp
      rw [hkeeps, bne_iff_ne]
      exact code_of_mem_callFindings_ignore hfs hf
    have hnew : ((sig.surplus call).map fun f => f.report ⟨.call j, call.span⟩).filter (t.withArity .ignore).keeps =
        [] := by
      rw [List.filter_eq_nil_iff]
      intro p hp
      obtain ⟨f, hf, rfl⟩ := List.mem_map.1 hp
      simp [hkeeps, Signature.code_of_mem_surplus hf]
    rw [List.map_append, List.filter_append, hold, hnew, List.append_nil]

theorem filter_problemsOf (family : RuleFamily) {found found' : List Problem}
    (h : (t.withArity .ignore).problemsOf family = .ok found)
    (h' : (t.withArity .report).problemsOf family = .ok found') :
    found'.filter (t.withArity .ignore).keeps = found := by
  match family with
  | .calls =>
    obtain ⟨each, heach, rfl⟩ := gather_eq_ok_iff.1 h
    obtain ⟨each', heach', rfl⟩ := gather_eq_ok_iff.1 h'
    rw [List.filter_flatMap]
    apply List.flatMap_congr
    rintro ⟨call, j⟩ hitem
    exact filter_callProblems (List.mem_zipIdx_iff_getElem?.1 hitem) (heach (call, j) hitem) (heach' (call, j) hitem)
  | .returns | .variables | .params =>
    obtain rfl : found = found' := Except.ok.inj (h.symm.trans h')
    rw [List.filter_eq_self]
    intro p hp
    exact keeps_of_reportedBy _ (by decide) (reportedBy_of_mem_problemsOf h p hp)

/-- What is listed either way is all that is listed if surplus arguments do not count. -/
theorem filter_check_report {ps qs : List Problem} (h : (t.withArity .ignore).check.result = .ok ps)
    (h' : (t.withArity .report).check.result = .ok qs) : qs.filter (t.withArity .ignore).keeps = ps := by
  have hkeeps : ∀ a b : Problem, a.code = b.code → a.location = b.location →
      (t.withArity .ignore).keeps a = (t.withArity .ignore).keeps b := by
    intro a b hcode hlocation
    rw [keeps, keeps, hcode, hlocation]
  exact filter_check (by rfl) h h' hkeeps fun family _ _ => filter_problemsOf family

variable {ps qs : List Problem}

/-- A new problem is at a call that some method has a surplus for. -/
theorem exists_surplus_of_new (h : (t.withArity .ignore).check.result = .ok ps)
    (h' : (t.withArity .report).check.result = .ok qs) {p : Problem} (hp : p ∈ qs) (hnew : p ∉ ps) :
    ∃ j call, t.program.snapshot.calls[j]? = some call ∧ p.location.anchor = .call j ∧
      ∃ n ∈ t.program.callees call, ∃ sig, t.signature n = .ok sig ∧ sig.surplus call ≠ [] := by
  obtain ⟨j, hanchor⟩ : ∃ j, p.location.anchor = .call j := by
    obtain ⟨family, hreported⟩ := reportedBy_of_mem_check h' hp
    obtain rfl : family = .calls := by
      by_contra hfamily
      have hkept : p ∈ qs.filter (t.withArity .ignore).keeps :=
        List.mem_filter.2 ⟨hp, keeps_of_reportedBy _ hfamily hreported⟩
      rw [filter_check_report h h'] at hkept
      exact hnew hkept
    obtain ⟨f, location, rfl, -, hlocation⟩ := hreported
    cases hanchor : location.anchor with
    | call j => exact ⟨j, hanchor⟩
    | method n => simp [hanchor, RuleFamily.reportsAt] at hlocation
    | assignment n => simp [hanchor, RuleFamily.reportsAt] at hlocation
  obtain ⟨hchecks, call, gs, hcall, hgs, g, hg, hreport⟩ := exists_call_of_mem_check h' hp hanchor
  obtain ⟨fs, hfs, hlisted⟩ := callFindings_of_check h hchecks hcall
  refine ⟨j, call, hcall, hanchor, ?_⟩
  rcases callFindings_report hfs hgs with ⟨rfl, rfl | ⟨n, hn, -, hsurplus⟩⟩ | ⟨-, n, hn, sig, hsig, rfl⟩
  · cases hg
  · exact ⟨n, hn, hsurplus⟩
  · rcases List.mem_append.1 hg with hold | hsurplus
    · exact absurd ((hlisted p).2 ⟨g, hold, hreport⟩).1 hnew
    · exact ⟨n, hn, sig, hsig, List.ne_nil_of_mem hsurplus⟩

/-- A call that has problems only now was accepted by a method that has a surplus. -/
theorem exists_accepts_of_new_call (h : (t.withArity .ignore).check.result = .ok ps)
    (h' : (t.withArity .report).check.result = .ok qs) {j : Nat} (hcall : t.program.snapshot.calls[j]? = some call)
    {p : Problem} (hp : p ∈ qs) (hanchor : p.location.anchor = .call j)
    (hnone : ∀ p ∈ ps, p.location.anchor ≠ .call j) :
    ∃ n ∈ t.program.callees call, (t.withArity .ignore).objections call n = .ok [] ∧
      ∃ sig, t.signature n = .ok sig ∧ sig.surplus call ≠ [] := by
  obtain ⟨hchecks, gs, hgs, g, hg, -⟩ := callFinding_of_mem_check h' hcall hp hanchor
  obtain ⟨fs, hfs, hlisted⟩ := callFindings_of_check h hchecks hcall
  rcases callFindings_report hfs hgs with ⟨-, rfl | haccepts⟩ | ⟨hne, -⟩
  · cases hg
  · exact haccepts
  · obtain ⟨f, hf⟩ := List.exists_mem_of_ne_nil fs hne
    obtain ⟨hlist, hplace⟩ := (hlisted _).2 ⟨f, hf, rfl⟩
    exact absurd hplace (hnone _ hlist)

end Task

/-! ### Counting surplus arguments -/

namespace Snapshot

variable (s : Snapshot) (settings : Settings) (call : CallSite)

/-- The method of the given number has parameters, and they leave over the arguments of the call that are described. -/
def LeavesUnbound (n : Nat) (unbound : List String) : Prop :=
  unbound ≠ [] ∧ ∃ sig, Task.signature ⟨.ofSnapshot s, settings⟩ n = .ok sig ∧
    (sig.bind call.args call.kwargs).unbound = unbound

/-- The method of the given number holds nothing against the call unless surplus arguments count, and then no more than
that there are some. -/
def AcceptsButForSurplus (n : Nat) : Prop :=
  s.Accepts { settings with arity := .ignore } call n ∧
    ∃ m unbound, s.methods[n]? = some m ∧ s.LeavesUnbound settings call n unbound ∧
      ∀ f, s.Objects { settings with arity := .report } call n f ↔ f = .tooManyArguments m.path unbound

variable {s settings call}

theorem leavesUnbound_of_surplus {n : Nat} {sig : Signature}
    (hsig : Task.signature ⟨.ofSnapshot s, settings⟩ n = .ok sig) (hsurplus : sig.surplus call ≠ []) :
    s.LeavesUnbound settings call n (sig.bind call.args call.kwargs).unbound := by
  refine ⟨?_, sig, hsig, rfl⟩
  intro hnone
  exact hsurplus (if_pos hnone)

theorem acceptsButForSurplus_of_objections {n : Nat} {sig : Signature}
    (haccepts : (Task.withArity ⟨.ofSnapshot s, settings⟩ .ignore).objections call n = .ok [])
    (hsig : Task.signature ⟨.ofSnapshot s, settings⟩ n = .ok sig) (hsurplus : sig.surplus call ≠ []) :
    s.AcceptsButForSurplus settings call n := by
  have hunbound := leavesUnbound_of_surplus hsig hsurplus
  refine ⟨accepts_iff.2 haccepts, ?_⟩
  obtain ⟨sig', hsig', hobjects⟩ := Task.objections_report haccepts
  obtain rfl : sig = sig' := Except.ok.inj (hsig.symm.trans hsig')
  obtain ⟨m, params, hm, -, rfl⟩ := Task.signature_eq_ok_iff.1 hsig
  refine ⟨m, _, hm, hunbound, ?_⟩
  intro f
  rw [objects_iff_mem hobjects, List.nil_append, Signature.surplus, if_neg hunbound.1, List.mem_singleton]
  rfl

end Snapshot

/-- If a check succeeds with and without counting surplus arguments, its list keeps all its problems in their order when
they count.  Each problem that comes in is at a call that leaves arguments unbound with a method that it reaches, and a
call that has problems only then was accepted by a method that it reaches just because its surplus did not count. -/
theorem Task.check_counting_surplus (s : Snapshot) (settings : Settings) {ps qs : List Problem}
    (hignore : (Task.check ⟨.ofSnapshot s, { settings with arity := .ignore }⟩).result = .ok ps)
    (hreport : (Task.check ⟨.ofSnapshot s, { settings with arity := .report }⟩).result = .ok qs) :
    ps.Sublist qs ∧
    (∀ p ∈ qs \ ps, ∃ j call, s.calls[j]? = some call ∧ p.location.anchor = .call j ∧
      ∃ n ∈ (Program.ofSnapshot s).callees call, ∃ unbound, s.LeavesUnbound settings call n unbound) ∧
    ∀ j call, s.calls[j]? = some call → (∃ p ∈ qs, p.location.anchor = .call j) →
      (∀ p ∈ ps, p.location.anchor ≠ .call j) →
      ∃ n ∈ (Program.ofSnapshot s).callees call, s.AcceptsButForSurplus settings call n := by
  have hps : (Task.withArity ⟨.ofSnapshot s, settings⟩ .ignore).check.result = .ok ps := hignore
  have hqs : (Task.withArity ⟨.ofSnapshot s, settings⟩ .report).check.result = .ok qs := hreport
  refine ⟨?_, ?_, ?_⟩
  · rw [← Task.filter_check_report hps hqs]
    exact List.filter_sublist
  · intro p hp
    have hnodup : qs.Nodup := by
      obtain ⟨all, rfl, -⟩ := Task.exists_listing hreport
      exact (Collector.nodup_keys_listing all).of_map
    obtain ⟨hp, hnew⟩ := hnodup.mem_sdiff_iff.1 hp
    obtain ⟨j, call, hcall, hanchor, n, hn, sig, hsig, hsurplus⟩ := Task.exists_surplus_of_new hps hqs hp hnew
    exact ⟨j, call, hcall, hanchor, n, hn, _, Snapshot.leavesUnbound_of_surplus hsig hsurplus⟩
  · rintro j call hcall ⟨p, hp, hanchor⟩ hnone
    obtain ⟨n, hn, haccepts, sig, hsig, hsurplus⟩ := Task.exists_accepts_of_new_call hps hqs hcall hp hanchor hnone
    exact ⟨n, hn, Snapshot.acceptsButForSurplus_of_objections haccepts hsig hsurplus⟩

/-- Two methods that take one argument, the nearer one a string, and two calls that pass an integer and one argument
more. -/
def crammed : Snapshot where
  types := [{ name := "Strict" }, { name := "Plain" }]
  methods := [
    { owner := some "Strict", name := "run", params := some [⟨"x", .required⟩], paramTags := [⟨"x", "String"⟩] },
    { owner := some "Plain", name := "run", params := some [⟨"x", .required⟩] }
  ]
  calls := [sloppyCall "Strict, Plain", sloppyCall "Strict"]

def crammedType (j : Nat) : Problem :=
  (Finding.wrongArgument "Strict#run" "x" "String" "Integer").report ⟨.call j, {}⟩

def crammedSurplus (j : Nat) : Problem :=
  (Finding.tooManyArguments "Strict#run" ["argument 2"]).report ⟨.call j, {}⟩

/-- The second call gains a problem, and the first one is turned down with a problem that is not about its surplus. -/
theorem check_counting_surplus_crammed :
    (Task.check ⟨.ofSnapshot crammed, { arity := .ignore }⟩).result = .ok [crammedType 1] ∧
      (Task.check ⟨.ofSnapshot crammed, { arity := .report }⟩).result =
        .ok [crammedType 0, crammedType 1, crammedSurplus 0, crammedSurplus 1] ∧
      [crammedType 1].Sublist [crammedType 0, crammedType 1, crammedSurplus 0, crammedSurplus 1] ∧
      (∃ j call, crammed.calls[j]? = some call ∧ (crammedType 0).location.anchor = .call j ∧
        ∃ n ∈ (Program.ofSnapshot crammed).callees call, ∃ unbound, crammed.LeavesUnbound {} call n unbound) ∧
      ∃ n ∈ (Program.ofSnapshot crammed).callees (sloppyCall "Strict, Plain"),
        crammed.AcceptsButForSurplus {} (sloppyCall "Strict, Plain") n := by
  have hignore : (Task.check ⟨.ofSnapshot crammed, { arity := .ignore }⟩).result = .ok [crammedType 1] := by
    rw [Task.check_result_eq_inOrder]
    decide +kernel
  have hreport : (Task.check ⟨.ofSnapshot crammed, { arity := .report }⟩).result =
      .ok [crammedType 0, crammedType 1, crammedSurplus 0, crammedSurplus 1] := by
    rw [Task.check_result_eq_inOrder]
    decide +kernel
  obtain ⟨hkept, hadded, hturned⟩ := Task.check_counting_surplus crammed {} hignore hreport
  refine ⟨hignore, hreport, hkept, hadded (crammedType 0) (by decide +kernel), ?_⟩
  exact hturned 0 (sloppyCall "Strict, Plain") rfl ⟨crammedType 0, List.mem_cons_self, rfl⟩ (by decide +kernel)

end TagCheck
