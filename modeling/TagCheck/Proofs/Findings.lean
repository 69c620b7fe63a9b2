import TagCheck.Check.Basic
import TagCheck.Proofs.Collector

/-!
# What a task finds

A run remembers what tags mean and which signatures methods have.  What it finds does not depend on that: each rule has
its findings for the task alone, worked out afresh (`Task.returnFinding?` and the like).  A run that remembers only what
is right (`Run.Sound`) goes on to remember only what is right and reports these findings in order, so the outcome of a
check is the listing of the findings of its families (`Task.check_result`).
-/

namespace TagCheck

namespace Task

/-! ### Findings of the rules for tags -/

/-- What is wrong with the return tag of a method or with what its body returns. -/
def returnFinding? (t : Task) (m : MethodDecl) (n : Nat) : Option Finding :=
  match t.returnTag? m with
  | none => none
  | some (text, inheritedFrom) =>
    match t.resolution ⟨.method n, inheritedFrom.or m.owner, text⟩ with
    | .unresolved _ missing =>
      if inheritedFrom.isSome then none else some (.unresolvedReturn m.path (trim text) missing)
    | .resolved declared =>
      if declared.isUnchecked || declared.accepts t.ancestry (t.ancestry.inferBody n) then none
      else some (.returnMismatch m.path declared.text (t.ancestry.inferBody n).text inheritedFrom)

/-- What is wrong with the tag of an assignment or with the assigned value. -/
def variableFinding? (t : Task) (a : Assignment) (n : Nat) : Option Finding :=
  if isBlankText a.tag then none
  else
    match t.resolution ⟨.assignment n, a.within, a.tag⟩ with
    | .unresolved _ missing => some (.unresolvedVariable a.name (trim a.tag) missing)
    | .resolved declared =>
      if declared.isUnchecked || declared.accepts t.ancestry (t.ancestry.infer a.within a.value) then none
      else some (.variableMismatch a.name declared.text (t.ancestry.infer a.within a.value).text)

/-- What is wrong with a parameter tag that a method writes. -/
def paramFinding? (t : Task) (m : MethodDecl) (n : Nat) (tag : ParamTag) : Option Finding :=
  if isBlankText tag.text then none
  else
    match t.resolution ⟨.method n, m.owner, tag.text⟩ with
    | .unresolved _ missing => some (.unresolvedParam m.path tag.name (trim tag.text) missing)
    | .resolved _ => none

/-- A return tag of the method's own may name unknown types, and a known type may contradict what the body returns. -/
theorem returnFinding?_eq_some_iff {t : Task} {m : MethodDecl} {n : Nat} {f : Finding} :
    t.returnFinding? m n = some f ↔
      ∃ text inheritedFrom, t.returnTag? m = some (text, inheritedFrom) ∧
        ((∃ type missing, t.resolution ⟨.method n, inheritedFrom.or m.owner, text⟩ = .unresolved type missing ∧
            inheritedFrom = none ∧ .unresolvedReturn m.path (trim text) missing = f) ∨
          ∃ declared, t.resolution ⟨.method n, inheritedFrom.or m.owner, text⟩ = .resolved declared ∧
            declared.isUnchecked = false ∧ declared.accepts t.ancestry (t.ancestry.inferBody n) = false ∧
            .returnMismatch m.path declared.text (t.ancestry.inferBody n).text inheritedFrom = f) := by
  unfold returnFinding?
  cases t.returnTag? m with
  | none => simp
  | some tag =>
    obtain ⟨text, inheritedFrom⟩ := tag
    cases hres : t.resolution ⟨.method n, inheritedFrom.or m.owner, text⟩ with
    | unresolved type missing =>
      cases inheritedFrom with
      | none =>
        rw [Option.none_or] at hres
        simp [hres]
      | some ancestor =>
        rw [Option.some_or] at hres
        simp [hres]
    | resolved declared => simp [and_assoc, hres]

/-- A body contradicts the return tag exactly if the tag is read and turns the type of the body down. -/
theorem exists_returnMismatch_iff {t : Task} {m : MethodDecl} {k : Nat} :
    (∃ f, t.returnFinding? m k = some f ∧ f.code = "Y0001") ↔
      ∃ text inheritedFrom declared, t.returnTag? m = some (text, inheritedFrom) ∧
        t.resolution ⟨.method k, inheritedFrom.or m.owner, text⟩ = .resolved declared ∧ declared.isUnchecked = false ∧
        declared.accepts t.ancestry (t.ancestry.inferBody k) = false := by
  constructor
  · rintro ⟨f, hf, hcode⟩
    obtain ⟨text, inheritedFrom, htag, hrest⟩ := returnFinding?_eq_some_iff.1 hf
    rcases hrest with ⟨type, missing, -, -, rfl⟩ | ⟨declared, hmeans, hdeclared, haccepts, rfl⟩
    · have hcode : "Y0010" = "Y0001" := hcode
      exact absurd hcode (by decide)
    · exact ⟨text, inheritedFrom, declared, htag, hmeans, hdeclared, haccepts⟩
  · rintro ⟨text, inheritedFrom, declared, htag, hmeans, hdeclared, haccepts⟩
    have hf := returnFinding?_eq_some_iff.2
      ⟨text, inheritedFrom, htag, Or.inr ⟨declared, hmeans, hdeclared, haccepts, rfl⟩⟩
    exact ⟨_, hf, rfl⟩

/-- The tag of an assignment may name unknown types, and a known type may contradict the assigned value. -/
theorem variableFinding?_eq_some_iff {t : Task} {a : Assignment} {n : Nat} {f : Finding} :
    t.variableFinding? a n = some f ↔
      isBlankText a.tag = false ∧
        ((∃ type missing, t.resolution ⟨.assignment n, a.within, a.tag⟩ = .unresolved type missing ∧
            .unresolvedVariable a.name (trim a.tag) missing = f) ∨
          ∃ declared, t.resolution ⟨.assignment n, a.within, a.tag⟩ = .resolved declared ∧
            declared.isUnchecked = false ∧ declared.accepts t.ancestry (t.ancestry.infer a.within a.value) = false ∧
            .variableMismatch a.name declared.text (t.ancestry.infer a.within a.value).text = f) := by
  unfold variableFinding?
  cases isBlankText a.tag with
  | true => simp
  | false =>
    cases t.resolution ⟨.assignment n, a.within, a.tag⟩ with
    | unresolved type missing => simp
    | resolved declared => simp [and_assoc]

theorem paramFinding?_eq_some_iff {t : Task} {m : MethodDecl} {n : Nat} {tag : ParamTag} {f : Finding} :
    t.paramFinding? m n tag = some f ↔
      isBlankText tag.text = false ∧
        ∃ type missing, t.resolution ⟨.method n, m.owner, tag.text⟩ = .unresolved type missing ∧
          .unresolvedParam m.path tag.name (trim tag.text) missing = f := by
  unfold paramFinding?
  cases isBlankText tag.text with
  | true => simp
  | false => cases t.resolution ⟨.method n, m.owner, tag.text⟩ <;> simp

/-! ### Findings of the rules for calls -/

/-- What is wrong with an argument. -/
def argumentFinding? (t : Task) (s : Signature) (call : CallSite) (p : Parameter) (arg : Argument) : Option Finding :=
  if !p.isTyped || p.kind == .rest || p.kind == .doubleRest then none
  else
    match p.tag with
    | none => none
    | some text =>
      match t.resolution ⟨.method s.method, p.inheritedFrom.or s.owner, text⟩ with
      | .unresolved _ _ => none
      | .resolved expected =>
        if expected.accepts t.ancestry (t.ancestry.infer call.within arg.value) then none
        else some (.wrongArgument s.path p.name expected.text (t.ancestry.infer call.within arg.value).text)

/-- The tag of a parameter that takes one argument may mean a type that turns the argument down. -/
theorem argumentFinding?_eq_some_iff {t : Task} {s : Signature} {call : CallSite} {p : Parameter} {arg : Argument}
    {f : Finding} :
    t.argumentFinding? s call p arg = some f ↔
      p.isTyped = true ∧ p.kind ≠ .rest ∧ p.kind ≠ .doubleRest ∧
        ∃ text expected, p.tag = some text ∧
          t.resolution ⟨.method s.method, p.inheritedFrom.or s.owner, text⟩ = .resolved expected ∧
          expected.accepts t.ancestry (t.ancestry.infer call.within arg.value) = false ∧
          .wrongArgument s.path p.name expected.text (t.ancestry.infer call.within arg.value).text = f := by
  have hskips : (!p.isTyped || p.kind == .rest || p.kind == .doubleRest) = false ↔
      p.isTyped = true ∧ p.kind ≠ .rest ∧ p.kind ≠ .doubleRest := by simp [and_assoc]
  rw [← and_assoc, ← and_assoc, and_assoc (a := p.isTyped = true), ← hskips]
  unfold argumentFinding?
  cases !p.isTyped || p.kind == .rest || p.kind == .doubleRest with
  | true => simp
  | false =>
    cases p.tag with
    | none => simp
    | some text =>
      cases hres : t.resolution ⟨.method s.method, p.inheritedFrom.or s.owner, text⟩ with
      | unresolved type missing => simp [hres]
      | resolved expected => simp [hres]

/-- What is wrong with a call if it reaches a method with this signature. -/
def argumentFindings (t : Task) (s : Signature) (call : CallSite) : List Finding :=
  let binding := s.bind call.args call.kwargs
  let missing := binding.missing.map fun p => Finding.missingKeyword s.path p.name
  let wrong := binding.pairs.filterMap fun pair => t.argumentFinding? s call pair.1 pair.2
  let surplus :=
    if t.settings.arity = .report ∧ binding.unbound ≠ [] then
      [Finding.tooManyArguments s.path binding.unbound]
    else []
  missing ++ wrong ++ surplus

/-- A call may lack a keyword, pass a wrong argument or, if that counts, pass too many. -/
theorem mem_argumentFindings {t : Task} {s : Signature} {call : CallSite} {f : Finding} :
    f ∈ t.argumentFindings s call ↔
      (∃ p ∈ (s.bind call.args call.kwargs).missing, .missingKeyword s.path p.name = f) ∨
      (∃ p arg, (p, arg) ∈ (s.bind call.args call.kwargs).pairs ∧ t.argumentFinding? s call p arg = some f) ∨
      (t.settings.arity = .report ∧ (s.bind call.args call.kwargs).unbound ≠ []) ∧
        .tooManyArguments s.path (s.bind call.args call.kwargs).unbound = f := by
  simp only [argumentFindings, List.mem_append, List.mem_map, List.mem_filterMap, Prod.exists, or_assoc,
    List.mem_ite_nil_right, List.mem_singleton, eq_comm (a := f)]

/-- What is wrong with a call that reaches the given methods, where `reported` is what the nearest method found, if it
was asked already. -/
def callFindings (t : Task) (call : CallSite) : Option (List Finding) → List Nat → Except CheckError (List Finding)
  | reported, [] => .ok (reported.getD [])
  | reported, n :: ns =>
    match t.signature n with
    | .error e => .error e
    | .ok s =>
      let found := t.argumentFindings s call
      if found.isEmpty then .ok [] else t.callFindings call (reported.or (some found)) ns

/-! ### Problems of a family -/

def returnProblems (t : Task) (m : MethodDecl) (n : Nat) : List Problem :=
  (t.returnFinding? m n).toList.map fun f => f.report ⟨.method n, m.span⟩

def variableProblems (t : Task) (a : Assignment) (n : Nat) : List Problem :=
  (t.variableFinding? a n).toList.map fun f => f.report ⟨.assignment n, a.span⟩

def paramProblems (t : Task) (m : MethodDecl) (n : Nat) : List Problem :=
  (m.paramTags.filterMap (t.paramFinding? m n)).map fun f => f.report ⟨.method n, m.span⟩

def callProblems (t : Task) (call : CallSite) (n : Nat) : Except CheckError (List Problem) :=
  (t.callFindings call none (t.program.callees call)).map fun found => found.map fun f => f.report ⟨.call n, call.span⟩

/-- The problems of several items in order, unless one of them cannot be checked. -/
def gather {α : Type} (f : α → Except CheckError (List Problem)) : List α → Except CheckError (List Problem)
  | [] => .ok []
  | a :: as =>
    match f a with
    | .error e => .error e
    | .ok ps => (gather f as).map (ps ++ ·)

/-- The problems of one family, repeats and all, in the order in which they are found. -/
def problemsOf (t : Task) : RuleFamily → Except CheckError (List Problem)
  | .returns => .ok (t.program.snapshot.methods.zipIdx.flatMap fun (m, n) => t.returnProblems m n)
  | .variables => .ok (t.program.snapshot.assignments.zipIdx.flatMap fun (a, n) => t.variableProblems a n)
  | .params => .ok (t.program.snapshot.methods.zipIdx.flatMap fun (m, n) => t.paramProblems m n)
  | .calls => gather (fun (call, n) => t.callProblems call n) t.program.snapshot.calls.zipIdx

end Task

/-! ### What a run remembers -/

namespace Run

/-- All that the run remembers is what the task says. -/
structure Sound (t : Task) (r : Run) : Prop where
  resolutions : ∀ key resolution, r.resolutions.lookup key = some resolution → resolution = t.resolution key
  signatures : ∀ n s, r.signatures.lookup n = some s → t.signature n = .ok s

/-- From the first run to the second the given problems were reported, and all that the second remembers is right. -/
structure Reports (t : Task) (r : Run) (ps : List Problem) (r' : Run) : Prop where
  sound : r'.Sound t
  problems : r'.problems = r.problems.pushAll ps

variable {t : Task} {r r' r'' : Run} {ps qs : List Problem}

theorem Sound.reports_nil (h : r.Sound t) : r.Reports t [] r :=
  ⟨h, rfl⟩

theorem Reports.trans (h : r.Reports t ps r') (h' : r'.Reports t qs r'') : r.Reports t (ps ++ qs) r'' := by
  refine ⟨h'.sound, ?_⟩
  rw [h'.problems, h.problems, Collector.pushAll_append]

theorem Reports.note (h : r.Reports t ps r') (e : Event) : r.Reports t ps (r'.note e) :=
  ⟨⟨h.sound.resolutions, h.sound.signatures⟩, h.problems⟩

theorem Reports.report (h : r.Reports t [] r') (location : Location) (f : Finding) :
    r.Reports t [f.report location] (r'.report location f) := by
  refine ⟨⟨h.sound.resolutions, h.sound.signatures⟩, ?_⟩
  rw [Run.report, h.problems]
  rfl

/-- A run that reports for each item of a list reports for the whole list. -/
theorem Sound.reports_foldl {α : Type} {step : Run → α → Run} {found : α → List Problem}
    (hstep : ∀ (r : Run) (a : α), r.Sound t → r.Reports t (found a) (step r a)) (h : r.Sound t) (as : List α) :
    r.Reports t (as.flatMap found) (as.foldl step r) := by
  induction as generalizing r with
  | nil => exact h.reports_nil
  | cons a as ih =>
    have hfirst := hstep r a h
    exact hfirst.trans (ih hfirst.sound)

theorem Sound.remember_resolution (h : r.Sound t) (key : TagKey) :
    r.Reports t [] { r with resolutions := (key, t.resolution key) :: r.resolutions } := by
  refine ⟨⟨?_, h.signatures⟩, rfl⟩
  intro key' resolution hlookup
  rw [List.lookup_cons] at hlookup
  split at hlookup
  next hkey => rw [← Option.some.inj hlookup, beq_iff_eq.1 hkey]
  next => exact h.resolutions key' resolution hlookup

theorem Sound.remember_signature (h : r.Sound t) {n : Nat} {s : Signature} (hs : t.signature n = .ok s) :
    r.Reports t [] { r with signatures := (n, s) :: r.signatures } := by
  refine ⟨⟨h.resolutions, ?_⟩, rfl⟩
  intro n' s' hlookup
  rw [List.lookup_cons] at hlookup
  split at hlookup
  next hn => rw [← Option.some.inj hlookup, beq_iff_eq.1 hn, hs]
  next => exact h.signatures n' s' hlookup

/-- A run looks a tag up to the same effect as if it worked it out each time. -/
theorem Sound.resolve (h : r.Sound t) (key : TagKey) :
    ∃ r', r.resolve t key = (t.resolution key, r') ∧ r.Reports t [] r' := by
  unfold Run.resolve
  split
  next resolution hlookup =>
    rw [h.resolutions key resolution hlookup]
    exact ⟨r, rfl, h.reports_nil⟩
  next => exact ⟨_, rfl, (h.remember_resolution key).note _⟩

/-- A run looks a signature up to the same effect as if it worked it out each time. -/
theorem Sound.signature (h : r.Sound t) (n : Nat) :
    ∃ r', r.signature t n = (t.signature n, r') ∧ r.Reports t [] r' := by
  unfold Run.signature
  split
  next s hlookup =>
    rw [h.signatures n s hlookup]
    exact ⟨r, rfl, h.reports_nil⟩
  next =>
    split
    next e he =>
      rw [he]
      exact ⟨r, rfl, h.reports_nil⟩
    next s hs =>
      rw [hs]
      exact ⟨_, rfl, (h.remember_signature hs).note _⟩

/-! ### Runs of the rules for tags -/

theorem Sound.checkReturn (h : r.Sound t) (m : MethodDecl) (n : Nat) :
    r.Reports t (t.returnProblems m n) (checkReturn t r m n) := by
  unfold TagCheck.checkReturn Task.returnProblems Task.returnFinding?
  cases t.returnTag? m with
  | none => exact h.reports_nil
  | some tag =>
    obtain ⟨text, inheritedFrom⟩ := tag
    obtain ⟨r', hresolve, hr'⟩ := h.resolve ⟨.method n, inheritedFrom.or m.owner, text⟩
    simp only [hresolve]
    cases t.resolution ⟨.method n, inheritedFrom.or m.owner, text⟩ with
    | unresolved type missing =>
      cases inheritedFrom with
      | some ancestor => exact hr'
      | none => exact hr'.report _ _
    | resolved declared =>
      dsimp only
      cases declared.isUnchecked with
      | true => exact hr'
      | false =>
        cases haccepts : declared.accepts t.ancestry (t.ancestry.inferBody n) with
        | true => simpa using hr'.note _
        | false => simpa using (hr'.note _).report _ _

theorem Sound.checkVariable (h : r.Sound t) (a : Assignment) (n : Nat) :
    r.Reports t (t.variableProblems a n) (checkVariable t r a n) := by
  unfold TagCheck.checkVariable Task.variableProblems Task.variableFinding?
  cases isBlankText a.tag with
  | true => exact h.reports_nil
  | false =>
    obtain ⟨r', hresolve, hr'⟩ := h.resolve ⟨.assignment n, a.within, a.tag⟩
    simp only [hresolve]
    cases t.resolution ⟨.assignment n, a.within, a.tag⟩ with
    | unresolved type missing => exact hr'.report _ _
    | resolved declared =>
      dsimp only
      cases declared.isUnchecked with
      | true => exact hr'
      | false =>
        cases declared.accepts t.ancestry (t.ancestry.infer a.within a.value) with
        | true => simpa using hr'.note _
        | false => simpa using (hr'.note _).report _ _

theorem Sound.checkParamTag (h : r.Sound t) (m : MethodDecl) (n : Nat) (tag : ParamTag) :
    r.Reports t ((t.paramFinding? m n tag).toList.map fun f => f.report ⟨.method n, m.span⟩)
      (checkParamTag t m n r tag) := by
  unfold TagCheck.checkParamTag Task.paramFinding?
  cases isBlankText tag.text with
  | true => exact h.reports_nil
  | false =>
    obtain ⟨r', hresolve, hr'⟩ := h.resolve ⟨.method n, m.owner, tag.text⟩
    simp only [hresolve]
    cases t.resolution ⟨.method n, m.owner, tag.text⟩ with
    | unresolved type missing => exact hr'.report _ _
    | resolved declared => exact hr'

theorem Sound.checkParams (h : r.Sound t) (m : MethodDecl) (n : Nat) :
    r.Reports t (t.paramProblems m n) (checkParams t r m n) := by
  have hall := h.reports_foldl (fun r tag hr => hr.checkParamTag m n tag) m.paramTags
  have hproblems : t.paramProblems m n = m.paramTags.flatMap fun tag =>
      (t.paramFinding? m n tag).toList.map fun f => f.report ⟨.method n, m.span⟩ := by
    rw [Task.paramProblems, List.filterMap_eq_flatMap_toList, List.map_flatMap]
  rwa [hproblems]

/-! ### Runs of the rules for calls -/

theorem Sound.checkArgument (h : r.Sound t) (s : Signature) (call : CallSite) (p : Parameter) (arg : Argument) :
    ∃ r', checkArgument t s call r p arg = (t.argumentFinding? s call p arg, r') ∧ r.Reports t [] r' := by
  unfold TagCheck.checkArgument Task.argumentFinding?
  split
  · exact ⟨r, rfl, h.reports_nil⟩
  · cases p.tag with
    | none => exact ⟨r, rfl, h.reports_nil⟩
    | some text =>
      obtain ⟨r', hresolve, hr'⟩ := h.resolve ⟨.method s.method, p.inheritedFrom.or s.owner, text⟩
      simp only [hresolve]
      cases t.resolution ⟨.method s.method, p.inheritedFrom.or s.owner, text⟩ with
      | unresolved type missing => exact ⟨r', rfl, hr'⟩
      | resolved expected =>
        refine ⟨r', ?_, hr'⟩
        dsimp only
        split <;> rfl

theorem Sound.checkPairs (h : r.Sound t) (s : Signature) (call : CallSite) (pairs : List (Parameter × Argument)) :
    ∃ r', checkPairs t s call r pairs = (pairs.filterMap fun pair => t.argumentFinding? s call pair.1 pair.2, r') ∧
      r.Reports t [] r' := by
  induction pairs generalizing r with
  | nil => exact ⟨r, rfl, h.reports_nil⟩
  | cons pair pairs ih =>
    obtain ⟨p, arg⟩ := pair
    obtain ⟨r', hfirst, hr'⟩ := h.checkArgument s call p arg
    obtain ⟨r'', hrest, hr''⟩ := ih hr'.sound
    refine ⟨r'', ?_, hr'.trans hr''⟩
    simp only [TagCheck.checkPairs, hfirst, hrest]
    cases hfinding : t.argumentFinding? s call p arg <;> simp [hfinding]

theorem Sound.checkArguments (h : r.Sound t) (s : Signature) (call : CallSite) :
    ∃ r', checkArguments t r s call = (t.argumentFindings s call, r') ∧ r.Reports t [] r' := by
  obtain ⟨r', hpairs, hr'⟩ := h.checkPairs s call (s.bind call.args call.kwargs).pairs
  refine ⟨r', ?_, hr'⟩
  simp only [TagCheck.checkArguments, hpairs]
  rfl

theorem Sound.judge (h : r.Sound t) (call : CallSite) (reported : Option (List Finding)) (ns : List Nat) :
    ∃ r', judge t call reported r ns = (t.callFindings call reported ns, r') ∧ r.Reports t [] r' := by
  induction ns generalizing r reported with
  | nil => exact ⟨r, rfl, h.reports_nil⟩
  | cons n ns ih =>
    obtain ⟨r', hsignature, hr'⟩ := h.signature n
    unfold TagCheck.judge Task.callFindings
    simp only [hsignature]
    cases t.signature n with
    | error e => exact ⟨r', rfl, hr'⟩
    | ok s =>
      obtain ⟨r'', harguments, hr''⟩ := hr'.sound.checkArguments s call
      have hnoted := (hr'.trans hr'').note (.candidate s.path (t.argumentFindings s call).length)
      simp only [harguments]
      cases (t.argumentFindings s call).isEmpty with
      | true => exact ⟨_, rfl, hnoted⟩
      | false =>
        -- only the first method that objects is reported, so `reported` is carried along
        obtain ⟨r₃, hrest, hr₃⟩ := ih hnoted.sound (reported.or (some (t.argumentFindings s call)))
        exact ⟨r₃, hrest, hnoted.trans hr₃⟩

/-- A step of a run ends as the problems of its items say: with an error, or with all of them reported. -/
structure Yields (t : Task) (r : Run) (found : Except CheckError (List Problem)) (step : Except CheckError Unit × Run) :
    Prop where
  ends : step.1 = found.map fun _ => ()
  reports : ∀ ps, found = .ok ps → r.Reports t ps step.2

theorem Sound.checkCall (h : r.Sound t) (call : CallSite) (n : Nat) :
    r.Yields t (t.callProblems call n) (checkCall t r call n) := by
  unfold TagCheck.checkCall Task.callProblems
  split
  next hcallees =>
    rw [hcallees]
    refine ⟨rfl, ?_⟩
    rintro ps ⟨⟩
    exact h.reports_nil.note _
  next =>
    obtain ⟨r', hjudge, hr'⟩ := h.judge call none (t.program.callees call)
    rw [hjudge]
    cases t.callFindings call none (t.program.callees call) with
    | error e =>
      refine ⟨rfl, ?_⟩
      rintro ps ⟨⟩
    | ok found =>
      refine ⟨rfl, ?_⟩
      rintro ps ⟨⟩
      have hreported := hr'.sound.reports_foldl
        (fun r f hr => hr.reports_nil.report ⟨.call n, call.span⟩ f) found
      rw [← List.map_eq_flatMap] at hreported
      exact hr'.trans hreported

/-- One step after another. -/
theorem Yields.andThen {first rest : Except CheckError (List Problem)} {step : Except CheckError Unit × Run}
    {next : Run → Except CheckError Unit × Run} :
    r.Yields t first step → (∀ r' : Run, r'.Sound t → r'.Yields t rest (next r')) →
      r.Yields t
        (match first with
        | .error e => .error e
        | .ok ps => rest.map (ps ++ ·))
        (match step with
        | (.error e, r) => (.error e, r)
        | (.ok (), r) => next r) := by
  intro h hnext
  obtain ⟨result, r'⟩ := step
  obtain ⟨hends, hreports⟩ := h
  cases first with
  | error e =>
    obtain rfl : result = .error e := hends
    refine ⟨rfl, ?_⟩
    rintro ps ⟨⟩
  | ok ps =>
    obtain rfl : result = .ok () := hends
    have hfirst := hreports ps rfl
    obtain ⟨hends, hreports⟩ := hnext r' hfirst.sound
    cases rest with
    | error e =>
      refine ⟨hends, ?_⟩
      rintro qs ⟨⟩
    | ok qs =>
      refine ⟨hends, ?_⟩
      rintro _ ⟨⟩
      exact hfirst.trans (hreports qs rfl)

theorem Yields.of_note {found : Except CheckError (List Problem)} {step : Except CheckError Unit × Run} {e : Event}
    (h : (r.note e).Yields t found step) : r.Yields t found step :=
  ⟨h.ends, fun ps hps => ⟨(h.reports ps hps).sound, (h.reports ps hps).problems⟩⟩

theorem Sound.checkCalls (h : r.Sound t) (calls : List (CallSite × Nat)) :
    r.Yields t (Task.gather (fun (call, n) => t.callProblems call n) calls) (checkCalls t r calls) := by
  induction calls generalizing r with
  | nil => exact ⟨rfl, fun ps hps => by cases hps; exact h.reports_nil⟩
  | cons call calls ih => exact (h.checkCall call.1 call.2).andThen fun r' hr' => ih hr'

/-! ### Whole runs -/

private theorem yields_ok {step : Run} (h : r.Reports t ps step) : r.Yields t (.ok ps) (.ok (), step) :=
  ⟨rfl, fun qs hqs => by cases hqs; exact h⟩

theorem Sound.applyFamily (h : r.Sound t) (family : RuleFamily) :
    r.Yields t (t.problemsOf family) (t.applyFamily r family) := by
  match family with
  | .returns => exact yields_ok (h.reports_foldl (fun r m hr => hr.checkReturn m.1 m.2) _)
  | .variables => exact yields_ok (h.reports_foldl (fun r a hr => hr.checkVariable a.1 a.2) _)
  | .params => exact yields_ok (h.reports_foldl (fun r m hr => hr.checkParams m.1 m.2) _)
  | .calls => exact h.checkCalls _

theorem Sound.applyFamilies (h : r.Sound t) (families : List RuleFamily) :
    r.Yields t (Task.gather t.problemsOf (families.filter t.settings.checks)) (t.applyFamilies r families) := by
  induction families generalizing r with
  | nil => exact yields_ok h.reports_nil
  | cons family families ih =>
    unfold Task.applyFamilies
    cases hchecks : t.settings.checks family with
    | false => simpa [hchecks] using ih h
    | true =>
      rw [List.filter_cons_of_pos hchecks, if_pos rfl]
      have hnoted := (h.reports_nil.note (.family family)).sound
      exact (hnoted.applyFamily family).of_note.andThen fun r' hr' => ih hr'

end Run

theorem Task.sound_start (t : Task) : t.start.Sound t :=
  ⟨by simp [start], by simp [start]⟩

/-- A check lists what its families find, or ends as the first of them that cannot be applied. -/
theorem Task.check_result (t : Task) :
    t.check.result =
      (Task.gather t.problemsOf (Task.families.filter t.settings.checks)).map Collector.listing := by
  obtain ⟨hends, hreports⟩ := t.sound_start.applyFamilies Task.families
  generalize hrun : t.applyFamilies t.start Task.families = run at hends hreports
  obtain ⟨result, r⟩ := run
  simp only [Task.check, hrun]
  cases hfound : Task.gather t.problemsOf (Task.families.filter t.settings.checks) with
  | error e =>
    rw [hfound] at hends
    obtain rfl : result = .error e := hends
    rfl
  | ok ps =>
    rw [hfound] at hends
    obtain rfl : result = .ok () := hends
    have hproblems := (hreports ps hfound).problems
    exact congrArg (fun c : Collector => Except.ok c.problems) hproblems

end TagCheck
