import TagCheck.Proofs.Families
import Mathlib.Logic.Relation

/-!
# The memory of a run

A rule can do four things to a run: look up a tag, look up a signature, note an event and report a finding
(`Run.Step`).  None of them puts anything wrong into the memory, so at every point of a run the memory answers what the
task itself would answer (`Run.Leads.sound`).  The rules are made of such steps only, and a check comes out as if
nothing were ever remembered (`Task.check_eq_checkAfresh`).
-/

namespace TagCheck

namespace Run

/-! ### Steps -/

/-- What a rule may do to a run. -/
inductive Step (t : Task) (r : Run) : Run → Prop
  | resolve (key : TagKey) : Step t r (r.resolve t key).2
  | signature (n : Nat) : Step t r (r.signature t n).2
  | note (e : Event) : Step t r (r.note e)
  | report (location : Location) (f : Finding) : Step t r (r.report location f)

/-- A run comes to be another, step by step. -/
def Leads (t : Task) (r r' : Run) : Prop :=
  Relation.ReflTransGen (Step t) r r'

variable {t : Task} {r r' r'' : Run}

theorem Step.sound (h : r.Step t r') (hr : r.Sound t) : r'.Sound t := by
  cases h with
  | resolve key =>
    obtain ⟨r', hresolve, hr'⟩ := hr.resolve key
    rw [hresolve]
    exact hr'.sound
  | signature n =>
    obtain ⟨r', hsignature, hr'⟩ := hr.signature n
    rw [hsignature]
    exact hr'.sound
  | note e => exact (hr.reports_nil.note e).sound
  | report location f => exact (hr.reports_nil.report location f).sound

/-- A run that remembers only what is right never comes to remember anything else. -/
theorem Leads.sound (h : r.Leads t r') (hr : r.Sound t) : r'.Sound t := by
  induction h with
  | refl => exact hr
  | tail _ hstep ih => exact hstep.sound ih

theorem Leads.refl (r : Run) : r.Leads t r :=
  Relation.ReflTransGen.refl

theorem Leads.trans (h : r.Leads t r') (h' : r'.Leads t r'') : r.Leads t r'' :=
  Relation.ReflTransGen.trans h h'

theorem Leads.step (h : r.Leads t r') (h' : r'.Step t r'') : r.Leads t r'' :=
  Relation.ReflTransGen.tail h h'

theorem leads_resolve (t : Task) (r : Run) (key : TagKey) : r.Leads t (r.resolve t key).2 :=
  (Leads.refl r).step (.resolve key)

theorem leads_foldl {α : Type} {f : Run → α → Run} (hf : ∀ (r : Run) (a : α), r.Leads t (f r a)) (r : Run)
    (as : List α) : r.Leads t (as.foldl f r) := by
  induction as generalizing r with
  | nil => exact .refl r
  | cons a as ih => exact (hf r a).trans (ih (f r a))

/-! ### The rules are made of steps -/

theorem leads_checkReturn (t : Task) (r : Run) (m : MethodDecl) (n : Nat) : r.Leads t (checkReturn t r m n) := by
  unfold checkReturn
  cases t.returnTag? m with
  | none => exact .refl r
  | some tag =>
    obtain ⟨text, inheritedFrom⟩ := tag
    have hasked := leads_resolve t r ⟨.method n, inheritedFrom.or m.owner, text⟩
    dsimp only
    generalize r.resolve t ⟨.method n, inheritedFrom.or m.owner, text⟩ = answer at hasked
    obtain ⟨resolution, r'⟩ := answer
    cases resolution with
    | unresolved type missing =>
      dsimp only
      split
      · exact hasked
      · exact hasked.step (.report _ _)
    | resolved declared =>
      dsimp only
      split
      · exact hasked
      · split
        · exact hasked.step (.note _)
        · exact (hasked.step (.note _)).step (.report _ _)

theorem leads_checkVariable (t : Task) (r : Run) (a : Assignment) (n : Nat) : r.Leads t (checkVariable t r a n) := by
  unfold checkVariable
  split
  · exact .refl r
  · have hasked := leads_resolve t r ⟨.assignment n, a.within, a.tag⟩
    generalize r.resolve t ⟨.assignment n, a.within, a.tag⟩ = answer at hasked
    obtain ⟨resolution, r'⟩ := answer
    cases resolution with
    | unresolved type missing => exact hasked.step (.report _ _)
    | resolved declared =>
      dsimp only
      split
      · exact hasked
      · split
        · exact hasked.step (.note _)
        · exact (hasked.step (.note _)).step (.report _ _)

theorem leads_checkParamTag (t : Task) (m : MethodDecl) (n : Nat) (r : Run) (tag : ParamTag) :
    r.Leads t (checkParamTag t m n r tag) := by
  unfold checkParamTag
  split
  · exact .refl r
  · have hasked := leads_resolve t r ⟨.method n, m.owner, tag.text⟩
    generalize r.resolve t ⟨.method n, m.owner, tag.text⟩ = answer at hasked
    obtain ⟨resolution, r'⟩ := answer
    cases resolution with
    | unresolved type missing => exact hasked.step (.report _ _)
    | resolved declared => exact hasked

theorem leads_checkParams (t : Task) (r : Run) (m : MethodDecl) (n : Nat) : r.Leads t (checkParams t r m n) :=
  leads_foldl (leads_checkParamTag t m n) r m.paramTags

theorem leads_checkArgument (t : Task) (s : Signature) (call : CallSite) (r : Run) (p : Parameter) (arg : Argument) :
    r.Leads t (checkArgument t s call r p arg).2 := by
  unfold checkArgument
  split
  · exact .refl r
  · cases p.tag with
    | none => exact .refl r
    | some text =>
      have hasked := leads_resolve t r ⟨.method s.method, p.inheritedFrom.or s.owner, text⟩
      dsimp only
      generalize r.resolve t ⟨.method s.method, p.inheritedFrom.or s.owner, text⟩ = answer at hasked
      obtain ⟨resolution, r'⟩ := answer
      cases resolution with
      | unresolved type missing => exact hasked
      | resolved expected =>
        dsimp only
        split <;> exact hasked

theorem leads_checkPairs (t : Task) (s : Signature) (call : CallSite) (r : Run)
    (pairs : List (Parameter × Argument)) : r.Leads t (checkPairs t s call r pairs).2 := by
  induction pairs generalizing r with
  | nil => exact .refl r
  | cons pair pairs ih => exact (leads_checkArgument t s call r pair.1 pair.2).trans (ih _)

theorem leads_judge (t : Task) (call : CallSite) (reported : Option (List Finding)) (r : Run) (ns : List Nat) :
    r.Leads t (judge t call reported r ns).2 := by
  induction ns generalizing r reported with
  | nil => exact .refl r
  | cons n ns ih =>
    unfold judge
    have hasked := (Leads.refl r).step (.signature (t := t) n)
    generalize r.signature t n = answer at hasked
    obtain ⟨signature, r'⟩ := answer
    cases signature with
    | error e => exact hasked
    | ok s =>
      have hcompared := hasked.trans (leads_checkPairs t s call r' (s.bind call.args call.kwargs).pairs)
      have hnoted := hcompared.step (.note (.candidate s.path (checkArguments t r' s call).1.length))
      dsimp only
      split
      · exact hnoted
      · exact hnoted.trans (ih _ _)

theorem leads_checkCall (t : Task) (r : Run) (call : CallSite) (n : Nat) : r.Leads t (checkCall t r call n).2 := by
  unfold checkCall
  split
  · exact (Leads.refl r).step (.note _)
  · have hjudged := leads_judge t call none r (t.program.callees call)
    generalize judge t call none r (t.program.callees call) = judgement at hjudged
    obtain ⟨found, r'⟩ := judgement
    cases found with
    | error e => exact hjudged
    | ok found => exact hjudged.trans (leads_foldl (fun r f => (Leads.refl r).step (.report _ f)) r' found)

theorem leads_checkCalls (t : Task) (r : Run) (calls : List (CallSite × Nat)) :
    r.Leads t (checkCalls t r calls).2 := by
  induction calls generalizing r with
  | nil => exact .refl r
  | cons call calls ih =>
    unfold checkCalls
    have hfirst := leads_checkCall t r call.1 call.2
    generalize checkCall t r call.1 call.2 = step at hfirst
    obtain ⟨result, r'⟩ := step
    cases result with
    | error e => exact hfirst
    | ok _ => exact hfirst.trans (ih r')

theorem leads_applyFamily (t : Task) (r : Run) (family : RuleFamily) : r.Leads t (t.applyFamily r family).2 := by
  match family with
  | .returns => exact leads_foldl (fun r (m : MethodDecl × Nat) => leads_checkReturn t r m.1 m.2) r _
  | .variables => exact leads_foldl (fun r (a : Assignment × Nat) => leads_checkVariable t r a.1 a.2) r _
  | .params => exact leads_foldl (fun r (m : MethodDecl × Nat) => leads_checkParams t r m.1 m.2) r _
  | .calls => exact leads_checkCalls t r _

theorem leads_applyFamilies (t : Task) (r : Run) (families : List RuleFamily) :
    r.Leads t (t.applyFamilies r families).2 := by
  induction families generalizing r with
  | nil => exact .refl r
  | cons family families ih =>
    unfold Task.applyFamilies
    split
    · have happlied := ((Leads.refl r).step (.note (.family family))).trans (leads_applyFamily t _ family)
      generalize t.applyFamily (r.note (.family family)) family = step at happlied
      obtain ⟨result, r'⟩ := step
      cases result with
      | error e => exact happlied
      | ok _ => exact happlied.trans (ih r')
    · exact ih r

end Run

/-! ### Checks without a memory -/

namespace Task

/-- Checks a program without a memory: wherever a rule needs a tag, the text is read and its names are looked up again,
and wherever it needs a signature, the signature is built again. -/
def checkAfresh (t : Task) : Except CheckError (List Problem) :=
  (gather t.problemsOf (families.filter t.settings.checks)).map Collector.listing

/-- The run that a check comes down to is made of the steps of rules. -/
theorem exists_leads_check (t : Task) :
    ∃ r, t.start.Leads t r ∧ t.check.events = r.events.reverse ∧
      ∀ ps, t.check.result = .ok ps → ps = r.problems.problems := by
  have hleads := Run.leads_applyFamilies t t.start families
  rw [check]
  cases hstep : t.applyFamilies t.start families with
  | mk result r =>
    rw [hstep] at hleads
    cases result with
    | error e =>
      refine ⟨r, hleads, rfl, ?_⟩
      rintro ps ⟨⟩
    | ok _ =>
      refine ⟨r.note (.finished r.problems.size), hleads.step (.note _), rfl, ?_⟩
      rintro ps ⟨⟩
      rfl

end Task

/-- A check that remembers comes out as one that does not, with the same problems in the same order or the same error.
At whatever point of a run a tag or a signature is looked up, what the memory has for it is what would be worked out
there anew. -/
theorem Task.check_eq_checkAfresh (t : Task) :
    t.check.result = t.checkAfresh ∧
      (∃ r, t.start.Leads t r ∧ t.check.events = r.events.reverse ∧
        ∀ ps, t.check.result = .ok ps → ps = r.problems.problems) ∧
      ∀ r, t.start.Leads t r →
        (∀ key resolution, r.resolutions.lookup key = some resolution → resolution = t.resolution key) ∧
          (∀ n s, r.signatures.lookup n = some s → t.signature n = .ok s) ∧
          (∀ key, (r.resolve t key).1 = t.resolution key) ∧ ∀ n, (r.signature t n).1 = t.signature n := by
  refine ⟨t.check_result, t.exists_leads_check, ?_⟩
  intro r hr
  have hsound := hr.sound t.sound_start
  refine ⟨hsound.resolutions, hsound.signatures, ?_, ?_⟩
  · intro key
    obtain ⟨r', hresolve, -⟩ := hsound.resolve key
    rw [hresolve]
  · intro n
    obtain ⟨r', hsignature, -⟩ := hsound.signature n
    rw [hsignature]

/-- Two namespaces with a type `Item` each.  A method of the one inherits its return tag from the other and writes the
same text itself for a parameter, and a call passes the `Item` of the other. -/
def twofold : Snapshot where
  types := [
    { name := "A::Base" },
    { name := "A::Item" },
    { name := "B::Sub", superclass := some "A::Base" },
    { name := "B::Item" }
  ]
  methods := [
    { owner := some "A::Base", name := "item", returnTag := some "Item", body := [.new "Item"] },
    {
      owner := some "B::Sub", name := "item", params := some [⟨"x", .required⟩], paramTags := [⟨"x", "Item"⟩],
      body := [.new "A::Item"]
    }
  ]
  calls := [{ receiver := some (.new "B::Sub"), method := "item", args := [.new "A::Item"] }]

/-- The text is remembered for the method in both of its meanings, and the call is compared with the right one. -/
theorem check_eq_checkAfresh_twofold :
    Task.checkAfresh ⟨.ofSnapshot twofold, {}⟩ =
        .ok [(Finding.wrongArgument "B::Sub#item" "x" "B::Item" "A::Item").report ⟨.call 0, {}⟩] ∧
      (∃ r, Run.Leads ⟨.ofSnapshot twofold, {}⟩ (Task.start ⟨.ofSnapshot twofold, {}⟩) r ∧
        r.resolutions.lookup ⟨.method 1, some "A::Base", "Item"⟩ = some (.resolved (.named "A::Item")) ∧
        r.resolutions.lookup ⟨.method 1, some "B::Sub", "Item"⟩ = some (.resolved (.named "B::Item"))) ∧
      Task.resolution ⟨.ofSnapshot twofold, {}⟩ ⟨.method 1, some "A::Base", "Item"⟩ = .resolved (.named "A::Item") ∧
      Task.resolution ⟨.ofSnapshot twofold, {}⟩ ⟨.method 1, some "B::Sub", "Item"⟩ = .resolved (.named "B::Item") := by
  obtain ⟨hafresh, -, hmemory⟩ := Task.check_eq_checkAfresh ⟨.ofSnapshot twofold, {}⟩
  have hcheck : (Task.check ⟨.ofSnapshot twofold, {}⟩).result =
      .ok [(Finding.wrongArgument "B::Sub#item" "x" "B::Item" "A::Item").report ⟨.call 0, {}⟩] := by
    rw [Task.check_result_eq_inOrder]
    decide +kernel
  let t : Task := ⟨.ofSnapshot twofold, {}⟩
  let last := (t.applyFamilies t.start Task.families).2
  have hlast : t.start.Leads t last := Run.leads_applyFamilies t t.start Task.families
  have hbase : last.resolutions.lookup ⟨.method 1, some "A::Base", "Item"⟩ = some (.resolved (.named "A::Item")) := by
    simp only [last, t, Program.ofSnapshot_eq_inOrder]
    decide +kernel
  have hsub : last.resolutions.lookup ⟨.method 1, some "B::Sub", "Item"⟩ = some (.resolved (.named "B::Item")) := by
    simp only [last, t, Program.ofSnapshot_eq_inOrder]
    decide +kernel
  obtain ⟨hentries, -⟩ := hmemory last hlast
  exact ⟨hafresh ▸ hcheck, ⟨last, hlast, hbase, hsub⟩, (hentries _ _ hbase).symm, (hentries _ _ hsub).symm⟩

end TagCheck
