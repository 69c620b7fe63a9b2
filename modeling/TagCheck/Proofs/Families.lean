import TagCheck.Proofs.Findings
import TagCheck.Proofs.Lineage

/-!
# Families of rules

The families share one memory, one collector and one listing.  The memory does not show in what they find, and no two
families can find the same: a problem is told apart by its kind, its place and its words, and these give away its code
(`Problem.code_eq_of_key_eq`).  So to leave families out is to leave their problems out of the list
(`Task.check_skip`).

A check sorts names and problems by merging, which does not reduce; `Task.check_result_eq_inOrder` has the same list with
both put in order by insertion.
-/

namespace TagCheck

/-! ### Problems and their families -/

/-- The codes of the problems that the rules of a family find. -/
def RuleFamily.codes : RuleFamily → List String
  | .returns => ["Y0001", "Y0010"]
  | .variables => ["Y0002", "Y0012"]
  | .params => ["Y0011"]
  | .calls => ["Y0020", "Y0021", "Y0022"]

/-- The family whose rules make a finding. -/
def Finding.family : Finding → RuleFamily
  | .returnMismatch .. | .unresolvedReturn .. => .returns
  | .variableMismatch .. | .unresolvedVariable .. => .variables
  | .unresolvedParam .. => .params
  | .missingKeyword .. | .wrongArgument .. | .tooManyArguments .. => .calls

/-- Whether the rules of a family report at a place. -/
def RuleFamily.reportsAt : RuleFamily → Anchor → Bool
  | .returns, .method _ | .params, .method _ | .variables, .assignment _ | .calls, .call _ => true
  | _, _ => false

/-- The problem is a finding of the family, at a place where the family reports. -/
def Problem.ReportedBy (family : RuleFamily) (p : Problem) : Prop :=
  ∃ (f : Finding) (location : Location), p = f.report location ∧ f.family = family ∧
    family.reportsAt location.anchor = true

theorem Finding.code_mem_codes (f : Finding) (family : RuleFamily) : f.code ∈ family.codes ↔ f.family = family := by
  cases f <;> cases family <;> simp [Finding.code, Finding.family, RuleFamily.codes]

/-- Whether the code of a problem is one of the given families'. -/
def Problem.isOf (families : List RuleFamily) (p : Problem) : Bool :=
  families.any fun family => family.codes.contains p.code

theorem Problem.ReportedBy.code_mem_iff {family other : RuleFamily} {p : Problem} (h : p.ReportedBy family) :
    p.code ∈ other.codes ↔ family = other := by
  obtain ⟨f, location, rfl, rfl, -⟩ := h
  exact f.code_mem_codes other

theorem Problem.ReportedBy.isOf_eq {family : RuleFamily} {p : Problem} (h : p.ReportedBy family)
    (families : List RuleFamily) : p.isOf families = families.contains family := by
  rw [Bool.eq_iff_iff, Problem.isOf, List.any_eq_true, List.contains_iff_mem]
  simp only [List.contains_iff_mem, h.code_mem_iff, exists_eq_right']

/-! ### Keys and codes -/

/-- The code of what a family finds of a kind. -/
private def codeOf : ProblemKind → RuleFamily → String
  | .mismatch, .returns => "Y0001"
  | .mismatch, _ => "Y0002"
  | .unresolved, .returns => "Y0010"
  | .unresolved, .params => "Y0011"
  | .unresolved, _ => "Y0012"
  | .missingKeyword, _ => "Y0020"
  | .wrongArgumentType, _ => "Y0021"
  | .arityOverflow, _ => "Y0022"

private theorem Finding.code_eq_codeOf (f : Finding) : f.code = codeOf f.kind f.family := by
  cases f <;> rfl

/-- Only the families of returns and of parameters report at the same places. -/
private theorem RuleFamily.eq_or_of_reportsAt {x y : RuleFamily} {a : Anchor} (hx : x.reportsAt a = true)
    (hy : y.reportsAt a = true) : x = y ∨ (x = .returns ∧ y = .params) ∨ (x = .params ∧ y = .returns) := by
  cases a <;> cases x <;> cases y <;> simp_all [reportsAt]

/-- The words for a return tag are not those for a parameter tag. -/
private theorem unresolved_message_ne {method tag method' param tag' : String} {missing missing' : List String} :
    (Finding.unresolvedReturn method tag missing).message ≠
      (Finding.unresolvedParam method' param tag' missing').message := by
  intro h
  have h : "Unresolved return type " ++ tag ++ " for " ++ method =
      "Unresolved type " ++ tag' ++ " for " ++ param ++ " param on " ++ method' := h
  -- they differ in the twelfth character
  have htake := congrArg (fun text => text.toList.take 12) h
  simp only [String.append_assoc, String.toList_append] at htake
  rw [List.take_append_of_le_length (by decide), List.take_append_of_le_length (by decide)] at htake
  exact absurd htake (by decide)

private theorem Finding.message_ne_of_family {f g : Finding} (hf : f.family = .returns) (hg : g.family = .params)
    (hkind : f.kind = g.kind) : f.message ≠ g.message := by
  cases g with
  | unresolvedParam =>
    cases f with
    | unresolvedReturn => exact unresolved_message_ne
    | returnMismatch => cases hkind
    | _ => cases hf
  | _ => cases hg

/-- The kind, the place and the words of a finding give away its code. -/
theorem Problem.code_eq_of_key_eq {x y : RuleFamily} {p q : Problem} (hp : p.ReportedBy x) (hq : q.ReportedBy y)
    (hkey : p.key = q.key) : p.code = q.code := by
  obtain ⟨f, location, rfl, rfl, hf⟩ := hp
  obtain ⟨g, location', rfl, rfl, hg⟩ := hq
  obtain ⟨hkind, rfl, hmessage⟩ := ProblemKey.mk.inj hkey
  have hfamily : f.family = g.family := by
    rcases RuleFamily.eq_or_of_reportsAt hf hg with h | ⟨hf, hg⟩ | ⟨hf, hg⟩
    · exact h
    · exact absurd hmessage (Finding.message_ne_of_family hf hg hkind)
    · exact absurd hmessage.symm (Finding.message_ne_of_family hg hf hkind.symm)
  have hcodes : codeOf f.kind f.family = codeOf g.kind g.family := by
    rw [hfamily]
    exact congrArg (codeOf · g.family) hkind
  rwa [← f.code_eq_codeOf, ← g.code_eq_codeOf] at hcodes

/-! ### Problems of one family -/

namespace Task

/-- What is wrong with a call follows from the signatures of methods and from what each of them finds. -/
theorem callFindings_congr {t t' : Task} (hsignature : t'.signature = t.signature)
    (harguments : t'.argumentFindings = t.argumentFindings) (call : CallSite) (reported : Option (List Finding))
    (ns : List Nat) : t'.callFindings call reported ns = t.callFindings call reported ns := by
  induction ns generalizing reported with
  | nil => rfl
  | cons n ns ih =>
    unfold callFindings
    simp only [ih, hsignature, harguments]

theorem callFindings_skip (p : Program) (settings : Settings) (skip : List RuleFamily) (call : CallSite)
    (reported : Option (List Finding)) (ns : List Nat) :
    callFindings ⟨p, { settings with skip := skip }⟩ call reported ns =
      callFindings ⟨p, settings⟩ call reported ns :=
  callFindings_congr (by rfl) (by rfl) call reported ns

/-- What a family finds does not depend on which families are left out. -/
theorem problemsOf_skip (p : Program) (settings : Settings) (skip : List RuleFamily) :
    problemsOf ⟨p, { settings with skip := skip }⟩ = problemsOf ⟨p, settings⟩ := by
  funext family
  cases family with
  | calls => simp only [problemsOf, callProblems, callFindings_skip]
  | _ => rfl

/-- Problems are gathered of items that can all be checked. -/
theorem gather_eq_ok_iff {α : Type} {f : α → Except CheckError (List Problem)} {as : List α} {ps : List Problem} :
    gather f as = .ok ps ↔ ∃ found : α → List Problem, (∀ a ∈ as, f a = .ok (found a)) ∧ ps = as.flatMap found := by
  constructor
  · intro h
    refine ⟨fun a => (f a).toOption.getD [], ?_⟩
    induction as generalizing ps with
    | nil =>
      cases h
      simp
    | cons a as ih =>
      unfold gather at h
      cases ha : f a with
      | error e => simp [ha] at h
      | ok qs =>
        cases hrest : gather f as with
        | error e => simp [ha, hrest, Except.map] at h
        | ok rs =>
          obtain ⟨hall, hrs⟩ := ih hrest
          have hps : qs ++ rs = ps := by simpa [ha, hrest, Except.map] using h
          refine ⟨?_, ?_⟩
          · rw [List.forall_mem_cons]
            exact ⟨by simp [ha, Except.toOption], hall⟩
          · simp [← hps, hrs, ha, Except.toOption]
  · rintro ⟨found, hall, rfl⟩
    induction as with
    | nil => rfl
    | cons a as ih =>
      rw [List.forall_mem_cons] at hall
      simp only [gather, hall.1, ih hall.2]
      rfl

theorem family_of_returnFinding? {t : Task} {m : MethodDecl} {n : Nat} {f : Finding}
    (h : t.returnFinding? m n = some f) : f.family = .returns := by
  obtain ⟨_, _, -, ⟨_, _, -, -, rfl⟩ | ⟨_, -, -, -, rfl⟩⟩ := returnFinding?_eq_some_iff.1 h <;> rfl

theorem family_of_variableFinding? {t : Task} {a : Assignment} {n : Nat} {f : Finding}
    (h : t.variableFinding? a n = some f) : f.family = .variables := by
  obtain ⟨-, ⟨_, _, -, rfl⟩ | ⟨_, -, -, -, rfl⟩⟩ := variableFinding?_eq_some_iff.1 h <;> rfl

theorem family_of_paramFinding? {t : Task} {m : MethodDecl} {n : Nat} {tag : ParamTag} {f : Finding}
    (h : t.paramFinding? m n tag = some f) : f.family = .params := by
  obtain ⟨-, _, _, -, rfl⟩ := paramFinding?_eq_some_iff.1 h
  rfl

theorem family_of_argumentFinding? {t : Task} {s : Signature} {call : CallSite} {p : Parameter} {arg : Argument}
    {f : Finding} (h : t.argumentFinding? s call p arg = some f) : f.family = .calls := by
  obtain ⟨-, -, -, _, _, -, -, -, rfl⟩ := argumentFinding?_eq_some_iff.1 h
  rfl

theorem family_of_mem_argumentFindings {t : Task} {s : Signature} {call : CallSite} {f : Finding}
    (h : f ∈ t.argumentFindings s call) : f.family = .calls := by
  rcases mem_argumentFindings.1 h with ⟨p, -, rfl⟩ | ⟨p, arg, -, hwrong⟩ | ⟨-, rfl⟩
  · rfl
  · exact family_of_argumentFinding? hwrong
  · rfl

theorem family_of_mem_callFindings {t : Task} {call : CallSite} {reported : Option (List Finding)} {ns : List Nat}
    {found : List Finding} (hreported : ∀ fs, reported = some fs → ∀ f ∈ fs, f.family = .calls)
    (h : t.callFindings call reported ns = .ok found) : ∀ f ∈ found, f.family = .calls := by
  induction ns generalizing reported with
  | nil =>
    cases reported with
    | none =>
      cases h
      simp
    | some fs =>
      cases h
      exact hreported fs rfl
  | cons n ns ih =>
    unfold callFindings at h
    split at h
    next => cases h
    next s hs =>
      dsimp only at h
      split at h
      next =>
        cases h
        simp
      next =>
        refine ih ?_ h
        intro fs hfs
        cases reported with
        | none =>
          obtain rfl : t.argumentFindings s call = fs := Option.some.inj hfs
          exact fun f hf => family_of_mem_argumentFindings hf
        | some gs => exact hreported fs hfs

theorem callProblems_eq_ok_iff {t : Task} {call : CallSite} {n : Nat} {ps : List Problem} :
    t.callProblems call n = .ok ps ↔
      ∃ fs, t.callFindings call none (t.program.callees call) = .ok fs ∧
        fs.map (fun f => f.report ⟨.call n, call.span⟩) = ps := by
  unfold callProblems
  cases t.callFindings call none (t.program.callees call) <;> simp [Except.map]

theorem reportedBy_of_mem_problemsOf {t : Task} {family : RuleFamily} {ps : List Problem}
    (h : t.problemsOf family = .ok ps) : ∀ p ∈ ps, p.ReportedBy family := by
  intro p hp
  match family with
  | .returns =>
    cases h
    obtain ⟨⟨m, n⟩, -, hp⟩ := List.mem_flatMap.1 hp
    obtain ⟨f, hf, rfl⟩ := List.mem_map.1 hp
    exact ⟨f, _, rfl, family_of_returnFinding? (Option.mem_toList.1 hf), rfl⟩
  | .variables =>
    cases h
    obtain ⟨⟨a, n⟩, -, hp⟩ := List.mem_flatMap.1 hp
    obtain ⟨f, hf, rfl⟩ := List.mem_map.1 hp
    exact ⟨f, _, rfl, family_of_variableFinding? (Option.mem_toList.1 hf), rfl⟩
  | .params =>
    cases h
    obtain ⟨⟨m, n⟩, -, hp⟩ := List.mem_flatMap.1 hp
    obtain ⟨f, hf, rfl⟩ := List.mem_map.1 hp
    obtain ⟨tag, -, htag⟩ := List.mem_filterMap.1 hf
    exact ⟨f, _, rfl, family_of_paramFinding? htag, rfl⟩
  | .calls =>
    obtain ⟨found, hfound, rfl⟩ := gather_eq_ok_iff.1 h
    obtain ⟨⟨call, n⟩, hcall, hp⟩ := List.mem_flatMap.1 hp
    obtain ⟨fs, hfs, hmap⟩ := callProblems_eq_ok_iff.1 (hfound (call, n) hcall)
    rw [← hmap] at hp
    obtain ⟨f, hf, rfl⟩ := List.mem_map.1 hp
    exact ⟨f, _, rfl, family_of_mem_callFindings (by simp) hfs f hf, rfl⟩

/-- What comes of a numbered list comes of one of its items. -/
theorem mem_flatMap_zipIdx {α β : Type} {items : List α} {g : α × Nat → List β} {b : β} :
    b ∈ items.zipIdx.flatMap g ↔ ∃ i x, items[i]? = some x ∧ b ∈ g (x, i) := by
  simp only [List.mem_flatMap, Prod.exists, List.mem_zipIdx_iff_getElem?]
  exact exists_comm

/-- To leave items out is to leave their problems out, if the problems tell which items they are of. -/
theorem filter_flatMap_eq {α : Type} {found : α → List Problem} {q : Problem → Bool} {c : α → Bool}
    {as : List α} (h : ∀ a ∈ as, ∀ p ∈ found a, q p = c a) :
    (as.flatMap found).filter q = (as.filter c).flatMap found := by
  induction as with
  | nil => rfl
  | cons a as ih =>
    rw [List.forall_mem_cons] at h
    rw [List.flatMap_cons, List.filter_append, ih h.2]
    cases hc : c a with
    | true =>
      have hall : (found a).filter q = found a := List.filter_eq_self.2 fun p hp => (h.1 p hp).trans hc
      rw [List.filter_cons_of_pos hc, List.flatMap_cons, hall]
    | false =>
      have hnone : (found a).filter q = [] := List.filter_eq_nil_iff.2 fun p hp => by simp [h.1 p hp, hc]
      rw [List.filter_cons_of_neg (by simp [hc]), hnone, List.nil_append]

/-- Which of the problems of some families are listed can be told for each code and place by itself. -/
theorem filter_listing_of_reportedBy {families : List RuleFamily} {found : RuleFamily → List Problem}
    {q : Problem → Bool} (hreported : ∀ family ∈ families, ∀ p ∈ found family, p.ReportedBy family)
    (hq : ∀ a b : Problem, a.code = b.code → a.location = b.location → q a = q b) :
    (Collector.listing (families.flatMap found)).filter q =
      Collector.listing ((families.flatMap found).filter q) := by
  apply Collector.filter_listing
  intro a ha b hb hkey
  obtain ⟨x, hx, ha⟩ := List.mem_flatMap.1 ha
  obtain ⟨y, hy, hb⟩ := List.mem_flatMap.1 hb
  have hcode := Problem.code_eq_of_key_eq (hreported x hx a ha) (hreported y hy b hb) hkey
  exact hq a b hcode (congrArg ProblemKey.location hkey)

/-- A check that succeeds lists what each of its families finds. -/
theorem check_eq_ok_iff {t : Task} {ps : List Problem} :
    t.check.result = .ok ps ↔
      ∃ found : RuleFamily → List Problem,
        (∀ family ∈ families.filter t.settings.checks, t.problemsOf family = .ok (found family)) ∧
          ps = Collector.listing ((families.filter t.settings.checks).flatMap found) := by
  rw [check_result]
  constructor
  · intro h
    cases hgather : gather t.problemsOf (families.filter t.settings.checks) with
    | error e =>
      rw [hgather] at h
      cases h
    | ok all =>
      rw [hgather] at h
      obtain ⟨found, hfound, rfl⟩ := gather_eq_ok_iff.1 hgather
      exact ⟨found, hfound, (Except.ok.inj h).symm⟩
  · rintro ⟨found, hfound, rfl⟩
    rw [gather_eq_ok_iff.2 ⟨found, hfound, rfl⟩]
    rfl

/-- What a check that succeeds lists are the problems of the families that it applies. -/
theorem exists_listing {t : Task} {ps : List Problem} (h : t.check.result = .ok ps) :
    ∃ all, ps = Collector.listing all ∧ ∀ p, p ∈ all ↔
      ∃ family found, t.settings.checks family = true ∧ t.problemsOf family = .ok found ∧ p ∈ found := by
  obtain ⟨found, hfound, rfl⟩ := check_eq_ok_iff.1 h
  refine ⟨_, rfl, ?_⟩
  intro p
  rw [List.mem_flatMap]
  constructor
  · rintro ⟨family, hfamily, hp⟩
    exact ⟨family, found family, (List.mem_filter.1 hfamily).2, hfound family hfamily, hp⟩
  · rintro ⟨family, ps, hchecks, hps, hp⟩
    have hfamily : family ∈ families.filter t.settings.checks :=
      List.mem_filter.2 ⟨by cases family <;> decide, hchecks⟩
    obtain rfl : found family = ps := Except.ok.inj ((hfound family hfamily).symm.trans hps)
    exact ⟨family, hfamily, hp⟩

/-- If two checks find the same problems of some codes and places, family by family, then they list the same of them. -/
theorem filter_check_eq {t t' : Task} (hchecks : t'.settings.checks = t.settings.checks) {ps qs : List Problem}
    (h : t.check.result = .ok ps) (h' : t'.check.result = .ok qs) {q q' : Problem → Bool}
    (hq : ∀ a b : Problem, a.code = b.code → a.location = b.location → q a = q b)
    (hq' : ∀ a b : Problem, a.code = b.code → a.location = b.location → q' a = q' b)
    (hfamilies : ∀ family found found', t.problemsOf family = .ok found → t'.problemsOf family = .ok found' →
      found'.filter q' = found.filter q) : qs.filter q' = ps.filter q := by
  obtain ⟨found, hfound, rfl⟩ := check_eq_ok_iff.1 h
  obtain ⟨found', hfound', rfl⟩ := check_eq_ok_iff.1 h'
  rw [hchecks] at hfound' ⊢
  have hreported : ∀ family ∈ families.filter t.settings.checks, ∀ p ∈ found family, p.ReportedBy family :=
    fun family hfamily => reportedBy_of_mem_problemsOf (hfound family hfamily)
  have hreported' : ∀ family ∈ families.filter t.settings.checks, ∀ p ∈ found' family, p.ReportedBy family :=
    fun family hfamily => reportedBy_of_mem_problemsOf (hfound' family hfamily)
  have hsame : ∀ family ∈ families.filter t.settings.checks, (found' family).filter q' = (found family).filter q :=
    fun family hfamily => hfamilies family _ _ (hfound family hfamily) (hfound' family hfamily)
  rw [filter_listing_of_reportedBy hreported hq, filter_listing_of_reportedBy hreported' hq', List.filter_flatMap,
    List.filter_flatMap, List.flatMap_congr hsame]

/-- If problems of some codes and places are all that a check finds more of than another, family by family, then they
are all that its list has more of. -/
theorem filter_check {t t' : Task} (hchecks : t'.settings.checks = t.settings.checks) {ps qs : List Problem}
    (h : t.check.result = .ok ps) (h' : t'.check.result = .ok qs) {q : Problem → Bool}
    (hq : ∀ a b : Problem, a.code = b.code → a.location = b.location → q a = q b)
    (hfamilies : ∀ family found found', t.problemsOf family = .ok found → t'.problemsOf family = .ok found' →
      found'.filter q = found) : qs.filter q = ps := by
  rw [← List.filter_true ps]
  refine filter_check_eq hchecks h h' (fun _ _ _ _ => rfl) hq ?_
  intro family found found' hfound hfound'
  rw [List.filter_true]
  exact hfamilies family found found' hfound hfound'

theorem reportedBy_of_mem_check {t : Task} {ps : List Problem} (h : t.check.result = .ok ps) {p : Problem}
    (hp : p ∈ ps) : ∃ family, p.ReportedBy family := by
  obtain ⟨all, rfl, hall⟩ := exists_listing h
  obtain ⟨family, found, -, hfound, hp⟩ := (hall p).1 (Collector.mem_of_mem_listing hp)
  exact ⟨family, reportedBy_of_mem_problemsOf hfound p hp⟩

/-- What a check lists, with the names and the problems in orders that can be computed. -/
theorem check_result_eq_inOrder (s : Snapshot) (settings : Settings) :
    (check ⟨.ofSnapshot s, settings⟩).result =
      let names := ((Index.ofSnapshot s).types.map Prod.fst).insertionSort (· ≤ ·)
      let ancestry := Ancestry.inOrder (.ofSnapshot s) names
      let t : Task := ⟨⟨s, ancestry, ancestry.callees none⟩, settings⟩
      (gather t.problemsOf (families.filter settings.checks)).map fun ps =>
        (Collector.pushAll {} ps).found.reverse.foldr
          (fun a sorted => sorted.filter (fun b => !Collector.precedes a b) ++
            a :: sorted.filter fun b => Collector.precedes a b) [] := by
  rw [check_result, funext Collector.listing_eq_foldr, Program.ofSnapshot_eq_inOrder]

end Task

/-! ### Checks without some families -/

/-- A check that leaves families out lists what the check of all families lists, less the problems of those families,
and each problem is of one family. -/
theorem Task.check_skip (p : Program) (settings : Settings) (skip : List RuleFamily) {ps : List Problem}
    (h : (Task.check ⟨p, { settings with skip := [] }⟩).result = .ok ps) :
    (Task.check ⟨p, { settings with skip := skip }⟩).result = .ok (ps.filter fun q => !q.isOf skip) ∧
      ∀ q ∈ ps, ∃! family : RuleFamily, q.code ∈ family.codes := by
  obtain ⟨found, hfound, hps⟩ := Task.check_eq_ok_iff.1 h
  have hall : Task.families.filter (Settings.checks { settings with skip := [] }) = Task.families := rfl
  rw [hall, Task.problemsOf_skip] at hfound
  rw [hall] at hps
  have hreported : ∀ family ∈ Task.families, ∀ q ∈ found family, q.ReportedBy family :=
    fun family hfamily => Task.reportedBy_of_mem_problemsOf (hfound family hfamily)
  constructor
  · refine Task.check_eq_ok_iff.2 ⟨found, ?_, ?_⟩
    · intro family hfamily
      rw [Task.problemsOf_skip]
      exact hfound family (List.mem_filter.1 hfamily).1
    · have hkept : ((Task.families.flatMap found).filter fun q => !q.isOf skip) =
          (Task.families.filter (Settings.checks { settings with skip := skip })).flatMap found :=
        Task.filter_flatMap_eq fun family hfamily q hq =>
          congrArg not ((hreported family hfamily q hq).isOf_eq skip)
      -- problems of one code are kept or left out together
      have hcodes : ∀ a b : Problem, a.code = b.code → a.location = b.location → (!a.isOf skip) = !b.isOf skip := by
        intro a b hcode _
        rw [Problem.isOf, Problem.isOf, hcode]
      rw [hps, Task.filter_listing_of_reportedBy hreported hcodes, hkept]
  · intro q hq
    rw [hps] at hq
    obtain ⟨family, hfamily, hq⟩ := List.mem_flatMap.1 (Collector.mem_of_mem_listing hq)
    have hof := hreported family hfamily q hq
    exact ⟨family, hof.code_mem_iff.2 rfl, fun other hother => (hof.code_mem_iff.1 hother).symm⟩

/-- A method whose return tag and parameter tag name the same unknown type, and an assignment that stands before it. -/
def crowded : Snapshot where
  methods := [{
    name := "run", params := some [⟨"x", .required⟩], paramTags := [⟨"x", "Gone"⟩], returnTag := some "Gone",
    span := ⟨20, 30, 0⟩
  }]
  assignments := [{ name := "y", tag := "Integer", value := .literal "String", span := ⟨4, 9, 0⟩ }]

/-- Without the returns and the assignments the parameter tag is left, though the return tag lacks the same type. -/
theorem check_skip_crowded :
    (Task.check ⟨.ofSnapshot crowded, {}⟩).result = .ok [
        (Finding.variableMismatch "y" "Integer" "String").report ⟨.assignment 0, ⟨4, 9, 0⟩⟩,
        (Finding.unresolvedReturn "run" "Gone" ["Gone"]).report ⟨.method 0, ⟨20, 30, 0⟩⟩,
        (Finding.unresolvedParam "run" "x" "Gone" ["Gone"]).report ⟨.method 0, ⟨20, 30, 0⟩⟩
      ] ∧
      (Task.check ⟨.ofSnapshot crowded, { skip := [.variables, .returns, .variables] }⟩).result = .ok [
        (Finding.unresolvedParam "run" "x" "Gone" ["Gone"]).report ⟨.method 0, ⟨20, 30, 0⟩⟩
      ] := by
  have hcheck : (Task.check ⟨.ofSnapshot crowded, {}⟩).result = .ok [
      (Finding.variableMismatch "y" "Integer" "String").report ⟨.assignment 0, ⟨4, 9, 0⟩⟩,
      (Finding.unresolvedReturn "run" "Gone" ["Gone"]).report ⟨.method 0, ⟨20, 30, 0⟩⟩,
      (Finding.unresolvedParam "run" "x" "Gone" ["Gone"]).report ⟨.method 0, ⟨20, 30, 0⟩⟩
    ] := by
    rw [Task.check_result_eq_inOrder]
    decide +kernel
  refine ⟨hcheck, ?_⟩
  rw [(Task.check_skip _ {} [.variables, .returns, .variables] hcheck).1]
  decide +kernel

end TagCheck
