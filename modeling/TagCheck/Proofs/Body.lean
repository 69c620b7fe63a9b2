import TagCheck.Proofs.Merging
import TagCheck.Proofs.MissingSignature
import TagCheck.Proofs.Mismatch
import TagCheck.Proofs.OtherBody

/-!
# What a body returns

A method returns what any of the expressions of its body gives.  The search through a body ends at the first expression
of unknown type, but what it has found by then is open anyway: the body is open exactly if one of its expressions is,
wherever it stands, and else has the alternatives of all of them in the order in which they come first
(`Ancestry.inferBody_joinsBody`).  The order of a body therefore has no say in which alternatives there are
(`Ancestry.inferBody_alike`), and a comparison asks for nothing else.
-/

namespace TagCheck

/-! ### Joining several types -/

namespace Inferred

/-- The alternatives of the type, as far as it is known. -/
def alternatives : Inferred → List Variant
  | .undetermined => []
  | .known t => t.variants

theorem Comparable.eq_known {i : Inferred} (h : i.Comparable) (hi : i ≠ .undetermined) :
    i = .known (.union i.alternatives) := by
  cases h with
  | undetermined => exact absurd rfl hi
  | union vs => rfl

theorem join_eq_undetermined_iff {i j : Inferred} : i.join j = .undetermined ↔ i = .undetermined ∨ j = .undetermined := by
  cases i <;> cases j <;> simp [join]

variable {α : Type} {f : α → Inferred}

theorem foldl_join_eq_undetermined_iff {i : Inferred} {as : List α} :
    as.foldl (fun i a => i.join (f a)) i = .undetermined ↔ i = .undetermined ∨ ∃ a ∈ as, f a = .undetermined := by
  induction as generalizing i with
  | nil => simp
  | cons a as ih =>
    rw [List.foldl_cons, ih, join_eq_undetermined_iff, List.exists_mem_cons_iff]
    exact or_assoc

/-- Joined types have the alternatives of the first as they stand, and whatever else there is in the order in which it
comes first. -/
theorem foldl_join_eq_known (hf : ∀ a, (f a).Comparable) (vs : List Variant) {as : List α}
    (h : ∀ a ∈ as, f a ≠ .undetermined) :
    as.foldl (fun (i : Inferred) a => i.join (f a)) (.known (.union vs)) =
      .known (.union (appendNew vs (as.flatMap fun a => (f a).alternatives))) := by
  induction as generalizing vs with
  | nil => rfl
  | cons a as ih =>
    rw [List.forall_mem_cons] at h
    have hjoin : (known (.union vs)).join (f a) = .known (.union (appendNew vs (f a).alternatives)) := by
      rw [(hf a).eq_known h.1]
      rfl
    rw [List.foldl_cons, hjoin, ih _ h.2, List.flatMap_cons, appendNew_append]

end Inferred

/-! ### The type of a body -/

/-- The type of a body with the given types of expressions: open if one of them is, nil if there is no expression, and
else the alternatives of the first followed by what else occurs, each once and in the order in which it comes first. -/
structure Inferred.JoinsBody (typeOf : Expr → Inferred) (body : List Expr) (i : Inferred) : Prop where
  undetermined_iff : i = .undetermined ↔ ∃ e ∈ body, typeOf e = .undetermined
  empty : body = [] → i = .known .nil
  known : ∀ e es, body = e :: es → (∀ e' ∈ body, typeOf e' ≠ .undetermined) →
    ∃ new, i = .known (.union ((typeOf e).alternatives ++ new)) ∧
      FirstOccurrences ((es.flatMap fun e' => (typeOf e').alternatives).filter fun v => v ∉ (typeOf e).alternatives) new

/-- The types are open both or neither, and have the same alternatives. -/
structure Inferred.Alike (i j : Inferred) : Prop where
  undetermined_iff : i = .undetermined ↔ j = .undetermined
  mem_iff : ∀ v, v ∈ i.alternatives ↔ v ∈ j.alternatives

namespace Inferred

variable {typeOf : Expr → Inferred} {body body' : List Expr} {i j : Inferred}

theorem JoinsBody.mem_alternatives_iff (h : JoinsBody typeOf body i) (hbody : body ≠ []) (hi : i ≠ .undetermined)
    {v : Variant} : v ∈ i.alternatives ↔ ∃ e ∈ body, v ∈ (typeOf e).alternatives := by
  obtain ⟨e, es, rfl⟩ := List.exists_cons_of_ne_nil hbody
  have hknown : ∀ e' ∈ e :: es, typeOf e' ≠ .undetermined := fun e' he' hopen => hi (h.undetermined_iff.2 ⟨e', he', hopen⟩)
  obtain ⟨new, rfl, hnew⟩ := h.known e es rfl hknown
  have hsplit : v ∈ (typeOf e).alternatives ++ new ↔
      v ∈ (typeOf e).alternatives ∨ v ∈ es.flatMap fun e' => (typeOf e').alternatives := by
    rw [List.mem_append, hnew.mem_iff, List.mem_filter]
    by_cases hv : v ∈ (typeOf e).alternatives <;> simp [hv]
  rw [List.exists_mem_cons_iff, ← List.mem_flatMap]
  exact hsplit

/-- Bodies of the same expressions have types alike. -/
theorem JoinsBody.alike (h : JoinsBody typeOf body i) (h' : JoinsBody typeOf body' j) (hperm : body.Perm body') :
    i.Alike j := by
  have hopen : i = .undetermined ↔ j = .undetermined := by
    rw [h.undetermined_iff, h'.undetermined_iff]
    exact exists_congr fun e => and_congr_left' hperm.mem_iff
  refine ⟨hopen, ?_⟩
  intro v
  by_cases hi : i = .undetermined
  · rw [hi, hopen.1 hi]
  · by_cases hbody : body = []
    · have hbody' : body' = [] := List.nil_perm.1 (hbody ▸ hperm)
      rw [h.empty hbody, h'.empty hbody']
    · have hbody' : body' ≠ [] := fun hnil => hbody (List.perm_nil.1 (hnil ▸ hperm))
      rw [h.mem_alternatives_iff hbody hi, h'.mem_alternatives_iff hbody' fun hj => hi (hopen.2 hj)]
      exact exists_congr fun e => and_congr_left' hperm.mem_iff

end Inferred

namespace Ancestry

theorem inferBody_joinsBody {a : Ancestry} {n : Nat} {m : MethodDecl} (hm : a.index.methods[n]? = some m) :
    Inferred.JoinsBody (a.infer m.owner) m.body (a.inferBody n) := by
  have hcomparable := a.infer_comparable m.owner
  unfold inferBody
  rw [hm]
  dsimp only
  cases m.body with
  | nil => exact ⟨by simp, fun _ => rfl, nofun⟩
  | cons e es =>
    dsimp only
    rw [inferRest_eq_foldl]
    refine ⟨?_, nofun, ?_⟩
    · rw [Inferred.foldl_join_eq_undetermined_iff, List.exists_mem_cons_iff]
    · rintro _ _ ⟨⟩ hknown
      rw [List.forall_mem_cons] at hknown
      refine ⟨_, ?_, firstOccurrences_distinct _⟩
      rw [← appendNew_eq_append, ← Inferred.foldl_join_eq_known hcomparable _ hknown.2,
        ← (hcomparable e).eq_known hknown.1]

/-- In another order a body has the same alternatives, and the other bodies have the same types. -/
theorem inferBody_alike {a : Ancestry} {n : Nat} {m : MethodDecl} (hm : a.index.methods[n]? = some m)
    {body : List Expr} (hperm : m.body.Perm body) (k : Nat) :
    (a.inferBody k).Alike ((a.withBody n body).inferBody k) := by
  have hinfer : (a.withBody n body).infer = a.infer :=
    funext fun within => funext fun e => a.infer_withBody n body within e
  by_cases hk : n = k
  · have hm' : (a.withBody n body).index.methods[n]? = some { m with body := body } := getElem?_withBody_self hm body
    have hjoins := inferBody_joinsBody hm'
    rw [hinfer] at hjoins
    exact hk ▸ (inferBody_joinsBody hm).alike hjoins hperm
  · have hmethod : (a.withBody n body).index.methods[k]? = a.index.methods[k]? := getElem?_withBody_of_ne hk _ body
    have hsame : (a.withBody n body).inferBody k = a.inferBody k := by
      unfold inferBody
      simp only [hmethod, inferRest_eq_foldl, hinfer]
    rw [hsame]
    exact ⟨Iff.rfl, fun _ => Iff.rfl⟩

end Ancestry

/-! ### Comparing and checking -/

/-- A comparison asks for the alternatives and not for their order. -/
theorem DocType.accepts_of_alike (a : Ancestry) (declared : DocType) {i j : Inferred} (hi : i.Comparable)
    (hj : j.Comparable) (h : i.Alike j) : declared.accepts a i = declared.accepts a j := by
  cases hi with
  | undetermined => rw [h.undetermined_iff.1 rfl]
  | union vs =>
    cases hj with
    | undetermined => cases h.undetermined_iff.2 rfl
    | union ws =>
      have hany : ∀ d : Variant, vs.any (d.satisfies a) = ws.any (d.satisfies a) := by
        intro d
        rw [Bool.eq_iff_iff, List.any_eq_true, List.any_eq_true]
        exact exists_congr fun v => and_congr_left' (h.mem_iff v)
      have hunchecked : (DocType.union vs).isUnchecked = (DocType.union ws).isUnchecked := rfl
      unfold accepts
      simp only [variants, hany, hunchecked]

/-- Two checks fail alike, or find that bodies contradict their tags at the same methods and list the same problems
besides. -/
inductive SameMismatches : Except CheckError (List Problem) → Except CheckError (List Problem) → Prop
  | fails (e : CheckError) : SameMismatches (.error e) (.error e)
  | lists {ps qs : List Problem}
      (bodies : ∀ k, (∃ p ∈ ps, p.code = "Y0001" ∧ p.location.anchor = .method k) ↔
        ∃ q ∈ qs, q.code = "Y0001" ∧ q.location.anchor = .method k)
      (others : (ps.filter fun p => p.code != "Y0001") = qs.filter fun q => q.code != "Y0001") :
      SameMismatches (.ok ps) (.ok qs)

namespace Task

variable {t : Task} {n : Nat} {body : List Expr}

/-- What a method is told about its return tag depends on its body by the outcome of the comparison only. -/
theorem filter_returnProblems_withBody (t : Task) (n : Nat) (body : List Expr) (m : MethodDecl) (other : List Expr)
    (k : Nat) :
    ((t.withBody n body).returnProblems { m with body := other } k).filter (fun p => p.code != "Y0001") =
      (t.returnProblems m k).filter fun p => p.code != "Y0001" := by
  have htag : (t.withBody n body).returnTag? { m with body := other } = t.returnTag? m := t.returnTag?_withBody n body _
  unfold returnProblems returnFinding?
  rw [htag, resolution_withBody]
  cases t.returnTag? m with
  | none => rfl
  | some tag =>
    obtain ⟨text, inheritedFrom⟩ := tag
    dsimp only
    cases t.resolution ⟨.method k, inheritedFrom.or m.owner, text⟩ with
    | unresolved type missing => rfl
    | resolved declared =>
      have hdropped : ∀ (c : Prop) [Decidable c] (f : Finding), f.code = "Y0001" →
          (((if c then none else some f).toList.map fun f => f.report ⟨.method k, m.span⟩).filter
            fun p => p.code != "Y0001") = [] := by
        intro c _ f hf
        split <;> simp [Finding.report, hf]
      dsimp only
      rw [hdropped _ _ rfl, hdropped _ _ rfl]

theorem filter_problemsOf_withBody (family : RuleFamily) {found found' : List Problem}
    (h : t.problemsOf family = .ok found) (h' : (t.withBody n body).problemsOf family = .ok found') :
    (found'.filter fun p => p.code != "Y0001") = found.filter fun p => p.code != "Y0001" := by
  by_cases hfamily : family = .returns
  · subst hfamily
    obtain rfl := Except.ok.inj h
    obtain rfl := Except.ok.inj h'
    have hproblems := filter_returnProblems_withBody t n body
    have hbody : ∀ (m : MethodDecl) (other : List Expr) (k : Nat),
        ((t.returnProblems { m with body := other } k).filter fun p => p.code != "Y0001") =
          (t.returnProblems m k).filter fun p => p.code != "Y0001" :=
      fun m other k => (hproblems { m with body := other } other k).symm.trans (hproblems m other k)
    rw [List.filter_flatMap, List.filter_flatMap]
    refine Eq.trans ?_ (flatMap_zipIdx_withBody hbody t.program.snapshot.methods n body)
    apply List.flatMap_congr
    rintro ⟨m, k⟩ -
    exact hproblems m m.body k
  · rw [problemsOf_withBody t n body hfamily] at h'
    rw [Except.ok.inj (h.symm.trans h')]

/-- In another order a body contradicts the return tag as before. -/
theorem exists_returnMismatch_withBody_iff {m₀ : MethodDecl} (hm₀ : t.ancestry.index.methods[n]? = some m₀)
    (hperm : m₀.body.Perm body) (m : MethodDecl) (other : List Expr) (k : Nat) :
    (∃ f, (t.withBody n body).returnFinding? { m with body := other } k = some f ∧ f.code = "Y0001") ↔
      ∃ f, t.returnFinding? m k = some f ∧ f.code = "Y0001" := by
  have htag : (t.withBody n body).returnTag? { m with body := other } = t.returnTag? m := t.returnTag?_withBody n body _
  have haccepts : ∀ declared : DocType,
      declared.accepts (t.withBody n body).ancestry ((t.withBody n body).ancestry.inferBody k) =
        declared.accepts t.ancestry (t.ancestry.inferBody k) :=
    fun declared => (declared.accepts_of_alike t.ancestry (t.ancestry.inferBody_comparable k)
      ((t.withBody n body).ancestry.inferBody_comparable k) (Ancestry.inferBody_alike hm₀ hperm k)).symm
  rw [exists_returnMismatch_iff, exists_returnMismatch_iff, htag, resolution_withBody]
  simp only [haccepts]

/-- A check lists that a body contradicts its return tag if it looks at return types and finds so. -/
theorem exists_returnMismatch_mem_check_iff {t : Task} {ps : List Problem} (h : t.check.result = .ok ps) (k : Nat) :
    (∃ p ∈ ps, p.code = "Y0001" ∧ p.location.anchor = .method k) ↔
      t.settings.checks .returns = true ∧
        ∃ m, t.program.snapshot.methods[k]? = some m ∧ ∃ f, t.returnFinding? m k = some f ∧ f.code = "Y0001" := by
  have hchecks : (∃ p ∈ ps, p.code = "Y0001" ∧ p.location.anchor = .method k) → t.settings.checks .returns = true := by
    rintro ⟨p, hp, hcode, -⟩
    obtain ⟨all, rfl, hall⟩ := exists_listing h
    obtain ⟨family, found, hchecks, hfound, hp⟩ := (hall p).1 (Collector.mem_of_mem_listing hp)
    have hreturns : p.code ∈ RuleFamily.returns.codes := by simp [hcode, RuleFamily.codes]
    rwa [(reportedBy_of_mem_problemsOf hfound p hp).code_mem_iff.1 hreturns] at hchecks
  have hlisted : t.settings.checks .returns = true → ListedOnceIff ps "Y0001" (.method k)
      (∃ m f, t.program.snapshot.methods[k]? = some m ∧ t.returnFinding? m k = some f ∧ f.code = "Y0001") :=
    fun hreturns => t.listedOnceIff_finding h hreturns (by decide) rfl (fun _ _ => Anchor.method.inj) k
  constructor
  · intro hp
    obtain ⟨m, f, hm, hf⟩ := (hlisted (hchecks hp)).1.1 hp
    exact ⟨hchecks hp, m, hm, f, hf⟩
  · rintro ⟨hreturns, m, hm, f, hf⟩
    exact (hlisted hreturns).1.2 ⟨m, f, hm, hf⟩

/-- A check does not notice that a body is in another order, but for the words of a mismatch. -/
theorem sameMismatches_withBody {m : MethodDecl} (hm : t.ancestry.index.methods[n]? = some m)
    (hperm : m.body.Perm body) : SameMismatches t.check.result (t.withBody n body).check.result := by
  have hcalls : (t.withBody n body).problemsOf .calls = t.problemsOf .calls := t.problemsOf_withBody n body (by decide)
  cases hresult : t.check.result with
  | error e =>
    have herror := check_eq_error_iff.1 hresult
    rw [← hcalls] at herror
    rw [check_eq_error_iff.2 herror]
    exact .fails e
  | ok ps =>
    cases hresult' : (t.withBody n body).check.result with
    | error e =>
      have herror := check_eq_error_iff.1 hresult'
      rw [hcalls] at herror
      cases hresult.symm.trans (check_eq_error_iff.2 herror)
    | ok qs =>
      refine .lists ?_ ?_
      · intro k
        rw [exists_returnMismatch_mem_check_iff hresult, exists_returnMismatch_mem_check_iff hresult']
        refine and_congr_right fun _ => ?_
        rcases getElem?_withBody t.program.snapshot.methods n body k with ⟨hold, hnew⟩ | ⟨m, other, hold, hnew⟩
        · have hnew : (t.withBody n body).program.snapshot.methods[k]? = none := hnew
          rw [hold, hnew]
          simp
        · have hnew : (t.withBody n body).program.snapshot.methods[k]? = some { m with body := other } := hnew
          rw [hold, hnew]
          simp only [Option.some.injEq, exists_eq_left']
          exact (exists_returnMismatch_withBody_iff hm hperm m other k).symm
      · have hcode : ∀ a b : Problem, a.code = b.code → a.location = b.location →
            (a.code != "Y0001") = (b.code != "Y0001") := by
          intro a b hcode _
          rw [hcode]
        exact (filter_check_eq (by rfl) hresult hresult' hcode hcode fun family _ _ =>
          filter_problemsOf_withBody family).symm

end Task

/-- Whatever the lineages, the type of a body is that of its expressions together.  In another order it is open or known
as before and has the same alternatives, and a check reports mismatches at the same methods. -/
theorem Snapshot.inferBody_orderless (s : Snapshot) {n : Nat} {m : MethodDecl} (hm : s.methods[n]? = some m) :
    (∀ a : Ancestry, a.index = .ofSnapshot s →
      Inferred.JoinsBody (a.infer m.owner) m.body (a.inferBody n) ∧
        ∀ body, m.body.Perm body → (a.inferBody n).Alike ((a.withBody n body).inferBody n)) ∧
    ∀ (settings : Settings) (body : List Expr), m.body.Perm body →
      SameMismatches (Task.check ⟨.ofSnapshot s, settings⟩).result
        (Task.check ⟨.ofSnapshot (s.withBody n body), settings⟩).result := by
  constructor
  · intro a ha
    have hm : a.index.methods[n]? = some m := by
      rw [ha]
      exact hm
    exact ⟨Ancestry.inferBody_joinsBody hm, fun body hperm => Ancestry.inferBody_alike hm hperm n⟩
  · intro settings body hperm
    rw [Program.ofSnapshot_withBody]
    have hm : (Task.ancestry ⟨.ofSnapshot s, settings⟩).index.methods[n]? = some m := hm
    exact Task.sameMismatches_withBody hm hperm

/-- A method that returns one of several things, some of which are named more than once. -/
def pick : MethodDecl where
  owner := some "Shelf"
  name := "pick"
  returnTag := some "Float"
  body := [.typed "Symbol, Integer, Symbol", .literal "String", .typed "Integer, nil, nil"]

def medley : Snapshot where
  methods := [pick]

/-- The repeats of whatever stands first stay, so that the mismatch reads otherwise with the body turned round. -/
theorem inferBody_orderless_medley :
    medley.methods[0]? = some pick ∧ pick.body.Perm pick.body.reverse ∧
      (Task.check ⟨.ofSnapshot medley, {}⟩).result = .ok [
        (Finding.returnMismatch "Shelf#pick" "Float" "Symbol, Integer, Symbol, String, nil" none).report ⟨.method 0, {}⟩
      ] ∧
      (Task.check ⟨.ofSnapshot (medley.withBody 0 pick.body.reverse), {}⟩).result = .ok [
        (Finding.returnMismatch "Shelf#pick" "Float" "Integer, nil, nil, String, Symbol" none).report ⟨.method 0, {}⟩
      ] ∧
      Inferred.JoinsBody ((Program.ofSnapshot medley).ancestry.infer (some "Shelf")) pick.body
        ((Program.ofSnapshot medley).ancestry.inferBody 0) ∧
      ((Program.ofSnapshot medley).ancestry.inferBody 0).Alike
        (((Program.ofSnapshot medley).ancestry.withBody 0 pick.body.reverse).inferBody 0) ∧
      SameMismatches (Task.check ⟨.ofSnapshot medley, {}⟩).result
        (Task.check ⟨.ofSnapshot (medley.withBody 0 pick.body.reverse), {}⟩).result := by
  have hperm : pick.body.Perm pick.body.reverse := (List.reverse_perm _).symm
  obtain ⟨hcontexts, hchecks⟩ := medley.inferBody_orderless (n := 0) (m := pick) rfl
  obtain ⟨hjoins, halike⟩ := hcontexts (Program.ofSnapshot medley).ancestry rfl
  refine ⟨rfl, hperm, ?_, ?_, hjoins, halike _ hperm, hchecks {} _ hperm⟩
  · rw [Task.check_result_eq_inOrder]
    decide +kernel
  · rw [Task.check_result_eq_inOrder]
    decide +kernel

end TagCheck
