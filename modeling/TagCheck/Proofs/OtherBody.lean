import TagCheck.Proofs.Families
import TagCheck.Proofs.WellFormed

/-!
# Another body

What a method returns is read from its body, and a body is read for nothing else.  So a snapshot in which one method has
another body has the same types, the same lineages and the same tags (`Program.ofSnapshot_withBody`), its expressions
have the same types and its calls reach the same methods, and the rules for assignments, for parameter tags and for
calls find the same problems (`Task.problemsOf_withBody`).
-/

namespace TagCheck

/-! ### Lists in which one element is changed -/

section Modify

variable {α β : Type} {f : α → α}

private theorem foldl_modify {step : β → α → β} (h : ∀ b x, step b (f x) = step b x) (items : List α) (i : Nat)
    (b : β) : (items.modify i f).foldl step b = items.foldl step b := by
  induction items generalizing i b with
  | nil => cases i <;> rfl
  | cons x items ih =>
    cases i with
    | zero => rw [List.modify_zero_cons, List.foldl_cons, List.foldl_cons, h]
    | succ i => rw [List.modify_succ_cons, List.foldl_cons, List.foldl_cons, ih]

private theorem flatMap_zipIdx_modify {g : α × Nat → List β} (h : ∀ x n, g (f x, n) = g (x, n)) (items : List α) (i k : Nat) :
    ((items.modify i f).zipIdx k).flatMap g = (items.zipIdx k).flatMap g := by
  induction items generalizing i k with
  | nil => cases i <;> rfl
  | cons x items ih =>
    cases i with
    | zero => simp only [List.modify_zero_cons, List.zipIdx_cons, List.flatMap_cons, h]
    | succ i => simp only [List.modify_succ_cons, List.zipIdx_cons, List.flatMap_cons, ih]

end Modify

/-! ### The index -/

/-- The methods where that of the given number has the given body. -/
def withBody (methods : List MethodDecl) (i : Nat) (body : List Expr) : List MethodDecl :=
  methods.modify i fun m => { m with body := body }

/-- The methods of each number differ at most in their bodies. -/
theorem getElem?_withBody (methods : List MethodDecl) (i : Nat) (body : List Expr) (n : Nat) :
    methods[n]? = none ∧ (withBody methods i body)[n]? = none ∨
      ∃ m other, methods[n]? = some m ∧ (withBody methods i body)[n]? = some { m with body := other } := by
  rw [withBody, List.getElem?_modify]
  cases methods[n]? with
  | none => exact Or.inl ⟨rfl, rfl⟩
  | some m =>
    by_cases hi : i = n
    · exact Or.inr ⟨m, body, rfl, by simp [hi]⟩
    · exact Or.inr ⟨m, m.body, rfl, by simp [hi]⟩

theorem getElem?_withBody_self {methods : List MethodDecl} {i : Nat} {m : MethodDecl} (h : methods[i]? = some m)
    (body : List Expr) : (withBody methods i body)[i]? = some { m with body := body } := by
  simp [withBody, h]

theorem getElem?_withBody_of_ne {i n : Nat} (h : i ≠ n) (methods : List MethodDecl) (body : List Expr) :
    (withBody methods i body)[n]? = methods[n]? := by
  simp [withBody, h]

/-- What does not depend on the body is found at each method alike. -/
theorem flatMap_zipIdx_withBody {β : Type} {g : MethodDecl × Nat → List β}
    (h : ∀ m other n, g ({ m with body := other }, n) = g (m, n)) (methods : List MethodDecl) (i : Nat)
    (body : List Expr) : (withBody methods i body).zipIdx.flatMap g = methods.zipIdx.flatMap g := by
  unfold withBody
  exact flatMap_zipIdx_modify (fun m n => h m body n) methods i 0

private theorem memberTable_withBody (methods : List MethodDecl) (i : Nat) (body : List Expr) (n : Nat)
    (table : List (MemberKey × Nat)) : memberTable n table (withBody methods i body) = memberTable n table methods := by
  induction methods generalizing i n table with
  | nil => cases i <;> rfl
  | cons m methods ih =>
    cases i with
    | zero => rfl
    | succ i => exact ih i (n + 1) _

def Snapshot.withBody (s : Snapshot) (i : Nat) (body : List Expr) : Snapshot :=
  { s with methods := TagCheck.withBody s.methods i body }

namespace Index

def withBody (ix : Index) (i : Nat) (body : List Expr) : Index :=
  { ix with methods := TagCheck.withBody ix.methods i body }

variable (ix : Index) (i : Nat) (body : List Expr)

theorem ofSnapshot_withBody (s : Snapshot) : ofSnapshot (s.withBody i body) = (ofSnapshot s).withBody i body := by
  have htypes : ∀ types, (TagCheck.withBody s.methods i body).foldl declareOwner types =
      s.methods.foldl declareOwner types := by
    intro types
    apply foldl_modify
    exact fun _ _ => rfl
  unfold ofSnapshot Snapshot.withBody
  rw [memberTable_withBody, htypes]
  rfl

theorem climb_withBody (fuel : Nat) (seen : List String) (name : String) :
    (ix.withBody i body).climb fuel seen name = ix.climb fuel seen name := by
  induction fuel generalizing seen name with
  | zero => rfl
  | succ fuel ih =>
    unfold climb
    simp only [ih]
    rfl

theorem superclassChain_withBody : (ix.withBody i body).superclassChain = ix.superclassChain :=
  funext fun name => climb_withBody ix i body _ [] name

theorem tag?_withBody : (ix.withBody i body).tag? = ix.tag? := by
  funext owner name scope selector
  have hmember : (ix.withBody i body).member? owner name scope = ix.member? owner name scope := rfl
  unfold tag?
  rw [hmember]
  cases ix.member? owner name scope with
  | none => rfl
  | some n =>
    rcases getElem?_withBody ix.methods i body n with ⟨hold, hnew⟩ | ⟨m, other, hold, hnew⟩
    · have hnew : (ix.withBody i body).methods[n]? = none := hnew
      simp only [Option.bind_eq_bind, Option.bind_some, hold, hnew]
    · have hnew : (ix.withBody i body).methods[n]? = some { m with body := other } := hnew
      simp only [Option.bind_eq_bind, Option.bind_some, hold, hnew]
      rfl

end Index

/-! ### Lineages and inference -/

theorem walk_withBody (ix : Index) (i : Nat) (body : List Expr) (fuel : Nat) (p : Progress) (name : String) :
    walk (ix.withBody i body) fuel p name = walk ix fuel p name := by
  induction fuel generalizing p name with
  | zero => rfl
  | succ fuel ih =>
    have hmixins : (ix.withBody i body).mixinsAlong name = ix.mixinsAlong name := by
      rw [Index.mixinsAlong, Index.superclassChain_withBody]
      rfl
    have henter : Walk.enter (ix.withBody i body) p name = Walk.enter ix p name := by
      rw [Walk.enter, Index.superclassChain_withBody]
      rfl
    have hanswer : p.answer? (ix.withBody i body) name = p.answer? ix name := rfl
    unfold walk
    rw [hanswer, hmixins, henter]
    simp only [ih]

/-- The types are looked up by the index alone. -/
theorem Scope.resolve_congr {s s' : Scope} (hindex : s'.index.contains = s.index.contains) (hwithin : s'.within = s.within)
    (hbuiltins : s'.builtins = s.builtins) : s'.resolve = s.resolve := by
  have hqualify : s'.qualify? = s.qualify? := by
    funext name
    unfold qualify?
    rw [hindex, hwithin]
  have hknown : s'.isKnown = s.isKnown := by
    funext name
    unfold isKnown
    rw [hqualify, hbuiltins]
  have hfull : s'.fullName = s.fullName := by
    funext name
    unfold fullName
    rw [hqualify]
  funext t
  rw [resolve_eq, resolve_eq, unknownAmong, unknownAmong, hknown, hfull]

namespace Ancestry

def withBody (a : Ancestry) (i : Nat) (body : List Expr) : Ancestry :=
  { a with index := a.index.withBody i body }

variable (a : Ancestry) (i : Nat) (body : List Expr)

theorem ofIndex_withBody (ix : Index) : ofIndex (ix.withBody i body) = (ofIndex ix).withBody i body := by
  have hwalk : walkAll (ix.withBody i body) = walkAll ix := by
    funext names
    unfold walkAll
    simp only [walk_withBody]
    rfl
  unfold ofIndex inOrder
  rw [hwalk]
  rfl

theorem nearestTag?_withBody : (a.withBody i body).nearestTag? = a.nearestTag? := by
  funext name member scope selector skipSelf
  have htag : (a.withBody i body).index.tag? = a.index.tag? := a.index.tag?_withBody i body
  unfold nearestTag?
  rw [htag]
  rfl

theorem documentedReturn_withBody : (a.withBody i body).documentedReturn = a.documentedReturn := by
  funext n
  have hresolve : ∀ within, ((a.withBody i body).scope within).resolve = (a.scope within).resolve :=
    fun within => Scope.resolve_congr (by rfl) (by rfl) (by rfl)
  unfold documentedReturn
  simp only [hresolve, nearestTag?_withBody]
  rcases getElem?_withBody a.index.methods i body n with ⟨hold, hnew⟩ | ⟨m, other, hold, hnew⟩
  · have hnew : (a.withBody i body).index.methods[n]? = none := hnew
    rw [hold, hnew]
  · have hnew : (a.withBody i body).index.methods[n]? = some { m with body := other } := hnew
    rw [hold, hnew]
    rfl

/-- The body of a method has no part in the type of any expression. -/
theorem infer_withBody (within : Option String) (e : Expr) : (a.withBody i body).infer within e = a.infer within e := by
  have hreturns : (a.withBody i body).documentedReturns = a.documentedReturns := by
    funext ns
    unfold documentedReturns
    rw [documentedReturn_withBody]
  have hresolve : ((a.withBody i body).scope within).resolve = (a.scope within).resolve :=
    Scope.resolve_congr (by rfl) (by rfl) (by rfl)
  fun_induction Ancestry.infer a within e with
  | case6 text t hres => simp only [infer, hresolve, hres]
  | case7 text t missing hres => simp only [infer, hresolve, hres]
  | case8 name method args hnew =>
    simp only [infer, hnew, if_true]
    rfl
  | case9 name method args hnew =>
    simp only [infer, hnew, hreturns]
    rfl
  | case10 receiver method args hconst ih =>
    rw [infer, hreturns, ih]
    · rfl
    · exact hconst
  | case11 method args =>
    simp only [infer, hreturns]
    rfl
  | _ => rfl

theorem callees_withBody : (a.withBody i body).callees = a.callees := by
  funext within call
  unfold callees
  simp only [infer_withBody]
  rfl

end Ancestry

/-! ### Checking -/

def Program.withBody (p : Program) (i : Nat) (body : List Expr) : Program :=
  { p with snapshot := p.snapshot.withBody i body, ancestry := p.ancestry.withBody i body }

theorem Program.ofSnapshot_withBody (s : Snapshot) (i : Nat) (body : List Expr) :
    Program.ofSnapshot (s.withBody i body) = (Program.ofSnapshot s).withBody i body := by
  unfold ofSnapshot
  simp only [Index.ofSnapshot_withBody, Ancestry.ofIndex_withBody, Ancestry.callees_withBody]
  rfl

namespace Task

def withBody (t : Task) (i : Nat) (body : List Expr) : Task :=
  { t with program := t.program.withBody i body }

variable (t : Task) (i : Nat) (body : List Expr)

theorem resolution_withBody : (t.withBody i body).resolution = t.resolution := by
  funext key
  unfold resolution
  rw [@Scope.resolve_congr ⟨t.ancestry.index, key.within, t.settings.builtins⟩
    ⟨(t.withBody i body).ancestry.index, key.within, (t.withBody i body).settings.builtins⟩ rfl rfl rfl]

theorem nearestTag?_withBody : (t.withBody i body).ancestry.nearestTag? = t.ancestry.nearestTag? :=
  t.ancestry.nearestTag?_withBody i body

theorem tagInEffect?_withBody : (t.withBody i body).tagInEffect? = t.tagInEffect? := by
  funext selector m
  unfold tagInEffect?
  rw [nearestTag?_withBody]

theorem returnTag?_withBody (m : MethodDecl) : (t.withBody i body).returnTag? m = t.returnTag? m := by
  rw [returnTag?, tagInEffect?_withBody, returnTag?]

theorem paramTag?_withBody (m : MethodDecl) : (t.withBody i body).paramTag? m = t.paramTag? m := by
  funext param
  rw [paramTag?, tagInEffect?_withBody, paramTag?]

theorem signature_withBody : (t.withBody i body).signature = t.signature := by
  funext n
  unfold signature
  simp only [paramTag?_withBody]
  rcases getElem?_withBody t.program.snapshot.methods i body n with ⟨hold, hnew⟩ | ⟨m, other, hold, hnew⟩
  · have hnew : (t.withBody i body).program.snapshot.methods[n]? = none := hnew
    rw [hold, hnew]
  · have hnew : (t.withBody i body).program.snapshot.methods[n]? = some { m with body := other } := hnew
    rw [hold, hnew]
    rfl

theorem infer_withBody : (t.withBody i body).ancestry.infer = t.ancestry.infer :=
  funext fun within => funext fun e => t.ancestry.infer_withBody i body within e

theorem variableFinding?_withBody : (t.withBody i body).variableFinding? = t.variableFinding? := by
  funext v n
  unfold variableFinding?
  rw [resolution_withBody, infer_withBody]
  rfl

theorem paramFinding?_withBody : (t.withBody i body).paramFinding? = t.paramFinding? := by
  funext m n tag
  unfold paramFinding?
  rw [resolution_withBody]

theorem argumentFindings_withBody : (t.withBody i body).argumentFindings = t.argumentFindings := by
  have hargument : (t.withBody i body).argumentFinding? = t.argumentFinding? := by
    funext sig call p arg
    unfold argumentFinding?
    rw [resolution_withBody, infer_withBody]
    rfl
  funext sig call
  unfold argumentFindings
  rw [hargument]
  rfl

theorem callProblems_withBody : (t.withBody i body).callProblems = t.callProblems := by
  funext call n
  unfold callProblems
  rw [callFindings_congr (t.signature_withBody i body) (t.argumentFindings_withBody i body)]
  rfl

/-- Only the rules for return types look at a body. -/
theorem problemsOf_withBody {family : RuleFamily} (h : family ≠ .returns) :
    (t.withBody i body).problemsOf family = t.problemsOf family := by
  cases family
  · exact absurd rfl h
  · -- assignments
    have hproblems : (t.withBody i body).variableProblems = t.variableProblems := by
      funext v n
      unfold variableProblems
      rw [variableFinding?_withBody]
    unfold problemsOf
    rw [hproblems]
    rfl
  · -- parameter tags
    have hproblems : (t.withBody i body).paramProblems = t.paramProblems := by
      funext m n
      unfold paramProblems
      rw [paramFinding?_withBody]
    have hmethods := flatMap_zipIdx_withBody (fun _ _ _ => rfl) (g := fun m => t.paramProblems m.1 m.2)
      t.program.snapshot.methods i body
    unfold problemsOf
    rw [hproblems]
    exact congrArg Except.ok hmethods
  · -- calls
    unfold problemsOf
    rw [callProblems_withBody]
    rfl

end Task

end TagCheck
