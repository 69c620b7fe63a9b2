import TagCheck.Proofs.Families
import TagCheck.Proofs.WellFormed
import TagCheck.Proofs.WrittenTag

/-!
# Mismatches

A tag clashes with what is inferred if its writer can read it, the inferred type is known, and no alternative of the
one goes with any alternative of the other (`Snapshot.Clash`).  A check lists one mismatch for each method that clashes
with its return tag and for each assignment that clashes with its tag, and lists no others (`Task.check_mismatches`).
What is known of a body is never absent or void (`Ancestry.inferBody_comparable`), so that nothing but a contradiction
between alternatives speaks against it.
-/

namespace TagCheck

/-! ### What inference knows -/

namespace Inferred

/-- The type is open or a list of alternatives, but not absent or void. -/
inductive Comparable : Inferred → Prop
  | undetermined : Comparable .undetermined
  | union (vs : List Variant) : Comparable (.known (.union vs))

theorem Proper.comparable {i : Inferred} (h : i.Proper) : i.Comparable := by
  cases h with
  | undetermined => exact .undetermined
  | @known t h =>
    cases t with
    | absent => exact h.elim
    | void => exact h.elim
    | union vs => exact .union vs

end Inferred

namespace Ancestry

theorem infer_comparable (a : Ancestry) (within : Option String) (e : Expr) : (a.infer within e).Comparable :=
  (a.infer_proper within e).comparable

theorem inferBody_comparable (a : Ancestry) (n : Nat) : (a.inferBody n).Comparable :=
  (a.inferBody_proper n).comparable

end Ancestry

/-! ### Contradictions -/

/-- No alternative of the inferred type meets any alternative of the documented one. -/
def DocType.Contradicts (a : Ancestry) (declared actual : DocType) : Prop :=
  ∀ d ∈ declared.variants, ∀ v ∈ actual.variants, d.satisfies a v = false

theorem DocType.isUnchecked_eq_false_iff {t : DocType} : t.isUnchecked = false ↔ t ≠ .absent ∧ t ≠ .void := by
  cases t <;> simp [isUnchecked, isAbsent, isVoid]

/-- Only a known type that contradicts the documented one is turned down. -/
theorem DocType.accepts_eq_false_iff {a : Ancestry} {declared : DocType} {i : Inferred}
    (hdeclared : declared.isUnchecked = false) (hi : i.Comparable) :
    declared.accepts a i = false ↔ ∃ actual, i = .known actual ∧ declared.Contradicts a actual := by
  cases hi with
  | undetermined => simp [accepts]
  | union vs =>
    have hactual : (DocType.union vs).isUnchecked = false := rfl
    simp [accepts, hdeclared, hactual, Contradicts]

namespace Snapshot

variable (s : Snapshot) (settings : Settings)

/-- What a tag means to the type that writes it, where `self` is that type. -/
def Means (writer : Option String) (text : String) (declared : DocType) : Prop :=
  Scope.resolve ⟨.ofSnapshot s, writer, settings.builtins⟩
    (writer.elim (.parse text) fun ns => (DocType.parse text).replaceSelf ns) = .resolved declared

/-- The tag means a type that is neither absent nor void, and what is inferred is known and contradicts it. -/
def Clash (writer : Option String) (text : String) (inferred : Inferred) : Prop :=
  ∃ declared actual, s.Means settings writer text declared ∧ declared ≠ .absent ∧ declared ≠ .void ∧
    inferred = .known actual ∧ declared.Contradicts (Program.ofSnapshot s).ancestry actual

/-- What the method of the given number returns clashes with its return tag. -/
def ReturnClash (i : Nat) : Prop :=
  ∃ m text writer, s.methods[i]? = some m ∧ s.TagInEffect .returned m text writer ∧
    s.Clash settings writer text ((Program.ofSnapshot s).ancestry.inferBody i)

/-- What the assignment of the given number assigns clashes with its tag. -/
def VariableClash (j : Nat) : Prop :=
  ∃ v, s.assignments[j]? = some v ∧
    s.Clash settings v.within v.tag ((Program.ofSnapshot s).ancestry.infer v.within v.value)

/-- Neither the method nor any type in the lineage of its owner writes a return tag for it. -/
def Untagged (m : MethodDecl) : Prop :=
  m.returnTag? = none ∧
    ∀ owner, m.owner = some owner → ∀ a ∈ s.lineage owner, s.memberTag? .returned a m.name m.scope = none

variable {s settings}

/-- A clash is what the check looks for: a tag that is read and turns down what is inferred. -/
theorem clash_iff {writer : Option String} {text : String} {inferred : Inferred} (hinferred : inferred.Comparable)
    (anchor : Anchor) :
    s.Clash settings writer text inferred ↔
      ∃ declared, Task.resolution ⟨.ofSnapshot s, settings⟩ ⟨anchor, writer, text⟩ = .resolved declared ∧
        declared.isUnchecked = false ∧ declared.accepts (Program.ofSnapshot s).ancestry inferred = false := by
  constructor
  · rintro ⟨declared, actual, hmeans, habsent, hvoid, hactual, hcontradicts⟩
    have hdeclared := DocType.isUnchecked_eq_false_iff.2 ⟨habsent, hvoid⟩
    exact ⟨declared, hmeans, hdeclared,
      (DocType.accepts_eq_false_iff hdeclared hinferred).2 ⟨actual, hactual, hcontradicts⟩⟩
  · rintro ⟨declared, hmeans, hdeclared, haccepts⟩
    obtain ⟨actual, hactual, hcontradicts⟩ := (DocType.accepts_eq_false_iff hdeclared hinferred).1 haccepts
    obtain ⟨habsent, hvoid⟩ := DocType.isUnchecked_eq_false_iff.1 hdeclared
    exact ⟨declared, actual, hmeans, habsent, hvoid, hactual, hcontradicts⟩

theorem Clash.ne_undetermined {writer : Option String} {text : String} {inferred : Inferred}
    (h : s.Clash settings writer text inferred) : inferred ≠ .undetermined := by
  obtain ⟨declared, actual, -, -, -, rfl, -⟩ := h
  exact Inferred.noConfusion

/-- A blank tag clashes with nothing. -/
theorem Clash.not_blank {writer : Option String} {text : String} {inferred : Inferred}
    (h : s.Clash settings writer text inferred) : isBlankText text = false := by
  obtain ⟨declared, actual, hmeans, habsent, -⟩ := h
  by_contra hblank
  have hparse : DocType.parse text = .absent := if_pos (Bool.not_eq_false _ ▸ hblank)
  rw [Means, hparse] at hmeans
  cases writer with
  | none => exact habsent (Resolution.resolved.inj hmeans).symm
  | some ns => exact habsent (Resolution.resolved.inj hmeans).symm

theorem Untagged.not_tagInEffect {m : MethodDecl} (h : s.Untagged m) (text : String) (writer : Option String) :
    ¬ s.TagInEffect .returned m text writer := by
  intro htag
  cases htag with
  | own htext => cases h.1.symm.trans htext
  | @inherited owner writer _ _ _ _ howner hlineage _ htext =>
    have hnone := h.2 owner howner writer (by simp [hlineage])
    cases hnone.symm.trans htext

/-- A method is found to return the wrong type exactly if it clashes with its return tag. -/
theorem returnClash_iff {i : Nat} :
    s.ReturnClash settings i ↔
      ∃ m f, s.methods[i]? = some m ∧ Task.returnFinding? ⟨.ofSnapshot s, settings⟩ m i = some f ∧
        f.code = "Y0001" := by
  have hbody := (Program.ofSnapshot s).ancestry.inferBody_comparable i
  constructor
  · rintro ⟨m, text, writer, hm, htag, hclash⟩
    obtain ⟨inheritedFrom, htag, rfl⟩ := (Task.tagInEffect?_eq_some_iff (List.mem_of_getElem? hm)).2 htag
    obtain ⟨declared, hmeans, hdeclared, haccepts⟩ := (clash_iff hbody (.method i)).1 hclash
    obtain ⟨f, hf, hcode⟩ :=
      Task.exists_returnMismatch_iff.2 ⟨text, inheritedFrom, declared, htag, hmeans, hdeclared, haccepts⟩
    exact ⟨m, f, hm, hf, hcode⟩
  · rintro ⟨m, f, hm, hf, hcode⟩
    obtain ⟨text, inheritedFrom, declared, htag, hmeans, hdeclared, haccepts⟩ :=
      Task.exists_returnMismatch_iff.1 ⟨f, hf, hcode⟩
    have htag := (Task.tagInEffect?_eq_some_iff (List.mem_of_getElem? hm)).1 ⟨inheritedFrom, htag, rfl⟩
    exact ⟨m, text, _, hm, htag, (clash_iff hbody (.method i)).2 ⟨declared, hmeans, hdeclared, haccepts⟩⟩

/-- An assignment is found to assign the wrong type exactly if it clashes with its tag. -/
theorem variableClash_iff {j : Nat} :
    s.VariableClash settings j ↔
      ∃ v f, s.assignments[j]? = some v ∧ Task.variableFinding? ⟨.ofSnapshot s, settings⟩ v j = some f ∧
        f.code = "Y0002" := by
  have hvalue := (Program.ofSnapshot s).ancestry.infer_comparable
  constructor
  · rintro ⟨v, hv, hclash⟩
    obtain ⟨declared, hmeans, hdeclared, haccepts⟩ := (clash_iff (hvalue v.within v.value) (.assignment j)).1 hclash
    have hfinding := Task.variableFinding?_eq_some_iff.2
      ⟨hclash.not_blank, Or.inr ⟨declared, hmeans, hdeclared, haccepts, rfl⟩⟩
    exact ⟨v, _, hv, hfinding, rfl⟩
  · rintro ⟨v, f, hv, hf, hcode⟩
    obtain ⟨-, hrest⟩ := Task.variableFinding?_eq_some_iff.1 hf
    rcases hrest with ⟨type, missing, -, rfl⟩ | ⟨declared, hmeans, hdeclared, haccepts, rfl⟩
    · have hcode : "Y0012" = "Y0002" := hcode
      exact absurd hcode (by decide)
    · exact ⟨v, hv, (clash_iff (hvalue v.within v.value) (.assignment j)).2 ⟨declared, hmeans, hdeclared, haccepts⟩⟩

end Snapshot

/-! ### Problems at one place -/

/-- Whether a problem has the given code and belongs to the given declaration or call. -/
def Problem.isAt (code : String) (anchor : Anchor) (p : Problem) : Bool :=
  p.code == code && p.location.anchor == anchor

/-- The problems that a check lists with a code at a place are found by the family of that code. -/
theorem Task.filter_isAt {t : Task} {ps found : List Problem} {family : RuleFamily} {code : String}
    (h : t.check.result = .ok ps) (hchecks : t.settings.checks family = true) (hcode : code ∈ family.codes)
    (hfound : t.problemsOf family = .ok found) (anchor : Anchor) :
    ps.filter (Problem.isAt code anchor) = Collector.listing (found.filter (Problem.isAt code anchor)) := by
  obtain ⟨all, hall, rfl⟩ := check_eq_ok_iff.1 h
  have hreported : ∀ other ∈ families.filter t.settings.checks, ∀ p ∈ all other, p.ReportedBy other :=
    fun other hother => reportedBy_of_mem_problemsOf (hall other hother)
  have hone : (families.filter t.settings.checks).filter [family].contains = [family] := by
    have hfamilies : families.filter [family].contains = [family] := by cases family <;> rfl
    rw [List.filter_comm, hfamilies, List.filter_cons_of_pos hchecks, List.filter_nil]
  have hfamily : all family = found := by
    have hmem : family ∈ (families.filter t.settings.checks).filter [family].contains := by simp [hone]
    exact Except.ok.inj ((hall family (List.mem_filter.1 hmem).1).symm.trans hfound)
  -- the code gives the family away, so the other families may be left out first
  have hof : Problem.isAt code anchor = fun p => Problem.isAt code anchor p && p.isOf [family] := by
    funext p
    cases hp : Problem.isAt code anchor p with
    | false => rfl
    | true =>
      have hp : p.code = code := beq_iff_eq.1 (Bool.and_eq_true_iff.1 hp).1
      simp [Problem.isOf, hp, hcode]
  have hplace : ∀ a b : Problem, a.code = b.code → a.location = b.location →
      Problem.isAt code anchor a = Problem.isAt code anchor b := by
    intro a b hcode hlocation
    rw [Problem.isAt, Problem.isAt, hcode, hlocation]
  have hpart : ((families.filter t.settings.checks).flatMap all).filter (Problem.isOf [family]) = found := by
    rw [filter_flatMap_eq fun other hother p hp => (hreported other hother p hp).isOf_eq [family], hone,
      List.flatMap_singleton, hfamily]
  rw [filter_listing_of_reportedBy hreported hplace, hof, ← List.filter_filter, hpart, ← hof]

section Items

variable {α β : Type}

/-- In a numbered list that yields something for one number only, the item of that number is all that counts. -/
private theorem flatMap_zipIdx_eq {g : α × Nat → List β} (items : List α) {k i : Nat}
    (h : ∀ x n, n ≠ k + i → g (x, n) = []) :
    (items.zipIdx k).flatMap g = (items[i]?).elim [] fun x => g (x, k + i) := by
  induction items generalizing k i with
  | nil => rfl
  | cons x items ih =>
    rw [List.zipIdx_cons, List.flatMap_cons]
    -- the number `k + i` is that of the first item or stands in the rest
    cases i with
    | zero =>
      have hrest : (items.zipIdx (k + 1)).flatMap g = [] := by
        rw [List.flatMap_eq_nil_iff]
        rintro ⟨y, n⟩ hy
        have hn := (List.mem_zipIdx hy).1
        exact h y n (by omega)
      rw [hrest, List.append_nil]
      rfl
    | succ i =>
      have hnext : ∀ y n, n ≠ k + 1 + i → g (y, n) = [] := fun y n hn => h y n (by omega)
      rw [h x k (by omega), List.nil_append, ih hnext, List.getElem?_cons_succ, Nat.add_right_comm]
      rfl

private theorem filter_isAt_map_report (fs : List Finding) (code : String) (anchor : Anchor) (span : Span) :
    (fs.map fun f => f.report ⟨anchor, span⟩).filter (Problem.isAt code anchor) =
      (fs.filter fun f => f.code == code).map fun f => f.report ⟨anchor, span⟩ := by
  rw [List.filter_map]
  congr 2
  funext f
  simp [Problem.isAt, Finding.report]

private theorem filter_isAt_map_report_of_ne {anchor other : Anchor} (h : other ≠ anchor) (fs : List Finding)
    (code : String) (span : Span) :
    (fs.map fun f => f.report ⟨other, span⟩).filter (Problem.isAt code anchor) = [] := by
  rw [List.filter_map, List.map_eq_nil_iff, List.filter_eq_nil_iff]
  intro f _
  simp [Problem.isAt, Finding.report, h]

/-- Of the findings of all items, those with one code at one place are those of the item at this place. -/
private theorem filter_isAt_items {items : List α} {find : α → Nat → Option Finding} {place : Nat → Anchor}
    {span : α → Span} (hplace : ∀ n k, place n = place k → n = k) (code : String) (i : Nat) :
    (items.zipIdx.flatMap fun (x, n) =>
        (find x n).toList.map fun f => f.report ⟨place n, span x⟩).filter (Problem.isAt code (place i)) =
      (items[i]?).elim [] fun x =>
        ((find x i).toList.filter fun f => f.code == code).map fun f => f.report ⟨place i, span x⟩ := by
  rw [List.filter_flatMap, flatMap_zipIdx_eq (k := 0) (i := i)]
  · simp only [Nat.zero_add, filter_isAt_map_report]
  · intro x n hn
    have hne : place n ≠ place i := fun h => hn (by rw [hplace n i h, Nat.zero_add])
    exact filter_isAt_map_report_of_ne hne _ code (span x)

/-- The list has a problem with the code at the place exactly if the condition holds, and then has no second one. -/
def ListedOnceIff (ps : List Problem) (code : String) (anchor : Anchor) (condition : Prop) : Prop :=
  ((∃ p ∈ ps, p.code = code ∧ p.location.anchor = anchor) ↔ condition) ∧
    (condition → ∃ p, ps.filter (Problem.isAt code anchor) = [p])

/-- A family that looks for one finding at each item lists it once. -/
theorem Task.listedOnceIff_finding {t : Task} {ps : List Problem} {family : RuleFamily} {code : String}
    {items : List α} {find : α → Nat → Option Finding} {place : Nat → Anchor} {span : α → Span}
    (h : t.check.result = .ok ps) (hchecks : t.settings.checks family = true) (hcode : code ∈ family.codes)
    (hfound : t.problemsOf family = .ok (items.zipIdx.flatMap fun (x, n) =>
      (find x n).toList.map fun f => f.report ⟨place n, span x⟩))
    (hplace : ∀ n k, place n = place k → n = k) (i : Nat) :
    ListedOnceIff ps code (place i) (∃ x f, items[i]? = some x ∧ find x i = some f ∧ f.code = code) := by
  have hlisted := t.filter_isAt h hchecks hcode hfound (place i)
  rw [filter_isAt_items hplace] at hlisted
  have hmem : (∃ p ∈ ps, p.code = code ∧ p.location.anchor = place i) ↔
      ps.filter (Problem.isAt code (place i)) ≠ [] := by
    simp [Problem.isAt, List.filter_eq_nil_iff]
  unfold ListedOnceIff
  rw [hmem, hlisted]
  cases items[i]? with
  | none => simp [Collector.listing_nil]
  | some x =>
    cases hfind : find x i with
    | none => simp [hfind, Collector.listing_nil]
    | some f =>
      by_cases hf : f.code = code
      · simp [hfind, hf, Collector.listing_singleton]
      · simp [hfind, hf, Collector.listing_nil]

end Items

/-! ### Listed mismatches -/

/-- A check that includes the returns lists one mismatch for each method that clashes with its return tag and none for
any other, in particular none for a body of unknown type or a method without a tag; likewise for assignments. -/
theorem Task.check_mismatches (s : Snapshot) (settings : Settings) {ps : List Problem}
    (h : (Task.check ⟨.ofSnapshot s, settings⟩).result = .ok ps) :
    (settings.checks .returns = true →
      (∀ i, ListedOnceIff ps "Y0001" (.method i) (s.ReturnClash settings i)) ∧
      (∀ i, (Program.ofSnapshot s).ancestry.inferBody i = .undetermined →
        ∀ p ∈ ps, p.location.anchor = .method i → p.code ≠ "Y0001") ∧
      (∀ i m, s.methods[i]? = some m → s.Untagged m →
        ∀ p ∈ ps, p.location.anchor = .method i → p.code ≠ "Y0001")) ∧
    (settings.checks .variables = true →
      (∀ j, ListedOnceIff ps "Y0002" (.assignment j) (s.VariableClash settings j)) ∧
      (∀ j v, s.assignments[j]? = some v → (Program.ofSnapshot s).ancestry.infer v.within v.value = .undetermined →
        ∀ p ∈ ps, p.location.anchor = .assignment j → p.code ≠ "Y0002")) := by
  constructor
  · intro hchecks
    have hlisted : ∀ i, ListedOnceIff ps "Y0001" (.method i) (s.ReturnClash settings i) := by
      intro i
      rw [Snapshot.returnClash_iff]
      exact Task.listedOnceIff_finding h hchecks (by decide) rfl (fun n k => Anchor.method.inj) i
    refine ⟨hlisted, ?_, ?_⟩
    · intro i hbody p hp hanchor hcode
      obtain ⟨m, text, writer, -, -, hclash⟩ := (hlisted i).1.1 ⟨p, hp, hcode, hanchor⟩
      exact hclash.ne_undetermined hbody
    · intro i m hm huntagged p hp hanchor hcode
      obtain ⟨m', text, writer, hm', htag, -⟩ := (hlisted i).1.1 ⟨p, hp, hcode, hanchor⟩
      obtain rfl : m = m' := Option.some.inj (hm.symm.trans hm')
      exact huntagged.not_tagInEffect text writer htag
  · intro hchecks
    have hlisted : ∀ j, ListedOnceIff ps "Y0002" (.assignment j) (s.VariableClash settings j) := by
      intro j
      rw [Snapshot.variableClash_iff]
      exact Task.listedOnceIff_finding h hchecks (by decide) rfl (fun n k => Anchor.assignment.inj) j
    refine ⟨hlisted, ?_⟩
    intro j v hv hvalue p hp hanchor hcode
    obtain ⟨v', hv', hclash⟩ := (hlisted j).1.1 ⟨p, hp, hcode, hanchor⟩
    obtain rfl : v = v' := Option.some.inj (hv.symm.trans hv')
    exact hclash.ne_undetermined hvalue

/-- Two namespaces with a type `Item` each: a method of the one inherits its return tag from the other and returns its
own `Item`, and an assignment takes the `Item` of the other. -/
def feud : Snapshot where
  types := [
    { name := "A::Base" },
    { name := "A::Item" },
    { name := "B::Sub", superclass := some "A::Base" },
    { name := "B::Item" }
  ]
  methods := [
    { owner := some "A::Base", name := "item", returnTag := some "Item", body := [.new "Item"] },
    { owner := some "B::Sub", name := "item", body := [.new "Item"] }
  ]
  assignments := [{ name := "x", tag := "Item", value := .new "A::Item", within := some "B::Sub" }]

/-- The same words clash in `B::Sub` and not in `A::Base`, where the tag is written. -/
theorem check_mismatches_feud :
    (Task.check ⟨.ofSnapshot feud, {}⟩).result = .ok [
        (Finding.returnMismatch "B::Sub#item" "A::Item" "B::Item" (some "A::Base")).report ⟨.method 1, {}⟩,
        (Finding.variableMismatch "x" "B::Item" "A::Item").report ⟨.assignment 0, {}⟩
      ] ∧
      ¬ feud.ReturnClash {} 0 ∧ feud.ReturnClash {} 1 ∧ feud.VariableClash {} 0 := by
  have hcheck : (Task.check ⟨.ofSnapshot feud, {}⟩).result = .ok [
      (Finding.returnMismatch "B::Sub#item" "A::Item" "B::Item" (some "A::Base")).report ⟨.method 1, {}⟩,
      (Finding.variableMismatch "x" "B::Item" "A::Item").report ⟨.assignment 0, {}⟩
    ] := by
    rw [Task.check_result_eq_inOrder]
    decide +kernel
  obtain ⟨hreturns, hvariables⟩ := Task.check_mismatches feud {} hcheck
  have hmethod := (hreturns rfl).1
  have hassignment := (hvariables rfl).1
  refine ⟨hcheck, ?_, ?_, ?_⟩
  · intro hclash
    obtain ⟨p, hp, hcode, hanchor⟩ := (hmethod 0).1.2 hclash
    rcases List.mem_pair.1 hp with rfl | rfl <;> cases hanchor
  · exact (hmethod 1).1.1 ⟨_, List.mem_cons_self, rfl, rfl⟩
  · exact (hassignment 0).1.1 ⟨_, List.mem_cons_of_mem _ List.mem_cons_self, rfl, rfl⟩

end TagCheck
