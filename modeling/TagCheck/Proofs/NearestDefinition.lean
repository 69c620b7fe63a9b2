import TagCheck.Proofs.MissingSignature
import TagCheck.Proofs.Precedence

/-!
# The nearest definitions

A call looks for its method along a lineage: the first type there that defines the method counts, with its last
definition (`Snapshot.NearestDefinition`).  The search finds this one (`Snapshot.definition?_eq_some_iff`).  Where a type
has no lineage the search asks the type itself, to no avail, since whatever owns a method is in the index and has a
lineage.

Which lineage, which scope and which name a call looks for depends on what it is sent to: nothing, a constant or a
value, and then on each alternative of the type of the value.  `Snapshot.ReachesNearest` says it for all of them, and
every call of every snapshot reaches just these methods (`Snapshot.callees_reachesNearest`).
-/

namespace TagCheck

namespace Snapshot

/-! ### What a call should reach -/

/-- The number is that of the last definition of the method in the first type of a lineage that defines it. -/
def NearestDefinition (s : Snapshot) (name method : String) (scope : MethodScope) (n : Nat) : Prop :=
  ∃ nearer owner further, s.lineage name = nearer ++ owner :: further ∧
    (∀ a ∈ nearer, ∀ m ∈ s.methods, ¬ m.Defines a scope method) ∧
    IsLastWhere (fun m => m.Defines owner scope method) s.methods n

variable (s : Snapshot) (within : Option String) (method : String)

/-- The method that a call without a receiver should reach. -/
inductive ReachedOnSelf : Nat → Prop
  | inherited {name : String} {n : Nat} (hwithin : within = some name)
      (hn : s.NearestDefinition name method .onInstance n) : ReachedOnSelf n
  | topLevel {n : Nat} (hwithin : ∀ name, within = some name → ∀ k, ¬ s.NearestDefinition name method .onInstance k)
      (hn : IsLastWhere (fun m => m.owner = none ∧ m.name = method) s.methods n) : ReachedOnSelf n

/-- The method that a call on the class or module of the given full name should reach. -/
inductive ReachedOnType (full : String) : Nat → Prop
  | construction {n : Nat} (hmethod : method = "new") (hn : s.NearestDefinition full "initialize" .onInstance n) :
      ReachedOnType full n
  | classMethod {n : Nat} (hmethod : method ≠ "new") (hn : s.NearestDefinition full method .onClass n) :
      ReachedOnType full n

/-- The method that a call on a value of one alternative should reach.  Nothing is sent to nil, and a duck type does not
say whose method it is. -/
inductive ReachedOnVariant : Variant → Nat → Prop
  | instanceMethod {v : Variant} {n : Nat} (hnil : v.isNil = false) (hduck : v.isDuck = false)
      (hname : v.name = "Class" → v.params = []) (hn : s.NearestDefinition v.name method .onInstance n) :
      ReachedOnVariant v n
  | classMethod {v first : Variant} {param : DocType} {n : Nat} (hname : v.name = "Class")
      (hparam : v.params.head? = some param) (hfirst : param.variants.head? = some first)
      (hn : s.NearestDefinition first.name method .onClass n) : ReachedOnVariant v n

/-- The numbers are those of the methods that the call should reach from its namespace. -/
structure ReachesNearest (call : CallSite) (ns : List Nat) : Prop where
  nodup : ns.Nodup
  lt_length : ∀ n ∈ ns, n < s.methods.length
  onSelf : call.receiver = none → ns.length ≤ 1 ∧ ∀ n, n ∈ ns ↔ s.ReachedOnSelf within call.method n
  onConst : ∀ name full, call.receiver = some (.const name) →
    ((Program.ofSnapshot s).ancestry.scope within).qualify? name = some full →
    ns.length ≤ 1 ∧ ∀ n, n ∈ ns ↔ s.ReachedOnType call.method full n
  onUnknownConst : ∀ name, call.receiver = some (.const name) →
    ((Program.ofSnapshot s).ancestry.scope within).qualify? name = none → ns = []
  /-- One method for each alternative that has one, in their order, less repeats. -/
  onValue : ∀ e type, call.receiver = some e → (∀ name, e ≠ .const name) →
    (Program.ofSnapshot s).ancestry.infer within e = .known type →
    ∃ found : Variant → Option Nat, (∀ v ∈ type.variants, ∀ n, found v = some n ↔ s.ReachedOnVariant call.method v n) ∧
      FirstOccurrences (type.variants.filterMap found) ns
  onUndetermined : ∀ e, call.receiver = some e → (∀ name, e ≠ .const name) →
    (Program.ofSnapshot s).ancestry.infer within e = .undetermined → ns = []

/-! ### Definitions along a lineage -/

variable {s within method} {name : String} {scope : MethodScope} {n : Nat}

/-- A type without a lineage has no methods. -/
theorem member?_of_lineage_eq_nil (h : s.lineage name = []) :
    (Index.ofSnapshot s).member? name method scope = none := by
  rw [Index.member?_eq_none_iff]
  rintro m hm ⟨howner, -, -⟩
  obtain ⟨above, beyond, -, hlineage⟩ := exists_lineage_eq (Index.contains_owner hm howner)
  cases h.symm.trans hlineage

/-- The search goes through the lineage and nowhere else. -/
theorem definition?_eq_findSome? :
    (Program.ofSnapshot s).ancestry.definition? name method scope =
      (s.lineage name).findSome? fun owner => (Index.ofSnapshot s).member? owner method scope := by
  unfold Ancestry.definition?
  split
  next hnil =>
    have hlineage : s.lineage name = [] := hnil
    rw [hlineage]
    exact member?_of_lineage_eq_nil hlineage
  next => rfl

theorem definition?_eq_some_iff :
    (Program.ofSnapshot s).ancestry.definition? name method scope = some n ↔
      s.NearestDefinition name method scope n := by
  rw [definition?_eq_findSome?, List.findSome?_eq_some_iff]
  simp only [Index.member?_eq_some_iff, Index.member?_eq_none_iff]
  constructor
  · rintro ⟨nearer, owner, further, hlineage, hn, hnearer⟩
    exact ⟨nearer, owner, further, hlineage, hnearer, hn⟩
  · rintro ⟨nearer, owner, further, hlineage, hnearer, hn⟩
    exact ⟨nearer, owner, further, hlineage, hn, hnearer⟩

theorem definition?_eq_none_iff :
    (Program.ofSnapshot s).ancestry.definition? name method scope = none ↔
      ∀ n, ¬ s.NearestDefinition name method scope n := by
  simp only [← definition?_eq_some_iff, Option.eq_none_iff_forall_not_mem, Option.mem_def]

/-! ### What a call is sent to -/

theorem mem_calleesOfSelf_iff :
    n ∈ (Program.ofSnapshot s).ancestry.calleesOfSelf within method ↔ s.ReachedOnSelf within method n := by
  unfold Ancestry.calleesOfSelf
  rw [Option.mem_toList, Option.or_eq_some_iff]
  cases within with
  | none =>
    constructor
    · rintro (h | ⟨-, h⟩)
      · cases h
      · exact .topLevel (by simp) (Index.topLevel?_eq_some_iff.1 h)
    · intro h
      cases h with
      | inherited hwithin _ => cases hwithin
      | topLevel _ hn => exact Or.inr ⟨rfl, Index.topLevel?_eq_some_iff.2 hn⟩
  | some name =>
    rw [Option.bind_some]
    constructor
    · rintro (h | ⟨hnone, h⟩)
      · exact .inherited rfl (definition?_eq_some_iff.1 h)
      · refine .topLevel ?_ (Index.topLevel?_eq_some_iff.1 h)
        rintro _ ⟨⟩
        exact definition?_eq_none_iff.1 hnone
    · intro h
      cases h with
      | inherited hwithin hn =>
        obtain rfl := Option.some.inj hwithin
        exact Or.inl (definition?_eq_some_iff.2 hn)
      | topLevel hwithin hn =>
        exact Or.inr ⟨definition?_eq_none_iff.2 (hwithin name rfl), Index.topLevel?_eq_some_iff.2 hn⟩

theorem calleesOfConst_of_qualify? {full : String}
    (h : ((Program.ofSnapshot s).ancestry.scope within).qualify? name = some full) :
    (Program.ofSnapshot s).ancestry.calleesOfConst within name method =
      ((Program.ofSnapshot s).ancestry.definition? full (if method = "new" then "initialize" else method)
        (if method = "new" then .onInstance else .onClass)).toList := by
  rw [Ancestry.calleesOfConst, h]
  by_cases hmethod : method = "new"
  · simp [hmethod]
  · simp [hmethod]

theorem mem_calleesOfConst_iff {full : String}
    (h : ((Program.ofSnapshot s).ancestry.scope within).qualify? name = some full) :
    n ∈ (Program.ofSnapshot s).ancestry.calleesOfConst within name method ↔ s.ReachedOnType method full n := by
  rw [calleesOfConst_of_qualify? h, Option.mem_toList, definition?_eq_some_iff]
  by_cases hmethod : method = "new"
  · rw [if_pos hmethod, if_pos hmethod]
    constructor
    · exact .construction hmethod
    · intro hn
      cases hn with
      | construction _ hn => exact hn
      | classMethod hne _ => exact absurd hmethod hne
  · rw [if_neg hmethod, if_neg hmethod]
    constructor
    · exact .classMethod hmethod
    · intro hn
      cases hn with
      | construction hnew _ => exact absurd hnew hmethod
      | classMethod _ hn => exact hn

/-- What stands for a class is neither nil nor a duck type. -/
theorem isNil_or_isDuck_of_name_eq {v : Variant} (h : v.name = "Class") : (v.isNil || v.isDuck) = false := by
  simp [Variant.isNil, Variant.isDuck, Variant.duckMethod?, h]

theorem calleeOfVariant?_eq_some_iff {v : Variant} :
    (Program.ofSnapshot s).ancestry.calleeOfVariant? method v = some n ↔ s.ReachedOnVariant method v n := by
  by_cases hname : v.name = "Class"
  · unfold Ancestry.calleeOfVariant?
    rw [isNil_or_isDuck_of_name_eq hname]
    obtain ⟨hnil, hduck⟩ := Bool.or_eq_false_iff.1 (isNil_or_isDuck_of_name_eq hname)
    cases hparams : v.params with
    | nil =>
      simp only [hname, Bool.false_eq_true, if_false, beq_self_eq_true, definition?_eq_some_iff]
      constructor
      · intro hn
        exact .instanceMethod hnil hduck (fun _ => hparams) (hname ▸ hn)
      · intro h
        cases h with
        | instanceMethod _ _ _ hn => exact hname ▸ hn
        | classMethod _ hparam _ _ => simp [hparams] at hparam
    | cons param params =>
      simp only [hname, Bool.false_eq_true, if_false, beq_self_eq_true, Option.bind_eq_some_iff, definition?_eq_some_iff]
      constructor
      · rintro ⟨first, hfirst, hn⟩
        exact .classMethod hname (by rw [hparams, List.head?_cons]) hfirst hn
      · intro h
        cases h with
        | instanceMethod _ _ hplain _ => cases hparams.symm.trans (hplain hname)
        | classMethod _ hparam hfirst hn =>
          rw [hparams, List.head?_cons] at hparam
          obtain rfl := Option.some.inj hparam
          exact ⟨_, hfirst, hn⟩
  · have hclass : (v.name == "Class") = false := beq_false_of_ne hname
    unfold Ancestry.calleeOfVariant?
    cases hskip : v.isNil || v.isDuck with
    | true =>
      simp only [if_true]
      constructor
      · intro h
        cases h
      · intro h
        cases h with
        | instanceMethod hnil hduck _ _ => simp [hnil, hduck] at hskip
        | classMethod hname' _ _ _ => exact absurd hname' hname
    | false =>
      obtain ⟨hnil, hduck⟩ := Bool.or_eq_false_iff.1 hskip
      simp only [hclass, Bool.false_eq_true, if_false, definition?_eq_some_iff]
      constructor
      · exact .instanceMethod hnil hduck fun h => absurd h hname
      · intro h
        cases h with
        | instanceMethod _ _ _ hn => exact hn
        | classMethod hname' _ _ _ => exact absurd hname' hname

/-! ### Calls -/

private theorem length_toList_le_one {α : Type} (o : Option α) : o.toList.length ≤ 1 := by
  cases o <;> simp

theorem callees_of_value {call : CallSite} {e : Expr} (hreceiver : call.receiver = some e)
    (he : ∀ name, e ≠ .const name) :
    (Program.ofSnapshot s).ancestry.callees within call =
      (Program.ofSnapshot s).ancestry.calleesOfValue call.method
        ((Program.ofSnapshot s).ancestry.infer (call.within.or within) e) := by
  unfold Ancestry.callees
  rw [hreceiver]
  cases e with
  | const name => exact absurd rfl (he name)
  | _ => rfl

theorem nodup_callees (s : Snapshot) (within : Option String) (call : CallSite) :
    ((Program.ofSnapshot s).ancestry.callees within call).Nodup := by
  unfold Ancestry.callees
  dsimp only
  split
  · exact Option.toList_nodup _
  · unfold Ancestry.calleesOfConst
    split
    · exact List.nodup_nil
    · split
      · exact Option.toList_nodup _
      · exact Option.toList_nodup _
  · cases (Program.ofSnapshot s).ancestry.infer _ _ with
    | undetermined => exact List.nodup_nil
    | known type => exact nodup_appendNew List.nodup_nil _

/-- Every call reaches distinct methods of the snapshot.  Without a receiver this is the nearest method of the enclosing
type or else the one of that name without an owner, on a known constant the nearest class method or constructor, and on
a value of known type the nearest method for each alternative in turn.  Any other call reaches none. -/
theorem callees_reachesNearest (s : Snapshot) (within : Option String) (call : CallSite) :
    s.ReachesNearest (call.within.or within) call ((Program.ofSnapshot s).ancestry.callees within call) where
  nodup := nodup_callees s within call
  lt_length := by
    intro n hn
    obtain ⟨key, hkey⟩ := Ancestry.hasMember_of_mem_callees hn
    obtain ⟨m, hm, -⟩ := Index.exists_method_of_lookup hkey
    exact (List.getElem?_eq_some_iff.1 hm).1
  onSelf := by
    intro hreceiver
    have hcallees : (Program.ofSnapshot s).ancestry.callees within call =
        (Program.ofSnapshot s).ancestry.calleesOfSelf (call.within.or within) call.method := by
      rw [Ancestry.callees, hreceiver]
    rw [hcallees]
    exact ⟨length_toList_le_one _, fun n => mem_calleesOfSelf_iff⟩
  onConst := by
    intro name full hreceiver hfull
    have hcallees : (Program.ofSnapshot s).ancestry.callees within call =
        (Program.ofSnapshot s).ancestry.calleesOfConst (call.within.or within) name call.method := by
      rw [Ancestry.callees, hreceiver]
    rw [hcallees]
    refine ⟨?_, fun n => mem_calleesOfConst_iff hfull⟩
    rw [calleesOfConst_of_qualify? hfull]
    exact length_toList_le_one _
  onUnknownConst := by
    intro name hreceiver hnone
    rw [Ancestry.callees, hreceiver]
    simp [Ancestry.calleesOfConst, hnone]
  onValue := by
    intro e type hreceiver he htype
    refine ⟨(Program.ofSnapshot s).ancestry.calleeOfVariant? call.method,
      fun v _ n => calleeOfVariant?_eq_some_iff, ?_⟩
    rw [callees_of_value hreceiver he, htype]
    exact firstOccurrences_distinct _
  onUndetermined := by
    intro e hreceiver he hnone
    rw [callees_of_value hreceiver he, hnone]
    rfl

end Snapshot

/-- A method that is defined twice, with a class method, a constructor and a method without an owner beside it. -/
def relayed : Snapshot where
  types := [
    { name := "Base" },
    { name := "Sub", superclass := some "Base" },
    { name := "Other", superclass := some "Base" }
  ]
  methods := [
    { owner := some "Base", name := "run" },
    { name := "run" },
    { owner := some "Base", name := "run" },
    { owner := some "Base", name := "run", scope := .onClass },
    { owner := some "Base", name := "initialize" }
  ]

/-- A call to `run` on a value whose alternatives are of every sort. -/
def runAny : CallSite where
  receiver := some (.typed "Sub, nil, Other, #run, Class<Sub>")
  method := "run"

def newSub : CallSite where
  receiver := some (.const "Sub")
  method := "new"

/-- A call to `run` without a receiver. -/
def runWithin (within : Option String) : CallSite where
  method := "run"
  within := within

/-- Two alternatives share a definition, nil and the duck type have none, and a class has its own. -/
theorem callees_reachesNearest_relayed :
    relayed.ReachesNearest none runAny [2, 3] ∧ relayed.ReachesNearest none newSub [4] ∧
      relayed.ReachesNearest (some "Sub") (runWithin (some "Sub")) [2] ∧
      relayed.ReachesNearest none (runWithin none) [1] := by
  have hany : (Program.ofSnapshot relayed).ancestry.callees none runAny = [2, 3] := by
    rw [Program.ofSnapshot_eq_inOrder]
    decide +kernel
  have hnew : (Program.ofSnapshot relayed).ancestry.callees none newSub = [4] := by
    rw [Program.ofSnapshot_eq_inOrder]
    decide +kernel
  have hinner : (Program.ofSnapshot relayed).ancestry.callees none (runWithin (some "Sub")) = [2] := by
    rw [Program.ofSnapshot_eq_inOrder]
    decide +kernel
  have houter : (Program.ofSnapshot relayed).ancestry.callees none (runWithin none) = [1] := by
    rw [Program.ofSnapshot_eq_inOrder]
    decide +kernel
  refine ⟨?_, ?_, ?_, ?_⟩
  · rw [← hany]
    exact relayed.callees_reachesNearest none runAny
  · rw [← hnew]
    exact relayed.callees_reachesNearest none newSub
  · rw [← hinner]
    exact relayed.callees_reachesNearest none (runWithin (some "Sub"))
  · rw [← houter]
    exact relayed.callees_reachesNearest none (runWithin none)

end TagCheck
