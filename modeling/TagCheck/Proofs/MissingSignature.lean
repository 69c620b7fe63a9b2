import TagCheck.Proofs.Objection

/-!
# Checks that fail

The methods that a call reaches are methods of the snapshot (`Snapshot.exists_method_of_mem_callees`).  So a check can
fail only over a method whose parameters are not known, and only where the rule for calls asks for them, which is after
all nearer methods have rejected the call (`Snapshot.Breaks`).  The first call where this happens ends the check
(`Task.check_fails_iff`).
-/

namespace TagCheck

/-! ### Going through a list -/

/-- Some item of the list meets `Q`, and all items before it meet `P`. -/
def Reaches {α : Type} (P Q : α → Prop) (as : List α) : Prop :=
  ∃ before a after, as = before ++ a :: after ∧ (∀ b ∈ before, P b) ∧ Q a

section Reaches

variable {α β : Type} {P Q P' Q' : α → Prop}

theorem not_reaches_nil : ¬ Reaches P Q [] := by
  rintro ⟨before, a, after, h, -⟩
  cases before <;> cases h

theorem reaches_cons {a : α} {as : List α} : Reaches P Q (a :: as) ↔ Q a ∨ P a ∧ Reaches P Q as := by
  constructor
  · rintro ⟨before, b, after, h, hbefore, hb⟩
    cases before with
    | nil =>
      obtain ⟨rfl, rfl⟩ := List.cons.inj h
      exact Or.inl hb
    | cons c before =>
      obtain ⟨rfl, rfl⟩ := List.cons.inj h
      rw [List.forall_mem_cons] at hbefore
      exact Or.inr ⟨hbefore.1, before, b, after, rfl, hbefore.2, hb⟩
  · rintro (ha | ⟨ha, before, b, after, rfl, hbefore, hb⟩)
    · exact ⟨[], a, as, rfl, by simp, ha⟩
    · exact ⟨a :: before, b, after, rfl, List.forall_mem_cons.2 ⟨ha, hbefore⟩, hb⟩

theorem reaches_map (f : β → α) (bs : List β) :
    Reaches P Q (bs.map f) ↔ Reaches (fun b => P (f b)) (fun b => Q (f b)) bs := by
  induction bs with
  | nil => simp [not_reaches_nil]
  | cons b bs ih => rw [List.map_cons, reaches_cons, reaches_cons, ih]

theorem reaches_congr {as : List α} (hP : ∀ a ∈ as, (P a ↔ P' a)) (hQ : ∀ a ∈ as, (Q a ↔ Q' a)) :
    Reaches P Q as ↔ Reaches P' Q' as := by
  induction as with
  | nil => simp [not_reaches_nil]
  | cons a as ih =>
    rw [List.forall_mem_cons] at hP hQ
    rw [reaches_cons, reaches_cons, hP.1, hQ.1, ih hP.2 hQ.2]

end Reaches

/-! ### Errors -/

namespace Task

variable {t : Task} {call : CallSite} {e : CheckError}

theorem gather_eq_error_iff {α : Type} {f : α → Except CheckError (List Problem)} {as : List α} :
    gather f as = .error e ↔ Reaches (fun a => ∃ ps, f a = .ok ps) (fun a => f a = .error e) as := by
  induction as with
  | nil => simp [gather, not_reaches_nil]
  | cons a as ih =>
    rw [reaches_cons, ← ih, gather]
    cases hfa : f a with
    | error e' => simp
    | ok ps => cases gather f as <;> simp [Except.map]

theorem objections_eq_error_iff (call : CallSite) {n : Nat} :
    t.objections call n = .error e ↔ t.signature n = .error e := by
  unfold objections
  cases t.signature n <;> simp [Except.map]

theorem callFindings_eq_error_iff {reported : Option (List Finding)} {ns : List Nat} :
    t.callFindings call reported ns = .error e ↔
      Reaches (t.Rejects call) (fun n => t.signature n = .error e) ns := by
  induction ns generalizing reported with
  | nil => simp [callFindings, not_reaches_nil]
  | cons n ns ih =>
    rw [reaches_cons, callFindings_cons, ← objections_eq_error_iff call, Rejects]
    cases hn : t.objections call n with
    | error e' => simp
    | ok fs =>
      cases fs with
      | nil => simp
      | cons f fs => simp [ih]

theorem callProblems_eq_error_iff {n : Nat} :
    t.callProblems call n = .error e ↔ t.callFindings call none (t.program.callees call) = .error e := by
  unfold callProblems
  cases t.callFindings call none (t.program.callees call) <;> simp [Except.map]

/-- Only the rules for calls can bring a check to an end. -/
theorem check_eq_error_iff :
    t.check.result = .error e ↔ t.settings.checks .calls = true ∧ t.problemsOf .calls = .error e := by
  have hfails : ∀ e, t.check.result = .error e → t.settings.checks .calls = true ∧ t.problemsOf .calls = .error e := by
    intro e h
    rw [check_result] at h
    cases hgather : gather t.problemsOf (families.filter t.settings.checks) with
    | ok ps =>
      rw [hgather] at h
      cases h
    | error e' =>
      rw [hgather] at h
      obtain rfl : e' = e := Except.error.inj h
      obtain ⟨before, family, after, hsplit, -, herror⟩ := gather_eq_error_iff.1 hgather
      have hmem : family ∈ families.filter t.settings.checks := by simp [hsplit]
      cases family with
      | calls => exact ⟨(List.mem_filter.1 hmem).2, herror⟩
      | _ => cases herror
  constructor
  · exact hfails e
  · rintro ⟨hchecks, herror⟩
    cases hresult : t.check.result with
    | ok ps =>
      obtain ⟨found, hfound, -⟩ := check_eq_ok_iff.1 hresult
      cases herror.symm.trans (hfound .calls (List.mem_filter.2 ⟨by decide, hchecks⟩))
    | error e' =>
      obtain ⟨-, herror'⟩ := hfails e' hresult
      exact herror'.symm.trans herror

end Task

/-! ### Methods that are reached -/

namespace Ancestry

variable {a : Ancestry} {n : Nat}

/-- The method is found in the index under some key. -/
def HasMember (a : Ancestry) (n : Nat) : Prop :=
  ∃ key, a.index.members.lookup key = some n

theorem hasMember_of_definition? {name method : String} {scope : MethodScope}
    (h : a.definition? name method scope = some n) : a.HasMember n := by
  unfold definition? at h
  split at h
  next => exact ⟨_, h⟩
  next =>
    obtain ⟨owner, -, howner⟩ := List.exists_of_findSome?_eq_some h
    exact ⟨_, howner⟩

theorem hasMember_of_mem_calleesOfSelf {within : Option String} {method : String}
    (h : n ∈ a.calleesOfSelf within method) : a.HasMember n := by
  rcases Option.or_eq_some_iff.1 (Option.mem_toList.1 h) with h | ⟨-, h⟩
  · obtain ⟨name, -, h⟩ := Option.bind_eq_some_iff.1 h
    exact hasMember_of_definition? h
  · exact ⟨_, h⟩

theorem hasMember_of_mem_calleesOfConst {within : Option String} {name method : String}
    (h : n ∈ a.calleesOfConst within name method) : a.HasMember n := by
  unfold calleesOfConst at h
  split at h
  next => cases h
  next =>
    split at h
    · exact hasMember_of_definition? (Option.mem_toList.1 h)
    · exact hasMember_of_definition? (Option.mem_toList.1 h)

theorem hasMember_of_calleeOfVariant? {method : String} {v : Variant} (h : a.calleeOfVariant? method v = some n) :
    a.HasMember n := by
  unfold calleeOfVariant? at h
  split at h
  next => cases h
  next =>
    split at h
    next =>
      obtain ⟨inner, -, h⟩ := Option.bind_eq_some_iff.1 h
      exact hasMember_of_definition? h
    next => exact hasMember_of_definition? h

theorem hasMember_of_mem_calleesOfValue {method : String} {i : Inferred} (h : n ∈ a.calleesOfValue method i) :
    a.HasMember n := by
  cases i with
  | undetermined => cases h
  | known t =>
    have h : n ∈ t.variants.filterMap (a.calleeOfVariant? method) := by simpa [calleesOfValue, distinct] using h
    obtain ⟨v, -, hv⟩ := List.mem_filterMap.1 h
    exact hasMember_of_calleeOfVariant? hv

theorem hasMember_of_mem_callees {within : Option String} {call : CallSite} (h : n ∈ a.callees within call) :
    a.HasMember n := by
  unfold callees at h
  dsimp only at h
  split at h
  · exact hasMember_of_mem_calleesOfSelf h
  · exact hasMember_of_mem_calleesOfConst h
  · exact hasMember_of_mem_calleesOfValue h

end Ancestry

namespace Snapshot

/-- A call reaches methods of the snapshot only. -/
theorem exists_method_of_mem_callees {s : Snapshot} {call : CallSite} {n : Nat}
    (h : n ∈ (Program.ofSnapshot s).callees call) : ∃ m, s.methods[n]? = some m := by
  obtain ⟨key, hkey⟩ := Ancestry.hasMember_of_mem_callees h
  obtain ⟨m, hm, -⟩ := Index.exists_method_of_lookup hkey
  exact ⟨m, hm⟩

/-! ### Failing checks -/

variable (s : Snapshot) (settings : Settings)

/-- The call reaches the method, which has no parameters, past methods that all reject the call. -/
def Breaks (call : CallSite) (m : MethodDecl) : Prop :=
  Reaches (s.Rejects settings call) (fun n => s.methods[n]? = some m ∧ m.params = none)
    ((Program.ofSnapshot s).callees call)

variable {s settings}

/-- A call cannot be checked exactly if it breaks. -/
theorem callProblems_eq_error_iff_breaks {call : CallSite} {k : Nat} {e : CheckError} :
    Task.callProblems ⟨.ofSnapshot s, settings⟩ call k = .error e ↔
      ∃ m, s.Breaks settings call m ∧ e = .missingSignature m.path := by
  rw [Task.callProblems_eq_error_iff, Task.callFindings_eq_error_iff]
  constructor
  · rintro ⟨nearer, n, further, hcallees, hrejects, herror⟩
    have hn : n ∈ (Program.ofSnapshot s).callees call := by
      rw [hcallees]
      exact List.mem_append_right nearer List.mem_cons_self
    obtain ⟨m, hm⟩ := exists_method_of_mem_callees hn
    rcases Task.signature_eq_error_iff.1 herror with ⟨hnone, -⟩ | ⟨m', hm', hparams, rfl⟩
    · cases hm.symm.trans hnone
    · exact ⟨m', ⟨nearer, n, further, hcallees, fun k hk => rejects_iff.2 (hrejects k hk), hm', hparams⟩, rfl⟩
  · rintro ⟨m, ⟨nearer, n, further, hcallees, hrejects, hm, hparams⟩, rfl⟩
    exact ⟨nearer, n, further, hcallees, fun k hk => rejects_iff.1 (hrejects k hk),
      Task.signature_eq_error_iff.2 (Or.inr ⟨m, hm, hparams, rfl⟩)⟩

theorem callProblems_ok_iff_not_breaks {call : CallSite} {n : Nat} :
    (∃ ps, Task.callProblems ⟨.ofSnapshot s, settings⟩ call n = .ok ps) ↔ ∀ m, ¬ s.Breaks settings call m := by
  constructor
  · rintro ⟨ps, hps⟩ m hm
    cases hps.symm.trans (callProblems_eq_error_iff_breaks.2 ⟨m, hm, rfl⟩)
  · intro hnone
    cases hproblems : Task.callProblems ⟨.ofSnapshot s, settings⟩ call n with
    | ok ps => exact ⟨ps, rfl⟩
    | error e =>
      obtain ⟨m, hm, -⟩ := callProblems_eq_error_iff_breaks.1 hproblems
      exact absurd hm (hnone m)

/-- The calls cannot all be checked exactly if one of them breaks, and the first that does tells why. -/
theorem problemsOf_calls_eq_error_iff {e : CheckError} :
    Task.problemsOf ⟨.ofSnapshot s, settings⟩ .calls = .error e ↔
      Reaches (fun call => ∀ m, ¬ s.Breaks settings call m)
        (fun call => ∃ m, s.Breaks settings call m ∧ e = .missingSignature m.path) s.calls := by
  have hcalls : s.calls.zipIdx.map Prod.fst = s.calls := List.zipIdx_map_fst 0 s.calls
  rw [Task.problemsOf, Task.gather_eq_error_iff, ← hcalls, reaches_map]
  exact reaches_congr (fun _ _ => callProblems_ok_iff_not_breaks) fun _ _ => callProblems_eq_error_iff_breaks

end Snapshot

/-- The methods that calls reach exist, so a check never fails for want of a method.  It fails exactly if it checks the
calls and one of them breaks, and then over the method that the first such call breaks at.  In particular it succeeds if
all methods have parameters, and if it leaves the calls out. -/
theorem Task.check_fails_iff (s : Snapshot) (settings : Settings) :
    (∀ call, ∀ n ∈ (Program.ofSnapshot s).callees call, ∃ m, s.methods[n]? = some m) ∧
      (∀ n, (Task.check ⟨.ofSnapshot s, settings⟩).result ≠ .error (.unknownMethod n)) ∧
      (∀ e, (Task.check ⟨.ofSnapshot s, settings⟩).result = .error e ↔
        settings.checks .calls = true ∧
          Reaches (fun call => ∀ m, ¬ s.Breaks settings call m)
            (fun call => ∃ m, s.Breaks settings call m ∧ e = .missingSignature m.path) s.calls) ∧
      ((∀ m ∈ s.methods, m.params ≠ none) → ∃ ps, (Task.check ⟨.ofSnapshot s, settings⟩).result = .ok ps) ∧
      (settings.checks .calls = false → ∃ ps, (Task.check ⟨.ofSnapshot s, settings⟩).result = .ok ps) := by
  have herror : ∀ e, (Task.check ⟨.ofSnapshot s, settings⟩).result = .error e ↔
      settings.checks .calls = true ∧
        Reaches (fun call => ∀ m, ¬ s.Breaks settings call m)
          (fun call => ∃ m, s.Breaks settings call m ∧ e = .missingSignature m.path) s.calls := by
    intro e
    rw [Task.check_eq_error_iff, Snapshot.problemsOf_calls_eq_error_iff]
  have hok : (∀ e, (Task.check ⟨.ofSnapshot s, settings⟩).result ≠ .error e) →
      ∃ ps, (Task.check ⟨.ofSnapshot s, settings⟩).result = .ok ps := by
    intro hnone
    cases hresult : (Task.check ⟨.ofSnapshot s, settings⟩).result with
    | ok ps => exact ⟨ps, rfl⟩
    | error e => exact absurd hresult (hnone e)
  refine ⟨fun call n hn => Snapshot.exists_method_of_mem_callees hn, ?_, herror, ?_, ?_⟩
  · intro n hresult
    obtain ⟨-, before, call, after, -, -, m, -, hunknown⟩ := (herror _).1 hresult
    cases hunknown
  · intro hparams
    apply hok
    intro e hresult
    obtain ⟨-, before, call, after, -, -, m, ⟨nearer, n, further, -, -, hm, hnone⟩, -⟩ := (herror e).1 hresult
    exact hparams m (List.mem_of_getElem? hm) hnone
  · intro hskips
    apply hok
    intro e hresult
    exact absurd (hskips.symm.trans ((herror e).1 hresult).1) (by decide)

/-- A call that passes an integer to a value of one of the given types. -/
def integerCall (receiver : String) : CallSite where
  receiver := some (.typed receiver)
  method := "run"
  args := [.literal "Integer"]

/-- A method that wants a string, one whose parameters are not known, and one that takes anything. -/
def unlisted : Snapshot where
  types := [{ name := "Strict" }, { name := "Unlisted" }, { name := "Loose" }]
  methods := [
    { owner := some "Strict", name := "run", params := some [⟨"x", .required⟩], paramTags := [⟨"x", "String"⟩] },
    { owner := some "Unlisted", name := "run", params := none },
    { owner := some "Loose", name := "run", params := some [⟨"xs", .rest⟩] }
  ]
  calls := [integerCall "Loose, Unlisted", integerCall "Strict, Unlisted", integerCall "Unlisted"]

/-- The first call passes before its second method is asked, and the second call breaks at it. -/
theorem check_fails_iff_unlisted :
    (Task.check ⟨.ofSnapshot unlisted, {}⟩).result = .error (.missingSignature "Unlisted#run") ∧
      Reaches (fun call => ∀ m, ¬ unlisted.Breaks {} call m)
        (fun call => ∃ m, unlisted.Breaks {} call m ∧
          CheckError.missingSignature "Unlisted#run" = .missingSignature m.path) unlisted.calls ∧
      ∃ ps, (Task.check ⟨.ofSnapshot unlisted, { skip := [.calls] }⟩).result = .ok ps := by
  have hcheck : (Task.check ⟨.ofSnapshot unlisted, {}⟩).result = .error (.missingSignature "Unlisted#run") := by
    rw [Task.check_result_eq_inOrder]
    decide +kernel
  obtain ⟨-, -, herror, -⟩ := Task.check_fails_iff unlisted {}
  obtain ⟨-, -, -, -, hskips⟩ := Task.check_fails_iff unlisted { skip := [.calls] }
  exact ⟨hcheck, ((herror _).1 hcheck).2, hskips rfl⟩

end TagCheck
