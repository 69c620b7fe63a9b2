import TagCheck.Proofs.MissingSignature

/-!
# One more assignment or call

Assignments and calls tell nothing about each other or about methods: the rules look at types, methods and settings, and
at one item at a time (`Task.problemsOf_withItems_variables` and `Task.problemsOf_withItems_calls`).  So one more item
adds problems of its own only.  Every problem tells its place, and the place of the new item is new.  Hence neither the
search for repeats nor the order of the list mixes the new problems up with the old ones (`Task.check_append`).
-/

namespace TagCheck

/-! ### Other items in the same program -/

/-- The program with other assignments and calls. -/
def Program.withItems (p : Program) (assignments : List Assignment) (calls : List CallSite) : Program :=
  { p with snapshot := { p.snapshot with assignments := assignments, calls := calls } }

/-- Neither the lineages nor the methods that calls reach depend on the assignments and calls. -/
theorem Program.ofSnapshot_withItems (s : Snapshot) (assignments : List Assignment) (calls : List CallSite) :
    Program.ofSnapshot { s with assignments := assignments, calls := calls } =
      (Program.ofSnapshot s).withItems assignments calls :=
  rfl

namespace Task

variable (p : Program) (settings : Settings) (assignments : List Assignment) (calls : List CallSite)

theorem callProblems_withItems (call : CallSite) (n : Nat) :
    callProblems ⟨p.withItems assignments calls, settings⟩ call n = callProblems ⟨p, settings⟩ call n := by
  have hfindings : ∀ reported ns, callFindings ⟨p.withItems assignments calls, settings⟩ call reported ns =
      callFindings ⟨p, settings⟩ call reported ns :=
    fun reported ns => callFindings_congr (by rfl) (by rfl) call reported ns
  unfold callProblems
  rw [hfindings]
  rfl

theorem problemsOf_withItems_variables :
    problemsOf ⟨p.withItems assignments calls, settings⟩ .variables =
      .ok (assignments.zipIdx.flatMap fun (a, n) => variableProblems ⟨p, settings⟩ a n) :=
  rfl

theorem problemsOf_withItems_calls :
    problemsOf ⟨p.withItems assignments calls, settings⟩ .calls =
      gather (fun (call, n) => callProblems ⟨p, settings⟩ call n) calls.zipIdx := by
  simp only [problemsOf, callProblems_withItems]
  rfl

end Task

/-! ### Problems away from the new item -/

/-- The second list has the problems of the first in their order, and whatever else it has is at the given place. -/
structure AddsAt (anchor : Anchor) (ps qs : List Problem) : Prop where
  kept : (qs.filter fun p => p.location.anchor ≠ anchor) = ps
  added : ∀ p ∈ qs, p ∉ ps → p.location.anchor = anchor

theorem addsAt_of_filter_eq {anchor : Anchor} {ps qs : List Problem}
    (h : (qs.filter fun p => p.location.anchor ≠ anchor) = ps) : AddsAt anchor ps qs := by
  refine ⟨h, ?_⟩
  intro p hp hnew
  by_contra hne
  have hkept : p ∈ qs.filter fun p => p.location.anchor ≠ anchor := List.mem_filter.2 ⟨hp, decide_eq_true hne⟩
  exact hnew (h ▸ hkept)

/-- One more item of a numbered list adds what is found at its own number. -/
theorem addsAt_append_item {α : Type} {items : List α} {x : α} {found : α × Nat → List Problem} {place : Nat → Anchor}
    (hplace : ∀ n k, place n = place k → n = k)
    (hfound : ∀ y ∈ (items ++ [x]).zipIdx, ∀ p ∈ found y, p.location.anchor = place y.2) :
    AddsAt (place items.length) (items.zipIdx.flatMap found) ((items ++ [x]).zipIdx.flatMap found) := by
  have hsplit : (items ++ [x]).zipIdx = items.zipIdx ++ [(x, items.length)] := by simp [List.zipIdx_append]
  rw [hsplit] at hfound
  have hold : (items.zipIdx.flatMap found).filter (fun p => p.location.anchor ≠ place items.length) =
      items.zipIdx.flatMap found := by
    rw [List.filter_eq_self]
    intro p hp
    obtain ⟨⟨y, n⟩, hy, hp⟩ := List.mem_flatMap.1 hp
    have hn := List.snd_lt_of_mem_zipIdx hy
    have hanchor := hfound (y, n) (List.mem_append_left _ hy) p hp
    have hne : p.location.anchor ≠ place items.length := by
      intro h
      have := hplace n items.length (hanchor.symm.trans h)
      simp only at hn
      omega
    exact decide_eq_true hne
  have hnew : (found (x, items.length)).filter (fun p => p.location.anchor ≠ place items.length) = [] := by
    rw [List.filter_eq_nil_iff]
    intro p hp
    have hanchor := hfound (x, items.length) (List.mem_append_right _ List.mem_cons_self) p hp
    simp [hanchor]
  apply addsAt_of_filter_eq
  rw [hsplit, List.flatMap_append, List.flatMap_singleton, List.filter_append, hold, hnew, List.append_nil]

namespace Task

/-- A family that finds the same as before adds nothing anywhere, if it does not report at the place at all. -/
theorem addsAt_of_problemsOf_eq {t t' : Task} {family : RuleFamily} {found found' : List Problem}
    (h : t.problemsOf family = .ok found) (h' : t'.problemsOf family = .ok found')
    (hsame : t'.problemsOf family = t.problemsOf family) {anchor : Anchor}
    (hreports : family.reportsAt anchor = false) : AddsAt anchor found found' := by
  obtain rfl : found = found' := Except.ok.inj (h.symm.trans (hsame.symm.trans h'))
  apply addsAt_of_filter_eq
  rw [List.filter_eq_self]
  intro p hp
  obtain ⟨f, location, rfl, -, hlocation⟩ := reportedBy_of_mem_problemsOf h p hp
  have hne : location.anchor ≠ anchor := by
    rintro rfl
    exact absurd (hreports.symm.trans hlocation) (by decide)
  exact decide_eq_true hne

/-- If every family adds problems at one place only, so does the check. -/
theorem addsAt_of_families {t t' : Task} (hsettings : t'.settings = t.settings) {ps qs : List Problem}
    (h : t.check.result = .ok ps) (h' : t'.check.result = .ok qs) {anchor : Anchor}
    (hfamilies : ∀ family found found', t.problemsOf family = .ok found → t'.problemsOf family = .ok found' →
      AddsAt anchor found found') : AddsAt anchor ps qs := by
  -- problems that are taken for repeats of each other are at one place
  have hplace : ∀ a b : Problem, a.code = b.code → a.location = b.location →
      decide (a.location.anchor ≠ anchor) = decide (b.location.anchor ≠ anchor) := by
    intro a b _ hlocation
    rw [hlocation]
  apply addsAt_of_filter_eq
  exact filter_check (by rw [hsettings]) h h' hplace fun family found found' hfound hfound' =>
    (hfamilies family found found' hfound hfound').kept

variable {p : Program} {settings : Settings}

theorem addsAt_assignment (a : Assignment) (family : RuleFamily) {found found' : List Problem}
    (h : problemsOf ⟨p, settings⟩ family = .ok found)
    (h' : problemsOf ⟨p.withItems (p.snapshot.assignments ++ [a]) p.snapshot.calls, settings⟩ family = .ok found') :
    AddsAt (.assignment p.snapshot.assignments.length) found found' := by
  match family with
  | .variables =>
    obtain rfl := Except.ok.inj h
    rw [problemsOf_withItems_variables] at h'
    obtain rfl := Except.ok.inj h'
    refine addsAt_append_item (fun n k => Anchor.assignment.inj) ?_
    rintro ⟨b, n⟩ - q hq
    obtain ⟨f, -, rfl⟩ := List.mem_map.1 hq
    rfl
  | .calls => exact addsAt_of_problemsOf_eq h h' (problemsOf_withItems_calls p settings _ _) rfl
  | .returns | .params => exact addsAt_of_problemsOf_eq h h' rfl rfl

theorem addsAt_call (call : CallSite) (family : RuleFamily) {found found' : List Problem}
    (h : problemsOf ⟨p, settings⟩ family = .ok found)
    (h' : problemsOf ⟨p.withItems p.snapshot.assignments (p.snapshot.calls ++ [call]), settings⟩ family = .ok found') :
    AddsAt (.call p.snapshot.calls.length) found found' := by
  match family with
  | .calls =>
    rw [problemsOf_withItems_calls] at h'
    obtain ⟨each, heach, rfl⟩ := gather_eq_ok_iff.1 h'
    have hold : problemsOf ⟨p, settings⟩ .calls = .ok (p.snapshot.calls.zipIdx.flatMap each) := by
      refine gather_eq_ok_iff.2 ⟨each, ?_, rfl⟩
      intro item hitem
      refine heach item ?_
      rw [List.zipIdx_append]
      exact List.mem_append_left _ hitem
    obtain rfl := Except.ok.inj (h.symm.trans hold)
    refine addsAt_append_item (fun n k => Anchor.call.inj) ?_
    rintro ⟨c, n⟩ hc q hq
    obtain ⟨fs, -, hfs⟩ := callProblems_eq_ok_iff.1 (heach (c, n) hc)
    rw [← hfs] at hq
    obtain ⟨f, -, rfl⟩ := List.mem_map.1 hq
    rfl
  | .returns | .variables | .params => exact addsAt_of_problemsOf_eq h h' rfl rfl

/-- One more assignment does not make a check fail. -/
theorem exists_check_withItems (assignments : List Assignment) {ps : List Problem}
    (h : (check ⟨p, settings⟩).result = .ok ps) :
    ∃ qs, (check ⟨p.withItems assignments p.snapshot.calls, settings⟩).result = .ok qs := by
  cases hresult : (check ⟨p.withItems assignments p.snapshot.calls, settings⟩).result with
  | ok qs => exact ⟨qs, rfl⟩
  | error e =>
    obtain ⟨hchecks, herror⟩ := check_eq_error_iff.1 hresult
    rw [problemsOf_withItems_calls] at herror
    cases h.symm.trans (check_eq_error_iff.2 ⟨hchecks, herror⟩)

end Task

/-- One more assignment, or one more call with which the check does not fail, leaves all that was listed in the list and
in its order, and what the list gains is at the new assignment or call. -/
theorem Task.check_append (s : Snapshot) (settings : Settings) {ps : List Problem}
    (h : (Task.check ⟨.ofSnapshot s, settings⟩).result = .ok ps) :
    (∀ a : Assignment, ∃ qs,
      (Task.check ⟨.ofSnapshot { s with assignments := s.assignments ++ [a] }, settings⟩).result = .ok qs ∧
        AddsAt (.assignment s.assignments.length) ps qs) ∧
    ∀ (call : CallSite) (qs : List Problem),
      (Task.check ⟨.ofSnapshot { s with calls := s.calls ++ [call] }, settings⟩).result = .ok qs →
        AddsAt (.call s.calls.length) ps qs := by
  constructor
  · intro a
    obtain ⟨qs, hqs⟩ := Task.exists_check_withItems (s.assignments ++ [a]) h
    exact ⟨qs, hqs, Task.addsAt_of_families (by rfl) h hqs fun family _ _ => Task.addsAt_assignment a family⟩
  · intro call qs hqs
    rw [Program.ofSnapshot_withItems s s.assignments (s.calls ++ [call])] at hqs
    exact Task.addsAt_of_families (by rfl) h hqs fun family _ _ => Task.addsAt_call call family

/-- An assignment whose tag names an unknown type. -/
def strayAssignment : Assignment where
  name := "y"
  tag := "Gone"
  value := .unknown
  span := ⟨4, 9, 0⟩

/-- A call that passes an integer for a string. -/
def strayCall : CallSite where
  receiver := some (.new "Foo")
  method := "run"
  args := [.literal "Integer"]
  span := ⟨4, 9, 0⟩

/-- The assignment and the call at the same bytes, and a method further on that has a problem too. -/
def echoed : Snapshot where
  methods := [{
    owner := some "Foo", name := "run", params := some [⟨"x", .required⟩], paramTags := [⟨"x", "String"⟩],
    returnTag := some "Gone", span := ⟨20, 30, 0⟩
  }]
  assignments := [strayAssignment]
  calls := [strayCall]

def strayVariable (n : Nat) : Problem :=
  (Finding.unresolvedVariable "y" "Gone" ["Gone"]).report ⟨.assignment n, ⟨4, 9, 0⟩⟩

def strayArgument (n : Nat) : Problem :=
  (Finding.wrongArgument "Foo#run" "x" "String" "Integer").report ⟨.call n, ⟨4, 9, 0⟩⟩

def strayReturn : Problem :=
  (Finding.unresolvedReturn "Foo#run" "Gone" ["Gone"]).report ⟨.method 0, ⟨20, 30, 0⟩⟩

/-- The same assignment or call once more has the same words at the same bytes, and its problem goes between the old
ones. -/
theorem check_append_echoed :
    (Task.check ⟨.ofSnapshot echoed, {}⟩).result = .ok [strayVariable 0, strayArgument 0, strayReturn] ∧
      (Task.check ⟨.ofSnapshot { echoed with assignments := echoed.assignments ++ [strayAssignment] }, {}⟩).result =
        .ok [strayVariable 0, strayVariable 1, strayArgument 0, strayReturn] ∧
      AddsAt (.assignment 1) [strayVariable 0, strayArgument 0, strayReturn]
        [strayVariable 0, strayVariable 1, strayArgument 0, strayReturn] ∧
      (Task.check ⟨.ofSnapshot { echoed with calls := echoed.calls ++ [strayCall] }, {}⟩).result =
        .ok [strayVariable 0, strayArgument 0, strayArgument 1, strayReturn] ∧
      AddsAt (.call 1) [strayVariable 0, strayArgument 0, strayReturn]
        [strayVariable 0, strayArgument 0, strayArgument 1, strayReturn] := by
  have hcheck : (Task.check ⟨.ofSnapshot echoed, {}⟩).result =
      .ok [strayVariable 0, strayArgument 0, strayReturn] := by
    rw [Task.check_result_eq_inOrder]
    decide +kernel
  have hassignment :
      (Task.check ⟨.ofSnapshot { echoed with assignments := echoed.assignments ++ [strayAssignment] }, {}⟩).result =
        .ok [strayVariable 0, strayVariable 1, strayArgument 0, strayReturn] := by
    rw [Task.check_result_eq_inOrder]
    decide +kernel
  have hcall : (Task.check ⟨.ofSnapshot { echoed with calls := echoed.calls ++ [strayCall] }, {}⟩).result =
      .ok [strayVariable 0, strayArgument 0, strayArgument 1, strayReturn] := by
    rw [Task.check_result_eq_inOrder]
    decide +kernel
  obtain ⟨hassignments, hcalls⟩ := Task.check_append echoed {} hcheck
  obtain ⟨qs, hqs, hadds⟩ := hassignments strayAssignment
  obtain rfl := Except.ok.inj (hqs.symm.trans hassignment)
  exact ⟨hcheck, hassignment, hadds, hcall, hcalls strayCall _ hcall⟩

end TagCheck
