import TagCheck.Proofs.Collector

/-!
# The first of each finding

A collector answers each problem that is pushed with whether it is new.  What it answers depends on the keys of the
problems pushed before, kept or not, since the keys that it has seen are those of all of them (`mem_seen_pushAll`).  What
it keeps are the problems that it answered `true` to (`found_pushAll`), so that its size counts these answers, and what
it lists is their stable sort (`isListing_problems`).  `Collector.KeepsFirsts` puts this together for any pushes
(`Collector.pushAll_keepsFirsts`).
-/

namespace TagCheck

/-- The second list has the problems of the first by position and then by code.  Problems that agree in both stand in
the order of the first list. -/
structure IsListing (kept listed : List Problem) : Prop where
  perm : listed.Perm kept
  sorted : listed.Pairwise fun p q => p.location.span.start < q.location.span.start ∨
    p.location.span.start = q.location.span.start ∧ p.code ≤ q.code
  stable : ∀ (start : UInt32) (code : String),
    listed.filter (fun p => p.location.span.start = start ∧ p.code = code) =
      kept.filter fun p => p.location.span.start = start ∧ p.code = code

/-- The problems with the answer `true`. -/
def answeredTrue (ps : List Problem) (answers : List Bool) : List Problem :=
  ((ps.zip answers).filter Prod.snd).map Prod.fst

namespace Collector

/-- What a collector answers to problems that are pushed from left to right. -/
def answers (c : Collector) : List Problem → List Bool
  | [] => []
  | p :: ps => (c.push p).1 :: (c.push p).2.answers ps

/-- What the pushes of some problems should come to: the answers to them, and the collector in the end. -/
structure KeepsFirsts (ps : List Problem) (answers : List Bool) (c : Collector) : Prop where
  length_answers : answers.length = ps.length
  /-- A problem is new if no problem pushed before it has its kind, location and message. -/
  answer_iff : ∀ before p after, ps = before ++ p :: after →
    (answers[before.length]? = some true ↔ ∀ q ∈ before, q.key ≠ p.key)
  size_eq : c.size = answers.count true
  isListing : IsListing (answeredTrue ps answers) c.problems
  nodup_keys : (c.problems.map Problem.key).Nodup

/-! ### Answers -/

theorem length_answers (c : Collector) (ps : List Problem) : (c.answers ps).length = ps.length := by
  induction ps generalizing c with
  | nil => rfl
  | cons p ps ih => rw [answers, List.length_cons, List.length_cons, ih]

theorem answers_append (c : Collector) (ps qs : List Problem) :
    c.answers (ps ++ qs) = c.answers ps ++ (c.pushAll ps).answers qs := by
  induction ps generalizing c with
  | nil => rfl
  | cons p ps ih => rw [List.cons_append, answers, answers, ih, pushAll_cons, List.cons_append]

/-- One more problem is answered as the collector has come to be by then. -/
theorem getElem?_answers (c : Collector) (before : List Problem) (p : Problem) (after : List Problem) :
    (c.answers (before ++ p :: after))[before.length]? = some ((c.pushAll before).push p).1 := by
  have hlength : (c.answers before).length = before.length := c.length_answers before
  rw [answers_append, List.getElem?_append_right (Nat.le_of_eq hlength), hlength, Nat.sub_self, answers,
    List.getElem?_cons_zero]

/-! ### Keys that were seen -/

theorem mem_seen_push {c : Collector} {p : Problem} {key : ProblemKey} :
    key ∈ (c.push p).2.seen ↔ key ∈ c.seen ∨ p.key = key := by
  unfold push
  split
  next hseen =>
    have hmem : p.key ∈ c.seen := List.contains_iff_mem.1 hseen
    constructor
    · exact Or.inl
    · rintro (h | rfl)
      · exact h
      · exact hmem
  next =>
    rw [List.mem_cons]
    constructor
    · rintro (rfl | h)
      · exact Or.inr rfl
      · exact Or.inl h
    · rintro (h | rfl)
      · exact Or.inr h
      · exact Or.inl rfl

/-- The keys of all problems pushed are seen, also of those that were not kept. -/
theorem mem_seen_pushAll {c : Collector} {ps : List Problem} {key : ProblemKey} :
    key ∈ (c.pushAll ps).seen ↔ key ∈ c.seen ∨ ∃ p ∈ ps, p.key = key := by
  induction ps generalizing c with
  | nil => simp [pushAll]
  | cons p ps ih =>
    rw [pushAll_cons, ih, mem_seen_push, or_assoc]
    simp

theorem fst_push_iff_notMem_seen {c : Collector} {p : Problem} : (c.push p).1 = true ↔ p.key ∉ c.seen := by
  rw [fst_push, c.mem_seen_iff]
  simp

/-! ### Problems that were kept -/

/-- The collector keeps what it answered `true` to, the latest first. -/
theorem found_pushAll (c : Collector) (ps : List Problem) :
    (c.pushAll ps).found = (answeredTrue ps (c.answers ps)).reverse ++ c.found := by
  induction ps generalizing c with
  | nil => rfl
  | cons p ps ih =>
    rw [pushAll_cons, ih, found_push, answers, answeredTrue, answeredTrue, List.zip_cons_cons]
    cases (c.push p).1 with
    | true => simp
    | false => simp

theorem size_pushAll (c : Collector) (ps : List Problem) :
    (c.pushAll ps).size = c.size + (c.answers ps).count true := by
  induction ps generalizing c with
  | nil => rfl
  | cons p ps ih =>
    have hsize : (c.push p).2.size = if (c.push p).1 then c.size + 1 else c.size := by
      rw [size, found_push]
      split <;> rfl
    rw [pushAll_cons, ih, hsize, answers, List.count_cons]
    cases (c.push p).1 with
    | true => simp; omega
    | false => simp

/-! ### Problems in the order of the list -/

theorem precedes_iff {p q : Problem} :
    precedes p q = true ↔ p.location.span.start < q.location.span.start ∨
      p.location.span.start = q.location.span.start ∧ p.code ≤ q.code := by
  simp [precedes]

/-- A collector lists what it has kept, from the first on. -/
theorem isListing_problems (c : Collector) : IsListing c.found.reverse c.problems where
  perm := List.mergeSort_perm _ _
  sorted := by
    refine (List.pairwise_mergeSort precedes_trans precedes_total c.found.reverse).imp ?_
    intro p q hpq
    exact precedes_iff.1 hpq
  stable := by
    intro start code
    -- among problems of one place and code all are in order from the start
    have htied : (c.found.reverse.filter fun p => p.location.span.start = start ∧ p.code = code).Pairwise
        fun p q => precedes p q = true := by
      refine List.pairwise_of_forall_mem_list ?_
      intro p hp q hq
      obtain ⟨hstart, hcode⟩ : p.location.span.start = start ∧ p.code = code := by simpa using (List.mem_filter.1 hp).2
      obtain ⟨hstart', hcode'⟩ : q.location.span.start = start ∧ q.code = code := by
        simpa using (List.mem_filter.1 hq).2
      refine precedes_iff.2 (Or.inr ⟨hstart.trans hstart'.symm, ?_⟩)
      rw [hcode, hcode']
    rw [problems, filter_mergeSort precedes_trans precedes_total, List.mergeSort_of_pairwise htied]

theorem mem_keys_problems_iff {c : Collector} {key : ProblemKey} :
    key ∈ c.problems.map Problem.key ↔ key ∈ c.seen := by
  rw [c.mem_seen_iff, List.mem_map]
  simp only [problems, List.mem_mergeSort, List.mem_reverse]

/-- Whatever problems are pushed, a push returns `true` exactly if no problem of the same kind, location and message was
pushed before.  The size counts these pushes, and the list is the stable sort of their problems, no two of which have
the same key.  The same problems in another order lead to the same keys. -/
theorem pushAll_keepsFirsts (ps : List Problem) :
    KeepsFirsts ps (answers {} ps) (pushAll {} ps) ∧
      ∀ qs : List Problem, ps.Perm qs → ∀ key,
        key ∈ (pushAll {} ps).problems.map Problem.key ↔ key ∈ (pushAll {} qs).problems.map Problem.key := by
  constructor
  · exact {
      length_answers := length_answers {} ps
      answer_iff := by
        rintro before p after rfl
        rw [getElem?_answers, Option.some_inj, fst_push_iff_notMem_seen, mem_seen_pushAll]
        simp
      size_eq := by
        rw [size_pushAll]
        exact Nat.zero_add _
      isListing := by
        have hlisting := isListing_problems (pushAll {} ps)
        rwa [found_pushAll, List.append_nil, List.reverse_reverse] at hlisting
      nodup_keys := nodup_keys_listing ps }
  · intro qs hperm key
    rw [mem_keys_problems_iff, mem_keys_problems_iff, mem_seen_pushAll, mem_seen_pushAll]
    simp only [hperm.mem_iff]

end Collector

/-- A keyword that a call to `Foo#run` lacks. -/
def lackedKeyword (param : String) : Problem :=
  (Finding.missingKeyword "Foo#run" param).report ⟨.call 1, ⟨20, 25, 0⟩⟩

/-- The same finding as `lackedKeyword "k"`, put down as a hint. -/
def lackedHint : Problem :=
  { lackedKeyword "k" with severity := .hint, code := "Y0000", notes := ["seen before"] }

def goneReturn : Problem :=
  (Finding.unresolvedReturn "Foo#run" "Gone" ["Gone"]).report ⟨.method 0, ⟨4, 9, 0⟩⟩

/-- A finding twice, one with the same place and code, and one that stands before them. -/
def repeatedPushes : List Problem :=
  [lackedKeyword "k", lackedHint, lackedKeyword "j", goneReturn]

def shuffledPushes : List Problem :=
  [lackedKeyword "j", lackedHint, goneReturn, lackedKeyword "k"]

/-- Of the keyword and the hint the first is kept, and with the hint first its code puts it before the other keyword. -/
theorem pushAll_keepsFirsts_repeatedPushes :
    Collector.answers {} repeatedPushes = [true, false, true, true] ∧
      Collector.KeepsFirsts repeatedPushes [true, false, true, true] (Collector.pushAll {} repeatedPushes) ∧
      (Collector.pushAll {} repeatedPushes).problems = [goneReturn, lackedKeyword "k", lackedKeyword "j"] ∧
      repeatedPushes.Perm shuffledPushes ∧
      (Collector.pushAll {} shuffledPushes).problems = [goneReturn, lackedHint, lackedKeyword "j"] ∧
      ∀ key, key ∈ [goneReturn, lackedKeyword "k", lackedKeyword "j"].map Problem.key ↔
        key ∈ [goneReturn, lackedHint, lackedKeyword "j"].map Problem.key := by
  have hanswers : Collector.answers {} repeatedPushes = [true, false, true, true] := by decide +kernel
  have hlisted : (Collector.pushAll {} repeatedPushes).problems =
      [goneReturn, lackedKeyword "k", lackedKeyword "j"] :=
    (Collector.listing_eq_foldr _).trans (by decide +kernel)
  have hshuffled : (Collector.pushAll {} shuffledPushes).problems = [goneReturn, lackedHint, lackedKeyword "j"] :=
    (Collector.listing_eq_foldr _).trans (by decide +kernel)
  have hperm : repeatedPushes.Perm shuffledPushes := by decide +kernel
  obtain ⟨hkeeps, hkeys⟩ := Collector.pushAll_keepsFirsts repeatedPushes
  have hkeys := hkeys shuffledPushes hperm
  rw [hlisted, hshuffled] at hkeys
  rw [hanswers] at hkeeps
  exact ⟨hanswers, hkeeps, hlisted, hperm, hshuffled, hkeys⟩

end TagCheck
