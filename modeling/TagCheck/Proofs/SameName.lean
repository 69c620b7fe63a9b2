import TagCheck.Proofs.DirectAncestor

/-!
# Types of the same name

A value of a type may stand where a type of the same name is asked for, with one exception.  The words `true` and
`false` stand for values of the classes `TrueClass` and `FalseClass` if a value is described by them, but they are not
read as these classes where a type is asked for.  So they are turned down in their own place, unless the lineage of the
class has the word for a name (`Snapshot.satisfies_iff_of_name_eq`), and a type that has no other alternatives may turn
itself down (`Snapshot.accepts_self_iff`).  Nothing else that a check lists as a mismatch is one between types that have
an alternative of the same name (`Task.check_same_name`).
-/

namespace TagCheck

/-- The words for the two truth values. -/
def truthWords : List String :=
  ["true", "false"]

theorem className_of_notMem_truthWords {name : String} (h : name ∉ truthWords) : className name = name := by
  simp only [truthWords, List.mem_cons, List.not_mem_nil, or_false, not_or] at h
  exact className_of_ne h.1 h.2

theorem className_ne_of_mem_truthWords {name word : String} (hname : name ∈ truthWords) (hword : word ∈ truthWords) :
    word ≠ className name := by
  simp only [truthWords, List.mem_cons, List.not_mem_nil, or_false] at hname hword
  rcases hname with rfl | rfl <;> rcases hword with rfl | rfl <;> decide

namespace Variant

variable {a : Ancestry} {d v : Variant}

/-- A value of any other description may stand where its own name is asked for. -/
theorem satisfies_of_name_eq (h : d.name = v.name) (hword : d.name ∉ truthWords) : d.satisfies a v = true := by
  have hduck : d.duckMethod? = v.duckMethod? := (duckMethod?_of_name h).trans (duckMethod?_of_name rfl).symm
  have hnil : d.isNil = v.isNil := by rw [isNil, isNil, h]
  have hclass : className v.name = d.name := by rw [← h, className_of_notMem_truthWords hword]
  unfold satisfies
  rw [hclass, hduck, hnil]
  cases hvnil : v.isNil with
  | true => simp
  | false =>
    cases hvduck : v.duckMethod? with
    | some method =>
      have hisDuck : v.isDuck = true := by rw [isDuck, hvduck]; rfl
      simp [hisDuck]
    | none => by_cases hboolean : d.name = "Boolean" <;> simp [hboolean]

/-- The words for the truth values are words for nothing else. -/
theorem plain_of_mem_truthWords (h : v.name ∈ truthWords) :
    v.isNil = false ∧ v.duckMethod? = none ∧ v.name ∉ ["Object", "BasicObject", "undefined", "Boolean"] := by
  simp only [truthWords, List.mem_cons, List.not_mem_nil, or_false] at h
  rcases h with h | h
  · exact ⟨by rw [isNil, h]; decide, duckMethod?_of_name h, by rw [h]; decide⟩
  · exact ⟨by rw [isNil, h]; decide, duckMethod?_of_name h, by rw [h]; decide⟩

/-- A word for a truth value may stand where one is asked for only if the lineage of its class has the other for a
name. -/
theorem satisfies_iff_of_mem_truthWords (hd : d.name ∈ truthWords) (hv : v.name ∈ truthWords)
    (hknows : a.knows (className v.name) = true) :
    d.satisfies a v = true ↔ d.name ∈ a.lineage (className v.name) := by
  obtain ⟨hdnil, hdduck, hdname⟩ := plain_of_mem_truthWords hd
  obtain ⟨hvnil, hvduck, hvname⟩ := plain_of_mem_truthWords hv
  have hne := className_ne_of_mem_truthWords hv hd
  have hisDuck : v.isDuck = false := by rw [isDuck, hvduck]; rfl
  simp only [List.mem_cons, List.not_mem_nil, or_false, not_or] at hdname hvname
  simp [satisfies, hdnil, hdduck, hdname, hvnil, hisDuck, hvname, hne, hknows]

end Variant

/-- The classes of the truth values are core types, so that every snapshot knows them. -/
theorem Snapshot.knows_className (s : Snapshot) {name : String} (h : name ∈ truthWords) :
    (Program.ofSnapshot s).ancestry.knows (className name) = true := by
  have hcore : className name ∈ coreTypes.map Prod.fst := by
    simp only [truthWords, List.mem_cons, List.not_mem_nil, or_false] at h
    rcases h with rfl | rfl <;> decide
  have hcontains : (Index.ofSnapshot s).contains (className name) = true :=
    Index.contains_ofSnapshot_iff.2 (Or.inr (Or.inr hcore))
  exact Ancestry.knows_of_mem_lineage (Ancestry.self_mem_lineage hcontains)

namespace Snapshot

variable (s : Snapshot)

/-- A value of a type may stand where the type of the same name is asked for, unless the name is a word for a truth
value that the lineage of its class does not have. -/
theorem satisfies_iff_of_name_eq {d v : Variant} (h : d.name = v.name) :
    d.satisfies (Program.ofSnapshot s).ancestry v = true ↔
      (d.name ∈ truthWords → d.name ∈ s.lineage (className d.name)) := by
  by_cases hword : d.name ∈ truthWords
  · have hv : v.name ∈ truthWords := h ▸ hword
    rw [Variant.satisfies_iff_of_mem_truthWords hword hv (s.knows_className hv), ← h]
    exact ⟨fun hmem _ => hmem, fun hmem => hmem hword⟩
  · simp [Variant.satisfies_of_name_eq h hword, hword]

/-- A type goes with itself if it is not compared at all, if it has an alternative other than the words for the truth
values, or if the lineage of the class of one of these words has one of them for a name. -/
theorem accepts_self_iff (t : DocType) :
    t.accepts (Program.ofSnapshot s).ancestry (.known t) = true ↔
      t.isUnchecked = true ∨ (∃ d ∈ t.variants, d.name ∉ truthWords) ∨
        ∃ d ∈ t.variants, ∃ v ∈ t.variants, d.name ∈ s.lineage (className v.name) := by
  have haccepts : t.accepts (Program.ofSnapshot s).ancestry (.known t) = true ↔
      t.isUnchecked = true ∨
        ∃ d ∈ t.variants, ∃ v ∈ t.variants, d.satisfies (Program.ofSnapshot s).ancestry v = true := by
    simp [DocType.accepts]
  have hself : ∀ d ∈ t.variants, d.name ∉ truthWords →
      ∃ d ∈ t.variants, ∃ v ∈ t.variants, d.satisfies (Program.ofSnapshot s).ancestry v = true :=
    fun d hd hword => ⟨d, hd, d, hd, Variant.satisfies_of_name_eq rfl hword⟩
  rw [haccepts]
  refine or_congr_right ⟨?_, ?_⟩
  · rintro ⟨d, hd, v, hv, hsatisfies⟩
    by_cases hdword : d.name ∈ truthWords
    · by_cases hvword : v.name ∈ truthWords
      · have hmem := (Variant.satisfies_iff_of_mem_truthWords hdword hvword (s.knows_className hvword)).1 hsatisfies
        exact Or.inr ⟨d, hd, v, hv, hmem⟩
      · exact Or.inl ⟨v, hv, hvword⟩
    · exact Or.inl ⟨d, hd, hdword⟩
  · rintro (⟨d, hd, hdword⟩ | ⟨d, hd, v, hv, hmem⟩)
    · exact hself d hd hdword
    · by_cases hdword : d.name ∈ truthWords
      · by_cases hvword : v.name ∈ truthWords
        · have hsatisfies := (Variant.satisfies_iff_of_mem_truthWords hdword hvword (s.knows_className hvword)).2 hmem
          exact ⟨d, hd, v, hv, hsatisfies⟩
        · exact hself v hv hvword
      · exact hself d hd hdword

end Snapshot

/-- A value of a type may stand where the type of the same name is asked for, and a type goes with itself, except where
nothing but words for truth values is compared that the lineages of their classes do not have.  No other mismatch that a
check lists is one between two types that have an alternative of the same name. -/
theorem Task.check_same_name (s : Snapshot) :
    (∀ d v : Variant, d.name = v.name →
      (d.satisfies (Program.ofSnapshot s).ancestry v = true ↔
        (d.name ∈ truthWords → d.name ∈ s.lineage (className d.name)))) ∧
    (∀ t : DocType, t.accepts (Program.ofSnapshot s).ancestry (.known t) = true ↔
      t.isUnchecked = true ∨ (∃ d ∈ t.variants, d.name ∉ truthWords) ∨
        ∃ d ∈ t.variants, ∃ v ∈ t.variants, d.name ∈ s.lineage (className v.name)) ∧
    ∀ settings ps, (Task.check ⟨.ofSnapshot s, settings⟩).result = .ok ps →
      ∀ p ∈ ps, p.kind = .mismatch ∨ p.kind = .wrongArgumentType →
        (∃ declared actual f, s.Compares settings declared actual (some f) p.location.anchor ∧
          p = f.report p.location) ∧
        ∀ declared actual f, s.Compares settings declared actual (some f) p.location.anchor →
          ∀ d ∈ declared.variants, ∀ v ∈ actual.variants, d.name = v.name →
            d.name ∈ truthWords ∧ d.name ∉ s.lineage (className d.name) := by
  refine ⟨fun d v => s.satisfies_iff_of_name_eq, s.accepts_self_iff, ?_⟩
  intro settings ps h p hp hkind
  refine ⟨Task.exists_compares h hp hkind, ?_⟩
  intro declared actual f hcompares d hd v hv hname
  have hrejected := hcompares.not_satisfies hd hv
  rw [s.satisfies_iff_of_name_eq hname] at hrejected
  exact Classical.not_imp.1 hrejected

/-- A variable for the value `true` and one for either truth value, each with a value of just this description. -/
def candid : Snapshot where
  assignments := [
    { name := "certain", tag := "true", value := .literal "true" },
    { name := "either", tag := "Boolean, true", value := .typed "Boolean, true" }
  ]

/-- What is listed for the two variables. -/
def certainMismatch : Problem :=
  (Finding.variableMismatch "certain" "true" "true").report ⟨.assignment 0, {}⟩

private theorem check_candid : (Task.check ⟨.ofSnapshot candid, {}⟩).result = .ok [certainMismatch] := by
  rw [Task.check_result_eq_inOrder]
  decide +kernel

/-- The type with a further alternative goes with itself, and the one mismatch is about the word alone. -/
theorem check_same_name_candid :
    (DocType.parse "Boolean, true").accepts (Program.ofSnapshot candid).ancestry
        (.known (DocType.parse "Boolean, true")) = true ∧
      (Variant.named "Boolean").satisfies (Program.ofSnapshot candid).ancestry (.named "Boolean") = true ∧
      (Task.check ⟨.ofSnapshot candid, {}⟩).result = .ok [certainMismatch] ∧
      ∀ declared actual f, candid.Compares {} declared actual (some f) (.assignment 0) →
        ∀ d ∈ declared.variants, ∀ v ∈ actual.variants, d.name = v.name →
          d.name ∈ truthWords ∧ d.name ∉ candid.lineage (className d.name) := by
  obtain ⟨hsatisfies, haccepts, hlisted⟩ := Task.check_same_name candid
  have hother : ∃ d ∈ (DocType.parse "Boolean, true").variants, d.name ∉ truthWords := by decide +kernel
  have hboolean : (Variant.named "Boolean").name ∉ truthWords := by decide
  exact ⟨(haccepts _).2 (Or.inr (Or.inl hother)), (hsatisfies _ _ rfl).2 fun h => absurd h hboolean, check_candid,
    (hlisted {} _ check_candid certainMismatch List.mem_cons_self (Or.inl rfl)).2⟩

/-- The text `true` names a type of every snapshot, and this type is turned down where it is asked for itself. -/
theorem candid_true_rejects_itself :
    Scope.resolve ⟨.ofSnapshot candid, none, []⟩ (DocType.parse "true") = .resolved (.named "true") ∧
      (DocType.named "true").accepts (Program.ofSnapshot candid).ancestry (.known (.named "true")) = false ∧
      (Variant.named "true").satisfies (Program.ofSnapshot candid).ancestry (.named "true") = false ∧
      (Task.check ⟨.ofSnapshot candid, {}⟩).result = .ok [certainMismatch] := by
  refine ⟨by decide +kernel, ?_, ?_, check_candid⟩
  · rw [Program.ofSnapshot_eq_inOrder]
    decide +kernel
  · rw [Program.ofSnapshot_eq_inOrder]
    decide +kernel

end TagCheck
