import TagCheck.Proofs.Nilable
import TagCheck.Proofs.SameName

/-!
# Types that the index does not know

Where nothing is known of the ancestors of a value, nothing speaks against it: it may stand for every alternative that
asks for ancestors or for methods (`Variant.satisfies_of_unfamiliar`).  Two kinds of alternatives ask for neither.  One
for nil takes nil, and `Boolean` takes the truth values, whatever the index knows.  A type that has no others is decided
by names alone (`DocType.accepts_iff_of_closed`).  So if a check lists a mismatch with any other type, then it knows the
ancestors of all that was inferred (`Task.check_unfamiliar`).
-/

namespace TagCheck

/-- The values are not nil, and nothing is known of the ancestors of their class. -/
def Ancestry.Unfamiliar (a : Ancestry) (v : Variant) : Prop :=
  v.isNil = false ∧ a.knows (className v.name) = false

instance (a : Ancestry) (v : Variant) : Decidable (a.Unfamiliar v) :=
  inferInstanceAs (Decidable (_ ∧ _))

theorem Ancestry.not_unfamiliar_iff {a : Ancestry} {v : Variant} :
    ¬ a.Unfamiliar v ↔ v.isNil = true ∨ a.knows (className v.name) = true := by
  rw [Unfamiliar, Classical.not_and_iff_not_or_not, Bool.not_eq_false, Bool.not_eq_false]

namespace Variant

variable {a : Ancestry} {d v : Variant}

/-- The alternative is none of those that take a fixed set of values, nil or the truth values. -/
def IsOpen (d : Variant) : Prop :=
  d.isNil = false ∧ d.name ≠ "Boolean"

instance (d : Variant) : Decidable d.IsOpen :=
  inferInstanceAs (Decidable (_ ∧ _))

theorem not_isOpen_iff : ¬ d.IsOpen ↔ d.isNil = true ∨ d.name = "Boolean" := by
  rw [IsOpen, Classical.not_and_iff_not_or_not, Bool.not_eq_false, ne_eq, not_not]

theorem TakesAnything.isOpen (hd : d.TakesAnything) : d.IsOpen := by
  refine ⟨hd.isNil_eq_false, ?_⟩
  intro hname
  rw [TakesAnything, hname] at hd
  exact absurd hd (by decide)

/-! ### Alternatives that ask for ancestors or methods -/

/-- Nothing speaks against a value of an unknown type.  Methods are asked of the name as it is written. -/
theorem satisfies_of_unfamiliar (hd : d.IsOpen) (hv : a.Unfamiliar v)
    (hduck : d.isDuck = true → a.knows v.name = false) : d.satisfies a v = true := by
  obtain ⟨hdnil, hboolean⟩ := hd
  obtain ⟨hvnil, hknows⟩ := hv
  unfold satisfies
  cases hmethod : d.duckMethod? with
  | some method =>
    have hunknown : a.knows v.name = false := hduck (by rw [isDuck, hmethod, Option.isSome_some])
    have hsilent : a.respondsTo? v.name method = none := by simp [Ancestry.respondsTo?, hunknown]
    simp [hdnil, hvnil, hsilent]
  | none => simp [hdnil, hvnil, hboolean, hknows]

/-- `Boolean` takes the truth values, by the names of their classes. -/
theorem satisfies_iff_of_boolean (hd : d.name = "Boolean") (hv : v.isNil = false) :
    d.satisfies a v = true ↔ v.IsVague ∨ className v.name ∈ ["TrueClass", "FalseClass", "Boolean"] := by
  have hnil : d.isNil = false := by simp [isNil, hd]
  have hmethod : d.duckMethod? = none := duckMethod?_of_name hd
  by_cases hvague : v.IsVague
  · simp [satisfies_of_isVague hvague, hvague]
  · have hplain : v.name ≠ "undefined" ∧ v.isDuck = false := by simpa [IsVague] using hvague
    simp [satisfies, hd, hnil, hmethod, hv, hplain, hvague]

end Variant

/-! ### Alternatives for nil and for truth values -/

/-- A type that asks for truth values, or for these and nil, looks at the names of the inferred alternatives only. -/
theorem DocType.accepts_iff_of_closed {a : Ancestry} {ds vs : List Variant} (hboolean : ∃ d ∈ ds, d.name = "Boolean")
    (hclosed : ∀ d ∈ ds, ¬ d.IsOpen) :
    (DocType.union ds).accepts a (.known (.union vs)) = true ↔
      ∃ v ∈ vs, v.IsVague ∨ className v.name ∈ ["TrueClass", "FalseClass", "Boolean"] ∨
        v.isNil = true ∧ ∃ d ∈ ds, d.nilable = true ∨ d.isNil = true := by
  obtain ⟨b, hb, hbname⟩ := hboolean
  rw [accepts_union_iff]
  constructor
  · rintro ⟨d, hd, v, hv, hsatisfies⟩
    refine ⟨v, hv, ?_⟩
    cases hvnil : v.isNil with
    | true =>
      rcases (Variant.satisfies_iff_of_isNil_right hvnil).1 hsatisfies with hany | htakesNil
      · exact absurd hany.isOpen (hclosed d hd)
      · exact Or.inr (Or.inr ⟨rfl, d, hd, htakesNil⟩)
    | false =>
      rcases Variant.not_isOpen_iff.1 (hclosed d hd) with hdnil | hdname
      · rcases (Variant.satisfies_iff_of_isNil_left hdnil).1 hsatisfies with hvague | hnil
        · exact Or.inl hvague
        · cases hvnil.symm.trans hnil
      · rcases (Variant.satisfies_iff_of_boolean hdname hvnil).1 hsatisfies with hvague | htruth
        · exact Or.inl hvague
        · exact Or.inr (Or.inl htruth)
  · rintro ⟨v, hv, hvague | htruth | ⟨hvnil, d, hd, htakesNil⟩⟩
    · exact ⟨b, hb, v, hv, Variant.satisfies_of_isVague hvague⟩
    · have hvnil : v.isNil = false := by
        refine Variant.isNil_eq_false_of_className ?_
        simp only [List.mem_cons, List.not_mem_nil, or_false] at htruth
        rcases htruth with h | h | h <;> rw [h] <;> decide
      exact ⟨b, hb, v, hv, (Variant.satisfies_iff_of_boolean hbname hvnil).2 (Or.inr htruth)⟩
    · exact ⟨d, hd, v, hv, (Variant.satisfies_iff_of_isNil_right hvnil).2 (Or.inr htakesNil)⟩

/-! ### What a check lists -/

/-- A snapshot knows the classes of the truth values, so that an unknown type is unknown by the name it is given. -/
theorem Snapshot.satisfies_of_unfamiliar (s : Snapshot) {d v : Variant} (hd : d.IsOpen)
    (hv : (Program.ofSnapshot s).ancestry.Unfamiliar v) : d.satisfies (Program.ofSnapshot s).ancestry v = true := by
  have hword : v.name ∉ truthWords := fun hword => absurd ((s.knows_className hword).symm.trans hv.2) (by decide)
  have hknows : (Program.ofSnapshot s).ancestry.knows v.name = false := by
    rw [← className_of_notMem_truthWords hword]
    exact hv.2
  exact Variant.satisfies_of_unfamiliar hd hv fun _ => hknows

/-- A value of an unknown type may stand for every type that asks for more than nil and truth values, as long as methods
are not asked of a type that is called like a truth value; with the ancestors that a snapshot gives there are no such.
A type that asks for truth values, or for these and nil, takes what it takes by name.  Hence a mismatch that a check
lists is one with such a type, or all that was inferred is nil or of types with known ancestors. -/
theorem Task.check_unfamiliar (a : Ancestry) (s : Snapshot) :
    (∀ declared actual : DocType, ∀ d ∈ declared.variants, ∀ v ∈ actual.variants,
      d.IsOpen → a.Unfamiliar v → (d.isDuck = true → a.knows v.name = false) →
        declared.accepts a (.known actual) = true) ∧
    (∀ ds vs : List Variant, (∃ d ∈ ds, d.name = "Boolean") → (∀ d ∈ ds, ¬ d.IsOpen) →
      ((DocType.union ds).accepts a (.known (.union vs)) = true ↔
        ∃ v ∈ vs, v.IsVague ∨ className v.name ∈ ["TrueClass", "FalseClass", "Boolean"] ∨
          v.isNil = true ∧ ∃ d ∈ ds, d.nilable = true ∨ d.isNil = true)) ∧
    (∀ declared actual : DocType, ∀ d ∈ declared.variants, ∀ v ∈ actual.variants,
      d.IsOpen → (Program.ofSnapshot s).ancestry.Unfamiliar v →
        declared.accepts (Program.ofSnapshot s).ancestry (.known actual) = true) ∧
    ∀ settings ps, (Task.check ⟨.ofSnapshot s, settings⟩).result = .ok ps →
      ∀ p ∈ ps, p.kind = .mismatch ∨ p.kind = .wrongArgumentType →
        (∃ declared actual f, s.Compares settings declared actual (some f) p.location.anchor ∧
          p = f.report p.location) ∧
        ∀ declared actual f, s.Compares settings declared actual (some f) p.location.anchor →
          (∃ d ∈ declared.variants, d.IsOpen) →
            ∀ v ∈ actual.variants,
              v.isNil = true ∨ (Program.ofSnapshot s).ancestry.knows (className v.name) = true := by
  refine ⟨?_, fun ds vs => DocType.accepts_iff_of_closed, ?_, ?_⟩
  · intro declared actual d hd v hv hopen hunfamiliar hduck
    exact DocType.accepts_of_satisfies hd hv (Variant.satisfies_of_unfamiliar hopen hunfamiliar hduck)
  · intro declared actual d hd v hv hopen hunfamiliar
    exact DocType.accepts_of_satisfies hd hv (s.satisfies_of_unfamiliar hopen hunfamiliar)
  · intro settings ps h p hp hkind
    refine ⟨Task.exists_compares h hp hkind, ?_⟩
    rintro declared actual f hcompares ⟨d, hd, hopen⟩ v hv
    rw [← Ancestry.not_unfamiliar_iff]
    intro hunfamiliar
    exact hcompares.not_satisfies hd hv (s.satisfies_of_unfamiliar hopen hunfamiliar)

/-- Two variables that are assigned a value of a type from elsewhere, and one that is assigned a string. -/
def hearsay : Snapshot where
  assignments := [
    { name := "count", tag := "Integer, Boolean", value := .literal "Gem::Flag" },
    { name := "flag", tag := "Boolean", value := .literal "Gem::Flag" },
    { name := "label", tag := "Integer?", value := .literal "String" }
  ]

/-- What is listed for the second variable. -/
def flagMismatch : Problem :=
  (Finding.variableMismatch "flag" "Boolean" "Gem::Flag").report ⟨.assignment 1, {}⟩

/-- What is listed for the third variable. -/
def labelMismatch : Problem :=
  (Finding.variableMismatch "label" "Integer?" "String").report ⟨.assignment 2, {}⟩

private theorem check_hearsay : (Task.check ⟨.ofSnapshot hearsay, {}⟩).result = .ok [flagMismatch, labelMismatch] := by
  rw [Task.check_result_eq_inOrder]
  decide +kernel

private theorem unfamiliar_flag : (Program.ofSnapshot hearsay).ancestry.Unfamiliar (.named "Gem::Flag") := by
  rw [Program.ofSnapshot_eq_inOrder]
  decide +kernel

/-- The type from elsewhere may stand for an integer or a truth value, and the mismatch at the third variable is not
about such a type. -/
theorem check_unfamiliar_hearsay :
    (Program.ofSnapshot hearsay).ancestry.Unfamiliar (.named "Gem::Flag") ∧
      (DocType.parse "Integer, Boolean").accepts (Program.ofSnapshot hearsay).ancestry
        (.known (.named "Gem::Flag")) = true ∧
      (Task.check ⟨.ofSnapshot hearsay, {}⟩).result = .ok [flagMismatch, labelMismatch] ∧
      ∀ declared actual f, hearsay.Compares {} declared actual (some f) (.assignment 2) →
        (∃ d ∈ declared.variants, d.IsOpen) →
          ∀ v ∈ actual.variants,
            v.isNil = true ∨ (Program.ofSnapshot hearsay).ancestry.knows (className v.name) = true := by
  obtain ⟨-, -, haccepts, hlisted⟩ := Task.check_unfamiliar (Program.ofSnapshot hearsay).ancestry hearsay
  have hinteger : Variant.named "Integer" ∈ (DocType.parse "Integer, Boolean").variants := by decide +kernel
  exact ⟨unfamiliar_flag,
    haccepts _ _ (.named "Integer") hinteger (.named "Gem::Flag") List.mem_cons_self (by decide) unfamiliar_flag,
    check_hearsay, (hlisted {} _ check_hearsay labelMismatch (by simp) (Or.inl rfl)).2⟩

/-- `Boolean` is no alternative for nil, and yet it turns a value of an unknown type down. -/
theorem hearsay_flag_rejected :
    (Variant.named "Boolean").isNil = false ∧
      (Program.ofSnapshot hearsay).ancestry.Unfamiliar (.named "Gem::Flag") ∧
      (DocType.named "Boolean").accepts (Program.ofSnapshot hearsay).ancestry (.known (.named "Gem::Flag")) = false ∧
      (Task.check ⟨.ofSnapshot hearsay, {}⟩).result = .ok [flagMismatch, labelMismatch] := by
  refine ⟨by decide, unfamiliar_flag, ?_, check_hearsay⟩
  rw [Program.ofSnapshot_eq_inOrder]
  decide +kernel

end TagCheck
