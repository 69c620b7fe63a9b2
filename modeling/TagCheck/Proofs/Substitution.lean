import TagCheck.Conformance
import TagCheck.Proofs.CutLineage

/-!
# A type in place of its ancestors

An ancestor of an ancestor is an ancestor (`Index.Ancestor.trans`): what a superclass brings in, the type brings in as
well, however superclasses and includes run in circles.  So a type has the whole lineage of each type of the index that
stands in its own, and with it the methods of that type.

`Variant.MetBy` says what an alternative asks of the values of a class.  It looks at nothing but the lineage of the
class, and only the alternative `Boolean`, which asks for one of three names, does not ask for something that the
lineage holds.  Hence a value may stand wherever a value of its ancestors may stand (`Ancestry.substitutes`).
-/

namespace TagCheck

open Relation (ReflTransGen)

/-! ### Ancestors of ancestors -/

namespace Index

variable {ix : Index} {a b c : String}

theorem Brings.of_superclasses (hab : ReflTransGen ix.Superclass a b) (hbc : ix.Brings b c) : ix.Brings a c := by
  obtain ⟨owner, howner, hmixin, hc⟩ := hbc
  exact ⟨owner, hab.trans howner, hmixin, hc⟩

theorem Ancestor.refl (ix : Index) (name : String) : ix.Ancestor name name :=
  ⟨name, .refl, .refl⟩

theorem Ancestor.trans (hab : ix.Ancestor a b) (hbc : ix.Ancestor b c) : ix.Ancestor a c := by
  obtain ⟨x, hax, hxb⟩ := hab
  obtain ⟨y, hby, hyc⟩ := hbc
  rcases ReflTransGen.cases_head_iff.1 hby with rfl | ⟨mixin, hmixin, hmy⟩
  · exact ⟨x, hax, hxb.trans hyc⟩
  · -- the first module on the way from `b` is brought in by `x` too, since `b` is one of its superclasses
    have hx : ix.Brings x mixin := hmixin.of_superclasses hxb
    exact ⟨y, (hax.tail hx).trans hmy, hyc⟩

end Index

/-! ### Lineages and methods -/

namespace Ancestry

variable {ix : Index} {a : Ancestry} {name ancestor method : String}

theorem knows_of_mem_lineage (h : ancestor ∈ a.lineage name) : a.knows name = true := by
  unfold lineage at h
  unfold knows
  cases hl : a.lineages.lookup name with
  | none => simp [hl] at h
  | some lineage => rfl

/-- The lineage of a type holds its ancestors; a name that is not in the index has no lineage. -/
theorem mem_lineage_iff :
    ancestor ∈ (ofIndex ix).lineage name ↔ ix.contains name = true ∧ ix.Ancestor name ancestor := by
  cases hc : ix.contains name with
  | false =>
    have hempty : (ofIndex ix).lineage name = [] := lineage_of_not_contains hc
    simp [hempty]
  | true =>
    have hlineage : ix.IsLineage name ((ofIndex ix).lineage name) := inOrder_isLineage (Index.mem_typeNames.2 hc) hc
    simpa using hlineage.mem_iff ancestor

theorem self_mem_lineage (hc : ix.contains name = true) : name ∈ (ofIndex ix).lineage name :=
  mem_lineage_iff.2 ⟨hc, .refl ix name⟩

/-- A type has the ancestors of its ancestors. -/
theorem lineage_subset_lineage {sub sup : String} (h : sup ∈ (ofIndex ix).lineage sub) :
    (ofIndex ix).lineage sup ⊆ (ofIndex ix).lineage sub := by
  obtain ⟨hsub, hsup⟩ := mem_lineage_iff.1 h
  intro ancestor hancestor
  have hrest := (mem_lineage_iff.1 hancestor).2
  exact mem_lineage_iff.2 ⟨hsub, hsup.trans hrest⟩

/-- A type is known to have a method if some type of its lineage declares it. -/
theorem respondsTo?_eq_some_true_iff :
    a.respondsTo? name method = some true ↔
      ∃ owner ∈ a.lineage name, a.index.declares owner method .onInstance = true := by
  unfold respondsTo?
  constructor
  · intro h
    split at h
    next => simpa using h
    next => cases h
  · rintro ⟨owner, howner, hdeclares⟩
    rw [if_pos (knows_of_mem_lineage howner)]
    simpa using ⟨owner, howner, hdeclares⟩

/-- A type has the methods of its ancestors. -/
theorem respondsTo?_of_mem_lineage {sub sup : String} (h : sup ∈ (ofIndex ix).lineage sub)
    (hresponds : (ofIndex ix).respondsTo? sup method = some true) :
    (ofIndex ix).respondsTo? sub method = some true := by
  obtain ⟨owner, howner, hdeclares⟩ := respondsTo?_eq_some_true_iff.1 hresponds
  exact respondsTo?_eq_some_true_iff.2 ⟨owner, lineage_subset_lineage h howner, hdeclares⟩

end Ancestry

/-! ### What an alternative asks for -/

/-- The name stands for a class or module of that name: it is no word for nil, for a truth value or for an unknown
value, and it asks for no method. -/
def IsTypeName (name : String) : Prop :=
  name ∉ ["nil", "NilClass", "true", "false", "undefined"] ∧ (Variant.named name).isDuck = false

instance (name : String) : Decidable (IsTypeName name) :=
  inferInstanceAs (Decidable (_ ∧ _))

/-- The values of a class meet an alternative. -/
inductive Variant.MetBy (a : Ancestry) (name : String) (d : Variant) : Prop
  | anything (hname : d.name ∈ ["Object", "BasicObject", "undefined"])
  | responds {method : String} (hnil : d.isNil = false) (hduck : d.duckMethod? = some method)
      (hresponds : a.respondsTo? name method = some true)
  | boolean (hname : d.name = "Boolean") (hboolean : name ∈ ["TrueClass", "FalseClass", "Boolean"])
  | inherits (hnil : d.isNil = false) (hduck : d.duckMethod? = none) (hname : d.name ≠ "Boolean")
      (hlineage : d.name ∈ a.lineage name)

theorem className_of_ne {name : String} (htrue : name ≠ "true") (hfalse : name ≠ "false") : className name = name := by
  unfold className
  split
  next => exact absurd rfl htrue
  next => exact absurd rfl hfalse
  next => rfl

theorem className_of_isTypeName {name : String} (h : IsTypeName name) : className name = name := by
  refine className_of_ne ?_ ?_
  · rintro rfl
    exact absurd h (by decide)
  · rintro rfl
    exact absurd h (by decide)

theorem Variant.duckMethod?_of_name {d : Variant} {name : String} (h : d.name = name) :
    d.duckMethod? = (Variant.named name).duckMethod? := by
  rw [← h]
  rfl

/-- What decides whether a value of a named type satisfies an alternative, once the words for other values are out of
the way. -/
private theorem Variant.satisfies_of_isTypeName {a : Ancestry} {d v : Variant} (hv : IsTypeName v.name) :
    d.satisfies a v =
      if ["Object", "BasicObject", "undefined"].contains d.name then true
      else if d.isNil then false
      else
        match d.duckMethod? with
        | some method => (a.respondsTo? v.name method).getD true
        | none =>
          if d.name == "Boolean" then ["TrueClass", "FalseClass", "Boolean"].contains v.name
          else if d.name == v.name then true
          else if !a.knows v.name then true
          else (a.lineage v.name).contains d.name := by
  have hundefined : (v.name == "undefined" || v.isDuck) = false := by
    have hname : v.name ≠ "undefined" := fun h => hv.1 (by simp [h])
    have hduck : v.isDuck = false := hv.2
    simp [hname, hduck]
  have hnil : v.isNil = false := by
    have hname : v.name ≠ "nil" := fun h => hv.1 (by simp [h])
    have hclass : v.name ≠ "NilClass" := fun h => hv.1 (by simp [h])
    simp [Variant.isNil, hname, hclass]
  unfold Variant.satisfies
  rw [className_of_isTypeName hv, hundefined, hnil]
  rfl

/-- An alternative is satisfied by a value of a type with a lineage if it asks for something that the lineage holds. -/
theorem Variant.satisfies_iff_metBy {a : Ancestry} {d v : Variant} (hv : IsTypeName v.name)
    (hself : v.name ∈ a.lineage v.name) : d.satisfies a v = true ↔ d.MetBy a v.name := by
  have hknows : a.knows v.name = true := Ancestry.knows_of_mem_lineage hself
  rw [Variant.satisfies_of_isTypeName hv]
  constructor
  · intro h
    split at h
    next hany => exact .anything (List.contains_iff_mem.1 hany)
    next =>
      split at h
      next => cases h
      next hnil =>
        have hnil := Bool.eq_false_iff.2 hnil
        split at h
        next method hduck =>
          refine .responds hnil hduck ?_
          simpa [Ancestry.respondsTo?, hknows] using h
        next hduck =>
          split at h
          next hboolean => exact .boolean (beq_iff_eq.1 hboolean) (List.contains_iff_mem.1 h)
          next hboolean =>
            refine .inherits hnil hduck (by simpa using hboolean) ?_
            split at h
            next hname => rwa [beq_iff_eq.1 hname]
            next => simpa [hknows] using h
  · intro h
    cases h with
    | anything hname => rw [if_pos (List.contains_iff_mem.2 hname)]
    | responds hnil hduck hresponds => simp [hnil, hduck, hresponds]
    | boolean hname hboolean =>
      have hnil : d.isNil = false := by simp [Variant.isNil, hname]
      have hduck : d.duckMethod? = none := Variant.duckMethod?_of_name hname
      simpa [hnil, hduck, hname] using hboolean
    | inherits hnil hduck hname hlineage => simp [hnil, hduck, hname, hknows, hlineage]

/-- Whatever is asked of an ancestor, the type has it, unless one of three names is asked for. -/
theorem Variant.MetBy.of_mem_lineage {ix : Index} {sub sup : String} {d : Variant} (hd : d.name ≠ "Boolean")
    (h : sup ∈ (Ancestry.ofIndex ix).lineage sub) (hmet : d.MetBy (.ofIndex ix) sup) : d.MetBy (.ofIndex ix) sub := by
  cases hmet with
  | anything hname => exact .anything hname
  | responds hnil hduck hresponds => exact .responds hnil hduck (Ancestry.respondsTo?_of_mem_lineage h hresponds)
  | boolean hname _ => exact absurd hname hd
  | inherits hnil hduck hname hlineage =>
    exact .inherits hnil hduck hname (Ancestry.lineage_subset_lineage h hlineage)

/-! ### Substitution -/

/-- If a type of the index stands in the lineage of another, then the other has its whole lineage and its methods, and
a value of the other satisfies whatever alternative a value of it satisfies, `Boolean` apart. -/
theorem Ancestry.substitutes (ix : Index) {sub sup : String} (hsup : ix.contains sup = true)
    (h : sup ∈ (ofIndex ix).lineage sub) :
    (ofIndex ix).lineage sup ⊆ (ofIndex ix).lineage sub ∧
    (∀ method, (ofIndex ix).respondsTo? sup method = some true → (ofIndex ix).respondsTo? sub method = some true) ∧
    (IsTypeName sub → IsTypeName sup → ∀ d v w : Variant, d.name ≠ "Boolean" → v.name = sub → w.name = sup →
      d.satisfies (ofIndex ix) w = true → d.satisfies (ofIndex ix) v = true) := by
  refine ⟨lineage_subset_lineage h, fun _ hresponds => respondsTo?_of_mem_lineage h hresponds, ?_⟩
  rintro htypeSub htypeSup d v w hd rfl rfl hw
  have hsub : ix.contains v.name = true := (mem_lineage_iff.1 h).1
  have hmet : d.MetBy (ofIndex ix) w.name := (Variant.satisfies_iff_metBy htypeSup (self_mem_lineage hsup)).1 hw
  exact (Variant.satisfies_iff_metBy htypeSub (self_mem_lineage hsub)).2 (hmet.of_mem_lineage hd h)

/-- Two classes that are each other's superclass, two modules that include each other, and a method at the far end. -/
def whirl : Snapshot where
  types := [
    { name := "Sub", superclass := some "Sup" },
    { name := "Sup", superclass := some "Sub", includes := ["M"] },
    { name := "M", kind := .moduleType, includes := ["N"] },
    { name := "N", kind := .moduleType, includes := ["M", "P"] },
    { name := "P", kind := .moduleType }
  ]
  methods := [{ owner := some "P", name := "call" }]

/-- `Sub` has the module `N` by way of its superclass and of `M`, and with it the method `call` of `P`. -/
theorem substitutes_whirl :
    "N" ∈ (Ancestry.ofIndex (.ofSnapshot whirl)).lineage "Sub" ∧
      (Ancestry.ofIndex (.ofSnapshot whirl)).lineage "N" ⊆ (Ancestry.ofIndex (.ofSnapshot whirl)).lineage "Sub" ∧
      (Ancestry.ofIndex (.ofSnapshot whirl)).respondsTo? "Sub" "call" = some true ∧
      (Variant.named "#call").satisfies (.ofIndex (.ofSnapshot whirl)) (.named "N") = true ∧
      (Variant.named "#call").satisfies (.ofIndex (.ofSnapshot whirl)) (.named "Sub") = true := by
  have hsup : (Index.ofSnapshot whirl).contains "N" = true := by decide +kernel
  have hmem : "N" ∈ (Ancestry.ofIndex (.ofSnapshot whirl)).lineage "Sub" := by
    rw [Ancestry.ofIndex, Index.typeNames_eq_insertionSort]
    decide +kernel
  have hresponds : (Ancestry.ofIndex (.ofSnapshot whirl)).respondsTo? "N" "call" = some true := by
    rw [Ancestry.ofIndex, Index.typeNames_eq_insertionSort]
    decide +kernel
  have hmet : (Variant.named "#call").satisfies (.ofIndex (.ofSnapshot whirl)) (.named "N") = true := by
    rw [Ancestry.ofIndex, Index.typeNames_eq_insertionSort]
    decide +kernel
  obtain ⟨hsubset, hmethods, hsatisfies⟩ := Ancestry.substitutes (.ofSnapshot whirl) hsup hmem
  exact ⟨hmem, hsubset, hmethods "call" hresponds, hmet,
    hsatisfies (by decide) (by decide) _ _ _ (by decide) rfl rfl hmet⟩

end TagCheck
