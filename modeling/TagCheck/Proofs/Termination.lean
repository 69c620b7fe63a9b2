import TagCheck.Proofs.Lineage

/-!
# The end of walks

Superclasses and includes may run in circles, each for itself and through each other.  Two things keep a walk from going
around with them.  A chain of superclasses ends at the first name that it has already (`Index.climbs_iff`).  And a walk
that goes inwards takes one more name of the index under way, so that it cannot go deeper than there are names
(`computes_walk`).

`Index.Climbs` and `Computes` give the rules alone, without a bound.  They allow one outcome each, and every bound beyond
the names that are not under way leads to it (`computes_iff`).  When a walk is over, the names under way are those from
before, and no lineage found before has changed.  From the start, with nothing under way, the walks give each name of the
index its lineage, once, and no other name (`Ancestry.ofIndex_settled`).
-/

namespace TagCheck

/-! ### Climbing -/

namespace Index

variable {ix : Index} {chain whole whole' seen : List String} {name : String}

/-- Superclasses are put to the end of a chain, from the given one on, until there is none or it is there already. -/
inductive Climbs (ix : Index) : List String → Option String → List String → Prop
  | top {chain : List String} : Climbs ix chain none chain
  | again {chain : List String} {next : String} (seen : next ∈ chain) : Climbs ix chain (some next) chain
  | up {chain whole : List String} {next : String} (fresh : next ∉ chain)
      (rest : Climbs ix (chain ++ [next]) (ix.superclass? next) whole) : Climbs ix chain (some next) whole

theorem Climbs.unique {next : Option String} (h : ix.Climbs chain next whole) (h' : ix.Climbs chain next whole') :
    whole = whole' := by
  induction h with
  | top =>
    cases h'
    rfl
  | again seen =>
    cases h' with
    | again => rfl
    | up fresh => exact absurd seen fresh
  | up fresh _ ih =>
    cases h' with
    | again seen => exact absurd seen fresh
    | up _ rest => exact ih rest

/-- A bound beyond the names that are left is not felt. -/
private theorem climbs_climb {fuel : Nat} (hseen : ∀ a, a ∈ seen ↔ a ∈ chain) (hf : ix.unseen seen + 2 ≤ fuel) :
    ix.Climbs chain (some name) (chain ++ ix.climb fuel seen name) := by
  induction fuel generalizing chain seen name with
  | zero => omega
  | succ fuel ih =>
    unfold climb
    split
    · rename_i hname
      rw [List.append_nil]
      exact .again ((hseen name).1 (by simpa using hname))
    · rename_i hname
      have hfresh : name ∉ seen := by simpa using hname
      refine .up (mt (hseen name).2 hfresh) ?_
      split
      · rename_i hnone
        rw [hnone]
        exact .top
      · rename_i superclass hsuperclass
        have hlt := unseen_cons_lt (contains_of_superclass hsuperclass) hfresh
        have hleft : ix.unseen (name :: seen) + 2 ≤ fuel := by omega
        rw [hsuperclass, List.append_cons chain name (ix.climb fuel (name :: seen) superclass)]
        refine ih ?_ hleft
        intro a
        simp [hseen, or_comm]

theorem climbs_superclassChain (ix : Index) (name : String) :
    ix.Climbs [name] (ix.superclass? name) (ix.superclassChain name) := by
  have hf : ix.unseen [] + 2 ≤ ix.types.length + 2 := Nat.add_le_add_right (ix.unseen_le []) 2
  have hclimbs : ix.Climbs [] (some name) (ix.superclassChain name) := climbs_climb (by simp) hf
  generalize ix.superclassChain name = whole at hclimbs ⊢
  cases hclimbs with
  | again seen => cases seen
  | up _ rest => exact rest

/-- The climb from a type ends, and it ends with the chain of superclasses. -/
theorem climbs_iff : ix.Climbs [name] (ix.superclass? name) chain ↔ chain = ix.superclassChain name := by
  constructor
  · exact fun h => h.unique (ix.climbs_superclassChain name)
  · rintro rfl
    exact ix.climbs_superclassChain name

end Index

/-! ### Walking -/

variable {ix : Index} {p : Progress} {w w' u u' sub : Walk} {name : String} {names : List String}

theorem Visits.unique (h : Visits ix w names u) (h' : Visits ix w names u') : u = u' := by
  induction h generalizing u' with
  | done =>
    cases h'
    rfl
  | known answer _ ih =>
    cases h' with
    | known answer' rest =>
      obtain rfl := Option.some.inj (answer.symm.trans answer')
      exact ih rest
    | fresh answer' => cases answer.symm.trans answer'
  | fresh answer _ _ ihInner ihRest =>
    cases h' with
    | known answer' => cases answer.symm.trans answer'
    | fresh _ inner rest =>
      obtain rfl := ihInner inner
      exact ihRest rest

/-- What the walk from one type comes to, with no bound on its depth. -/
inductive Computes (ix : Index) (p : Progress) (name : String) : Walk → Prop
  | known {w : Walk} (answer : p.answer? ix name = some w) : Computes ix p name w
  | fresh {u : Walk} (answer : p.answer? ix name = none)
      (inner : Visits ix (.enter ix p name) (ix.mixinsAlong name) u) : Computes ix p name (u.leave name)

theorem Computes.unique (h : Computes ix p name w) (h' : Computes ix p name w') : w = w' := by
  cases h with
  | known answer =>
    cases h' with
    | known answer' => exact Option.some.inj (answer.symm.trans answer')
    | fresh answer' => cases answer.symm.trans answer'
  | fresh answer inner =>
    cases h' with
    | known answer' => cases answer.symm.trans answer'
    | fresh _ inner' => rw [inner.unique inner']

/-- A bound beyond the names that are not under way is not felt. -/
theorem computes_walk {fuel : Nat} (hf : ix.unseen p.visiting < fuel) : Computes ix p name (walk ix fuel p name) := by
  obtain ⟨fuel, rfl⟩ : ∃ k, fuel = k + 1 := ⟨fuel - 1, by omega⟩
  unfold walk
  cases answer : p.answer? ix name with
  | some sub => exact .known answer
  | none =>
    obtain ⟨-, hc, hv⟩ := Progress.answer?_eq_none answer
    have hlt := Index.unseen_cons_lt hc hv
    refine .fresh answer (visits_foldl_walk fuel _ _ ?_)
    simp only [Walk.enter]
    omega

/-- The walk from a type ends, and it ends in the same way whatever the bound. -/
theorem computes_iff {fuel : Nat} (hf : ix.unseen p.visiting < fuel) :
    Computes ix p name w ↔ w = walk ix fuel p name := by
  constructor
  · exact fun h => h.unique (computes_walk hf)
  · rintro rfl
    exact computes_walk hf

theorem Computes.visiting_eq (h : Computes ix p name w) : w.progress.visiting = p.visiting := by
  cases h with
  | known answer => rw [Progress.answer?_progress answer]
  | fresh _ inner => exact Walk.visiting_leave inner.visiting_eq

theorem Computes.lookup_of_some (h : Computes ix p name w) {a : String} {lineage : List String}
    (ha : p.finished.lookup a = some lineage) : w.progress.finished.lookup a = some lineage := by
  cases h with
  | known answer => rwa [Progress.answer?_progress answer]
  | fresh answer inner =>
    have hne : a ≠ name := by
      rintro rfl
      cases ha.symm.trans (Progress.answer?_eq_none answer).1
    rw [Walk.lookup_leave_of_ne inner.visiting_eq hne]
    exact inner.lookup_of_some ha

/-! ### The table of lineages -/

/-- The lineage of a type under way is not in the table, and so it comes into the table once. -/
theorem Visits.nodup_finished (h : Visits ix w names w') (hw : (w.progress.finished.map Prod.fst).Nodup) :
    (w'.progress.finished.map Prod.fst).Nodup := by
  induction h with
  | done => exact hw
  | known answer _ ih =>
    refine ih ?_
    rwa [Walk.join, Progress.answer?_progress answer]
  | @fresh w u w' name names answer inner _ ihInner ihRest =>
    refine ihRest ?_
    have hu : (u.progress.finished.map Prod.fst).Nodup := ihInner hw
    have hnew : name ∉ u.progress.finished.map Prod.fst := by
      have hlookup := inner.lookup_of_visiting (a := name) List.mem_cons_self
      rw [← isSome_lookup_iff, hlookup]
      simp [Walk.enter, (Progress.answer?_eq_none answer).1]
    simp only [Walk.join, Walk.leave]
    split
    · exact List.nodup_cons.2 ⟨hnew, hu⟩
    · exact hu

namespace Ancestry

theorem knows_ofIndex (ix : Index) (name : String) : (ofIndex ix).knows name = ix.contains name := by
  rw [Bool.eq_iff_iff]
  constructor
  · intro h
    obtain ⟨lineage, hlineage⟩ := Option.isSome_iff_exists.1 h
    exact (right_walkAll ix ix.typeNames name lineage hlineage).1
  · intro hc
    rw [knows, ofIndex, exists_lineage_inOrder (Index.mem_typeNames.2 hc) hc, Option.isSome_some]

theorem nodup_typeNames_ofIndex (ix : Index) : (ofIndex ix).typeNames.Nodup := by
  obtain ⟨w, hw, hprogress⟩ := visits_walkAll ix ix.typeNames
  have hnodup := hw.nodup_finished List.nodup_nil
  rw [hprogress] at hnodup
  exact (List.mergeSort_perm _ _).nodup_iff.2 hnodup

theorem mem_typeNames_ofIndex {ix : Index} {name : String} :
    name ∈ (ofIndex ix).typeNames ↔ ix.contains name = true := by
  rw [← knows_ofIndex, typeNames, List.mem_mergeSort]
  exact isSome_lookup_iff.symm

theorem respondsTo?_eq_none_iff {a : Ancestry} {name method : String} :
    a.respondsTo? name method = none ↔ a.knows name = false := by
  unfold respondsTo?
  cases a.knows name <;> simp

/-- Whatever circles there are in an index, the climb from every type ends, and the walk from every type ends in the same
way for every sufficient bound, wherever the other walks stand.  It leaves the names under way as they were and all
lineages that it met.  In the end the types of the index have a lineage, each of them one, and only they are known and
are asked for their methods. -/
theorem ofIndex_settled (ix : Index) :
    (∀ name chain, ix.Climbs [name] (ix.superclass? name) chain ↔ chain = ix.superclassChain name) ∧
    (∀ p name, ∃! w, Computes ix p name w) ∧
    (∀ p name w, Computes ix p name w →
      (∀ fuel, ix.unseen p.visiting < fuel → walk ix fuel p name = w) ∧
      w.progress.visiting = p.visiting ∧
      ∀ a lineage, p.finished.lookup a = some lineage → w.progress.finished.lookup a = some lineage) ∧
    ((ofIndex ix).typeNames.Nodup ∧ ∀ name, name ∈ (ofIndex ix).typeNames ↔ ix.contains name = true) ∧
    (∀ name, (ofIndex ix).knows name = ix.contains name) ∧
    ∀ name method, (ofIndex ix).respondsTo? name method = none ↔ ix.contains name = false := by
  refine ⟨fun name chain => Index.climbs_iff, ?_, ?_, ⟨nodup_typeNames_ofIndex ix, fun name => mem_typeNames_ofIndex⟩,
    knows_ofIndex ix, ?_⟩
  · intro p name
    have hf : ix.unseen p.visiting < ix.types.length + 1 := Nat.lt_succ_of_le (ix.unseen_le _)
    exact ⟨_, computes_walk hf, fun w => (computes_iff hf).1⟩
  · intro p name w h
    exact ⟨fun fuel hf => ((computes_iff hf).1 h).symm, h.visiting_eq, fun a lineage => h.lookup_of_some⟩
  · intro name method
    rw [respondsTo?_eq_none_iff, knows_ofIndex]

end Ancestry

/-- Two classes that are superclasses of each other, and two modules that include each other, each class and module
leading to all the others. -/
def knot : Index :=
  .ofSnapshot {
    types := [
      { name := "A", superclass := some "B", includes := ["M"] },
      { name := "B", superclass := some "A" },
      { name := "M", kind := .moduleType, includes := ["N"] },
      { name := "N", kind := .moduleType, includes := ["M", "A"] }
    ]
  }

/-- A walk that is under way from `N` and has found a lineage. -/
def underWay : Progress where
  finished := [("Kernel", ["Kernel"])]
  visiting := ["N"]

/-- The walk from `A` is cut at `N`. -/
theorem ofIndex_settled_knot :
    knot.Climbs ["A"] (knot.superclass? "A") ["A", "B"] ∧
      (∃ w, Computes knot underWay "A" w ∧ w.lineage = ["A", "B", "M"] ∧ w.complete = false ∧
        w.progress.visiting = ["N"] ∧ w.progress.finished.lookup "Kernel" = some ["Kernel"] ∧
        w.progress.finished.lookup "A" = none) ∧
      (Ancestry.ofIndex knot).knows "A" = true ∧ (Ancestry.ofIndex knot).respondsTo? "Z" "each" = none := by
  obtain ⟨hclimbs, hcomputes, hleaves, -, hknows, hresponds⟩ := Ancestry.ofIndex_settled knot
  have hchain : knot.superclassChain "A" = ["A", "B"] := by decide +kernel
  have hA : knot.contains "A" = true := by decide +kernel
  have hZ : knot.contains "Z" = false := by decide +kernel
  obtain ⟨w, hw, -⟩ := hcomputes underWay "A"
  obtain ⟨hwalk, hvisiting, hfinished⟩ := hleaves underWay "A" w hw
  have hbound : knot.unseen underWay.visiting < 40 := by decide +kernel
  have hlineage : (walk knot 40 underWay "A").lineage = ["A", "B", "M"] := by decide +kernel
  have hcut : (walk knot 40 underWay "A").complete = false := by decide +kernel
  have hnot : (walk knot 40 underWay "A").progress.finished.lookup "A" = none := by decide +kernel
  rw [hwalk 40 hbound] at hlineage hcut hnot
  refine ⟨(hclimbs "A" _).2 hchain.symm, ⟨w, hw, hlineage, hcut, hvisiting, hfinished _ _ rfl, hnot⟩, ?_, ?_⟩
  · rw [hknows, hA]
  · exact (hresponds "Z" "each").2 hZ

end TagCheck
