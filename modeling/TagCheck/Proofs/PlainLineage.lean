import TagCheck.Proofs.Lineage

/-!
# Lineages by plain recursion

If inclusion has no cycle, then a lineage can be written down by a recursion that keeps nothing from one type to the
next (`Index.plainLineage`): the chain of superclasses, then the lineages of the modules included along it, without
repeats.  The walks find the same lists, element by element, whatever the order in which they start
(`inOrder_lineage_eq_plainLineage`).  Superclasses may still run in circles, and a module may be included by many types.
-/

namespace TagCheck

open Relation (ReflTransGen TransGen)

namespace Index

variable {ix : Index} {name : String}

/-! ### Inclusion without cycles -/

/-- A relation into the types of the index has no infinite path from `a`, unless a cycle can be reached from `a`. -/
theorem acc_of_no_cycle (ix : Index) {R : String → String → Prop} (hR : ∀ a b, R a b → ix.contains b = true)
    {a : String} (ha : ∀ x, ReflTransGen R a x → ¬ TransGen R x x) : Acc (fun y x => R x y) a := by
  -- `seen` holds types that lead to `a`; going on from `a` leads to a type that is none of them
  suffices H : ∀ n seen a, ix.unseen seen = n → (∀ v ∈ seen, ReflTransGen R v a) →
      (∀ x, ReflTransGen R a x → ¬ TransGen R x x) → Acc (fun y x => R x y) a from
    H _ [] a rfl (by simp) ha
  intro n
  induction n using Nat.strongRecOn with
  | _ n ih =>
    intro seen a hn hseen ha
    refine Acc.intro a ?_
    intro b hab
    have hb : b ∉ seen := fun hm => ha b (.single hab) (.tail' (hseen b hm) hab)
    have hlt := unseen_cons_lt (hR a b hab) hb
    refine ih _ (hn ▸ hlt) (b :: seen) b rfl ?_ (fun x hx => ha x (.head hab hx))
    intro v hv
    rcases List.mem_cons.1 hv with rfl | hv
    · exact .refl
    · exact .tail (hseen v hv) hab

/-- No type brings itself in, directly or through others. -/
def Acyclic (ix : Index) : Prop :=
  ∀ a, ¬ TransGen ix.Brings a a

theorem contains_of_brings {a b : String} (h : ix.Brings a b) : ix.contains b = true :=
  (brings_iff.1 h).2

theorem Acyclic.wellFounded (h : ix.Acyclic) : WellFounded fun b a => ix.Brings a b :=
  ⟨fun _ => acc_of_no_cycle ix (fun _ _ => contains_of_brings) fun x _ => h x⟩

theorem contains_left_of_brings {a b : String} (h : ix.Brings a b) : ix.contains a = true := by
  obtain ⟨owner, ho, hb, _⟩ := h
  rcases ReflTransGen.cases_head_iff.1 ho with rfl | ⟨c, hac, _⟩
  · exact contains_of_mem_mixins hb
  · exact contains_of_superclass hac

/-- Inclusion has no cycle if something decreases along it. -/
theorem acyclic_of_rank (rank : String → Nat)
    (h : ∀ a ∈ ix.types.map Prod.fst, ∀ b ∈ ix.mixinsAlong a, ix.contains b = true → rank b < rank a) :
    ix.Acyclic := by
  have hstep : ∀ a b, ix.Brings a b → rank b < rank a := by
    intro a b hab
    obtain ⟨hb, hc⟩ := brings_iff.1 hab
    exact h a (contains_iff.1 (contains_left_of_brings hab)) b hb hc
  have hlt : ∀ a b, TransGen ix.Brings a b → rank b < rank a := by
    intro a b hab
    induction hab with
    | single hab => exact hstep _ _ hab
    | tail _ hbc ih => exact Nat.lt_trans (hstep _ _ hbc) ih
  exact fun a ha => Nat.lt_irrefl _ (hlt a a ha)

/-- The lineage of a type by recursion alone. A type that is not in the index has none. -/
def plainLineage (ix : Index) (h : ix.Acyclic) (name : String) : List String :=
  if ix.contains name then
    distinct (ix.superclassChain name ++ (ix.mixinsAlong name).attach.flatMap fun mixin =>
      if _hc : ix.contains mixin.1 then plainLineage ix h mixin.1 else [])
  else []
termination_by h.wellFounded.wrap name
decreasing_by exact brings_iff.2 ⟨mixin.2, _hc⟩

theorem plainLineage_of_not_contains {h : ix.Acyclic} (hc : ix.contains name = false) :
    ix.plainLineage h name = [] := by
  rw [plainLineage]
  simp [hc]

theorem plainLineage_of_contains {h : ix.Acyclic} (hc : ix.contains name = true) :
    ix.plainLineage h name =
      distinct (ix.superclassChain name ++ (ix.mixinsAlong name).flatMap (ix.plainLineage h)) := by
  have hmixin : ∀ mixin, (if ix.contains mixin = true then ix.plainLineage h mixin else []) =
      ix.plainLineage h mixin := by
    intro mixin
    cases hm : ix.contains mixin with
    | true => simp
    | false => simp [plainLineage_of_not_contains hm]
  rw [plainLineage, if_pos hc]
  simp only [dite_eq_ite, hmixin]
  rw [List.flatMap_subtype (fun _ _ => rfl), List.unattach_attach]

end Index

/-! ### Walks without cycles -/

variable {ix : Index} {w w' : Walk} {names : List String}

/-- Without cycles no walk is cut, and every walk finds the plain lineage. -/
theorem Visits.lineage_eq_plain (hac : ix.Acyclic) (h : Visits ix w names w')
    (hfinished : ∀ a lineage, w.progress.finished.lookup a = some lineage → lineage = ix.plainLineage hac a)
    (hvisiting : ∀ v ∈ w.progress.visiting, ∀ name ∈ names, ix.contains name = true → TransGen ix.Brings v name) :
    w'.lineage = appendNew w.lineage (names.flatMap (ix.plainLineage hac)) ∧
    ∀ a lineage, w'.progress.finished.lookup a = some lineage → lineage = ix.plainLineage hac a := by
  induction h with
  | done w => exact ⟨rfl, hfinished⟩
  | @known w sub w' name names answer rest ih =>
    have hprogress := Progress.answer?_progress answer
    have hsub : sub.lineage = ix.plainLineage hac name := by
      rcases Progress.answer?_cases answer with ⟨lineage, hl, rfl⟩ | ⟨_, hc, rfl⟩ | ⟨_, hc, hm, rfl⟩
      · exact hfinished name lineage hl
      · exact (Index.plainLineage_of_not_contains hc).symm
      · exact absurd (hvisiting name hm name List.mem_cons_self hc) (hac name)
    obtain ⟨hlineage, hfinished'⟩ := ih (by rwa [Walk.join, hprogress])
      (by rw [Walk.join, hprogress]; exact fun v hv n hn => hvisiting v hv n (List.mem_cons_of_mem _ hn))
    refine ⟨?_, hfinished'⟩
    rw [hlineage, Walk.join, hsub, List.flatMap_cons, appendNew_append]
  | @fresh w u w' name names answer inner rest ihInner ihRest =>
    obtain ⟨_, hc, _⟩ := Progress.answer?_eq_none answer
    have hu := inner.visiting_eq
    -- the types under way lead to `name`, and so to its mixins
    obtain ⟨hlineage, hfinishedInner⟩ := ihInner hfinished (by
      intro v hv m hm hmc
      have hbrings : ix.Brings name m := Index.brings_iff.2 ⟨hm, hmc⟩
      rcases List.mem_cons.1 hv with rfl | hv
      · exact .single hbrings
      · exact .tail (hvisiting v hv name List.mem_cons_self hc) hbrings)
    have hplain : u.lineage = ix.plainLineage hac name := by
      rw [Index.plainLineage_of_contains hc, distinct_append (Index.superclassChain_spec ix name).nodup, hlineage]
      rfl
    obtain ⟨hrest, hfinished'⟩ := ihRest
      (by
        intro a lineage ha
        rw [Walk.join, Walk.lookup_leave hu] at ha
        split at ha
        · rename_i hkept
          rw [hkept.1, ← hplain, Option.some.inj ha]
        · exact hfinishedInner a lineage ha)
      (by
        rw [Walk.join, Walk.visiting_leave hu]
        exact fun v hv n hn => hvisiting v hv n (List.mem_cons_of_mem _ hn))
    refine ⟨?_, hfinished'⟩
    rw [hrest, Walk.join, Walk.leave, hplain, List.flatMap_cons, appendNew_append]

namespace Ancestry

/-- Without include cycles the order of the walks does not matter, and what they find is the plain lineage. -/
theorem inOrder_lineage_eq_plainLineage (ix : Index) (hac : ix.Acyclic) (names : List String)
    (hnames : names.Perm ix.typeNames) (name : String) (hc : ix.contains name = true) :
    (inOrder ix names).lineage name = ix.plainLineage hac name := by
  obtain ⟨w, hw, hprogress⟩ := visits_walkAll ix names
  have hfinished := (hw.lineage_eq_plain hac (by simp) (by simp)).2
  rw [hprogress] at hfinished
  have hn : name ∈ names := hnames.mem_iff.2 (Index.mem_typeNames.2 hc)
  exact hfinished name _ (exists_lineage_inOrder hn hc)

end Ancestry

/-- Two classes that are each other's superclass, one of which includes two modules that share a third. -/
def diamond : Snapshot where
  types := [
    { name := "Part", superclass := some "Whole", includes := ["Elsewhere"] },
    { name := "Whole", superclass := some "Part", includes := ["Left", "Right"] },
    { name := "Left", kind := .moduleType, includes := ["Common"] },
    { name := "Right", kind := .moduleType, includes := ["Common"] },
    { name := "Common", kind := .moduleType }
  ]

theorem diamond_acyclic : (Index.ofSnapshot diamond).Acyclic :=
  Index.acyclic_of_rank
    (fun name =>
      if ["Common", "Kernel", "Comparable", "Enumerable"].contains name then 0
      else if ["Left", "Right"].contains name then 1
      else 2)
    (by decide +kernel)

theorem inOrder_lineage_eq_plainLineage_diamond :
    ∃ hac : (Index.ofSnapshot diamond).Acyclic,
      (Ancestry.inOrder (Index.ofSnapshot diamond) (Index.ofSnapshot diamond).typeNames.reverse).lineage "Part" =
        (Index.ofSnapshot diamond).plainLineage hac "Part" :=
  ⟨diamond_acyclic, Ancestry.inOrder_lineage_eq_plainLineage _ diamond_acyclic _ (List.reverse_perm _) "Part"
    (by decide +kernel)⟩

end TagCheck
