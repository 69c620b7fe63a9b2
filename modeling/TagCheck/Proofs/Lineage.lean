import TagCheck.Check.Program
import TagCheck.Proofs.Walk

/-!
# What a lineage holds

The ancestors of a type are the superclasses of all types that inclusion leads to, where a type brings in the modules
of the index that it or one of its superclasses includes.  A lineage holds each of them once, with the chain of
superclasses in front, and holds nothing else (`ofIndex_isLineage`).

A walk that meets a type under way is cut there.  It still finds what can be reached around the types under way
(`Explored.around`), because a path that returns to a type may start from its last visit to that type
(`Index.around_cases`).  So the outermost walk, around nothing, finds everything, and a walk that was never cut finds
everything as well (`Explored.full`); these are the two kinds of walk whose lineage is kept.
-/

namespace TagCheck

open Relation (ReflTransGen TransGen)

namespace Index

variable {ix : Index} {visiting : List String} {name a b : String}

/-! ### Ancestors -/

/-- `b` is in the index, and `a` or a superclass of `a` includes it. -/
def Brings (ix : Index) (a b : String) : Prop :=
  ∃ owner, ReflTransGen ix.Superclass a owner ∧ b ∈ ix.mixins owner ∧ ix.contains b = true

/-- `a` is a superclass of a type that inclusion leads to from `name`, or that type itself. -/
def Ancestor (ix : Index) (name a : String) : Prop :=
  ∃ x, ReflTransGen ix.Brings name x ∧ ReflTransGen ix.Superclass x a

/-- The lineage that a type should have. -/
structure IsLineage (ix : Index) (name : String) (lineage : List String) : Prop where
  nodup : lineage.Nodup
  front : ∃ chain, ix.IsSuperclassChain name chain ∧ chain <+: lineage
  mem_iff : ∀ a, a ∈ lineage ↔ ix.Ancestor name a

theorem brings_iff : ix.Brings a b ↔ b ∈ ix.mixinsAlong a ∧ ix.contains b = true := by
  rw [mixinsAlong, List.mem_flatMap]
  constructor
  · rintro ⟨owner, ho, hb, hc⟩
    exact ⟨⟨owner, mem_superclassChain.2 ho, hb⟩, hc⟩
  · rintro ⟨⟨owner, ho, hb⟩, hc⟩
    exact ⟨owner, mem_superclassChain.1 ho, hb, hc⟩

theorem Ancestor.of_chain (h : a ∈ ix.superclassChain name) : ix.Ancestor name a :=
  ⟨name, .refl, mem_superclassChain.1 h⟩

theorem Ancestor.of_brings (h : ix.Brings name b) (ha : ix.Ancestor b a) : ix.Ancestor name a := by
  obtain ⟨x, hx, hxa⟩ := ha
  exact ⟨x, .head h hx, hxa⟩

/-- An ancestor stands in the chain of superclasses or comes from a module that is brought in. -/
theorem Ancestor.cases (h : ix.Ancestor name a) :
    a ∈ ix.superclassChain name ∨ ∃ b, ix.Brings name b ∧ ix.Ancestor b a := by
  obtain ⟨x, hx, hxa⟩ := h
  rcases ReflTransGen.cases_head_iff.1 hx with rfl | ⟨b, hb, hbx⟩
  · exact Or.inl (mem_superclassChain.2 hxa)
  · exact Or.inr ⟨b, hb, x, hbx, hxa⟩

/-! ### Around the types under way -/

/-- `a` brings in `b`, which is not under way. -/
def BringsAround (ix : Index) (visiting : List String) (a b : String) : Prop :=
  ix.Brings a b ∧ b ∉ visiting

/-- `a` is an ancestor of `name` by a way around the types under way. -/
def AncestorAround (ix : Index) (visiting : List String) (name a : String) : Prop :=
  name ∉ visiting ∧ ∃ x, ReflTransGen (ix.BringsAround visiting) name x ∧ ReflTransGen ix.Superclass x a

/-- A way around `visiting` either stays at its start or goes on from there and never comes back. -/
private theorem around_cases (h : ReflTransGen (ix.BringsAround visiting) name b) :
    b = name ∨ ∃ c, ix.Brings name c ∧ c ∉ name :: visiting ∧
      ReflTransGen (ix.BringsAround (name :: visiting)) c b := by
  induction h with
  | refl => exact Or.inl rfl
  | @tail b d _ hstep ih =>
    obtain ⟨hbd, hd⟩ := hstep
    by_cases hname : d = name
    -- back at the start, so what came before does not count
    · exact Or.inl hname
    · right
      have hd' : d ∉ name :: visiting := by simp [hname, hd]
      rcases ih with rfl | ⟨c, hc, hcv, hcb⟩
      · exact ⟨d, hbd, hd', .refl⟩
      · exact ⟨c, hc, hcv, .tail hcb ⟨hbd, hd'⟩⟩

theorem AncestorAround.cases (h : ix.AncestorAround visiting name a) :
    a ∈ ix.superclassChain name ∨ ∃ b, ix.Brings name b ∧ ix.AncestorAround (name :: visiting) b a := by
  obtain ⟨_, x, hx, hxa⟩ := h
  rcases around_cases hx with rfl | ⟨b, hb, hbv, hbx⟩
  · exact Or.inl (mem_superclassChain.2 hxa)
  · exact Or.inr ⟨b, hb, hbv, x, hbx, hxa⟩

theorem AncestorAround.ancestor (h : ix.AncestorAround visiting name a) : ix.Ancestor name a := by
  obtain ⟨_, x, hx, hxa⟩ := h
  have hle : ix.BringsAround visiting ≤ ix.Brings := fun _ _ hstep => hstep.1
  exact ⟨x, ReflTransGen.mono hle _ _ hx, hxa⟩

/-- With nothing under way there is nothing to go around. -/
theorem Ancestor.around_nil (h : ix.Ancestor name a) : ix.AncestorAround [] name a := by
  obtain ⟨x, hx, hxa⟩ := h
  have hle : ix.Brings ≤ ix.BringsAround [] := fun _ _ hstep => ⟨hstep, List.not_mem_nil⟩
  exact ⟨List.not_mem_nil, x, ReflTransGen.mono hle _ _ hx, hxa⟩

end Index

/-! ### What walks find -/

variable {ix : Index} {p : Progress} {w w' u sub : Walk} {name a : String} {names : List String}

/-- All lineages found so far are those that the types should have. -/
def Progress.Right (ix : Index) (p : Progress) : Prop :=
  ∀ name lineage, p.finished.lookup name = some lineage → ix.contains name = true ∧ ix.IsLineage name lineage

/-- What walks from `names` that lead from `w` to `w'` have found. -/
structure Explored (ix : Index) (w : Walk) (names : List String) (w' : Walk) : Prop where
  right : w'.progress.Right ix
  subset : w.lineage ⊆ w'.lineage
  sound : ∀ a ∈ w'.lineage, a ∈ w.lineage ∨ ∃ name ∈ names, ix.contains name = true ∧ ix.Ancestor name a
  around : ∀ name ∈ names, ix.contains name = true →
    ∀ a, ix.AncestorAround w.progress.visiting name a → a ∈ w'.lineage
  full : w'.complete = true → ∀ name ∈ names, ix.contains name = true → ∀ a, ix.Ancestor name a → a ∈ w'.lineage

/-- What a single walk from `name` has found, where `visiting` are the types under way before it. -/
structure Walk.Found (ix : Index) (visiting : List String) (name : String) (sub : Walk) : Prop where
  sound : ∀ a ∈ sub.lineage, ix.contains name = true ∧ ix.Ancestor name a
  around : ix.contains name = true → ∀ a, ix.AncestorAround visiting name a → a ∈ sub.lineage
  full : sub.complete = true → ix.contains name = true → ∀ a, ix.Ancestor name a → a ∈ sub.lineage

/-- A walk followed by further walks. -/
private theorem Explored.cons (hsub : Walk.Found ix w.progress.visiting name sub)
    (hv : sub.progress.visiting = w.progress.visiting) (hcomplete : w'.complete = true → sub.complete = true)
    (hrest : Explored ix (w.join sub) names w') : Explored ix w (name :: names) w' where
  right := hrest.right
  subset := fun a ha => hrest.subset (mem_appendNew.2 (Or.inl ha))
  sound := by
    intro a ha
    rcases hrest.sound a ha with h | ⟨b, hb, h⟩
    · rcases mem_appendNew.1 h with h | h
      · exact Or.inl h
      · exact Or.inr ⟨name, List.mem_cons_self, hsub.sound a h⟩
    · exact Or.inr ⟨b, List.mem_cons_of_mem _ hb, h⟩
  around := by
    intro b hb hc a ha
    rcases List.mem_cons.1 hb with rfl | hb
    · exact hrest.subset (mem_appendNew.2 (Or.inr (hsub.around hc a ha)))
    · exact hrest.around b hb hc a (by rwa [Walk.join, hv])
  full := by
    intro hw b hb hc a ha
    rcases List.mem_cons.1 hb with rfl | hb
    · exact hrest.subset (mem_appendNew.2 (Or.inr (hsub.full (hcomplete hw) hc a ha)))
    · exact hrest.full hw b hb hc a ha

/-- An answer that needs no walk. A type under way lies around nothing. -/
private theorem found_of_answer (hp : p.Right ix) (h : p.answer? ix name = some sub) :
    Walk.Found ix p.visiting name sub := by
  rcases Progress.answer?_cases h with ⟨lineage, hl, rfl⟩ | ⟨_, hc, rfl⟩ | ⟨_, hc, hm, rfl⟩
  · obtain ⟨hc, hlineage⟩ := hp name lineage hl
    exact {
      sound := fun a ha => ⟨hc, (hlineage.mem_iff a).1 ha⟩
      around := fun _ a ha => (hlineage.mem_iff a).2 ha.ancestor
      full := fun _ _ a ha => (hlineage.mem_iff a).2 ha }
  · exact {
      sound := by simp
      around := by simp [hc]
      full := by simp [hc] }
  · exact {
      sound := by simp
      around := fun _ a ha => absurd hm ha.1
      full := by simp }

/-- A walk through the mixins of a type. -/
private theorem found_of_inner (hc : ix.contains name = true)
    (h : Explored ix (.enter ix p name) (ix.mixinsAlong name) u) : Walk.Found ix p.visiting name (u.leave name) where
  sound := by
    intro a ha
    refine ⟨hc, ?_⟩
    rcases h.sound a ha with h | ⟨b, hb, hbc, hba⟩
    · exact .of_chain h
    · exact .of_brings (Index.brings_iff.2 ⟨hb, hbc⟩) hba
  around := by
    intro _ a ha
    rcases ha.cases with ha | ⟨b, hb, hba⟩
    · exact h.subset ha
    · obtain ⟨hb, hbc⟩ := Index.brings_iff.1 hb
      exact h.around b hb hbc a hba
  full := by
    intro hw _ a ha
    rcases ha.cases with ha | ⟨b, hb, hba⟩
    · exact h.subset ha
    · obtain ⟨hb, hbc⟩ := Index.brings_iff.1 hb
      exact h.full hw b hb hbc a hba

/-- The lineage of a walk that is complete or the outermost. -/
private theorem isLineage_of_found {visiting : List String} (hc : ix.contains name = true)
    (inner : Visits ix (.enter ix p name) (ix.mixinsAlong name) u) (h : Walk.Found ix visiting name (u.leave name))
    (hkept : u.complete = true ∨ visiting = []) : ix.IsLineage name u.lineage where
  nodup := inner.nodup_lineage (Index.superclassChain_spec ix name).nodup
  front := ⟨ix.superclassChain name, Index.superclassChain_spec ix name, inner.prefix_lineage⟩
  mem_iff := by
    intro a
    constructor
    · exact fun ha => (h.sound a ha).2
    · intro ha
      rcases hkept with hcomplete | rfl
      · exact h.full hcomplete hc a ha
      · exact h.around hc a ha.around_nil

theorem Visits.explored (h : Visits ix w names w') (hp : w.progress.Right ix) : Explored ix w names w' := by
  induction h with
  | done w =>
    exact {
      right := hp
      subset := fun _ ha => ha
      sound := fun _ ha => Or.inl ha
      around := by simp
      full := by simp }
  | known answer rest ih =>
    have hprogress := Progress.answer?_progress answer
    refine .cons (found_of_answer hp answer) (by rw [hprogress]) ?_ (ih (by rwa [Walk.join, hprogress]))
    exact fun hw => (Bool.and_eq_true_iff.1 (rest.complete_of_complete hw)).2
  | @fresh w u w' name names answer inner rest ihInner ihRest =>
    obtain ⟨hl, hc, hv⟩ := Progress.answer?_eq_none answer
    have hu := inner.visiting_eq
    have explored := ihInner hp
    have found := found_of_inner hc explored
    refine .cons found (Walk.visiting_leave hu) ?_ (ihRest ?_)
    · exact fun hw => (Bool.and_eq_true_iff.1 (rest.complete_of_complete hw)).2
    · intro a lineage ha
      rw [Walk.join, Walk.lookup_leave hu] at ha
      split at ha
      -- the lineage is new, and it was kept for one of the two reasons
      · rename_i hkept
        obtain ⟨rfl, hkept⟩ := hkept
        obtain rfl := Option.some.inj ha
        exact ⟨hc, isLineage_of_found hc inner found hkept⟩
      · exact explored.right a lineage ha

/-! ### Lineages of an index -/

namespace Ancestry

theorem right_walkAll (ix : Index) (names : List String) : (walkAll ix names).Right ix := by
  obtain ⟨w, hw, hprogress⟩ := visits_walkAll ix names
  rw [← hprogress]
  exact (hw.explored (by simp [Progress.Right])).right

/-- Whatever names the walks start from, a type among them gets a lineage. -/
theorem exists_lineage_inOrder {ix : Index} {names : List String} {name : String} (hn : name ∈ names)
    (hc : ix.contains name = true) :
    (inOrder ix names).lineages.lookup name = some ((inOrder ix names).lineage name) := by
  obtain ⟨w, hw, hprogress⟩ := visits_walkAll ix names
  obtain ⟨lineage, hl⟩ := hw.finishes (Or.inr rfl) hn hc
  rw [hprogress] at hl
  simp [Ancestry.lineage, inOrder, hl]

theorem inOrder_isLineage {ix : Index} {names : List String} {name : String} (hn : name ∈ names)
    (hc : ix.contains name = true) : ix.IsLineage name ((inOrder ix names).lineage name) :=
  (right_walkAll ix names name _ (exists_lineage_inOrder hn hc)).2

/-- Every type of the index has a lineage, and it is the one that the type should have. -/
theorem ofIndex_isLineage (ix : Index) (name : String) (hc : ix.contains name = true) :
    (ofIndex ix).knows name = true ∧ ix.IsLineage name ((ofIndex ix).lineage name) := by
  have hn := Index.mem_typeNames.2 hc
  refine ⟨?_, inOrder_isLineage hn hc⟩
  have hlookup := exists_lineage_inOrder hn hc
  simp [knows, ofIndex, hlookup]

end Ancestry

/-- Two modules that include each other and a module apart from them each, and a third that includes one of them. -/
def tangle : Snapshot where
  types := [
    { name := "A", kind := .moduleType, includes := ["Z"] },
    { name := "C", kind := .moduleType, includes := ["Z", "Q"] },
    { name := "Z", kind := .moduleType, includes := ["C", "P"] },
    { name := "P", kind := .moduleType },
    { name := "Q", kind := .moduleType }
  ]

theorem ofIndex_isLineage_tangle :
    (Index.ofSnapshot tangle).contains "A" = true ∧
    (Ancestry.ofIndex (Index.ofSnapshot tangle)).knows "A" = true ∧
    (Index.ofSnapshot tangle).IsLineage "A" ((Ancestry.ofIndex (Index.ofSnapshot tangle)).lineage "A") := by
  have hc : (Index.ofSnapshot tangle).contains "A" = true := by decide +kernel
  exact ⟨hc, Ancestry.ofIndex_isLineage (Index.ofSnapshot tangle) "A" hc⟩

/-! ### Programs -/

/-- The program of a snapshot, with the names in an order that can be computed. -/
theorem Program.ofSnapshot_eq_inOrder (s : Snapshot) :
    Program.ofSnapshot s =
      let names := ((Index.ofSnapshot s).types.map Prod.fst).insertionSort (· ≤ ·)
      let ancestry := Ancestry.inOrder (.ofSnapshot s) names
      ⟨s, ancestry, ancestry.callees none⟩ := by
  rw [Program.ofSnapshot, Ancestry.ofIndex, Index.typeNames_eq_insertionSort]

/-- The lineage of a type in the program of a snapshot. -/
def Snapshot.lineage (s : Snapshot) (name : String) : List String :=
  (Program.ofSnapshot s).ancestry.lineage name

theorem Snapshot.isLineage {s : Snapshot} {name : String} (hc : (Index.ofSnapshot s).contains name = true) :
    (Index.ofSnapshot s).IsLineage name (s.lineage name) :=
  Ancestry.inOrder_isLineage (Index.mem_typeNames.2 hc) hc

end TagCheck
