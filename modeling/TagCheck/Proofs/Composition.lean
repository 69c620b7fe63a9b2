import TagCheck.Proofs.CutLineage
import TagCheck.Proofs.PlainLineage

/-!
# How lineages are put together

A lineage should be the chain of superclasses followed by the lineages of the modules included along it, without
repeats (`Ancestry.composed`).  Up to order it always is.  Its order is that of the walk without a memory
(`Index.cutLineage`), which is the right one as well, unless the type leads to two different types that lead to each
other, all by way of types that come after it (`Ancestry.ofIndex_lineage_composed`).

In such a tangle the walk from the type passes through one of the two while the other is under way, and lists the
ancestors in the order of that walk; when the turn comes to the two types themselves, they find their lineages by walks
that are cut elsewhere, and the orders may differ (`tangle_lineage_ne_composed`).

Two kinds of circles do no harm.  A type that includes itself is cut at the same place whenever it is walked.  And at a
circle through the type whose walk this is, the walk is cut, while the lineages that are kept in the end go on there
with the whole of what this walk finds, in its own order, and so never get off its way (`Ahead`).
-/

namespace TagCheck

open Relation (ReflTransGen TransGen)

variable {ix : Index} {f : String → List String} {around early later visiting ks : List String} {name a : String}

/-! ### Types to which only they themselves lead back -/

/-- From `name` on, around `around`, only a type itself leads back to it. -/
def Index.Clear (ix : Index) (around : List String) (name : String) : Prop :=
  ∀ x y, ReflTransGen (ix.BringsAround around) name x → TransGen (ix.BringsAround around) x y →
    TransGen (ix.BringsAround around) y x → x = y

theorem Index.Clear.of_reach (h : ix.Clear around name) (ha : ReflTransGen (ix.BringsAround around) name a) :
    ix.Clear around a :=
  fun x y hx => h x y (ha.trans hx)

/-- No other type that is brought in leads back. -/
theorem Index.Clear.not_reach (h : ix.Clear around name) (ha : ix.BringsAround around name a) (hne : a ≠ name) :
    ¬ ReflTransGen (ix.BringsAround around) a name := by
  intro hback
  rcases Relation.reflTransGen_iff_eq_or_transGen.1 hback with rfl | hback
  · exact hne rfl
  · exact hne (h name a .refl (.single ha) hback).symm

/-- Leading to another type comes to an end where no other type leads back. -/
private theorem Index.Clear.acc (h : ix.Clear around name) :
    Acc (fun b a => TransGen (ix.BringsAround around) a b ∧ a ≠ b) name := by
  have hle : ∀ a b, TransGen (fun a b => TransGen (ix.BringsAround around) a b ∧ a ≠ b) a b →
      TransGen (ix.BringsAround around) a b := by
    intro a b hab
    induction hab with
    | single hab => exact hab.1
    | tail _ hbc ih => exact ih.trans hbc.1
  refine Index.acc_of_no_cycle ix ?_ ?_
  · intro a b hab
    obtain ⟨c, _, hcb⟩ := TransGen.tail'_iff.1 hab.1
    exact Index.contains_of_brings hcb.1
  · intro x hx hloop
    have hx' : ReflTransGen (ix.BringsAround around) name x := by
      rcases Relation.reflTransGen_iff_eq_or_transGen.1 hx with rfl | hx
      · exact .refl
      · exact (hle _ _ hx).to_reflTransGen
    obtain ⟨y, hxy, hyx⟩ := TransGen.head'_iff.1 hloop
    rcases Relation.reflTransGen_iff_eq_or_transGen.1 hyx with rfl | hyx
    · exact hxy.2 rfl
    · exact hxy.2 (h x y hx' hxy.1 (hle _ _ hyx))

/-! ### Lineages of mixins -/

/-- The lineages that `f` gives, but nothing for `name`. -/
def skipping (f : String → List String) (name m : String) : List String :=
  if m = name then [] else f m

/-- What `f` gives `name` is put together from what it gives the mixins other than `name` itself. -/
def PutTogether (ix : Index) (f : String → List String) (name : String) : Prop :=
  f name = appendNew (ix.superclassChain name) ((ix.mixinsAlong name).flatMap (skipping f name))

/-- Where a walk does not go on, `f` adds the same or everything. -/
theorem ahead_of_answered (hunindexed : ∀ a, ix.contains a = false → f a = []) (hks : ks.Nodup)
    (h : a ∈ early ∨ (a ∈ visiting ∧ f a = ks) ∨ ix.contains a = false) :
    Ahead ks (ix.cutLineage f early visiting a) (f a) := by
  by_cases he : a ∈ early
  · rw [Index.cutLineage_of_early he]
    exact .refl ks (f a)
  · rcases h.resolve_left he with ⟨hv, hfa⟩ | hc
    · rw [Index.cutLineage_of_visiting he hv, hfa]
      exact .whole hks
    · rw [Index.cutLineage_of_not_contains he hc, hunindexed a hc]
      exact .refl ks []

/-- The walks from the mixins of a type, where the types to go around are given or have everything. -/
theorem ahead_mixins (hunindexed : ∀ a, ix.contains a = false → f a = []) (hks : ks.Nodup)
    (haround : ∀ b ∈ around, b ∈ early ∨ (b ∈ visiting ∧ f b = ks)) (hname : name ∉ early)
    (hmixin : ∀ m, ix.BringsAround around name m → m ≠ name →
      Ahead ks (ix.cutLineage f early (name :: visiting) m) (f m)) :
    Ahead ks ((ix.mixinsAlong name).flatMap (ix.cutLineage f early (name :: visiting)))
      ((ix.mixinsAlong name).flatMap (skipping f name)) := by
  apply Ahead.flatMap
  intro m hm
  by_cases hne : m = name
  · rw [hne, Index.cutLineage_of_visiting hname List.mem_cons_self, skipping, if_pos rfl]
    exact .refl ks []
  · rw [skipping, if_neg hne]
    by_cases hstep : ix.BringsAround around name m
    · exact hmixin m hstep hne
    · apply ahead_of_answered hunindexed hks
      cases hmc : ix.contains m with
      | false => exact Or.inr (Or.inr rfl)
      | true =>
        have hma : m ∈ around := by
          by_contra hma
          exact hstep ⟨Index.brings_iff.2 ⟨hm, hmc⟩, hma⟩
        exact (haround m hma).imp_right fun h => Or.inl ⟨List.mem_cons_of_mem _ h.1, h.2⟩

/-- What a walk from `name` finds, and what `f` gives. -/
theorem ahead_cutLineage (hunindexed : ∀ a, ix.contains a = false → f a = []) (hks : ks.Nodup)
    (haround : ∀ b ∈ around, b ∈ early ∨ (b ∈ visiting ∧ f b = ks)) (hc : ix.contains name = true)
    (hname : name ∉ around) (hclear : ix.Clear around name)
    (hput : ∀ x, ReflTransGen (ix.BringsAround around) name x → PutTogether ix f x)
    (hvisiting : ∀ v ∈ visiting, v ∈ around ∨ ¬ ReflTransGen (ix.BringsAround around) name v) :
    Ahead ks (ix.cutLineage f early visiting name) (f name) := by
  induction hclear.acc generalizing visiting with
  | intro name _ ih =>
    by_cases he : name ∈ early
    · exact ahead_of_answered hunindexed hks (Or.inl he)
    · have hv : name ∉ visiting := fun hm => (hvisiting name hm).elim hname fun hreach => hreach .refl
      rw [Index.cutLineage_of_contains he hc hv, hput name .refl]
      refine (ahead_mixins hunindexed hks haround he ?_).appendNew _
      intro m hm hne
      refine ih m ⟨.single hm, Ne.symm hne⟩ ?_ (Index.contains_of_brings hm.1) hm.2 (hclear.of_reach (.single hm))
        (fun x hx => hput x (.head hm hx)) ?_
      · exact fun b hb => (haround b hb).imp_right fun h => ⟨List.mem_cons_of_mem _ h.1, h.2⟩
      · intro v hmem
        rcases List.mem_cons.1 hmem with rfl | hmem
        · exact Or.inr (hclear.not_reach hm hne)
        · exact (hvisiting v hmem).imp_right fun hreach hmv => hreach (.head hm hmv)

/-- `f` gives every type what the walk without a memory finds when the turn comes to it. -/
def FoundInOrder (ix : Index) (f : String → List String) (names : List String) : Prop :=
  ∀ early name later, names = early ++ name :: later → name ∉ early → ix.contains name = true →
    f name = ix.cutLineage f early [] name

/-- Where only a type itself leads back to it, lineages are put together right. -/
theorem putTogether_of_clear (hunindexed : ∀ a, ix.contains a = false → f a = [])
    (hf : FoundInOrder ix f (around ++ later)) (hall : ∀ a, ix.contains a = true → a ∈ around ++ later)
    (hc : ix.contains name = true) (hname : name ∉ around) (hclear : ix.Clear around name) :
    PutTogether ix f name := by
  -- the other types that `name` leads to come first
  induction hclear.acc with
  | intro name _ ih =>
    obtain ⟨early, rest, hsplit, hearly⟩ := List.eq_append_cons_of_mem (hall name hc)
    have hsub : around ⊆ early := by
      rcases List.append_eq_append_iff.1 hsplit with ⟨more, rfl, _⟩ | ⟨more, rfl, hmore⟩
      · exact List.subset_append_left around more
      · cases more with
        | nil => simp
        | cons c more =>
          have hmem : name ∈ c :: more := by simp [(List.cons.inj hmore).1]
          exact absurd (List.mem_append_right _ hmem) hname
    have hlineage := hf early name rest hsplit hearly hc
    rw [Index.cutLineage_of_contains hearly hc List.not_mem_nil] at hlineage
    have hnodup : (f name).Nodup := hlineage ▸ nodup_appendNew (ix.superclassChain_spec name).nodup _
    have haround : ∀ {visiting : List String}, ∀ b ∈ around, b ∈ early ∨ (b ∈ visiting ∧ f b = f name) :=
      fun b hb => Or.inl (hsub hb)
    refine (ahead_mixins hunindexed hnodup haround hearly ?_).eq_appendNew hlineage
    intro m hm hne
    refine ahead_cutLineage hunindexed hnodup haround (Index.contains_of_brings hm.1) hm.2
      (hclear.of_reach (.single hm)) ?_ ?_
    · intro x hx
      have hreach : TransGen (ix.BringsAround around) name x := .head' hm hx
      have hne' : name ≠ x := by
        rintro rfl
        exact hclear.not_reach hm hne hx
      obtain ⟨y, _, hyx⟩ := TransGen.tail'_iff.1 hreach
      exact ih x ⟨hreach, hne'⟩ (Index.contains_of_brings hyx.1) hyx.2 (hclear.of_reach hreach.to_reflTransGen)
    · intro v hv
      rw [List.mem_singleton.1 hv]
      exact Or.inr (hclear.not_reach hm hne)

/-- Where, around `name`, only a type itself leads back to it, the lineage of `name` is put together from all lineages
of its mixins, one that leads back to `name` included. -/
theorem composed_of_clear (hunindexed : ∀ a, ix.contains a = false → f a = [])
    (hf : FoundInOrder ix f (early ++ name :: later)) (hall : ∀ a, ix.contains a = true → a ∈ early ++ name :: later)
    (hc : ix.contains name = true) (hname : name ∉ early) (hclear : ix.Clear (early ++ [name]) name) :
    f name = appendNew (ix.superclassChain name) ((ix.mixinsAlong name).flatMap f) := by
  have hlineage := hf early name later rfl hname hc
  rw [Index.cutLineage_of_contains hname hc List.not_mem_nil] at hlineage
  have hnodup : (f name).Nodup := hlineage ▸ nodup_appendNew (ix.superclassChain_spec name).nodup _
  have haround : ∀ b ∈ early ++ [name], b ∈ early ∨ (b ∈ [name] ∧ f b = f name) := by
    intro b hb
    rcases List.mem_append.1 hb with hb | hb
    · exact Or.inl hb
    · exact Or.inr ⟨hb, by rw [List.mem_singleton.1 hb]⟩
  refine Ahead.eq_appendNew (.flatMap ?_) hlineage
  intro m hm
  cases hmc : ix.contains m with
  | false => exact ahead_of_answered hunindexed hnodup (Or.inr (Or.inr hmc))
  | true =>
    by_cases hma : m ∈ early ++ [name]
    · exact ahead_of_answered hunindexed hnodup ((haround m hma).imp_right Or.inl)
    · have hstep : ix.BringsAround (early ++ [name]) name m := ⟨Index.brings_iff.2 ⟨hm, hmc⟩, hma⟩
      refine ahead_cutLineage hunindexed hnodup haround hmc hma (hclear.of_reach (.single hstep)) ?_ ?_
      · intro x hx
        have hreach : TransGen (ix.BringsAround (early ++ [name])) name x := .head' hstep hx
        obtain ⟨y, _, hyx⟩ := TransGen.tail'_iff.1 hreach
        rw [List.append_cons] at hf hall
        exact putTogether_of_clear hunindexed hf hall (Index.contains_of_brings hyx.1) hyx.2
          (hclear.of_reach hreach.to_reflTransGen)
      · exact fun v hv => Or.inl (List.mem_append_right _ hv)

/-! ### Lineages of an index -/

/-- `a` brings in `b`, which comes after `name`. -/
def Index.BringsLater (ix : Index) (name a b : String) : Prop :=
  ix.Brings a b ∧ name < b

/-- By way of types that come after it, `name` leads to two types that lead to each other. -/
def Index.Tangled (ix : Index) (name : String) : Prop :=
  ∃ x y, x ≠ y ∧ ReflTransGen (ix.BringsLater name) name x ∧ TransGen (ix.BringsLater name) x y ∧
    TransGen (ix.BringsLater name) y x

namespace Ancestry

/-- The chain of superclasses of a type and then the lineages of the modules included along it, without repeats. -/
def composed (t : Ancestry) (name : String) : List String :=
  distinct (t.index.superclassChain name ++ (t.index.mixinsAlong name).flatMap t.lineage)

/-- Both lists hold the ancestors of the type, each of them once. -/
theorem lineage_perm_composed {ix : Index} {names : List String} (hall : ∀ a, ix.contains a = true → a ∈ names)
    {name : String} (hc : ix.contains name = true) :
    ((inOrder ix names).lineage name).Perm ((inOrder ix names).composed name) := by
  have hlineage := inOrder_isLineage (hall name hc) hc
  have hnodup : ((inOrder ix names).composed name).Nodup := nodup_appendNew List.nodup_nil _
  rw [List.perm_ext_iff_of_nodup hlineage.nodup hnodup]
  intro a
  rw [hlineage.mem_iff, composed, distinct_append (Index.superclassChain_spec _ name).nodup, mem_appendNew,
    List.mem_flatMap]
  constructor
  · intro ha
    rcases ha.cases with ha | ⟨m, hm, ha⟩
    · exact Or.inl ha
    · obtain ⟨hm, hmc⟩ := Index.brings_iff.1 hm
      exact Or.inr ⟨m, hm, ((inOrder_isLineage (hall m hmc) hmc).mem_iff a).2 ha⟩
  · rintro (ha | ⟨m, hm, ha⟩)
    · exact .of_chain ha
    · cases hmc : ix.contains m with
      | false => simp [lineage_of_not_contains hmc] at ha
      | true =>
        exact .of_brings (Index.brings_iff.2 ⟨hm, hmc⟩) (((inOrder_isLineage (hall m hmc) hmc).mem_iff a).1 ha)

/-- Where, around `name`, only a type itself leads back to it, the order is right too. -/
theorem lineage_eq_composed {ix : Index} {early later : List String} {name : String}
    (hall : ∀ a, ix.contains a = true → a ∈ early ++ name :: later) (hc : ix.contains name = true)
    (hname : name ∉ early) (hclear : ix.Clear (early ++ [name]) name) :
    (inOrder ix (early ++ name :: later)).lineage name = (inOrder ix (early ++ name :: later)).composed name := by
  have hf : FoundInOrder ix (inOrder ix (early ++ name :: later)).lineage (early ++ name :: later) := by
    intro early' name' later' hsplit hname' hc'
    rw [hsplit]
    exact inOrder_lineage_eq_cutLineage hc' hname'
  rw [composed, distinct_append (Index.superclassChain_spec _ name).nodup]
  exact composed_of_clear (fun a ha => lineage_of_not_contains ha) hf hall hc hname hclear

/-- The names that come before one of them, in their order. -/
private theorem takeWhile_typeNames {ix : Index} {early later : List String} {name : String}
    (hnames : ix.typeNames = early ++ name :: later) (hname : name ∉ early) :
    ix.typeNames.takeWhile (· < name) = early := by
  have hsorted := ix.pairwise_typeNames
  rw [hnames, List.pairwise_append] at hsorted
  have hlt : ∀ b ∈ early, decide (b < name) = true := by
    intro b hb
    have hne : b ≠ name := fun e => hname (e ▸ hb)
    simpa using lt_of_le_of_ne (hsorted.2.2 b hb name List.mem_cons_self) hne
  rw [hnames, List.takeWhile_append_of_pos hlt, List.takeWhile_cons_of_neg (by simp), List.append_nil]

/-- A lineage is what a walk finds that takes the lineages of the types before it as given and is cut at the types under
way.  It holds what the lineages of the included modules hold, and it is put together from them in order unless the type
leads into a tangle. -/
theorem ofIndex_lineage_composed (ix : Index) (name : String) (hc : ix.contains name = true) :
    (ofIndex ix).lineage name =
      ix.cutLineage (ofIndex ix).lineage (ix.typeNames.takeWhile (· < name)) [] name ∧
    ((ofIndex ix).lineage name).Perm ((ofIndex ix).composed name) ∧
    (¬ ix.Tangled name → (ofIndex ix).lineage name = (ofIndex ix).composed name) := by
  have hall : ∀ a, ix.contains a = true → a ∈ ix.typeNames := fun a ha => Index.mem_typeNames.2 ha
  obtain ⟨early, later, hnames, hname⟩ := List.eq_append_cons_of_mem (hall name hc)
  refine ⟨?_, lineage_perm_composed hall hc, ?_⟩
  · rw [takeWhile_typeNames hnames hname, ofIndex, hnames]
    exact inOrder_lineage_eq_cutLineage hc hname
  · intro htangled
    have hle : ix.BringsAround (early ++ [name]) ≤ ix.BringsLater name := by
      intro a b hab
      have hb := hall b (Index.contains_of_brings hab.1)
      have hearly := hab.2
      have hsorted := ix.pairwise_typeNames
      rw [hnames, List.append_cons, List.mem_append] at hb
      rw [hnames, List.pairwise_append, List.pairwise_cons] at hsorted
      have hne : name ≠ b := by
        rintro rfl
        exact hearly (by simp)
      exact ⟨hab.1, lt_of_le_of_ne (hsorted.2.1.1 b (hb.resolve_left hearly)) hne⟩
    have hclear : ix.Clear (early ++ [name]) name := by
      intro x y hx hxy hyx
      by_contra hne
      exact htangled ⟨x, y, hne, ReflTransGen.mono hle _ _ hx, TransGen.mono hle _ _ hxy, TransGen.mono hle _ _ hyx⟩
    rw [ofIndex, hnames]
    exact lineage_eq_composed (hnames ▸ hall) hc hname hclear

end Ancestry

/-- The type `C` stands in a circle with `Z`, but after `C` there is no other circle. -/
theorem ofIndex_lineage_composed_tangle :
    (Index.ofSnapshot tangle).contains "C" = true ∧ ¬ (Index.ofSnapshot tangle).Tangled "C" ∧
    (Ancestry.ofIndex (Index.ofSnapshot tangle)).lineage "C" =
      (Ancestry.ofIndex (Index.ofSnapshot tangle)).composed "C" := by
  have hc : (Index.ofSnapshot tangle).contains "C" = true := by decide +kernel
  have hstep : ∀ a ∈ ["C", "Z", "P", "Q"], ∀ b ∈ (Index.ofSnapshot tangle).mixinsAlong a, "C" < b →
      b ∈ ["C", "Z", "P", "Q"] ∧ ["C", "Z", "P", "Q"].idxOf a < ["C", "Z", "P", "Q"].idxOf b := by
    decide +kernel
  have hdown : ∀ {a b}, a ∈ ["C", "Z", "P", "Q"] → TransGen ((Index.ofSnapshot tangle).BringsLater "C") a b →
      b ∈ ["C", "Z", "P", "Q"] ∧ ["C", "Z", "P", "Q"].idxOf a < ["C", "Z", "P", "Q"].idxOf b := by
    intro a b ha hab
    induction hab with
    | single hab => exact hstep a ha _ (Index.brings_iff.1 hab.1).1 hab.2
    | tail _ hbc ih =>
      obtain ⟨hmem, hlt⟩ := hstep _ ih.1 _ (Index.brings_iff.1 hbc.1).1 hbc.2
      exact ⟨hmem, ih.2.trans hlt⟩
  have hclear : ¬ (Index.ofSnapshot tangle).Tangled "C" := by
    rintro ⟨x, y, _, hx, hxy, hyx⟩
    have hmem : x ∈ ["C", "Z", "P", "Q"] := by
      rcases Relation.reflTransGen_iff_eq_or_transGen.1 hx with rfl | hx
      · simp
      · exact (hdown (by simp) hx).1
    obtain ⟨hy, hlt⟩ := hdown hmem hxy
    exact absurd (hdown hy hyx).2 (Nat.lt_asymm hlt)
  exact ⟨hc, hclear, (Ancestry.ofIndex_lineage_composed _ "C" hc).2.2 hclear⟩

/-- The walk from `A` lists `Q` before `P`, since it meets `C` while `Z` is under way. The lineage of `Z` itself has
`P` before `Q`, since `C` has its turn earlier. -/
theorem tangle_lineage_ne_composed :
    (Ancestry.ofIndex (Index.ofSnapshot tangle)).lineage "A" ≠
      (Ancestry.ofIndex (Index.ofSnapshot tangle)).composed "A" := by
  rw [Ancestry.ofIndex, Index.typeNames_eq_insertionSort]
  decide +kernel

end TagCheck
