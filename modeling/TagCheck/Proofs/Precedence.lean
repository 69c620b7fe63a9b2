import TagCheck.Proofs.CutLineage
import TagCheck.Proofs.WrittenTag

/-!
# Superclasses before mixins

The search for the tag that a type inherits goes through its lineage after the type itself.  The chain of superclasses
stands in front there, so that what a superclass writes comes before what any mixin writes, even a mixin of the type
itself (`Snapshot.InheritedTag`).  The type stands in its lineage once, however it is reached from its superclasses and
mixins, and so is passed over for good (`Snapshot.mem_tail_lineage_iff`).  Both give the rule of precedence
(`Snapshot.nearestTag?_superclass_first`).
-/

namespace TagCheck

namespace Snapshot

variable {s : Snapshot} {selector : TagSelector} {name member writer text : String} {scope : MethodScope}

/-- The tag that a type inherits for a member, and the type that writes it: the nearest of its superclasses that writes
one or, if none of them does, the first type after them in the lineage that does. -/
inductive InheritedTag (s : Snapshot) (selector : TagSelector) (name member : String) (scope : MethodScope) :
    String → String → Prop
  | superclass {writer text : String} {nearer further : List String}
      (hchain : (Index.ofSnapshot s).IsSuperclassChain name (name :: (nearer ++ writer :: further)))
      (hnearer : ∀ a ∈ nearer, s.memberTag? selector a member scope = none)
      (htext : s.memberTag? selector writer member scope = some text) :
      s.InheritedTag selector name member scope writer text
  | mixin {writer text : String} {above nearer further : List String}
      (hchain : (Index.ofSnapshot s).IsSuperclassChain name (name :: above))
      (habove : ∀ a ∈ above, s.memberTag? selector a member scope = none)
      (hlineage : s.lineage name = name :: above ++ (nearer ++ writer :: further))
      (hnearer : ∀ a ∈ nearer, s.memberTag? selector a member scope = none)
      (htext : s.memberTag? selector writer member scope = some text) :
      s.InheritedTag selector name member scope writer text

/-! ### The lineage after the type itself -/

/-- A type of the index has its superclasses in front of its lineage. -/
theorem exists_lineage_eq (hc : (Index.ofSnapshot s).contains name = true) :
    ∃ above beyond, (Index.ofSnapshot s).IsSuperclassChain name (name :: above) ∧
      s.lineage name = name :: above ++ beyond := by
  obtain ⟨chain, hchain, beyond, hbeyond⟩ := (isLineage hc).front
  obtain ⟨above, rfl⟩ := List.head?_eq_some_iff.1 hchain.head
  exact ⟨above, beyond, hchain, hbeyond.symm⟩

theorem lineage_eq_nil (hc : (Index.ofSnapshot s).contains name = false) : s.lineage name = [] :=
  Ancestry.lineage_of_not_contains hc

/-- After its first place a type does not come again in its lineage. -/
theorem mem_tail_lineage_iff {a : String} : a ∈ (s.lineage name).tail ↔ a ∈ s.lineage name ∧ a ≠ name := by
  cases hc : (Index.ofSnapshot s).contains name with
  | false => simp [lineage_eq_nil hc]
  | true =>
    obtain ⟨rest, hrest⟩ := (isLineage hc).eq_cons
    have hnodup := (isLineage hc).nodup
    rw [hrest, List.nodup_cons] at hnodup
    rw [hrest, List.tail_cons, List.mem_cons]
    constructor
    · intro ha
      exact ⟨Or.inr ha, fun h => hnodup.1 (h ▸ ha)⟩
    · rintro ⟨rfl | ha, hne⟩
      · exact absurd rfl hne
      · exact ha

/-- Only a type of the index has a superclass. -/
theorem not_isSuperclassChain_of_not_contains (hc : (Index.ofSnapshot s).contains name = false) {next : String}
    {above : List String} : ¬ (Index.ofSnapshot s).IsSuperclassChain name (name :: next :: above) := by
  intro hchain
  have hlink : (Index.ofSnapshot s).Superclass name next := hchain.linked.rel
  cases hc.symm.trans (Index.contains_of_superclass hlink)

/-! ### Precedence -/

/-- The search finds a tag along the chain or, if there is none, a tag beyond it. -/
theorem nearestTag?_eq_some_iff_of_lineage {above beyond : List String}
    (hlineage : s.lineage name = name :: above ++ beyond) :
    (Program.ofSnapshot s).ancestry.nearestTag? name member scope selector true = some (writer, text) ↔
      (∃ nearer further, above = nearer ++ writer :: further ∧
        (∀ a ∈ nearer, s.memberTag? selector a member scope = none) ∧
        s.memberTag? selector writer member scope = some text) ∨
      (∀ a ∈ above, s.memberTag? selector a member scope = none) ∧
        ∃ nearer further, beyond = nearer ++ writer :: further ∧
          (∀ a ∈ nearer, s.memberTag? selector a member scope = none) ∧
          s.memberTag? selector writer member scope = some text := by
  rw [nearestTag?_eq_findSome?, hlineage, List.cons_append, List.tail_cons, List.findSome?_append,
    Option.or_eq_some_iff, findSome?_memberTag?_eq_some_iff, findSome?_memberTag?_eq_some_iff,
    List.findSome?_eq_none_iff]
  simp only [Option.map_eq_none_iff]

theorem nearestTag?_eq_some_iff_inheritedTag :
    (Program.ofSnapshot s).ancestry.nearestTag? name member scope selector true = some (writer, text) ↔
      s.InheritedTag selector name member scope writer text := by
  cases hc : (Index.ofSnapshot s).contains name with
  | false =>
    rw [nearestTag?_eq_findSome?, lineage_eq_nil hc]
    constructor
    · intro h
      cases h
    · intro h
      cases h with
      | @superclass nearer _ hchain _ _ =>
        cases nearer with
        | nil => exact absurd hchain (not_isSuperclassChain_of_not_contains hc)
        | cons next nearer => exact absurd hchain (not_isSuperclassChain_of_not_contains hc)
      | mixin _ _ hlineage _ _ => cases (lineage_eq_nil hc).symm.trans hlineage
  | true =>
    obtain ⟨above, beyond, hchain, hlineage⟩ := exists_lineage_eq hc
    rw [nearestTag?_eq_some_iff_of_lineage hlineage]
    constructor
    · rintro (⟨nearer, further, rfl, hnearer, htext⟩ | ⟨habove, nearer, further, rfl, hnearer, htext⟩)
      · exact .superclass hchain hnearer htext
      · exact .mixin hchain habove hlineage hnearer htext
    · intro h
      -- the chain is the one at the front of the lineage
      cases h with
      | @superclass nearer further hchain' hnearer htext =>
        obtain ⟨-, rfl⟩ := List.cons.inj (hchain.unique hchain')
        exact Or.inl ⟨nearer, further, rfl, hnearer, htext⟩
      | @mixin _ nearer further hchain' habove hlineage' hnearer htext =>
        obtain ⟨-, rfl⟩ := List.cons.inj (hchain.unique hchain')
        have hbeyond := List.append_cancel_left (hlineage.symm.trans hlineage')
        exact Or.inr ⟨habove, nearer, further, hbeyond, hnearer, htext⟩

/-- The search past a type finds the tag of the nearest superclass that writes one for the member, whatever mixins do,
and only without such a superclass that of the first type after the superclasses.  It finds none exactly if no type of
the lineage but the type itself writes one.  What it finds is the tag of the type that it names, and that is another
type. -/
theorem nearestTag?_superclass_first (s : Snapshot) (name member : String) (scope : MethodScope)
    (selector : TagSelector) :
    (∀ writer text, (Program.ofSnapshot s).ancestry.nearestTag? name member scope selector true = some (writer, text) ↔
      s.InheritedTag selector name member scope writer text) ∧
    ((Program.ofSnapshot s).ancestry.nearestTag? name member scope selector true = none ↔
      ∀ a ∈ s.lineage name, a ≠ name → s.memberTag? selector a member scope = none) ∧
    ∀ writer text, (Program.ofSnapshot s).ancestry.nearestTag? name member scope selector true = some (writer, text) →
      s.memberTag? selector writer member scope = some text ∧ writer ∈ s.lineage name ∧ writer ≠ name := by
  refine ⟨fun writer text => nearestTag?_eq_some_iff_inheritedTag, ?_, ?_⟩
  · rw [nearestTag?_eq_findSome?, List.findSome?_eq_none_iff]
    simp only [Option.map_eq_none_iff, mem_tail_lineage_iff, and_imp]
  · intro writer text h
    rw [nearestTag?_eq_findSome?, findSome?_memberTag?_eq_some_iff] at h
    obtain ⟨nearer, further, htail, -, htext⟩ := h
    have hwriter : writer ∈ (s.lineage name).tail := by simp [htail]
    exact ⟨htext, mem_tail_lineage_iff.1 hwriter⟩

end Snapshot

/-- Three classes in a circle, where the first two include a module that includes the first class.  All types but the
second class name things, the module labels them, and the first class hides them. -/
def circular : Snapshot where
  types := [
    { name := "Sub", superclass := some "Mid", includes := ["Labelled"] },
    { name := "Mid", superclass := some "Sup", includes := ["Labelled"] },
    { name := "Sup", superclass := some "Sub" },
    { name := "Labelled", kind := .moduleType, includes := ["Sub"] }
  ]
  methods := [
    { owner := some "Sub", name := "name", returnTag := some "Symbol" },
    { owner := some "Labelled", name := "name", returnTag := some "Integer" },
    { owner := some "Sup", name := "name", returnTag := some "String" },
    { owner := some "Labelled", name := "label", returnTag := some "Integer" },
    { owner := some "Sub", name := "hide", returnTag := some "Symbol" }
  ]

/-- `Sup` goes before the module, which is nearer to `Sub`, and `Sub` does not inherit from itself. -/
theorem nearestTag?_superclass_first_circular :
    circular.lineage "Sub" = ["Sub", "Mid", "Sup", "Labelled"] ∧
      circular.InheritedTag .returned "Sub" "name" .onInstance "Sup" "String" ∧
      circular.InheritedTag .returned "Sub" "label" .onInstance "Labelled" "Integer" ∧
      (∀ a ∈ circular.lineage "Sub", a ≠ "Sub" → circular.memberTag? .returned a "hide" .onInstance = none) ∧
      (circular.memberTag? .returned "Sup" "name" .onInstance = some "String" ∧ "Sup" ∈ circular.lineage "Sub" ∧
        "Sup" ≠ "Sub") := by
  have hname : (Program.ofSnapshot circular).ancestry.nearestTag? "Sub" "name" .onInstance .returned true =
      some ("Sup", "String") := by
    rw [Program.ofSnapshot_eq_inOrder]
    decide +kernel
  have hlabel : (Program.ofSnapshot circular).ancestry.nearestTag? "Sub" "label" .onInstance .returned true =
      some ("Labelled", "Integer") := by
    rw [Program.ofSnapshot_eq_inOrder]
    decide +kernel
  have hhide : (Program.ofSnapshot circular).ancestry.nearestTag? "Sub" "hide" .onInstance .returned true = none := by
    rw [Program.ofSnapshot_eq_inOrder]
    decide +kernel
  have hlineage : circular.lineage "Sub" = ["Sub", "Mid", "Sup", "Labelled"] := by
    rw [Snapshot.lineage, Program.ofSnapshot_eq_inOrder]
    decide +kernel
  obtain ⟨hnameIff, -, hnamed⟩ := circular.nearestTag?_superclass_first "Sub" "name" .onInstance .returned
  obtain ⟨hlabelIff, -, -⟩ := circular.nearestTag?_superclass_first "Sub" "label" .onInstance .returned
  obtain ⟨-, hhideIff, -⟩ := circular.nearestTag?_superclass_first "Sub" "hide" .onInstance .returned
  exact ⟨hlineage, (hnameIff _ _).1 hname, (hlabelIff _ _).1 hlabel, hhideIff.1 hhide, hnamed _ _ hname⟩

end TagCheck
