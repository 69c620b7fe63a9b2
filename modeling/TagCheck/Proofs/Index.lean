import TagCheck.Ancestry
import TagCheck.Proofs.Declarations
import Mathlib.Data.List.Chain
import Mathlib.Data.List.Sort
import Mathlib.Data.String.Basic
import Mathlib.Logic.Relation

/-!
# Names of an index and chains of superclasses

An index is ordered by its names (`pairwise_typeNames`).

A chain of superclasses ends where a type has none or where a name would come a second time.  `climb` finds it with a
bound on its length; the bound is never felt, since each step but the last uses up a name of the index
(`superclassChain_spec`).  As a set the chain is everything above the type (`mem_superclassChain`), however the
superclasses run in circles.
-/

namespace TagCheck

namespace Index

/-! ### Names -/

theorem contains_iff {ix : Index} {name : String} : ix.contains name = true ↔ name ∈ ix.types.map Prod.fst :=
  isSome_lookup_iff

theorem mem_typeNames {ix : Index} {name : String} : name ∈ ix.typeNames ↔ ix.contains name = true := by
  rw [typeNames, List.mem_mergeSort, contains_iff]

theorem typeNames_eq_insertionSort (ix : Index) :
    ix.typeNames = (ix.types.map Prod.fst).insertionSort (· ≤ ·) :=
  List.mergeSort_eq_insertionSort (· ≤ ·) _

theorem pairwise_typeNames (ix : Index) : ix.typeNames.Pairwise (· ≤ ·) :=
  List.pairwise_mergeSort' (· ≤ ·) _

theorem contains_owner {s : Snapshot} {m : MethodDecl} {owner : String} (hm : m ∈ s.methods)
    (howner : m.owner = some owner) : (ofSnapshot s).contains owner = true :=
  contains_ofSnapshot_iff.2 (Or.inl ⟨m, hm, howner⟩)

/-! ### Names that are left -/

/-- The number of names of the index that are not in the list. -/
def unseen (ix : Index) (seen : List String) : Nat :=
  ((ix.types.map Prod.fst).filter fun name => name ∉ seen).length

theorem unseen_le (ix : Index) (seen : List String) : ix.unseen seen ≤ ix.types.length := by
  have h := List.length_filter_le (fun name => decide (name ∉ seen)) (ix.types.map Prod.fst)
  rwa [List.length_map] at h

theorem unseen_cons_lt {ix : Index} {seen : List String} {name : String} (h : ix.contains name = true)
    (hn : name ∉ seen) : ix.unseen (name :: seen) < ix.unseen seen := by
  have hsplit : (ix.types.map Prod.fst).filter (fun a => decide (a ∉ name :: seen)) =
      ((ix.types.map Prod.fst).filter (fun a => decide (a ∉ seen))).filter (fun a => decide (a ≠ name)) := by
    rw [List.filter_filter]
    congr 1
    funext a
    simp
  rw [unseen, unseen, hsplit, List.length_filter_lt_length_iff_exists]
  refine ⟨name, ?_, by simp⟩
  simp [hn, contains_iff.1 h]

theorem contains_of_superclass {ix : Index} {a b : String} (h : ix.superclass? a = some b) :
    ix.contains a = true := by
  rw [superclass?, Option.bind_eq_some_iff] at h
  obtain ⟨entry, he, -⟩ := h
  simp [contains, he]

theorem contains_of_mem_mixins {ix : Index} {a b : String} (h : b ∈ ix.mixins a) : ix.contains a = true := by
  unfold mixins at h
  cases he : ix.entry? a with
  | none => simp [he] at h
  | some entry => simp [contains, he]

/-! ### Chains of superclasses -/

/-- `b` is the superclass of `a`. -/
def Superclass (ix : Index) (a b : String) : Prop :=
  ix.superclass? a = some b

/-- A type and its superclasses, nearest first, cut at the first name that is there already. -/
structure IsSuperclassChain (ix : Index) (name : String) (chain : List String) : Prop where
  head : chain.head? = some name
  linked : chain.IsChain ix.Superclass
  nodup : chain.Nodup
  closed : ∀ a ∈ chain, ∀ b, ix.Superclass a b → b ∈ chain

private theorem head?_climb {ix : Index} {fuel : Nat} {seen : List String} {name : String} :
    ∀ b ∈ (ix.climb fuel seen name).head?, b = name := by
  intro b hb
  cases fuel with
  | zero => simp [climb] at hb
  | succ fuel =>
    unfold climb at hb
    split at hb
    · simp at hb
    · split at hb <;> simpa [eq_comm] using hb

private theorem climb_of_notMem (ix : Index) (fuel : Nat) {seen : List String} {name : String} (h : name ∉ seen) :
    ∃ rest, ix.climb (fuel + 1) seen name = name :: rest := by
  unfold climb
  rw [if_neg (by simpa using h)]
  split
  · exact ⟨_, rfl⟩
  · exact ⟨_, rfl⟩

private theorem climb_linked (ix : Index) (fuel : Nat) (seen : List String) (name : String) :
    (ix.climb fuel seen name).IsChain ix.Superclass := by
  induction fuel generalizing seen name with
  | zero => simp [climb]
  | succ fuel ih =>
    unfold climb
    split
    · simp
    · split
      · simp
      · rename_i superclass hs
        rw [List.isChain_cons]
        refine ⟨?_, ih _ _⟩
        intro b hb
        rw [head?_climb b hb]
        exact hs

private theorem notMem_seen_of_mem_climb {ix : Index} {fuel : Nat} {seen : List String} {name a : String}
    (h : a ∈ ix.climb fuel seen name) : a ∉ seen := by
  induction fuel generalizing seen name with
  | zero => simp [climb] at h
  | succ fuel ih =>
    unfold climb at h
    split at h
    · simp at h
    · rename_i hn
      have hn' : name ∉ seen := by simpa using hn
      split at h
      · rw [List.mem_singleton] at h
        exact h ▸ hn'
      · rcases List.mem_cons.1 h with rfl | h
        · exact hn'
        · exact fun hm => ih h (List.mem_cons_of_mem _ hm)

private theorem climb_nodup (ix : Index) (fuel : Nat) (seen : List String) (name : String) :
    (ix.climb fuel seen name).Nodup := by
  induction fuel generalizing seen name with
  | zero => simp [climb]
  | succ fuel ih =>
    unfold climb
    split
    · simp
    · split
      · simp
      · rw [List.nodup_cons]
        exact ⟨fun h => notMem_seen_of_mem_climb h (by simp), ih _ _⟩

/-- With a bound beyond the unseen names, a superclass is missing only if it has been seen. -/
private theorem climb_closed {ix : Index} {fuel : Nat} {seen : List String} {name a b : String}
    (hf : ix.unseen seen + 2 ≤ fuel) (ha : a ∈ ix.climb fuel seen name) (hab : ix.Superclass a b) :
    b ∈ seen ∨ b ∈ ix.climb fuel seen name := by
  induction fuel generalizing seen name with
  | zero => omega
  | succ fuel ih =>
    unfold climb at ha ⊢
    split at ha
    · simp at ha
    · rename_i hn
      rw [if_neg hn]
      have hn' : name ∉ seen := by simpa using hn
      split at ha
      · rename_i hs
        rw [List.mem_singleton] at ha
        subst ha
        simp [Superclass, hs] at hab
      · rename_i superclass hs
        have hlt := unseen_cons_lt (contains_of_superclass hs) hn'
        rcases List.mem_cons.1 ha with rfl | ha
        · obtain rfl : superclass = b := Option.some.inj (hs.symm.trans hab)
          by_cases hb : superclass ∈ a :: seen
          · rcases List.mem_cons.1 hb with hb | hb
            · exact Or.inr (by simp [hb])
            · exact Or.inl hb
          · obtain ⟨k, rfl⟩ : ∃ k, fuel = k + 1 := ⟨fuel - 1, by omega⟩
            obtain ⟨rest, hrest⟩ := climb_of_notMem ix k hb
            exact Or.inr (by simp [hrest])
        · rcases ih (by omega) ha with hb | hb
          · rcases List.mem_cons.1 hb with rfl | hb
            · exact Or.inr (by simp)
            · exact Or.inl hb
          · exact Or.inr (by simp [hb])

theorem superclassChain_spec (ix : Index) (name : String) : ix.IsSuperclassChain name (ix.superclassChain name) where
  head := by
    obtain ⟨rest, hrest⟩ := climb_of_notMem ix (ix.types.length + 1) (List.not_mem_nil (a := name))
    rw [superclassChain, hrest, List.head?_cons]
  linked := climb_linked ix _ _ _
  nodup := climb_nodup ix _ _ _
  closed := by
    intro a ha b hab
    have hf : ix.unseen [] + 2 ≤ ix.types.length + 2 := Nat.add_le_add_right (ix.unseen_le []) 2
    rcases climb_closed hf ha hab with h | h
    · simp at h
    · exact h

/-- Of two chains from the same type the one continues the other. -/
private theorem prefix_or_prefix_of_isChain {ix : Index} {name : String} {chain chain' : List String}
    (h : (name :: chain).IsChain ix.Superclass) (h' : (name :: chain').IsChain ix.Superclass) :
    chain <+: chain' ∨ chain' <+: chain := by
  induction chain generalizing name chain' with
  | nil => exact Or.inl List.nil_prefix
  | cons next chain ih =>
    cases chain' with
    | nil => exact Or.inr List.nil_prefix
    | cons next' chain' =>
      obtain rfl : next = next' := Option.some.inj (h.rel.symm.trans h'.rel)
      rcases ih h.tail h'.tail with hfront | hfront
      · exact Or.inl ((List.prefix_cons_inj next).2 hfront)
      · exact Or.inr ((List.prefix_cons_inj next).2 hfront)

/-- A chain cannot go on where it is closed. -/
private theorem IsSuperclassChain.eq_of_front {ix : Index} {name : String} {chain chain' : List String}
    (h : ix.IsSuperclassChain name chain) (h' : ix.IsSuperclassChain name chain') (hfront : chain <+: chain') :
    chain = chain' := by
  obtain ⟨more, rfl⟩ := hfront
  cases more with
  | nil => rw [List.append_nil]
  | cons next more =>
    obtain ⟨last, hlast⟩ : ∃ last, chain.getLast? = some last := by
      obtain ⟨rest, rfl⟩ := List.head?_eq_some_iff.1 h.head
      exact ⟨_, List.getLast?_eq_some_getLast (List.cons_ne_nil name rest)⟩
    have hlink : ix.Superclass last next := (List.isChain_append.1 h'.linked).2.2 last hlast next rfl
    have hnext : next ∈ chain := h.closed last (List.mem_of_getLast? hlast) next hlink
    exact absurd rfl ((List.nodup_append.1 h'.nodup).2.2 next hnext next List.mem_cons_self)

/-- A type has one chain of superclasses. -/
theorem IsSuperclassChain.unique {ix : Index} {name : String} {chain chain' : List String}
    (h : ix.IsSuperclassChain name chain) (h' : ix.IsSuperclassChain name chain') : chain = chain' := by
  obtain ⟨above, rfl⟩ := List.head?_eq_some_iff.1 h.head
  obtain ⟨above', rfl⟩ := List.head?_eq_some_iff.1 h'.head
  rcases prefix_or_prefix_of_isChain h.linked h'.linked with hfront | hfront
  · exact h.eq_of_front h' ((List.prefix_cons_inj name).2 hfront)
  · exact (h'.eq_of_front h ((List.prefix_cons_inj name).2 hfront)).symm

theorem self_mem_superclassChain (ix : Index) (name : String) : name ∈ ix.superclassChain name :=
  List.mem_of_head? (superclassChain_spec ix name).head

private theorem above_of_isChain {ix : Index} {name a : String} {chain : List String}
    (hl : (name :: chain).IsChain ix.Superclass) (ha : a ∈ name :: chain) :
    Relation.ReflTransGen ix.Superclass name a := by
  induction chain generalizing name with
  | nil => rw [List.mem_singleton.1 ha]
  | cons next chain ih =>
    rcases List.mem_cons.1 ha with rfl | ha
    · exact .refl
    · exact .head hl.rel (ih hl.tail ha)

/-- The chain holds a type and everything above it. -/
theorem mem_superclassChain {ix : Index} {name a : String} :
    a ∈ ix.superclassChain name ↔ Relation.ReflTransGen ix.Superclass name a := by
  have spec := superclassChain_spec ix name
  constructor
  · intro ha
    obtain ⟨chain, hchain⟩ : ∃ chain, ix.superclassChain name = name :: chain := List.head?_eq_some_iff.1 spec.head
    have hl := spec.linked
    rw [hchain] at hl ha
    exact above_of_isChain hl ha
  · intro h
    induction h with
    | refl => exact self_mem_superclassChain ix name
    | tail _ hab ih => exact spec.closed _ ih _ hab

end Index

end TagCheck
