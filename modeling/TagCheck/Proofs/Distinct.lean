import TagCheck.Distinct
import Mathlib.Data.List.Induction
import Mathlib.Data.List.Nodup

/-!
# Growing a list without repeats

Basic behaviour of `appendNew` and `distinct`: what the result holds, that the first list stays in front of it and
that nothing occurs twice.  Adding a list that has itself grown this way is adding its parts one after the other
(`appendNew_appendNew`), so that de-duplication may be done early or late.  Two lists that grow towards a
third are compared by `Ahead`: the one that is ahead need not grow by the same elements to stay ahead.  The elements of
a list without repeats stand in the order in which they come first (`firstOccurrences_distinct`).
-/

namespace TagCheck

variable {α : Type} [DecidableEq α]

theorem mem_insertNew {a b : α} {as : List α} : a ∈ insertNew as b ↔ a ∈ as ∨ a = b := by
  unfold insertNew
  split
  · rename_i hb
    constructor
    · exact Or.inl
    · rintro (h | rfl)
      · exact h
      · exact hb
  · simp

theorem insertNew_of_mem {a : α} {as : List α} (h : a ∈ as) : insertNew as a = as := by
  simp [insertNew, h]

theorem insertNew_of_notMem {a : α} {as : List α} (h : a ∉ as) : insertNew as a = as ++ [a] := by
  simp [insertNew, h]

theorem appendNew_nil (as : List α) : appendNew as [] = as := rfl

theorem appendNew_cons (as : List α) (b : α) (bs : List α) :
    appendNew as (b :: bs) = appendNew (insertNew as b) bs := rfl

theorem appendNew_append (as bs cs : List α) : appendNew as (bs ++ cs) = appendNew (appendNew as bs) cs :=
  List.foldl_append

@[simp] theorem mem_appendNew {a : α} {as bs : List α} : a ∈ appendNew as bs ↔ a ∈ as ∨ a ∈ bs := by
  induction bs generalizing as with
  | nil => simp [appendNew_nil]
  | cons b bs ih =>
    rw [appendNew_cons, ih, mem_insertNew, List.mem_cons]
    exact or_assoc

theorem nodup_appendNew {as : List α} (h : as.Nodup) (bs : List α) : (appendNew as bs).Nodup := by
  induction bs generalizing as with
  | nil => exact h
  | cons b bs ih =>
    apply ih
    by_cases hb : b ∈ as
    · rwa [insertNew_of_mem hb]
    · rw [insertNew_of_notMem hb, ← List.concat_eq_append]
      exact h.concat hb

theorem prefix_appendNew (as bs : List α) : as <+: appendNew as bs := by
  induction bs generalizing as with
  | nil => exact List.prefix_rfl
  | cons b bs ih =>
    refine List.IsPrefix.trans ?_ (ih (insertNew as b))
    by_cases hb : b ∈ as
    · simp [insertNew_of_mem hb]
    · simp [insertNew_of_notMem hb]

/-- Nothing changes if everything is there already. -/
theorem appendNew_of_subset {as bs : List α} (h : bs ⊆ as) : appendNew as bs = as := by
  induction bs with
  | nil => rfl
  | cons b bs ih =>
    rw [List.cons_subset] at h
    rw [appendNew_cons, insertNew_of_mem h.1, ih h.2]

/-- Elements that are all new are added as they stand. -/
theorem appendNew_of_nodup {as bs : List α} (h : (as ++ bs).Nodup) : appendNew as bs = as ++ bs := by
  induction bs generalizing as with
  | nil => simp [appendNew_nil]
  | cons b bs ih =>
    rw [List.append_cons] at h
    have hb : b ∉ as := by
      have := (List.nodup_append.1 h).1
      rw [List.nodup_append] at this
      exact fun hm => this.2.2 b hm b (by simp) rfl
    rw [appendNew_cons, insertNew_of_notMem hb, ih h, List.append_assoc, List.singleton_append]

/-- A list that has grown out of two others adds what these add in turn. -/
theorem appendNew_appendNew (as bs cs : List α) : appendNew as (appendNew bs cs) = appendNew as (bs ++ cs) := by
  induction cs generalizing bs with
  | nil => simp [appendNew_nil]
  | cons c cs ih =>
    rw [appendNew_cons, ih]
    by_cases hc : c ∈ bs
    · have hmem : c ∈ appendNew as bs := mem_appendNew.2 (Or.inr hc)
      rw [insertNew_of_mem hc, appendNew_append, appendNew_append as bs, appendNew_cons,
        insertNew_of_mem hmem]
    · rw [insertNew_of_notMem hc, List.append_assoc, List.singleton_append]

/-- A list that grows by the whole of which it is the front becomes that whole. -/
theorem appendNew_eq_right {as bs : List α} (h : as <+: bs) (hbs : bs.Nodup) : appendNew as bs = bs := by
  obtain ⟨cs, rfl⟩ := h
  rw [appendNew_append, appendNew_of_subset (List.Subset.refl as), appendNew_of_nodup hbs]

private theorem insertNew_between {as bs ks : List α} {c : α} (has : as <+: bs) (hbs : bs <+: ks)
    (hc : insertNew as c <+: ks) : insertNew as c <+: insertNew bs c ∧ insertNew bs c <+: ks := by
  by_cases hmem : c ∈ as
  · rw [insertNew_of_mem hmem, insertNew_of_mem (has.subset hmem)]
    exact ⟨has, hbs⟩
  · obtain ⟨more, rfl⟩ := has
    cases more with
    | nil =>
      rw [List.append_nil]
      exact ⟨List.prefix_rfl, hc⟩
    | cons d more =>
      -- what comes after `as` in `ks` is both `c` and the next element of `bs`
      rw [insertNew_of_notMem hmem] at hc ⊢
      have hnext : as ++ [c] <+: as ++ d :: more := List.prefix_of_prefix_length_le hc hbs (by simp)
      rw [insertNew_of_mem (hnext.subset (by simp))]
      exact ⟨hnext, hbs⟩

theorem appendNew_between {as bs cs ks : List α} (has : as <+: bs) (hbs : bs <+: ks) (hcs : appendNew as cs <+: ks) :
    appendNew as cs <+: appendNew bs cs ∧ appendNew bs cs <+: ks := by
  induction cs generalizing as bs with
  | nil => exact ⟨has, hbs⟩
  | cons c cs ih =>
    rw [appendNew_cons] at hcs
    obtain ⟨has', hbs'⟩ := insertNew_between has hbs ((prefix_appendNew _ cs).trans hcs)
    exact ih has' hbs' hcs

/-! ### Growing towards a list -/

/-- Of two lists on the way to `ks`, the one that is ahead stays ahead and on the way if it grows by `hs` while the
other one grows by `gs`. -/
def Ahead (ks gs hs : List α) : Prop :=
  ∀ as bs, as <+: bs → bs <+: ks → appendNew as gs <+: ks →
    appendNew as gs <+: appendNew bs hs ∧ appendNew bs hs <+: ks

namespace Ahead

variable {ks gs gs' hs hs' : List α}

theorem refl (ks gs : List α) : Ahead ks gs gs :=
  fun _ _ => appendNew_between

/-- Whatever is on the way to `ks` arrives there by growing by `ks` itself. -/
theorem whole (h : ks.Nodup) : Ahead ks [] ks := by
  intro as bs has hbs _
  rw [appendNew_eq_right hbs h]
  exact ⟨has.trans hbs, List.prefix_rfl⟩

theorem append (h : Ahead ks gs hs) (h' : Ahead ks gs' hs') : Ahead ks (gs ++ gs') (hs ++ hs') := by
  intro as bs has hbs hend
  rw [appendNew_append] at hend ⊢
  rw [appendNew_append]
  obtain ⟨has', hbs'⟩ := h as bs has hbs ((prefix_appendNew _ gs').trans hend)
  exact h' _ _ has' hbs' hend

theorem flatMap {ms : List α} {g h : α → List α} (hms : ∀ m ∈ ms, Ahead ks (g m) (h m)) :
    Ahead ks (ms.flatMap g) (ms.flatMap h) := by
  induction ms with
  | nil => exact .refl ks []
  | cons m ms ih =>
    rw [List.forall_mem_cons] at hms
    rw [List.flatMap_cons, List.flatMap_cons]
    exact hms.1.append (ih hms.2)

theorem appendNew (h : Ahead ks gs hs) (cs : List α) : Ahead ks (appendNew cs gs) (appendNew cs hs) := by
  intro as bs
  rw [appendNew_appendNew, appendNew_appendNew]
  exact (Ahead.refl ks cs).append h as bs

/-- What ends at `ks` one way ends there the other way too. -/
theorem eq_appendNew {cs : List α} (h : Ahead ks gs hs) (hks : ks = TagCheck.appendNew cs gs) :
    ks = TagCheck.appendNew cs hs := by
  have hcs : cs <+: ks := hks ▸ prefix_appendNew cs gs
  obtain ⟨hle, hge⟩ := h cs cs List.prefix_rfl hcs (by simp [hks])
  rw [← hks] at hle
  exact hle.eq_of_length_le hge.length_le

end Ahead

/-! ### De-duplication -/

theorem distinct_of_nodup {as : List α} (h : as.Nodup) : distinct as = as :=
  appendNew_of_nodup (by simpa using h)

theorem distinct_append {as : List α} (h : as.Nodup) (bs : List α) : distinct (as ++ bs) = appendNew as bs := by
  have h' : appendNew [] as = as := distinct_of_nodup h
  rw [distinct, appendNew_append, h']

/-- A list grows by the first occurrences of what it does not hold yet. -/
theorem appendNew_eq_append (as bs : List α) : appendNew as bs = as ++ distinct (bs.filter fun b => b ∉ as) := by
  induction bs using List.reverseRecOn with
  | nil => exact (List.append_nil as).symm
  | append_singleton bs b ih =>
    have hgrown : ∀ cs : List α, distinct (cs ++ [b]) = insertNew (distinct cs) b := fun cs => appendNew_append [] cs [b]
    rw [appendNew_append, ih, List.filter_append, appendNew_cons, appendNew_nil]
    by_cases hb : b ∈ as
    · rw [insertNew_of_mem (List.mem_append_left _ hb), List.filter_cons_of_neg (by simp [hb]), List.filter_nil,
        List.append_nil]
    · rw [List.filter_cons_of_pos (by simp [hb]), List.filter_nil, hgrown]
      by_cases hnew : b ∈ distinct (bs.filter fun b => b ∉ as)
      · rw [insertNew_of_mem hnew, insertNew_of_mem (List.mem_append_right _ hnew)]
      · have hnone : b ∉ as ++ distinct (bs.filter fun b => b ∉ as) := fun h => (List.mem_append.1 h).elim hb hnew
        rw [insertNew_of_notMem hnew, insertNew_of_notMem hnone, List.append_assoc]

/-- The second list has the elements of the first, each once and in the order in which they come first. -/
structure FirstOccurrences (all firsts : List α) : Prop where
  mem_iff : ∀ a, a ∈ firsts ↔ a ∈ all
  ordered : firsts.Pairwise fun a b => all.idxOf a < all.idxOf b

theorem firstOccurrences_distinct (as : List α) : FirstOccurrences as (distinct as) where
  mem_iff := by simp [distinct]
  ordered := by
    induction as using List.reverseRecOn with
    | nil => exact .nil
    | append_singleton as b ih =>
      have hmem : ∀ a ∈ distinct as, a ∈ as := by simp [distinct]
      have hgrown : distinct (as ++ [b]) = insertNew (distinct as) b := appendNew_append [] as [b]
      -- what was there before keeps its place
      have hkept : (distinct as).Pairwise fun a c => (as ++ [b]).idxOf a < (as ++ [b]).idxOf c := by
        refine ih.imp_of_mem ?_
        intro a c ha hc hlt
        rwa [List.idxOf_append_of_mem (hmem a ha), List.idxOf_append_of_mem (hmem c hc)]
      rw [hgrown]
      by_cases hb : b ∈ distinct as
      · rwa [insertNew_of_mem hb]
      · have hnew : b ∉ as := fun h => hb (by simpa [distinct] using h)
        rw [insertNew_of_notMem hb, List.pairwise_append]
        refine ⟨hkept, List.pairwise_singleton _ _, ?_⟩
        intro a ha c hc
        rw [List.mem_singleton.1 hc, List.idxOf_append_of_mem (hmem a ha), List.idxOf_append_of_notMem hnew]
        have hlt := List.idxOf_lt_length_of_mem (hmem a ha)
        omega

end TagCheck
