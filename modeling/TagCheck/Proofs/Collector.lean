import TagCheck.Problem.Collector
import Mathlib.Data.List.Sort
import Mathlib.Data.String.Basic

/-!
# What a collector lists

Problems are listed in a stable order, and of several problems with one key the first is kept.  Both steps look at a
problem and at those that are like it, and at no others.  So a part of the problems may be picked out before they are
collected or afterwards, as long as problems of one key are picked together (`Collector.filter_listing`).
-/

namespace TagCheck

/-! ### Stable sorting -/

section Sorting

variable {α : Type} {le : α → α → Bool}

/-- The first element of a list goes before those that it may precede and after all others. -/
theorem mergeSort_cons_eq_filter (trans : ∀ a b c, le a b = true → le b c = true → le a c = true)
    (total : ∀ a b, (le a b || le b a) = true) (a : α) (l : List α) :
    (a :: l).mergeSort le =
      (l.mergeSort le).filter (fun b => !le a b) ++ a :: (l.mergeSort le).filter (fun b => le a b) := by
  obtain ⟨before, after, hcons, hsort, hbefore⟩ := List.mergeSort_cons trans total a l
  have hsorted := List.pairwise_mergeSort trans total (a :: l)
  rw [hcons, List.pairwise_append, List.pairwise_cons] at hsorted
  have hafter : ∀ b ∈ after, le a b = true := hsorted.2.1.1
  have hfront : (before ++ after).filter (fun b => !le a b) = before := by
    rw [List.filter_append, List.filter_eq_self.2 hbefore, List.filter_eq_nil_iff.2, List.append_nil]
    intro b hb
    simp [hafter b hb]
  have hback : (before ++ after).filter (fun b => le a b) = after := by
    rw [List.filter_append, List.filter_eq_self.2 hafter, List.filter_eq_nil_iff.2, List.nil_append]
    intro b hb
    simpa using hbefore b hb
  rw [hcons, hsort, hfront, hback]

/-- The sorted list, element by element, in a form that can be computed. -/
theorem mergeSort_eq_foldr (trans : ∀ a b c, le a b = true → le b c = true → le a c = true)
    (total : ∀ a b, (le a b || le b a) = true) (l : List α) :
    l.mergeSort le =
      l.foldr (fun a sorted => sorted.filter (fun b => !le a b) ++ a :: sorted.filter fun b => le a b) [] := by
  induction l with
  | nil => simp
  | cons a l ih => rw [mergeSort_cons_eq_filter trans total, ih, List.foldr_cons]

theorem filter_mergeSort (trans : ∀ a b c, le a b = true → le b c = true → le a c = true)
    (total : ∀ a b, (le a b || le b a) = true) (q : α → Bool) (l : List α) :
    (l.mergeSort le).filter q = (l.filter q).mergeSort le := by
  induction l with
  | nil => simp
  | cons a l ih =>
    cases ha : q a with
    | false =>
      obtain ⟨before, after, hcons, hsort, -⟩ := List.mergeSort_cons trans total a l
      rw [List.filter_cons_of_neg (by simp [ha]), ← ih, hcons, hsort, List.filter_append, List.filter_append,
        List.filter_cons_of_neg (by simp [ha])]
    | true =>
      -- what goes before `a` and what goes after it may be picked first
      have hswap : ∀ p : α → Bool,
          ((l.mergeSort le).filter p).filter q = ((l.filter q).mergeSort le).filter p := by
        intro p
        rw [← ih, List.filter_filter, List.filter_filter]
        simp only [Bool.and_comm]
      rw [List.filter_cons_of_pos ha, mergeSort_cons_eq_filter trans total, mergeSort_cons_eq_filter trans total,
        List.filter_append, List.filter_cons_of_pos ha, hswap, hswap]

end Sorting

namespace Collector

theorem precedes_trans (a b c : Problem) (hab : precedes a b = true) (hbc : precedes b c = true) :
    precedes a c = true := by
  simp only [precedes, Bool.or_eq_true, Bool.and_eq_true, decide_eq_true_eq, beq_iff_eq] at hab hbc ⊢
  rcases hab with hab | ⟨hab, hab'⟩
  · left
    rcases hbc with hbc | ⟨hbc, -⟩
    · exact UInt32.lt_trans hab hbc
    · exact hbc ▸ hab
  · rw [hab]
    rcases hbc with hbc | ⟨hbc, hbc'⟩
    · exact Or.inl hbc
    · exact Or.inr ⟨hbc, le_trans hab' hbc'⟩

theorem precedes_total (a b : Problem) : (precedes a b || precedes b a) = true := by
  simp only [precedes, Bool.or_eq_true, Bool.and_eq_true, decide_eq_true_eq, beq_iff_eq]
  rcases Nat.lt_trichotomy a.location.span.start.toNat b.location.span.start.toNat with h | h | h
  · exact Or.inl (Or.inl (UInt32.lt_iff_toNat_lt.2 h))
  · have h := UInt32.toNat_inj.1 h
    rcases le_total a.code b.code with hcode | hcode
    · exact Or.inl (Or.inr ⟨h, hcode⟩)
    · exact Or.inr (Or.inr ⟨h.symm, hcode⟩)
  · exact Or.inr (Or.inl (UInt32.lt_iff_toNat_lt.2 h))

/-! ### Collecting -/

/-- A problem is new if none with its key was found. -/
theorem fst_push {c : Collector} {p : Problem} : (c.push p).1 = true ↔ ∀ a ∈ c.found, a.key ≠ p.key := by
  unfold push
  split
  next hseen =>
    obtain ⟨a, ha, hkey⟩ := (c.mem_seen_iff p.key).1 (List.contains_iff_mem.1 hseen)
    simpa using ⟨a, ha, hkey⟩
  next hseen =>
    rw [List.contains_iff_mem, c.mem_seen_iff] at hseen
    simpa using hseen

theorem found_push (c : Collector) (p : Problem) :
    (c.push p).2.found = if (c.push p).1 then p :: c.found else c.found := by
  unfold push
  split <;> rfl

/-- The collector with more problems, from left to right. -/
def pushAll (c : Collector) (ps : List Problem) : Collector :=
  ps.foldl (fun c p => (c.push p).2) c

theorem pushAll_cons (c : Collector) (p : Problem) (ps : List Problem) :
    c.pushAll (p :: ps) = (c.push p).2.pushAll ps := rfl

theorem pushAll_append (c : Collector) (ps qs : List Problem) : c.pushAll (ps ++ qs) = (c.pushAll ps).pushAll qs :=
  List.foldl_append

theorem mem_found_push {c : Collector} {p a : Problem} (h : a ∈ (c.push p).2.found) : a = p ∨ a ∈ c.found := by
  rw [found_push] at h
  split at h
  · exact List.mem_cons.1 h
  · exact Or.inr h

/-- The picked part after one more problem: it grows if the problem is picked. -/
private theorem filter_found_push {q : Problem → Bool} {c d : Collector} {p : Problem}
    (hd : d.found = c.found.filter q) (hq : ∀ a ∈ c.found, a.key = p.key → q a = q p) :
    (if q p then (d.push p).2 else d).found = (c.push p).2.found.filter q := by
  cases hp : q p with
  | false =>
    rw [if_neg (by simp), hd, found_push]
    split
    · rw [List.filter_cons_of_neg (by simp [hp])]
    · rfl
  | true =>
    -- a problem with the same key would be picked too
    have hnew : (d.push p).1 = (c.push p).1 := by
      rw [Bool.eq_iff_iff, fst_push, fst_push, hd]
      constructor
      · intro h a ha hkey
        exact h a (List.mem_filter.2 ⟨ha, (hq a ha hkey).trans hp⟩) hkey
      · intro h a ha
        exact h a (List.mem_filter.1 ha).1
    rw [if_pos rfl, found_push, found_push, hnew, hd]
    split
    · rw [List.filter_cons_of_pos hp]
    · rfl

/-- Problems that are picked by their keys are collected apart from the others. -/
private theorem filter_found_pushAll {q : Problem → Bool} {c d : Collector} {ps : List Problem}
    (hd : d.found = c.found.filter q) (hq : ∀ a ∈ c.found ++ ps, ∀ b ∈ ps, a.key = b.key → q a = q b) :
    (d.pushAll (ps.filter q)).found = (c.pushAll ps).found.filter q := by
  induction ps generalizing c d with
  | nil => exact hd
  | cons p ps ih =>
    have hrest : ∀ a ∈ (c.push p).2.found ++ ps, ∀ b ∈ ps, a.key = b.key → q a = q b := by
      intro a ha b hb
      apply hq a ?_ b (List.mem_cons_of_mem p hb)
      rcases List.mem_append.1 ha with ha | ha
      · rcases mem_found_push ha with rfl | ha
        · simp
        · exact List.mem_append_left _ ha
      · simp [ha]
    have hstep := filter_found_push hd fun a ha hkey =>
      hq a (List.mem_append_left _ ha) p List.mem_cons_self hkey
    rw [pushAll_cons, ← ih hstep hrest]
    cases hp : q p with
    | true => rw [if_pos rfl, List.filter_cons_of_pos hp, pushAll_cons]
    | false => rw [if_neg (by simp), List.filter_cons_of_neg (by simp [hp])]

/-- The problems that a collector lists after all of the given ones. -/
def listing (ps : List Problem) : List Problem :=
  (pushAll {} ps).problems

/-- Of the listed problems those that are picked by their keys are listed as if there were no others. -/
theorem filter_listing {q : Problem → Bool} {ps : List Problem}
    (hq : ∀ a ∈ ps, ∀ b ∈ ps, a.key = b.key → q a = q b) : (listing ps).filter q = listing (ps.filter q) := by
  have hfound := filter_found_pushAll (c := {}) (d := {}) rfl hq
  rw [listing, listing, problems, problems, filter_mergeSort precedes_trans precedes_total, List.filter_reverse, hfound]

private theorem mem_of_mem_found_pushAll {c : Collector} {ps : List Problem} {a : Problem}
    (h : a ∈ (c.pushAll ps).found) : a ∈ c.found ∨ a ∈ ps := by
  induction ps generalizing c with
  | nil => exact Or.inl h
  | cons p ps ih =>
    rcases ih (c := (c.push p).2) h with h | h
    · rcases mem_found_push h with rfl | h
      · exact Or.inr List.mem_cons_self
      · exact Or.inl h
    · exact Or.inr (List.mem_cons_of_mem p h)

theorem mem_of_mem_listing {ps : List Problem} {a : Problem} (h : a ∈ listing ps) : a ∈ ps := by
  rw [listing, problems, List.mem_mergeSort, List.mem_reverse] at h
  rcases mem_of_mem_found_pushAll h with h | h
  · cases h
  · exact h

/-! ### Keys of the listed problems -/

theorem found_subset_push (c : Collector) (p : Problem) : c.found ⊆ (c.push p).2.found := by
  rw [found_push]
  split
  · exact List.subset_cons_self p c.found
  · exact List.Subset.refl _

theorem exists_key_push (c : Collector) (p : Problem) : ∃ b ∈ (c.push p).2.found, b.key = p.key := by
  rw [found_push]
  split
  next => exact ⟨p, List.mem_cons_self, rfl⟩
  next hseen => simpa [fst_push] using hseen

private theorem found_subset_pushAll (c : Collector) (ps : List Problem) : c.found ⊆ (c.pushAll ps).found := by
  induction ps generalizing c with
  | nil => exact List.Subset.refl _
  | cons p ps ih => exact List.Subset.trans (c.found_subset_push p) (ih (c.push p).2)

private theorem exists_key_pushAll (c : Collector) {ps : List Problem} {a : Problem} (h : a ∈ ps) :
    ∃ b ∈ (c.pushAll ps).found, b.key = a.key := by
  induction ps generalizing c with
  | nil => cases h
  | cons p ps ih =>
    rcases List.mem_cons.1 h with rfl | h
    · obtain ⟨b, hb, hkey⟩ := c.exists_key_push a
      exact ⟨b, found_subset_pushAll (c.push a).2 ps hb, hkey⟩
    · exact ih (c.push p).2 h

/-- For every problem one of its key is listed. -/
theorem exists_mem_listing {ps : List Problem} {a : Problem} (h : a ∈ ps) : ∃ b ∈ listing ps, b.key = a.key := by
  obtain ⟨b, hb, hkey⟩ := exists_key_pushAll {} h
  refine ⟨b, ?_, hkey⟩
  rwa [listing, problems, List.mem_mergeSort, List.mem_reverse]

theorem nodup_keys_push {c : Collector} (h : (c.found.map Problem.key).Nodup) (p : Problem) :
    ((c.push p).2.found.map Problem.key).Nodup := by
  rw [found_push]
  split
  next hnew =>
    rw [List.map_cons, List.nodup_cons]
    refine ⟨?_, h⟩
    intro hmem
    obtain ⟨a, ha, hkey⟩ := List.mem_map.1 hmem
    exact fst_push.1 hnew a ha hkey
  next => exact h

/-- No key is listed twice. -/
theorem nodup_keys_listing (ps : List Problem) : ((listing ps).map Problem.key).Nodup := by
  have hfound : ∀ c : Collector, (c.found.map Problem.key).Nodup → ((c.pushAll ps).found.map Problem.key).Nodup := by
    induction ps with
    | nil => exact fun c h => h
    | cons p ps ih => exact fun c h => ih (c.push p).2 (nodup_keys_push h p)
  have hperm : ((listing ps).map Problem.key).Perm (((pushAll {} ps).found.map Problem.key).reverse) := by
    rw [← List.map_reverse]
    exact (List.mergeSort_perm _ _).map Problem.key
  rw [hperm.nodup_iff, List.nodup_reverse]
  exact hfound {} List.nodup_nil

/-- Of the problems with one key exactly one is listed. -/
theorem filter_key_listing {ps : List Problem} {a : Problem} (h : a ∈ ps) :
    ∃ b, (listing ps).filter (fun p => p.key == a.key) = [b] := by
  obtain ⟨b, hb, hkey⟩ := exists_mem_listing h
  have hcount : (((listing ps).map Problem.key).filter (· == a.key)).length = 1 := by
    rw [← List.countP_eq_length_filter]
    refine List.count_eq_one_of_mem (nodup_keys_listing ps) ?_
    exact List.mem_map.2 ⟨b, hb, hkey⟩
  rw [List.filter_map, List.length_map] at hcount
  exact List.length_eq_one_iff.1 hcount

theorem listing_eq_foldr (ps : List Problem) :
    listing ps = (pushAll {} ps).found.reverse.foldr
      (fun a sorted => sorted.filter (fun b => !precedes a b) ++ a :: sorted.filter fun b => precedes a b) [] := by
  rw [listing, problems, mergeSort_eq_foldr precedes_trans precedes_total]

theorem listing_nil : listing [] = [] := by
  simp [listing, pushAll, problems]

theorem listing_singleton (p : Problem) : listing [p] = [p] := by
  simp [listing, pushAll, push, problems]

end Collector

end TagCheck
