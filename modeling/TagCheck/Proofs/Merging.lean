import TagCheck.DocType.Parser
import TagCheck.Proofs.Distinct

/-!
# The algebra of merging

Types form an ordered set under merging: the order in which types are merged matters, the grouping does not, and a type
that has been merged before adds nothing when it comes again (`DocType.isOrderedUnion_merge`).  All of this goes back to
lists that grow without repeats.  So texts that are read together may be read in parts (`DocType.mergeAll_append`), and
what is inferred in several places may be joined in any grouping (`Inferred.join_assoc`).
-/

namespace TagCheck

/-- An associative operation with a unit and a zero, where a value that came before changes nothing if it comes again. -/
structure IsOrderedUnion {α : Type} (op : α → α → α) (unit zero : α) : Prop where
  assoc : ∀ a b c, op (op a b) c = op a (op b c)
  unit_left : ∀ a, op unit a = a
  unit_right : ∀ a, op a unit = a
  zero_left : ∀ a, op zero a = zero
  zero_right : ∀ a, op a zero = zero
  self : ∀ a, op a a = a
  again : ∀ a b, op (op a b) a = op a b

namespace IsOrderedUnion

variable {α : Type} {op : α → α → α} {unit zero : α}

/-- To go on from a value is to put it in front of what the rest gives by itself. -/
theorem foldl_eq (h : IsOrderedUnion op unit zero) (a : α) (bs : List α) : bs.foldl op a = op a (bs.foldl op unit) := by
  induction bs generalizing a with
  | nil => exact (h.unit_right a).symm
  | cons b bs ih =>
    rw [List.foldl_cons, List.foldl_cons, h.unit_left, ih (op a b), ih b]
    exact h.assoc a b _

theorem foldl_append (h : IsOrderedUnion op unit zero) (as bs : List α) :
    (as ++ bs).foldl op unit = op (as.foldl op unit) (bs.foldl op unit) := by
  rw [List.foldl_append]
  exact h.foldl_eq _ bs

end IsOrderedUnion

namespace DocType

theorem merge_assoc (t u v : DocType) : (t.merge u).merge v = t.merge (u.merge v) := by
  cases t with
  | absent => rfl
  | void => rw [void_merge, void_merge, void_merge]
  | union vs =>
    cases u with
    | absent => rfl
    | void => rw [merge_void, void_merge, merge_void]
    | union ws =>
      cases v with
      | absent => rfl
      | void => rw [merge_void, merge_void, merge_void]
      | union xs =>
        -- what the second and the third list have in common is left out early or late
        have hlists : appendNew (appendNew vs ws) xs = appendNew vs (appendNew ws xs) := by
          rw [appendNew_appendNew, appendNew_append]
        exact congrArg union hlists

/-- A type that has been merged already adds nothing. -/
theorem merge_merge_self (t u : DocType) : (t.merge u).merge t = t.merge u := by
  cases t with
  | absent => exact merge_absent u
  | void => rw [void_merge, void_merge]
  | union vs =>
    cases u with
    | absent => exact congrArg union (appendNew_of_subset (List.Subset.refl vs))
    | void => rw [merge_void, void_merge]
    | union ws => exact congrArg union (appendNew_of_subset (prefix_appendNew vs ws).subset)

theorem isOrderedUnion_merge : IsOrderedUnion merge .absent .void where
  assoc := merge_assoc
  unit_left _ := rfl
  unit_right := merge_absent
  zero_left := void_merge
  zero_right := merge_void
  self t := by simpa only [merge_absent] using t.merge_merge_self .absent
  again := merge_merge_self

theorem mergeAll_append (ts us : List DocType) : mergeAll (ts ++ us) = (mergeAll ts).merge (mergeAll us) :=
  isOrderedUnion_merge.foldl_append ts us

end DocType

namespace Inferred

theorem join_assoc (i j k : Inferred) : (i.join j).join k = i.join (j.join k) := by
  cases i with
  | undetermined => rfl
  | known t =>
    cases j with
    | undetermined => rfl
    | known u =>
      cases k with
      | undetermined => rfl
      | known v => exact congrArg known (t.merge_assoc u v)

end Inferred

/-- Merging is an ordered union with the absent type as its unit and the void type as its zero.  So texts that are read
together may be cut anywhere and read in two parts, and what is inferred in several places is joined in any grouping and
is open if one place is. -/
theorem merging_isOrderedUnion :
    IsOrderedUnion DocType.merge .absent .void ∧
    (∀ xs ys : List String, DocType.parseAll (xs ++ ys) = (DocType.parseAll xs).merge (DocType.parseAll ys)) ∧
    (∀ i j k : Inferred, (i.join j).join k = i.join (j.join k)) ∧
    ∀ i : Inferred, Inferred.undetermined.join i = .undetermined ∧ i.join .undetermined = .undetermined := by
  refine ⟨DocType.isOrderedUnion_merge, ?_, Inferred.join_assoc, ?_⟩
  · intro xs ys
    rw [DocType.parseAll, List.map_append]
    exact DocType.mergeAll_append _ _
  · exact fun i => ⟨i.undetermined_join, i.join_undetermined⟩

/-- The repeats of the first type stay and those of the second do not, so that the order matters. -/
example :
    let t : DocType := .union [.named "Integer", .named "Integer"]
    let u : DocType := .union [.named "nil", .named "Integer", .named "nil"]
    t.merge u = .union [.named "Integer", .named "Integer", .named "nil"] ∧
      u.merge t = .union [.named "nil", .named "Integer", .named "nil"] := by
  decide +kernel

end TagCheck
