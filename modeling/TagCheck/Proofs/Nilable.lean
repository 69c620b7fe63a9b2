import TagCheck.Proofs.Mismatch

/-!
# Two ways to write that a value may be nil

`String?` and `String, nil` say the same of a value, once by a mark and once by an alternative for nil.  Where a type is
asked for, it makes no difference which of the two is written.  Where a type is given, the mark is not read: written out,
the type may stand in more places, namely where nil may stand as well (`DocType.accepts_spelledOut`).
-/

namespace TagCheck

open Relation (ReflTransGen TransGen)

/-! ### Marks and alternatives for nil -/

namespace Variant

variable {a : Ancestry} {d n v : Variant}

/-- The alternative without the nilable mark. -/
def unmarked (v : Variant) : Variant :=
  { v with nilable := false }

/-- The alternative takes any value there is. -/
def TakesAnything (d : Variant) : Prop :=
  d.name ∈ ["Object", "BasicObject", "undefined"]

theorem satisfies_of_takesAnything (hd : d.TakesAnything) : d.satisfies a v = true := by
  unfold satisfies
  rw [if_pos (List.contains_iff_mem.2 hd)]

theorem TakesAnything.isNil_eq_false (hd : d.TakesAnything) : d.isNil = false := by
  simp only [TakesAnything, List.mem_cons, List.not_mem_nil, or_false] at hd
  rcases hd with hname | hname | hname <;> simp [isNil, hname]

/-- Nothing can be said against the values: they are of no known kind, or described by a method that they have. -/
def IsVague (v : Variant) : Prop :=
  v.name = "undefined" ∨ v.isDuck = true

instance (v : Variant) : Decidable v.IsVague :=
  inferInstanceAs (Decidable (_ ∨ _))

theorem isVague_iff : v.IsVague ↔ (v.name == "undefined" || v.isDuck) = true := by
  simp [IsVague]

theorem satisfies_of_isVague (hv : v.IsVague) : d.satisfies a v = true := by
  simp [satisfies, isVague_iff.1 hv]

theorem not_isVague_of_isNil (hv : v.isNil = true) : ¬ v.IsVague := by
  have hname : v.name = "nil" ∨ v.name = "NilClass" := by simpa [isNil] using hv
  have hvague : v.IsVague ↔ (named v.name).IsVague := Iff.rfl
  rw [hvague]
  rcases hname with hname | hname
  · rw [hname]
    decide
  · rw [hname]
    decide

/-- Nil may stand for an alternative that takes anything, that has the mark or that is for nil. -/
theorem satisfies_iff_of_isNil_right (hv : v.isNil = true) :
    d.satisfies a v = true ↔ d.TakesAnything ∨ d.nilable = true ∨ d.isNil = true := by
  have hvague : ¬ (v.name == "undefined" || v.isDuck) = true := mt isVague_iff.2 (not_isVague_of_isNil hv)
  by_cases hany : d.TakesAnything
  · simp [satisfies_of_takesAnything hany, hany]
  · have hcontains : ¬ ["Object", "BasicObject", "undefined"].contains d.name = true := mt List.contains_iff_mem.1 hany
    unfold satisfies
    rw [if_neg hcontains, if_neg hvague, if_pos hv]
    simp [hany]

/-- Besides values of which nothing can be said, only nil may stand for nil. -/
theorem satisfies_iff_of_isNil_left (hd : d.isNil = true) : d.satisfies a v = true ↔ v.IsVague ∨ v.isNil = true := by
  have hany : ¬ d.TakesAnything := by
    intro hany
    cases hd.symm.trans hany.isNil_eq_false
  by_cases hvague : v.IsVague
  · simp [satisfies_of_isVague hvague, hvague]
  · have hcontains : ¬ ["Object", "BasicObject", "undefined"].contains d.name = true := mt List.contains_iff_mem.1 hany
    unfold satisfies
    rw [if_neg hcontains, if_neg (mt isVague_iff.2 hvague), hd]
    simp [hvague]

theorem satisfies_unmarked_left (hv : v.isNil = false) : d.unmarked.satisfies a v = d.satisfies a v := by
  unfold satisfies
  rw [hv]
  rfl

/-- The mark and an alternative for nil take the same values. -/
theorem satisfies_iff_unmarked_or (hmark : d.nilable = true) (hn : n.isNil = true) :
    d.satisfies a v = true ↔ d.unmarked.satisfies a v = true ∨ n.satisfies a v = true := by
  rw [satisfies_iff_of_isNil_left hn]
  cases hv : v.isNil with
  | true =>
    have hmarked : d.satisfies a v = true := (satisfies_iff_of_isNil_right hv).2 (Or.inr (Or.inl hmark))
    simp [hmarked]
  | false =>
    rw [satisfies_unmarked_left hv]
    constructor
    · exact Or.inl
    · rintro (h | hvague | h)
      · exact h
      · exact satisfies_of_isVague hvague
      · cases h

end Variant

/-! ### Writing the mark out -/

/-- One alternative with the mark is written out as two: the same without the mark, and one for nil.  The order of the
alternatives does not matter. -/
inductive SpellsOut (vs vs' : List Variant) : Prop
  | mk {v n : Variant} {rest : List Variant} (hmark : v.nilable = true) (hnil : n.isNil = true)
      (hmarked : vs.Perm (v :: rest)) (hwritten : vs'.Perm (v.unmarked :: n :: rest))

namespace DocType

variable {a : Ancestry} {ds ds' vs vs' : List Variant}

theorem accepts_union_iff :
    (DocType.union ds).accepts a (.known (.union vs)) = true ↔ ∃ d ∈ ds, ∃ v ∈ vs, d.satisfies a v = true := by
  simp [accepts, isUnchecked, isAbsent, isVoid, variants]

/-- Where a type is asked for, it makes no difference whether a mark is written out. -/
theorem accepts_iff_of_spellsOut_left (h : SpellsOut ds ds') :
    (DocType.union ds').accepts a (.known (.union vs)) = true ↔
      (DocType.union ds).accepts a (.known (.union vs)) = true := by
  obtain @⟨d, n, rest, hmark, hnil, hmarked, hwritten⟩ := h
  have hsplit : (∃ v ∈ vs, d.satisfies a v = true) ↔
      (∃ v ∈ vs, d.unmarked.satisfies a v = true) ∨ ∃ v ∈ vs, n.satisfies a v = true := by
    simp only [Variant.satisfies_iff_unmarked_or hmark hnil, and_or_left, exists_or]
  simp only [accepts_union_iff, hmarked.mem_iff, hwritten.mem_iff, List.exists_mem_cons_iff, hsplit, or_assoc]

/-- Where a type is given, a mark that is written out adds that nil may be meant. -/
theorem accepts_iff_of_spellsOut_right (h : SpellsOut vs vs') :
    (DocType.union ds).accepts a (.known (.union vs')) = true ↔
      (DocType.union ds).accepts a (.known (.union vs)) = true ∨ ∃ d ∈ ds, d.nilable = true ∨ d.isNil = true := by
  obtain @⟨v, n, rest, -, hnil, hmarked, hwritten⟩ := h
  simp only [accepts_union_iff, hmarked.mem_iff, hwritten.mem_iff, List.exists_mem_cons_iff]
  constructor
  · rintro ⟨d, hd, hsame | hmeetsNil | hrest⟩
    · exact Or.inl ⟨d, hd, Or.inl hsame⟩
    · rcases (Variant.satisfies_iff_of_isNil_right hnil).1 hmeetsNil with hany | htakesNil
      · -- what takes anything takes the marked alternative too
        exact Or.inl ⟨d, hd, Or.inl (Variant.satisfies_of_takesAnything hany)⟩
      · exact Or.inr ⟨d, hd, htakesNil⟩
    · exact Or.inl ⟨d, hd, Or.inr hrest⟩
  · rintro (⟨d, hd, hsame | hrest⟩ | ⟨d, hd, htakesNil⟩)
    · exact ⟨d, hd, Or.inl hsame⟩
    · exact ⟨d, hd, Or.inr (Or.inr hrest)⟩
    · have hmeetsNil : d.satisfies a n = true := (Variant.satisfies_iff_of_isNil_right hnil).2 (Or.inr htakesNil)
      exact ⟨d, hd, Or.inr (Or.inl hmeetsNil)⟩

/-- Marks that are written out make no difference where a type is asked for.  Where it is given, they make one exactly
if an alternative that is asked for is marked or for nil while no alternative that is given meets any that is asked for:
then the type as it stands is turned down, and written out it is taken. -/
theorem accepts_spelledOut (a : Ancestry) (ds vs : List Variant) :
    (∀ ds', ReflTransGen SpellsOut ds ds' →
      (DocType.union ds').accepts a (.known (.union vs)) = (DocType.union ds).accepts a (.known (.union vs))) ∧
    ∀ vs', TransGen SpellsOut vs vs' →
      ((DocType.union ds).accepts a (.known (.union vs')) = true ↔
        (DocType.union ds).accepts a (.known (.union vs)) = true ∨ ∃ d ∈ ds, d.nilable = true ∨ d.isNil = true) := by
  constructor
  · intro ds' hd
    rw [Bool.eq_iff_iff]
    induction hd with
    | refl => exact Iff.rfl
    | tail _ hstep ih => exact (accepts_iff_of_spellsOut_left hstep).trans ih
  · intro vs' hv
    induction hv with
    | single hstep => exact accepts_iff_of_spellsOut_right hstep
    | tail _ hstep ih => rw [accepts_iff_of_spellsOut_right hstep, ih, or_assoc, or_self]

end DocType

/-- The alternative for a type with the mark. -/
def maybe (name : String) : Variant :=
  ⟨name, [], .list, true⟩

theorem spellsOut_maybe (name : String) : SpellsOut [maybe name] [.named name, .named "nil"] :=
  .mk rfl rfl (.refl [maybe name]) (.refl _)

/-- Where an integer or nil is asked for, nil is taken, and a string or nil is turned down if it is written with the
mark, however the first of the two is written.  Written out, a string or nil is taken. -/
theorem accepts_spelledOut_maybe :
    (DocType.union [maybe "Integer"]).accepts (Program.ofSnapshot {}).ancestry (.known .nil) = true ∧
      (DocType.union [.named "Integer", .named "nil"]).accepts (Program.ofSnapshot {}).ancestry (.known .nil) = true ∧
      (DocType.union [maybe "Integer"]).accepts (Program.ofSnapshot {}).ancestry (.known (.union [maybe "String"])) =
        false ∧
      (DocType.union [.named "Integer", .named "nil"]).accepts (Program.ofSnapshot {}).ancestry
        (.known (.union [maybe "String"])) = false ∧
      (DocType.union [maybe "Integer"]).accepts (Program.ofSnapshot {}).ancestry
        (.known (.union [.named "String", .named "nil"])) = true := by
  have htaken : (DocType.union [maybe "Integer"]).accepts (Program.ofSnapshot {}).ancestry (.known .nil) = true := by
    rw [Program.ofSnapshot_eq_inOrder]
    decide +kernel
  have hrejected : (DocType.union [maybe "Integer"]).accepts (Program.ofSnapshot {}).ancestry
      (.known (.union [maybe "String"])) = false := by
    rw [Program.ofSnapshot_eq_inOrder]
    decide +kernel
  obtain ⟨hnil, -⟩ := DocType.accepts_spelledOut (Program.ofSnapshot {}).ancestry [maybe "Integer"] [.named "nil"]
  obtain ⟨hasked, hgiven⟩ :=
    DocType.accepts_spelledOut (Program.ofSnapshot {}).ancestry [maybe "Integer"] [maybe "String"]
  have hinteger := spellsOut_maybe "Integer"
  have hstring := (hgiven _ (.single (spellsOut_maybe "String"))).2
  exact ⟨htaken, (hnil _ (.single hinteger)).trans htaken, hrejected, (hasked _ (.single hinteger)).trans hrejected,
    hstring (Or.inr ⟨maybe "Integer", List.mem_cons_self, Or.inl rfl⟩)⟩

/-- A class with a method that documents its return value by the given text, and a variable for nil that is assigned
what the method returns. -/
def shelf (text : String) : Snapshot where
  types := [{ name := "Shelf" }]
  methods := [{ owner := some "Shelf", name := "find", returnTag := some text }]
  assignments := [{ name := "gap", tag := "nil", value := .call (.new "Shelf") "find" [] }]

/-- What is listed for the variable if the mark is used. -/
def gapMismatch : Problem :=
  (Finding.variableMismatch "gap" "nil" "String?").report ⟨.assignment 0, {}⟩

/-- The two ways to write the return value of the method make a difference to its callers. -/
theorem shelf_mark_unread :
    (DocType.parse "String?").variants = [maybe "String"] ∧
      (DocType.parse "String, nil").variants = [.named "String", .named "nil"] ∧
      SpellsOut [maybe "String"] [.named "String", .named "nil"] ∧
      DocType.nil.accepts (Program.ofSnapshot (shelf "String?")).ancestry (.known (.parse "String?")) = false ∧
      DocType.nil.accepts (Program.ofSnapshot (shelf "String?")).ancestry (.known (.parse "String, nil")) = true ∧
      (Task.check ⟨.ofSnapshot (shelf "String?"), {}⟩).result = .ok [gapMismatch] ∧
      (Task.check ⟨.ofSnapshot (shelf "String, nil"), {}⟩).result = .ok [] := by
  refine ⟨by decide +kernel, by decide +kernel, spellsOut_maybe "String", ?_, ?_, ?_, ?_⟩
  · rw [Program.ofSnapshot_eq_inOrder]
    decide +kernel
  · rw [Program.ofSnapshot_eq_inOrder]
    decide +kernel
  · rw [Task.check_result_eq_inOrder]
    decide +kernel
  · rw [Task.check_result_eq_inOrder]
    decide +kernel

end TagCheck
