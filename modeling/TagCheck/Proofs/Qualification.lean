import TagCheck.Scope
import Mathlib.Data.List.Chain
import Mathlib.Data.List.Infix

/-!
# Names from the inside out

A name that the index does not have as it stands is looked up in the namespace around it, in the namespace around that
one, and so on.  Each of these is the one before, cut at its last pair of colons (`outer?_eq_some_iff`), so the search
goes through a list of ever shorter namespaces to its end (`isOutward_enclosing`) and takes the first in which the index
has the name (`searchOutward_eq_find?`).  For a namespace that is written in segments these are the fronts of the
segments, from the longest to the shortest (`enclosing_intercalate`).  An odd run of colons leaves a colon at the end of
the namespace around it.
-/

namespace TagCheck

/-! ### The last pair of colons -/

theorem beforeLastPair?_eq_some_iff {cs rest : List Char} :
    beforeLastPair? cs = some rest ↔
      ∃ front, cs = front ++ ':' :: ':' :: rest ∧ ¬ [':', ':'] <:+: front ++ [':'] := by
  fun_induction beforeLastPair? cs with
  | case1 cs =>
    constructor
    · intro h
      obtain rfl := Option.some.inj h
      exact ⟨[], rfl, fun hpair => absurd hpair.length_le (by decide)⟩
    · rintro ⟨front, hcs, hpair⟩
      cases front with
      | nil =>
        simp only [List.nil_append, List.cons.injEq, true_and] at hcs
        rw [hcs]
      | cons c front =>
        -- the front starts with a colon, and a second one comes behind it
        obtain ⟨rfl, htail⟩ := List.cons.inj hcs
        cases front with
        | nil => exact absurd List.infix_rfl hpair
        | cons c' front =>
          obtain ⟨rfl, -⟩ := List.cons.inj htail
          exact absurd (List.prefix_append [':', ':'] (front ++ [':'])).isInfix hpair
  | case2 c cs hfirst ih =>
    rw [ih]
    constructor
    · rintro ⟨front, rfl, hpair⟩
      refine ⟨c :: front, rfl, ?_⟩
      rw [List.cons_append, List.infix_cons_iff]
      rintro (hfront | hinner)
      · -- a pair at the very front would have been found
        obtain ⟨rfl, hsecond⟩ := List.cons_prefix_cons.1 hfront
        cases front with
        | nil => exact hfirst _ rfl rfl
        | cons c' front =>
          obtain ⟨rfl, -⟩ := List.cons_prefix_cons.1 hsecond
          exact hfirst _ rfl rfl
      · exact hpair hinner
    · rintro ⟨front, hcs, hpair⟩
      cases front with
      | nil =>
        obtain ⟨rfl, rfl⟩ := List.cons.inj hcs
        exact absurd rfl (hfirst _ rfl)
      | cons c' front =>
        obtain ⟨rfl, rfl⟩ := List.cons.inj hcs
        exact ⟨front, rfl, fun hinner => hpair (List.infix_cons hinner)⟩
  | case3 => simp

theorem beforeLastPair?_eq_none_iff {cs : List Char} : beforeLastPair? cs = none ↔ ¬ [':', ':'] <:+: cs := by
  fun_induction beforeLastPair? cs with
  | case1 cs => simpa using (List.prefix_append [':', ':'] cs).isInfix
  | case2 c cs hfirst ih =>
    rw [ih, List.infix_cons_iff, not_or, iff_and_self]
    rintro - ⟨rest, hrest⟩
    obtain ⟨rfl, rfl⟩ := List.cons.inj hrest
    exact hfirst _ rfl rfl
  | case3 => simp

/-- The namespace `ns` is `around`, a pair of colons and more, and behind the first of these colons there is no pair. -/
def Surrounds (around ns : String) : Prop :=
  ∃ rest, ns.toList = around.toList ++ ':' :: ':' :: rest ∧ ¬ [':', ':'] <:+: ':' :: rest

theorem outer?_eq_some_iff {ns around : String} : outer? ns = some around ↔ Surrounds around ns := by
  have hpair : ∀ front : List Char, [':', ':'] <:+: ':' :: front.reverse ↔ [':', ':'] <:+: front ++ [':'] := by
    intro front
    rw [← List.reverse_infix]
    simp
  rw [outer?, Option.map_eq_some_iff]
  constructor
  · rintro ⟨cs, hcs, rfl⟩
    obtain ⟨front, hfront, hlast⟩ := beforeLastPair?_eq_some_iff.1 hcs
    refine ⟨front.reverse, ?_, mt (hpair front).1 hlast⟩
    rw [← List.reverse_reverse ns.toList, hfront]
    simp
  · rintro ⟨rest, hrest, hlast⟩
    refine ⟨around.toList.reverse, beforeLastPair?_eq_some_iff.2 ⟨rest.reverse, ?_, ?_⟩, ?_⟩
    · rw [hrest]
      simp
    · rwa [← hpair, List.reverse_reverse]
    · rw [List.reverse_reverse, String.ofList_toList]

theorem outer?_eq_none_iff {ns : String} : outer? ns = none ↔ ¬ [':', ':'] <:+: ns.toList := by
  rw [outer?, Option.map_eq_none_iff, beforeLastPair?_eq_none_iff, ← List.reverse_infix, List.reverse_reverse]
  rfl

/-! ### The namespaces of a search -/

/-- What stands before each pair of colons, from the last pair to the first; all texts are reversed. -/
def outerNames : List Char → List (List Char)
  | ':' :: ':' :: cs => cs :: outerNames cs
  | _ :: cs => outerNames cs
  | [] => []

/-- A namespace and the namespaces around it, from the inside out. -/
def enclosing (namespaceName : String) : List String :=
  namespaceName ::
    (outerNames namespaceName.toList.reverse).map fun cs => String.ofList cs.reverse

private theorem outerNames_eq (cs : List Char) :
    outerNames cs = (beforeLastPair? cs).elim [] fun rest => rest :: outerNames rest := by
  fun_induction beforeLastPair? cs with
  | case1 cs => rfl
  | case2 c cs hfirst ih => rw [← ih, outerNames.eq_2 c cs hfirst]
  | case3 => rfl

theorem enclosing_of_outer?_eq_none {ns : String} (h : outer? ns = none) : enclosing ns = [ns] := by
  rw [enclosing, outerNames_eq, Option.map_eq_none_iff.1 h]
  rfl

theorem enclosing_of_outer?_eq_some {ns around : String} (h : outer? ns = some around) :
    enclosing ns = ns :: enclosing around := by
  obtain ⟨rest, hrest, rfl⟩ := Option.map_eq_some_iff.1 h
  rw [enclosing, outerNames_eq, hrest, enclosing]
  simp

/-- The namespaces that a search from `ns` goes through: each surrounds the one before, and the last has no pair of
colons left. -/
structure IsOutward (ns : String) (tried : List String) : Prop where
  head : tried.head? = some ns
  linked : tried.IsChain fun inner around => Surrounds around inner
  last : ∀ outermost ∈ tried.getLast?, ¬ [':', ':'] <:+: outermost.toList

theorem isOutward_enclosing (ns : String) : IsOutward ns (enclosing ns) := by
  -- every namespace is shorter than the one that it surrounds
  induction hlength : ns.length using Nat.strongRecOn generalizing ns with
  | ind n ih =>
    subst hlength
    cases h : outer? ns with
    | none =>
      rw [enclosing_of_outer?_eq_none h]
      refine ⟨rfl, .singleton ns, ?_⟩
      rintro outermost ⟨⟩
      exact outer?_eq_none_iff.1 h
    | some around =>
      obtain ⟨hhead, hlinked, hlast⟩ := ih _ (length_lt_of_outer? h) around rfl
      rw [enclosing_of_outer?_eq_some h]
      obtain ⟨rest, hrest⟩ := List.head?_eq_some_iff.1 hhead
      rw [hrest] at hlinked hlast ⊢
      refine ⟨rfl, .cons_cons (outer?_eq_some_iff.1 h) hlinked, ?_⟩
      rwa [List.getLast?_cons_cons]

example : enclosing "A:::B::C" = ["A:::B::C", "A:::B", "A:"] := by decide

/-- A search finds the name in the first namespace that has it. -/
theorem searchOutward_eq_find? (isType : String → Bool) (bare ns : String) :
    searchOutward isType bare ns = ((enclosing ns).map (· ++ "::" ++ bare)).find? isType := by
  fun_induction searchOutward isType bare ns with
  | case1 ns candidate htype =>
    rw [enclosing, List.map_cons, List.find?_cons_of_pos htype]
  | case2 ns candidate htype h =>
    rw [enclosing_of_outer?_eq_none h, List.map_cons, List.find?_cons_of_neg htype]
    rfl
  | case3 ns candidate htype around h _ ih =>
    rw [enclosing_of_outer?_eq_some h, List.map_cons, List.find?_cons_of_neg htype, ih]

/-! ### Namespaces in segments -/

section Segments

variable {segments : List String} {segment : String}

private theorem not_infix_of_notMem {cs : List Char} (h : ':' ∉ cs) : ¬ [':', ':'] <:+: ':' :: cs := by
  rw [List.infix_cons_iff]
  rintro (hfront | hinner)
  · exact h ((List.cons_prefix_cons.1 hfront).2.subset List.mem_cons_self)
  · exact h (hinner.subset List.mem_cons_self)

theorem outer?_of_notMem (h : ':' ∉ segment.toList) : outer? segment = none :=
  outer?_eq_none_iff.2 fun hpair => not_infix_of_notMem h (List.infix_cons hpair)

/-- Around a namespace of several segments is the one without the last of them. -/
theorem outer?_intercalate_concat (hne : segments ≠ []) (h : ':' ∉ segment.toList) :
    outer? ("::".intercalate (segments ++ [segment])) = some ("::".intercalate segments) := by
  refine outer?_eq_some_iff.2 ⟨segment.toList, ?_, not_infix_of_notMem h⟩
  rw [String.intercalate_append_of_ne_nil hne (List.cons_ne_nil _ _), String.intercalate_singleton]
  simp

theorem enclosing_intercalate (hne : segments ≠ []) (h : ∀ segment ∈ segments, ':' ∉ segment.toList) :
    enclosing ("::".intercalate segments) = segments.inits.tail.reverse.map "::".intercalate := by
  induction segments using List.reverseRecOn with
  | nil => exact absurd rfl hne
  | append_singleton segments segment ih =>
    have hlast : ':' ∉ segment.toList := h segment (by simp)
    by_cases hfirst : segments = []
    · subst hfirst
      rw [List.nil_append, String.intercalate_singleton, enclosing_of_outer?_eq_none (outer?_of_notMem hlast)]
      simp
    · have hinits : (segments ++ [segment]).inits.tail = segments.inits.tail ++ [segments ++ [segment]] := by
        cases segments with
        | nil => exact absurd rfl hfirst
        | cons => simp [List.inits_append]
      rw [enclosing_of_outer?_eq_some (outer?_intercalate_concat hfirst hlast), hinits,
        ih hfirst fun segment hsegment => h segment (List.mem_append_left _ hsegment)]
      simp

/-- The name in each of the namespaces that the segments make, from the inside out. -/
def namesInside (segments : List String) (name : String) : List String :=
  segments.inits.tail.reverse.map fun front => "::".intercalate (front ++ [name])

theorem map_enclosing_intercalate (hne : segments ≠ []) (h : ∀ segment ∈ segments, ':' ∉ segment.toList)
    (name : String) :
    (enclosing ("::".intercalate segments)).map (· ++ "::" ++ name) = namesInside segments name := by
  rw [enclosing_intercalate hne h, List.map_map, namesInside, List.map_inj_left]
  intro front hfront
  have hnonempty : front ≠ [] := by
    cases segments with
    | nil => exact absurd rfl hne
    | cons first segments =>
      rw [List.inits_cons, List.tail_cons, List.mem_reverse, List.mem_map] at hfront
      obtain ⟨front, -, rfl⟩ := hfront
      exact List.cons_ne_nil _ _
  rw [Function.comp_apply, String.intercalate_append_of_ne_nil hnonempty (List.cons_ne_nil _ _),
    String.intercalate_singleton]

end Segments

example : namesInside ["A", "B"] "X" = ["A::B::X", "A::X"] := by decide

/-! ### What a name stands for -/

/-- The name is `bare` behind a number of pairs of colons, and `bare` does not start with one. -/
def IsBare (name bare : String) : Prop :=
  ∃ k, name = String.join (List.replicate k "::") ++ bare ∧ bare.startsWith "::" = false

theorem stripColons_eq_self {cs : List Char} (h : ¬ [':', ':'] <+: cs) : stripColons cs = cs := by
  fun_cases stripColons cs with
  | case1 cs => exact absurd (List.prefix_append [':', ':'] cs) h
  | case2 cs => rfl

theorem isBare_stripColons (name : String) : IsBare name (String.ofList (stripColons name.toList)) := by
  have hstrip : ∀ cs : List Char, ∃ k, cs = (String.join (List.replicate k "::")).toList ++ stripColons cs ∧
      ¬ [':', ':'] <+: stripColons cs := by
    intro cs
    fun_induction stripColons cs with
    | case1 cs ih =>
      obtain ⟨k, hcs, hbare⟩ := ih
      refine ⟨k + 1, ?_, hbare⟩
      rw [List.replicate_succ, String.join_cons, String.toList_append, List.append_assoc, ← hcs]
      rfl
    | case2 cs hfirst =>
      refine ⟨0, rfl, ?_⟩
      rintro ⟨rest, rfl⟩
      exact hfirst rest rfl
  obtain ⟨k, hname, hbare⟩ := hstrip name.toList
  refine ⟨k, ?_, ?_⟩
  · rw [← String.toList_inj, String.toList_append, String.toList_ofList, ← hname]
  · simpa [String.startsWith_string_eq_false_iff] using hbare

theorem IsBare.eq_stripColons {name bare : String} (h : IsBare name bare) :
    bare = String.ofList (stripColons name.toList) := by
  obtain ⟨k, rfl, hbare⟩ := h
  induction k with
  | zero =>
    rw [List.replicate_zero, String.join_nil, String.empty_append,
      stripColons_eq_self (String.startsWith_string_eq_false_iff.1 hbare), String.ofList_toList]
  | succ k ih =>
    rw [List.replicate_succ, String.join_cons, String.append_assoc, String.toList_append]
    exact ih

theorem ofList_stripColons {name : String} (h : name.startsWith "::" = false) :
    String.ofList (stripColons name.toList) = name :=
  (IsBare.eq_stripColons ⟨0, rfl, h⟩).symm

namespace Scope

variable {s : Scope} {name full : String}

/-- A name without colons at its front that is not in the index itself is looked up in one namespace after the other. -/
theorem qualify?_eq_find? {ns : String} (hbare : s.index.contains name = false) (hcolons : name.startsWith "::" = false)
    (hwithin : s.within = some ns) :
    s.qualify? name = ((enclosing ns).map (· ++ "::" ++ name)).find? s.index.contains := by
  rw [← searchOutward_eq_find?]
  simp [qualify?, ofList_stripColons hcolons, hbare, hcolons, hwithin]

theorem contains_of_qualify? (h : s.qualify? name = some full) : s.index.contains full = true := by
  simp only [qualify?] at h
  split at h
  next hbare =>
    obtain rfl := Option.some.inj h
    exact hbare
  next =>
    split at h
    next => cases h
    next =>
      split at h
      next => cases h
      next ns =>
        rw [searchOutward_eq_find?] at h
        exact List.find?_some h

/-- A name stands for the type of that name without the colons at its front, if the index has one, and a name with colons
at its front for no other.  Otherwise the namespaces around it are tried, each cut before the last pair of colons of the
one before until there is none; in a namespace of segments these are its fronts, the longest first.  The name stands for
the first type that they have. -/
theorem qualify?_inside_out (s : Scope) (name : String) :
    (∃! bare, IsBare name bare) ∧
    ∀ bare, IsBare name bare →
      (s.index.contains bare = true → s.qualify? name = some bare) ∧
      (s.index.contains bare = false → name.startsWith "::" = true → s.qualify? name = none) ∧
      (s.index.contains bare = false → name.startsWith "::" = false → ∀ ns, s.within = some ns →
        (∃ tried, IsOutward ns tried ∧
          s.qualify? name = (tried.map (· ++ "::" ++ name)).find? s.index.contains) ∧
        ∀ segments, segments ≠ [] → (∀ segment ∈ segments, ':' ∉ segment.toList) → ns = "::".intercalate segments →
          s.qualify? name = (namesInside segments name).find? s.index.contains ∧
          (s.qualify? name = none ↔ ∀ full ∈ namesInside segments name, s.index.contains full = false)) ∧
      ∀ full, s.qualify? name = some full → s.index.contains full = true := by
  refine ⟨⟨_, isBare_stripColons name, fun bare h => h.eq_stripColons⟩, ?_⟩
  intro bare h
  obtain rfl := h.eq_stripColons
  refine ⟨?_, ?_, ?_, fun full => contains_of_qualify?⟩
  · intro hbare
    simp [qualify?, hbare]
  · intro hbare hcolons
    simp [qualify?, hbare, hcolons]
  · intro hbare hcolons ns hwithin
    rw [ofList_stripColons hcolons] at hbare
    have hfind := qualify?_eq_find? hbare hcolons hwithin
    refine ⟨⟨enclosing ns, isOutward_enclosing ns, hfind⟩, ?_⟩
    rintro segments hne hsegments rfl
    rw [map_enclosing_intercalate hne hsegments] at hfind
    refine ⟨hfind, ?_⟩
    rw [hfind, List.find?_eq_none]
    simp

end Scope

/-- A namespace of three segments, the second of them empty, with one name in two of its fronts. -/
def hollow : Scope where
  index := .ofSnapshot { types := [{ name := "A::X" }, { name := "A::::X" }] }
  within := some "A::::B"

/-- The name `X` stands for the type in the longer of the two fronts, and `::X` stands for none. -/
theorem qualify?_inside_out_hollow :
    hollow.qualify? "X" = (namesInside ["A", "", "B"] "X").find? hollow.index.contains ∧
      namesInside ["A", "", "B"] "X" = ["A::::B::X", "A::::X", "A::X"] ∧
      hollow.qualify? "X" = some "A::::X" ∧ hollow.index.contains "A::::X" = true ∧
      hollow.qualify? "::X" = none ∧ hollow.qualify? "::::A::X" = some "A::X" := by
  have hX : hollow.index.contains "X" = false := by decide +kernel
  have hAX : hollow.index.contains "A::X" = true := by decide +kernel
  have hnames : namesInside ["A", "", "B"] "X" = ["A::::B::X", "A::::X", "A::X"] := by decide
  obtain ⟨-, -, hsearch, hcontains⟩ := (hollow.qualify?_inside_out "X").2 "X" ⟨0, by decide, by decide +kernel⟩
  obtain ⟨-, hcolons, -⟩ := (hollow.qualify?_inside_out "::X").2 "X" ⟨1, by decide, by decide +kernel⟩
  obtain ⟨hbare, -⟩ := (hollow.qualify?_inside_out "::::A::X").2 "A::X" ⟨2, by decide, by decide +kernel⟩
  obtain ⟨-, hsegments⟩ := hsearch hX (by decide +kernel) "A::::B" rfl
  obtain ⟨hfind, -⟩ := hsegments ["A", "", "B"] (by simp) (by simp) (by decide)
  have hfound : hollow.qualify? "X" = some "A::::X" := by
    rw [hfind, hnames]
    decide +kernel
  exact ⟨hfind, hnames, hfound, hcontains _ hfound, hcolons hX (by decide +kernel), hbare hAX⟩

end TagCheck
