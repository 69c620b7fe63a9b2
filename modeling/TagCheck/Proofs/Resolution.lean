import TagCheck.DocType.Parser
import TagCheck.Proofs.Index
import TagCheck.Proofs.Names

/-!
# Resolving a type

One pass through a type writes its names in full and collects those that are not known.  Its outcome is told by the
names that the type mentions (`Scope.resolve_exact`): all of them known, and each is put in full where it stands; or
some of them not, and these are missing in the order in which they come first.

A full name is the name of a type of the index.  It is looked up as it stands before any namespace is tried, so that a
second pass finds it unchanged, whatever other types the namespaces around it hold (`Scope.resolve_again`).  Only a name
of the index that starts with colons would be looked up without them.
-/

namespace TagCheck

namespace Scope

variable {s : Scope} {name : String}

/-! ### Known names -/

theorem unknownAmong_eq (s : Scope) (names : List String) :
    s.unknownAmong names = names.filter fun name => ¬ s.Known name := by
  refine List.filter_congr ?_
  intro name _
  by_cases h : s.Known name
  · simp [h, isKnown_iff.2 h]
  · have hunknown : ¬ s.isKnown name = true := mt isKnown_iff.1 h
    simp [h, hunknown]

/-- A type is resolved if each of its names is built in, asks for a method, is configured or stands for a type of the
index, and then each name that stands for a type is replaced by the name of that type, all else being as before.
Otherwise the type is given back as it is, together with the names that are none of these, each once and in the order in
which the type mentions them. -/
theorem resolve_exact (s : Scope) (t : DocType) :
    (∀ t', s.resolve t = .resolved t' ↔
      (∀ name ∈ t.names, s.Known name) ∧ t' = t.mapNames fun name => (s.qualify? name).getD name) ∧
    ((∃ type missing, s.resolve t = .unresolved type missing) ↔ ∃ name ∈ t.names, ¬ s.Known name) ∧
    ∀ type missing, s.resolve t = .unresolved type missing →
      type = t ∧ missing ≠ [] ∧ missing.Nodup ∧
        FirstOccurrences (t.names.filter fun name => ¬ s.Known name) missing := by
  refine ⟨?_, ?_, ?_⟩
  · intro t'
    simp only [resolve_eq_resolved_iff, isKnown_iff]
    rfl
  · simp only [resolve_eq_unresolved_iff, ← isKnown_iff, Bool.not_eq_true]
  · intro type missing h
    obtain ⟨rfl, hne, rfl⟩ := resolve_eq_unresolved_missing_iff.1 h
    refine ⟨rfl, hne, nodup_appendNew List.nodup_nil _, ?_⟩
    rw [← unknownAmong_eq]
    exact firstOccurrences_distinct _

end Scope

/-- A class in a namespace, and one of the same name in a namespace of that name inside of it. -/
def nestling : Snapshot where
  types := [{ name := "Outer::Inner" }, { name := "Outer::Outer::Inner" }]

/-- What is around a text inside of `Outer`, with one name configured. -/
def nestlingScope : Scope where
  index := .ofSnapshot nestling
  within := some "Outer"
  builtins := ["Gem::Node"]

/-- A type with three names that nobody knows, two of them twice and at different depths. -/
def patchy : DocType :=
  .parse "Lost, Hash\x7bInner => Array<Gone | Lost>\x7d, Gone?, ::Inner"

/-- The three names are missing in the order of the text, each of them once. -/
theorem resolve_exact_nestling :
    nestlingScope.resolve patchy = .unresolved patchy ["Lost", "Gone", "::Inner"] ∧
      FirstOccurrences (patchy.names.filter fun name => ¬ nestlingScope.Known name) ["Lost", "Gone", "::Inner"] := by
  have hmissing : nestlingScope.resolve patchy = .unresolved patchy ["Lost", "Gone", "::Inner"] := by decide +kernel
  obtain ⟨-, -, htold⟩ := nestlingScope.resolve_exact patchy
  obtain ⟨-, -, -, hfirst⟩ := htold _ _ hmissing
  exact ⟨hmissing, hfirst⟩

/-! ### Full names -/

namespace Scope

variable {s : Scope} {name full : String}

/-- A name of the index stands for its own type, however many namespaces are around it. -/
theorem qualify?_of_contains (hcolons : name.startsWith "::" = false) (h : s.index.contains name = true) :
    s.qualify? name = some name := by
  simp only [qualify?, ofList_stripColons hcolons, h, if_true]

/-- What becomes of a name is the name of a type of the index, or the name itself if it stands for no type. -/
theorem fullName_cases (s : Scope) (name : String) :
    s.index.contains (s.fullName name) = true ∨ s.qualify? name = none ∧ s.fullName name = name := by
  unfold fullName
  cases h : s.qualify? name with
  | some full => exact Or.inl (contains_of_qualify? h)
  | none => exact Or.inr ⟨rfl, rfl⟩

/-- Once a name is in full, it stays as it is. -/
theorem fullName_fullName (hindex : ∀ name, s.index.contains name = true → name.startsWith "::" = false)
    (name : String) : s.fullName (s.fullName name) = s.fullName name := by
  rcases s.fullName_cases name with hcontains | ⟨-, hself⟩
  · have hfull : s.qualify? (s.fullName name) = some (s.fullName name) :=
      qualify?_of_contains (hindex _ hcontains) hcontains
    rw [fullName, hfull, Option.getD_some]
  · rw [hself, hself]

/-- A type that is resolved already is resolved to itself, as long as no name of the index starts with colons.  Each of
its names is then one of the index, or one that needs no type and stands for none. -/
theorem resolve_again (hindex : ∀ name, s.index.contains name = true → name.startsWith "::" = false) {t t' : DocType}
    (h : s.resolve t = .resolved t') :
    s.resolve t' = .resolved t' ∧
      ∀ name ∈ t'.names, s.index.contains name = true ∨ Exempt s.builtins name ∧ s.qualify? name = none := by
  obtain ⟨hknown, rfl⟩ := resolve_eq_resolved_iff.1 h
  have hnames : ∀ name ∈ (t.mapNames s.fullName).names,
      s.index.contains name = true ∨ Exempt s.builtins name ∧ s.qualify? name = none := by
    intro name hname
    rw [DocType.names_mapNames] at hname
    obtain ⟨written, hwritten, rfl⟩ := List.mem_map.1 hname
    rcases s.fullName_cases written with hcontains | ⟨hnone, hself⟩
    · exact Or.inl hcontains
    · rw [hself]
      have hexempt : Exempt s.builtins written := by
        simpa [Known, hnone] using isKnown_iff.1 (hknown written hwritten)
      exact Or.inr ⟨hexempt, hnone⟩
  refine ⟨resolve_eq_resolved_iff.2 ⟨?_, ?_⟩, hnames⟩
  · intro name hname
    rw [isKnown_iff]
    rcases hnames name hname with hcontains | ⟨hexempt, -⟩
    · have hself := qualify?_of_contains (hindex name hcontains) hcontains
      exact Or.inr (by rw [hself, Option.isSome_some])
    · exact Or.inl hexempt
  · rw [DocType.mapNames_mapNames, DocType.mapNames_eq_iff]
    intro name _
    exact (fullName_fullName hindex name).symm

end Scope

/-- The full name `Outer::Inner` is not looked up inside of `Outer` a second time. -/
theorem resolve_again_nestling :
    nestlingScope.resolve (.parse "Array<Inner, ::Outer::Inner>, #call, Gem::Node?") =
        .resolved (.parse "Array<Outer::Inner, Outer::Inner>, #call, Gem::Node?") ∧
      nestlingScope.index.contains "Outer::Outer::Inner" = true ∧
      nestlingScope.resolve (.parse "Array<Outer::Inner, Outer::Inner>, #call, Gem::Node?") =
        .resolved (.parse "Array<Outer::Inner, Outer::Inner>, #call, Gem::Node?") ∧
      ∀ name ∈ (DocType.parse "Array<Outer::Inner, Outer::Inner>, #call, Gem::Node?").names,
        nestlingScope.index.contains name = true ∨
          Exempt nestlingScope.builtins name ∧ nestlingScope.qualify? name = none := by
  have hindex : ∀ name, nestlingScope.index.contains name = true → name.startsWith "::" = false := by
    intro name hname
    have hnames : ∀ name ∈ nestlingScope.index.types.map Prod.fst, name.startsWith "::" = false := by decide +kernel
    exact hnames name (Index.contains_iff.1 hname)
  have hfirst : nestlingScope.resolve (.parse "Array<Inner, ::Outer::Inner>, #call, Gem::Node?") =
      .resolved (.parse "Array<Outer::Inner, Outer::Inner>, #call, Gem::Node?") := by decide +kernel
  exact ⟨hfirst, by decide +kernel, Scope.resolve_again hindex hfirst⟩

end TagCheck
