import TagCheck.Proofs.Lineage

/-!
# The tags of a method

A method that does not write a tag has that of the nearest ancestor of its owner which writes one for the same member,
where the last definition of a member speaks for its type (`Snapshot.TagInEffect`).  The index finds this tag
(`Task.tagInEffect?_eq_some_iff`): its table of members leads to the last definitions, and the lineage of an owner, which
is always in the index, has the owner in front, so that the search starts right after it.
-/

namespace TagCheck

/-- A lineage starts with the type itself. -/
theorem Index.IsLineage.eq_cons {ix : Index} {name : String} {lineage : List String} (h : ix.IsLineage name lineage) :
    ∃ rest, lineage = name :: rest := by
  obtain ⟨chain, hchain, rest, rfl⟩ := h.front
  obtain ⟨above, rfl⟩ := List.head?_eq_some_iff.1 hchain.head
  exact ⟨above ++ rest, rfl⟩

/-! ### Last definitions -/

/-- The last definition of a member. -/
def Snapshot.lastDefinition? (s : Snapshot) (owner name : String) (scope : MethodScope) : Option MethodDecl :=
  s.methods.reverse.find? fun m => m.Defines owner scope name

/-- The tag that a type writes for a member: that of the last definition. -/
def Snapshot.memberTag? (s : Snapshot) (selector : TagSelector) (owner name : String) (scope : MethodScope) :
    Option String :=
  (s.lastDefinition? owner name scope).bind fun m => m.tag? selector

theorem Snapshot.lastDefinition?_spec {s : Snapshot} {owner name : String} {scope : MethodScope} {m : MethodDecl}
    (h : s.lastDefinition? owner name scope = some m) :
    m ∈ s.methods ∧ m.Defines owner scope name := by
  have hmem := List.mem_of_find?_eq_some h
  have hmember := List.find?_some h
  exact ⟨List.mem_reverse.1 hmem, by simpa using hmember⟩

/-- The members of an index are methods of the snapshot. -/
theorem Index.exists_method_of_lookup {s : Snapshot} {key : MemberKey} {n : Nat}
    (h : (Index.ofSnapshot s).members.lookup key = some n) : ∃ m, s.methods[n]? = some m ∧ m.key = key :=
  (lookup_memberTable_eq_some_iff.1 h).1

/-- The index knows the tags of the last definitions. -/
theorem Index.tag?_ofSnapshot (s : Snapshot) (owner name : String) (scope : MethodScope) (selector : TagSelector) :
    (Index.ofSnapshot s).tag? owner name scope selector = s.memberTag? selector owner name scope := by
  have hfind := find?_memberTable s.methods ⟨some owner, scope, name⟩
  simp only [MethodDecl.key_eq_iff] at hfind
  rw [Snapshot.memberTag?, Snapshot.lastDefinition?, ← hfind, Option.bind_assoc]
  rfl

/-! ### Tags in effect -/

/-- The text of a tag of a method, and the type that writes it: the owner of the method if the method has a tag of its
own, or else the first type after the owner that has a tag for the member. -/
inductive Snapshot.TagInEffect (s : Snapshot) (selector : TagSelector) (m : MethodDecl) :
    String → Option String → Prop
  | own {text : String} (htext : m.tag? selector = some text) : s.TagInEffect selector m text m.owner
  | inherited {owner writer text : String} {nearer further : List String} (hown : m.tag? selector = none)
      (howner : m.owner = some owner) (hlineage : s.lineage owner = owner :: (nearer ++ writer :: further))
      (hnearer : ∀ a ∈ nearer, s.memberTag? selector a m.name m.scope = none)
      (htext : s.memberTag? selector writer m.name m.scope = some text) : s.TagInEffect selector m text (some writer)

/-- A tag in effect is written by some definition of the member, in the type that counts as its writer. -/
theorem Snapshot.TagInEffect.exists_writer {s : Snapshot} {selector : TagSelector} {m : MethodDecl} {text : String}
    {writer : Option String} (hm : m ∈ s.methods) (h : s.TagInEffect selector m text writer) :
    ∃ w ∈ s.methods, w.owner = writer ∧ w.name = m.name ∧ w.scope = m.scope ∧ w.tag? selector = some text := by
  cases h with
  | own htext => exact ⟨m, hm, rfl, rfl, rfl, htext⟩
  | inherited _ _ _ _ htext =>
    obtain ⟨w, hw, hwtext⟩ := Option.bind_eq_some_iff.1 htext
    obtain ⟨hmem, howner, hscope, hname⟩ := Snapshot.lastDefinition?_spec hw
    exact ⟨w, hmem, howner, hname, hscope, hwtext⟩

/-- The search goes through the lineage after its first type. -/
theorem Snapshot.nearestTag?_eq_findSome? (s : Snapshot) (owner name : String) (scope : MethodScope)
    (selector : TagSelector) :
    (Program.ofSnapshot s).ancestry.nearestTag? owner name scope selector true =
      (s.lineage owner).tail.findSome? fun a => (s.memberTag? selector a name scope).map fun text => (a, text) := by
  rw [Ancestry.nearestTag?, if_pos rfl, List.drop_one]
  congr 1
  funext a
  rw [← Index.tag?_ofSnapshot]
  rfl

theorem Snapshot.findSome?_memberTag?_eq_some_iff {s : Snapshot} {selector : TagSelector} {name writer text : String}
    {scope : MethodScope} {names : List String} :
    (names.findSome? fun a => (s.memberTag? selector a name scope).map fun text => (a, text)) = some (writer, text) ↔
      ∃ nearer further, names = nearer ++ writer :: further ∧
        (∀ a ∈ nearer, s.memberTag? selector a name scope = none) ∧
        s.memberTag? selector writer name scope = some text := by
  rw [List.findSome?_eq_some_iff]
  constructor
  · rintro ⟨nearer, a, further, rfl, ha, hnearer⟩
    obtain ⟨text', htext, heq⟩ := Option.map_eq_some_iff.1 ha
    obtain ⟨rfl, rfl⟩ := Prod.mk.inj heq
    exact ⟨nearer, further, rfl, fun b hb => Option.map_eq_none_iff.1 (hnearer b hb), htext⟩
  · rintro ⟨nearer, further, rfl, hnearer, htext⟩
    refine ⟨nearer, writer, further, rfl, ?_, ?_⟩
    · rw [htext]
      rfl
    · intro b hb
      rw [hnearer b hb]
      rfl

/-- Along a lineage that starts with its type, the search finds the first tag after it. -/
private theorem nearestTag?_eq_some_iff {s : Snapshot} {selector : TagSelector} {owner name writer text : String}
    {scope : MethodScope} {rest : List String} (hlineage : s.lineage owner = owner :: rest) :
    (Program.ofSnapshot s).ancestry.nearestTag? owner name scope selector true = some (writer, text) ↔
      ∃ nearer further, rest = nearer ++ writer :: further ∧
        (∀ a ∈ nearer, s.memberTag? selector a name scope = none) ∧
        s.memberTag? selector writer name scope = some text := by
  rw [Snapshot.nearestTag?_eq_findSome?, hlineage, List.tail_cons, Snapshot.findSome?_memberTag?_eq_some_iff]

/-- A tag that is not inherited is the method's own. -/
theorem Task.tagInEffect?_eq_own_iff {t : Task} {selector : TagSelector} {m : MethodDecl} {text : String} :
    t.tagInEffect? selector m = some (text, none) ↔ m.tag? selector = some text := by
  unfold Task.tagInEffect?
  cases m.tag? selector with
  | some own => simp
  | none => simp [Option.bind_eq_some_iff]

/-- A task reads the tag that is in effect, in the namespace of the type that writes it. -/
theorem Task.tagInEffect?_eq_some_iff {s : Snapshot} {settings : Settings} {selector : TagSelector} {m : MethodDecl}
    (hm : m ∈ s.methods) {text : String} {writer : Option String} :
    (∃ inheritedFrom, Task.tagInEffect? ⟨.ofSnapshot s, settings⟩ selector m = some (text, inheritedFrom) ∧
        inheritedFrom.or m.owner = writer) ↔ s.TagInEffect selector m text writer := by
  unfold Task.tagInEffect?
  cases hown : m.tag? selector with
  | some own =>
    constructor
    · rintro ⟨inheritedFrom, htag, rfl⟩
      obtain ⟨rfl, rfl⟩ := Prod.mk.inj (Option.some.inj htag)
      exact .own hown
    · intro h
      cases h with
      | own htext =>
        obtain rfl : own = text := Option.some.inj (hown.symm.trans htext)
        exact ⟨none, rfl, rfl⟩
      | inherited hown' => cases hown.symm.trans hown'
  | none =>
    cases howner : m.owner with
    | none =>
      constructor
      · rintro ⟨inheritedFrom, htag, -⟩
        cases htag
      · intro h
        cases h with
        | own htext => cases hown.symm.trans htext
        | inherited _ howner' => cases howner.symm.trans howner'
    | some owner =>
      have hcontains := Index.contains_owner hm howner
      obtain ⟨rest, hlineage⟩ := (Snapshot.isLineage hcontains).eq_cons
      constructor
      · rintro ⟨inheritedFrom, htag, rfl⟩
        obtain ⟨_, ⟨⟩, htag⟩ := Option.bind_eq_some_iff.1 htag
        obtain ⟨⟨a, text'⟩, hnearest, heq⟩ := Option.bind_eq_some_iff.1 htag
        obtain ⟨rfl, rfl⟩ := Prod.mk.inj (Option.some.inj heq)
        obtain ⟨nearer, further, rfl, hnearer, htext⟩ := (nearestTag?_eq_some_iff hlineage).1 hnearest
        exact .inherited hown howner hlineage hnearer htext
      · intro h
        cases h with
        | own htext => cases hown.symm.trans htext
        | inherited _ howner' hlineage' hnearer htext =>
          obtain rfl := Option.some.inj (howner.symm.trans howner')
          obtain ⟨-, rfl⟩ := List.cons.inj (hlineage.symm.trans hlineage')
          have hnearest := (nearestTag?_eq_some_iff hlineage).2 ⟨_, _, rfl, hnearer, htext⟩
          refine ⟨some _, ?_, rfl⟩
          exact Option.bind_eq_some_iff.2 ⟨owner, rfl, Option.bind_eq_some_iff.2 ⟨_, hnearest, rfl⟩⟩

end TagCheck
