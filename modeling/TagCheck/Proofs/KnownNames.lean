import TagCheck.Proofs.Unresolved

/-!
# Known names

A tag is unresolved exactly if one of its names, with `self` read as the type around it, is not known there
(`Snapshot.unresolved_iff_exists_name`), and what a check lists as unresolved are the tags that are
(`Task.exists_listed_iff`).  So what is known decides about these problems.

A name that is known stays known if more types are declared and more names are configured (`Scope.Widens.isKnown`), even
where it comes to stand for another type.  Hence knowing more never adds a problem of this kind
(`Task.check_knowing_more`).  Some names need no declaration (`Exempt`), and a tag that uses no others is not
reported, with one exception: `self` is not looked up itself, but the name of the type around it is, and that name may
be unknown (`Task.check_exempt`).
-/

namespace TagCheck

/-! ### Names as their tag is read -/

/-- What is looked up for a name of a tag that is read inside the given type. -/
def nameWithin : Option String → String → String
  | none, name => name
  | some around, name => if name == "self" then around else name

theorem names_replaceSelf (within : Option String) (t : DocType) :
    (within.elim t fun around => t.replaceSelf around).names = t.names.map (nameWithin within) := by
  cases within with
  | none => exact (List.map_id t.names).symm
  | some around => exact t.names_mapNames _

theorem nameWithin_of_ne_self {within : Option String} {name : String} (h : name ≠ "self") :
    nameWithin within name = name := by
  cases within with
  | none => rfl
  | some around => simp [nameWithin, h]

/-- A blank text has no names. -/
theorem isBlankText_eq_false_of_mem_names {text name : String} (h : name ∈ (DocType.parse text).names) :
    isBlankText text = false := by
  by_contra hblank
  have hempty : (trimChars text.toList).isEmpty = true := by simpa [isBlankText] using hblank
  simp [DocType.parse, hempty, DocType.names] at h

namespace Snapshot

variable {s : Snapshot} {settings : Settings}

theorem unresolved_iff_exists_name {writer : Option String} {text : String} :
    s.Unresolved settings writer text ↔
      ∃ name ∈ (DocType.parse text).names,
        Scope.isKnown ⟨.ofSnapshot s, writer, settings.builtins⟩ (nameWithin writer name) = false := by
  -- the anchor of a tag has no part in its meaning
  rw [unresolved_iff (.method 0), Task.resolution, Scope.resolve_eq_unresolved_iff, names_replaceSelf]
  simp only [List.mem_map, exists_exists_and_eq_and]
  rfl

/-! ### Keys of unresolved tags -/

/-- What is found at a tag is told apart by the words for the tag, whatever is missing. -/
theorem Writes.key_eq {text : String} {family : RuleFamily} {location : Location} {writer : Option String}
    {finding : String → List String → Finding} (h : s.Writes text family location writer finding) (tag : String)
    (missing : List String) :
    ((finding tag missing).report location).key = ⟨.unresolved, location, (finding tag []).message⟩ := by
  cases h <;> rfl

theorem Writes.reportedBy {text : String} {family : RuleFamily} {location : Location} {writer : Option String}
    {finding : String → List String → Finding} (h : s.Writes text family location writer finding) (tag : String)
    (missing : List String) : ((finding tag missing).report location).ReportedBy family := by
  cases h <;> exact ⟨_, _, rfl, rfl, rfl⟩

/-- The place of a tag tells in which type it is read. -/
theorem Writes.writer_unique {text text' : String} {family family' : RuleFamily} {location : Location}
    {writer writer' : Option String} {finding finding' : String → List String → Finding}
    (h : s.Writes text family location writer finding) (h' : s.Writes text' family' location writer' finding') :
    writer = writer' := by
  generalize hlocation : location = location' at h'
  cases h with
  | returned hm _ | param hm _ =>
    cases h' with
    | returned hm' _ | param hm' _ =>
      obtain rfl := Anchor.method.inj (congrArg Location.anchor hlocation)
      exact congrArg MethodDecl.owner (Option.some.inj (hm.symm.trans hm'))
    | assigned => cases hlocation
  | assigned hv _ =>
    cases h' with
    | returned | param => cases hlocation
    | assigned hv' _ =>
      obtain rfl := Anchor.assignment.inj (congrArg Location.anchor hlocation)
      exact congrArg Assignment.within (Option.some.inj (hv.symm.trans hv'))

/-- A method writes one return tag and an assignment one tag. -/
theorem Writes.text_unique {text text' : String} {family : RuleFamily} {location : Location}
    {writer writer' : Option String} {finding finding' : String → List String → Finding}
    (h : s.Writes text family location writer finding) (h' : s.Writes text' family location writer' finding')
    (hfamily : family ≠ .params) : text = text' := by
  generalize hlocation : location = location' at h'
  cases h with
  | returned hm htag =>
    cases h' with
    | returned hm' htag' =>
      obtain rfl := Anchor.method.inj (congrArg Location.anchor hlocation)
      obtain rfl := Option.some.inj (hm.symm.trans hm')
      exact Option.some.inj (htag.symm.trans htag')
  | param => exact absurd rfl hfamily
  | assigned hv htag =>
    cases h' with
    | assigned hv' htag' =>
      obtain rfl := Anchor.assignment.inj (congrArg Location.anchor hlocation)
      obtain rfl := Option.some.inj (hv.symm.trans hv')
      exact htag.symm.trans htag'

/-- The place and the words for a tag tell which family reads it. -/
theorem Writes.family_unique {text text' : String} {family family' : RuleFamily} {location : Location}
    {writer writer' : Option String} {finding finding' : String → List String → Finding}
    (h : s.Writes text family location writer finding) (h' : s.Writes text' family' location writer' finding')
    {tag tag' : String} (hmessage : (finding tag []).message = (finding' tag' []).message) : family = family' := by
  have hkey : ((finding tag []).report location).key = ((finding' tag' []).report location).key := by
    rw [h.key_eq, h'.key_eq, hmessage]
  have hcode := Problem.code_eq_of_key_eq (h.reportedBy tag []) (h'.reportedBy tag' []) hkey
  have hmem := (h'.reportedBy tag' []).code_mem_iff.2 rfl
  rw [← hcode] at hmem
  exact (h.reportedBy tag []).code_mem_iff.1 hmem

variable (s settings) in
/-- A tag that is checked is unresolved, and what is found there has the key. -/
def UnresolvedAt (key : ProblemKey) : Prop :=
  ∃ text family location writer finding,
    s.Writes text family location writer finding ∧ settings.checks family = true ∧ isBlankText text = false ∧
      s.Unresolved settings writer text ∧ key = ⟨.unresolved, location, (finding (trim text) []).message⟩

end Snapshot

/-- As far as keys tell, what is listed as unresolved are the unresolved tags. -/
theorem Task.exists_listed_iff {s : Snapshot} {settings : Settings} {ps : List Problem}
    (h : (Task.check ⟨.ofSnapshot s, settings⟩).result = .ok ps) {key : ProblemKey} :
    (∃ p ∈ ps, p.kind = .unresolved ∧ p.key = key) ↔ s.UnresolvedAt settings key := by
  constructor
  · rintro ⟨p, hp, hkind, rfl⟩
    obtain ⟨text, family, location, writer, finding, type, missing, hwrites, hchecks, hwritten, hres, rfl⟩ :=
      Task.exists_writes_of_unresolved h hp hkind
    have hunresolved := (Snapshot.unresolved_iff location.anchor).2 ⟨type, missing, hres⟩
    exact ⟨text, family, location, writer, finding, hwrites, hchecks, hwritten, hunresolved, hwrites.key_eq _ _⟩
  · rintro ⟨text, family, location, writer, finding, hwrites, hchecks, hwritten, hunresolved, rfl⟩
    obtain ⟨type, missing, hres⟩ := (Snapshot.unresolved_iff location.anchor).1 hunresolved
    obtain ⟨p, hp, hkind, hlocation, hmessage⟩ := Task.exists_listed_of_writes h hwrites hchecks hwritten hres
    have hwords := congrArg ProblemKey.message (hwrites.key_eq (trim text) missing)
    refine ⟨p, hp, hkind, ?_⟩
    rw [Problem.key, hkind, hlocation, hmessage]
    exact congrArg (ProblemKey.mk .unresolved location) hwords

/-- A resolved tag is not reported: what is listed at its place in the very words for it is about another parameter of
the method. -/
theorem Task.exists_paramUnresolved_of_resolved {s : Snapshot} {settings : Settings} {ps : List Problem}
    (h : (Task.check ⟨.ofSnapshot s, settings⟩).result = .ok ps) {text : String} {family : RuleFamily}
    {location : Location} {writer : Option String} {finding : String → List String → Finding}
    (hwrites : s.Writes text family location writer finding) (hresolved : ¬ s.Unresolved settings writer text)
    {p : Problem} (hp : p ∈ ps) (hkind : p.kind = .unresolved) (hlocation : p.location = location)
    (hmessage : p.message = (finding (trim text) []).message) :
    family = .params ∧ ∃ i m tag, tag.text ≠ text ∧ s.ParamUnresolved settings i m tag ∧
      location = ⟨.method i, m.span⟩ ∧ p.message = tag.unresolvedMessage m := by
  obtain ⟨text', family', location', writer', finding', hwrites', -, hwritten', hunresolved', hkey⟩ :=
    (Task.exists_listed_iff h).1 ⟨p, hp, hkind, rfl⟩
  obtain ⟨-, hlocation', hmessage'⟩ := ProblemKey.mk.inj hkey
  obtain rfl : location' = location := hlocation'.symm.trans hlocation
  obtain rfl := hwrites.family_unique hwrites' (hmessage.symm.trans hmessage')
  obtain rfl := hwrites.writer_unique hwrites'
  have htext : text' ≠ text := by
    rintro rfl
    exact hresolved hunresolved'
  by_cases hparams : family = .params
  · refine ⟨hparams, ?_⟩
    cases hwrites' with
    | returned => cases hparams
    | @param i m name hm htag =>
      exact ⟨i, m, ⟨name, text'⟩, htext, ⟨hm, htag, hwritten', hunresolved'⟩, rfl, hmessage'⟩
    | assigned => cases hparams
  · exact absurd (hwrites.text_unique hwrites' hparams).symm htext

/-! ### Knowing more -/

/-- The second scope has all that the first has, seen from the same place. -/
structure Scope.Widens (small large : Scope) : Prop where
  within : small.within = large.within
  builtins : small.builtins ⊆ large.builtins
  contains : ∀ name, small.index.contains name = true → large.index.contains name = true

namespace Scope.Widens

variable {small large : Scope} (h : small.Widens large)

include h

theorem indexes {name : String} (hname : small.Indexes name) : large.Indexes name := by
  rcases hname with hbare | ⟨hcolons, ns, hns, around, haround, hinside⟩
  · exact Or.inl (h.contains _ hbare)
  · rw [h.within] at hns
    exact Or.inr ⟨hcolons, ns, hns, around, haround, h.contains _ hinside⟩

theorem isKnown {name : String} (hname : small.isKnown name = true) : large.isKnown name = true := by
  rw [Scope.isKnown_iff] at hname ⊢
  rcases hname with hexempt | hfound
  · exact Or.inl (hexempt.mono h.builtins)
  · exact Or.inr (Scope.isSome_qualify?_iff.2 (h.indexes (Scope.isSome_qualify?_iff.1 hfound)))

end Scope.Widens

namespace Snapshot

variable {s : Snapshot} {settings : Settings} {types : List TypeDecl} {builtins : List String}

/-- The snapshot with more types. -/
def withTypes (s : Snapshot) (types : List TypeDecl) : Snapshot :=
  { s with types := s.types ++ types }

theorem contains_withTypes {name : String} (h : (Index.ofSnapshot s).contains name = true) :
    (Index.ofSnapshot (s.withTypes types)).contains name = true := by
  rw [Index.contains_ofSnapshot_iff] at h ⊢
  rcases h with howner | ⟨decl, hdecl, hname⟩ | hcore
  · exact Or.inl howner
  · exact Or.inr (Or.inl ⟨decl, List.mem_append_left _ hdecl, hname⟩)
  · exact Or.inr (Or.inr hcore)

/-- Declarations of types write no tags. -/
theorem writes_withTypes {text : String} {family : RuleFamily} {location : Location} {writer : Option String}
    {finding : String → List String → Finding} :
    (s.withTypes types).Writes text family location writer finding ↔ s.Writes text family location writer finding := by
  constructor
  · rintro (⟨hm, htag⟩ | ⟨hm, htag⟩ | ⟨hv, htag⟩)
    · exact .returned hm htag
    · exact .param hm htag
    · exact .assigned hv htag
  · rintro (⟨hm, htag⟩ | ⟨hm, htag⟩ | ⟨hv, htag⟩)
    · exact .returned (s := s.withTypes types) hm htag
    · exact .param (s := s.withTypes types) hm htag
    · exact .assigned (s := s.withTypes types) hv htag

/-- A tag that is unresolved with more types and names was so without them. -/
theorem Unresolved.of_withTypes (hbuiltins : settings.builtins ⊆ builtins) {writer : Option String} {text : String}
    (h : (s.withTypes types).Unresolved { settings with builtins := builtins } writer text) :
    s.Unresolved settings writer text := by
  have hwidens : Scope.Widens ⟨.ofSnapshot s, writer, settings.builtins⟩
      ⟨.ofSnapshot (s.withTypes types), writer, builtins⟩ := ⟨rfl, hbuiltins, fun _ => contains_withTypes⟩
  obtain ⟨name, hname, hunknown⟩ := unresolved_iff_exists_name.1 h
  refine unresolved_iff_exists_name.2 ⟨name, hname, ?_⟩
  by_contra hknown
  have hlarge := hwidens.isKnown (Bool.not_eq_false _ ▸ hknown)
  exact absurd (hlarge.symm.trans hunknown) (by decide)

theorem UnresolvedAt.of_withTypes (hbuiltins : settings.builtins ⊆ builtins) {key : ProblemKey}
    (h : (s.withTypes types).UnresolvedAt { settings with builtins := builtins } key) :
    s.UnresolvedAt settings key := by
  obtain ⟨text, family, location, writer, finding, hwrites, hchecks, hwritten, hunresolved, hkey⟩ := h
  exact ⟨text, family, location, writer, finding, writes_withTypes.1 hwrites, hchecks, hwritten,
    hunresolved.of_withTypes hbuiltins, hkey⟩

end Snapshot

/-- If more types are declared and more names are configured, then a check lists nothing as unresolved that it did not
list before, however the new types change what names stand for and which types are above others.  What it does not list
any more was about a tag that has become resolved. -/
theorem Task.check_knowing_more (s : Snapshot) (settings : Settings) (types : List TypeDecl) {builtins : List String}
    (hbuiltins : settings.builtins ⊆ builtins) {ps qs : List Problem}
    (hps : (Task.check ⟨.ofSnapshot s, settings⟩).result = .ok ps)
    (hqs : (Task.check ⟨.ofSnapshot (s.withTypes types), { settings with builtins := builtins }⟩).result = .ok qs) :
    (∀ q ∈ qs, q.kind = .unresolved → ∃ p ∈ ps, p.key = q.key) ∧
      ∀ p ∈ ps, p.kind = .unresolved → (∀ q ∈ qs, q.key ≠ p.key) →
        ∃ text family location writer finding, s.Writes text family location writer finding ∧
          p.location = location ∧ p.message = (finding (trim text) []).message ∧
          s.Unresolved settings writer text ∧
          ¬ (s.withTypes types).Unresolved { settings with builtins := builtins } writer text := by
  constructor
  · intro q hq hkind
    have hlarge := (Task.exists_listed_iff hqs).1 ⟨q, hq, hkind, rfl⟩
    obtain ⟨p, hp, -, hkey⟩ := (Task.exists_listed_iff hps).2 (hlarge.of_withTypes hbuiltins)
    exact ⟨p, hp, hkey⟩
  · intro p hp hkind hgone
    obtain ⟨text, family, location, writer, finding, hwrites, hchecks, hwritten, hunresolved, hkey⟩ :=
      (Task.exists_listed_iff hps).1 ⟨p, hp, hkind, rfl⟩
    refine ⟨text, family, location, writer, finding, hwrites, congrArg ProblemKey.location hkey,
      congrArg ProblemKey.message hkey, hunresolved, ?_⟩
    intro hstill
    obtain ⟨q, hq, -, hqkey⟩ := (Task.exists_listed_iff hqs).2
      ⟨text, family, location, writer, finding, Snapshot.writes_withTypes.2 hwrites, hchecks, hwritten, hstill, hkey⟩
    exact hgone q hq hqkey

/-- A method with tags of a name that its namespace has, a name that is never declared and a name that is declared only
later, and an assignment with a name that is configured only later. -/
def shop : Snapshot where
  types := [{ name := "Shop::Cart" }, { name := "Shop::Item" }]
  methods := [
    { owner := some "Shop::Cart", name := "add", params := some [⟨"x", .required⟩, ⟨"y", .required⟩],
      returnTag := some "Item", paramTags := [⟨"x", "Gone"⟩, ⟨"y", "Array<Late>"⟩], body := [.new "Shop::Item"] }
  ]
  assignments := [{ name := "total", tag := "Money", value := .unknown }]

/-- Declarations that give the later name a type, change what `Item` stands for and put a type above `Shop::Cart`. -/
def shopTypes : List TypeDecl :=
  [{ name := "Late" }, { name := "Item" }, { name := "Shop::Cart", superclass := some "Late" }]

/-- Two of the three problems go away.  One of another kind is added, since `Item` is no longer `Shop::Item`. -/
theorem check_knowing_more_shop :
    (Task.check ⟨.ofSnapshot shop, {}⟩).result = .ok [
        (Finding.unresolvedParam "Shop::Cart#add" "x" "Gone" ["Gone"]).report ⟨.method 0, {}⟩,
        (Finding.unresolvedParam "Shop::Cart#add" "y" "Array<Late>" ["Late"]).report ⟨.method 0, {}⟩,
        (Finding.unresolvedVariable "total" "Money" ["Money"]).report ⟨.assignment 0, {}⟩
      ] ∧
      (Task.check ⟨.ofSnapshot (shop.withTypes shopTypes), { builtins := ["Money"] }⟩).result = .ok [
        (Finding.returnMismatch "Shop::Cart#add" "Item" "Shop::Item" none).report ⟨.method 0, {}⟩,
        (Finding.unresolvedParam "Shop::Cart#add" "x" "Gone" ["Gone"]).report ⟨.method 0, {}⟩
      ] ∧
      ∃ text family location writer finding, shop.Writes text family location writer finding ∧
        ⟨.assignment 0, {}⟩ = location ∧
        (Finding.unresolvedVariable "total" "Money" ["Money"]).message = (finding (trim text) []).message ∧
        shop.Unresolved {} writer text ∧
        ¬ (shop.withTypes shopTypes).Unresolved { builtins := ["Money"] } writer text := by
  have hps : (Task.check ⟨.ofSnapshot shop, {}⟩).result = .ok [
      (Finding.unresolvedParam "Shop::Cart#add" "x" "Gone" ["Gone"]).report ⟨.method 0, {}⟩,
      (Finding.unresolvedParam "Shop::Cart#add" "y" "Array<Late>" ["Late"]).report ⟨.method 0, {}⟩,
      (Finding.unresolvedVariable "total" "Money" ["Money"]).report ⟨.assignment 0, {}⟩
    ] := by
    rw [Task.check_result_eq_inOrder]
    decide +kernel
  have hqs : (Task.check ⟨.ofSnapshot (shop.withTypes shopTypes), { builtins := ["Money"] }⟩).result = .ok [
      (Finding.returnMismatch "Shop::Cart#add" "Item" "Shop::Item" none).report ⟨.method 0, {}⟩,
      (Finding.unresolvedParam "Shop::Cart#add" "x" "Gone" ["Gone"]).report ⟨.method 0, {}⟩
    ] := by
    rw [Task.check_result_eq_inOrder]
    decide +kernel
  obtain ⟨-, hgone⟩ := Task.check_knowing_more shop {} shopTypes (List.nil_subset ["Money"]) hps hqs
  refine ⟨hps, hqs, hgone _ (List.mem_of_getElem? (i := 2) rfl) rfl ?_⟩
  decide +kernel

/-! ### Exempt names -/

namespace Snapshot

variable {s : Snapshot} {settings : Settings} {writer : Option String} {text : String}

variable (s settings writer text) in
/-- The text is read in a namespace which is not known there by its own name, and it has that name for `self`. -/
structure SelfAstray (ns : String) : Prop where
  within : writer = some ns
  mentioned : "self" ∈ (DocType.parse text).names
  unknown : Scope.isKnown ⟨.ofSnapshot s, some ns, settings.builtins⟩ ns = false

/-- Of the exempt names only `self` can be unknown. -/
theorem isKnown_nameWithin_eq_false_iff {name : String} (hexempt : Exempt settings.builtins name) :
    Scope.isKnown ⟨.ofSnapshot s, writer, settings.builtins⟩ (nameWithin writer name) = false ↔
      name = "self" ∧ ∃ ns, writer = some ns ∧
        Scope.isKnown ⟨.ofSnapshot s, some ns, settings.builtins⟩ ns = false := by
  have hknown : Scope.isKnown ⟨.ofSnapshot s, writer, settings.builtins⟩ name = true :=
    Scope.isKnown_iff.2 (Or.inl hexempt)
  by_cases hself : name = "self"
  · subst hself
    cases writer with
    | none => simp [nameWithin, hknown]
    | some ns => simp [nameWithin]
  · simp [nameWithin_of_ne_self hself, hknown, hself]

theorem unresolved_iff_selfAstray (hexempt : ∀ name ∈ (DocType.parse text).names, Exempt settings.builtins name) :
    s.Unresolved settings writer text ↔ ∃ ns, s.SelfAstray settings writer text ns := by
  rw [unresolved_iff_exists_name]
  constructor
  · rintro ⟨name, hname, hunknown⟩
    obtain ⟨rfl, ns, hwithin, hunknown⟩ := (isKnown_nameWithin_eq_false_iff (hexempt name hname)).1 hunknown
    exact ⟨ns, hwithin, hname, hunknown⟩
  · rintro ⟨ns, hwithin, hself, hunknown⟩
    exact ⟨"self", hself, (isKnown_nameWithin_eq_false_iff (hexempt _ hself)).2 ⟨rfl, ns, hwithin, hunknown⟩⟩

/-- Where `self` is astray, the namespace is all that is missing. -/
theorem SelfAstray.resolution_eq {ns : String} (h : s.SelfAstray settings writer text ns)
    (hexempt : ∀ name ∈ (DocType.parse text).names, Exempt settings.builtins name) (anchor : Anchor) :
    Task.resolution ⟨.ofSnapshot s, settings⟩ ⟨anchor, writer, text⟩ =
      .unresolved ((DocType.parse text).replaceSelf ns) [ns] := by
  obtain ⟨type, missing, hres⟩ := (unresolved_iff anchor).1 ((unresolved_iff_selfAstray hexempt).2 ⟨ns, h⟩)
  obtain ⟨rfl, hself, hunknown⟩ := h
  obtain ⟨rfl, hnodup, hmem⟩ := Scope.missing_of_resolve hres
  have hmissing : ∀ name, name ∈ missing ↔ name ∈ [ns] := by
    intro name
    rw [hmem, names_replaceSelf, List.mem_map, List.mem_singleton]
    constructor
    · rintro ⟨⟨written, hwritten, rfl⟩, hname⟩
      obtain ⟨rfl, -⟩ := (isKnown_nameWithin_eq_false_iff (hexempt written hwritten)).1 hname
      rfl
    · rintro rfl
      exact ⟨⟨"self", hself, rfl⟩, hunknown⟩
  obtain rfl : missing = [ns] :=
    List.perm_singleton.1 ((List.perm_ext_iff_of_nodup hnodup (List.nodup_singleton ns)).2 hmissing)
  exact hres

/-- A type with methods is known by its name, unless the name starts with colons: then the index has it with them, and
it is looked up without. -/
theorem not_selfAstray_of_owner {m : MethodDecl} (hm : m ∈ s.methods) (howner : m.owner = writer)
    (hcolons : ∀ ns, writer = some ns → ns.startsWith "::" = false) (ns : String) :
    ¬ s.SelfAstray settings writer text ns := by
  rintro ⟨rfl, -, hunknown⟩
  have hindexes : Scope.Indexes ⟨.ofSnapshot s, some ns, settings.builtins⟩ ns := by
    refine Or.inl ?_
    rw [ofList_stripColons (hcolons ns rfl)]
    exact Index.contains_owner hm howner
  have hknown := Scope.isKnown_iff.2 (Or.inr (Scope.isSome_qualify?_iff.2 hindexes))
  exact absurd (hknown.symm.trans hunknown) (by decide)

end Snapshot

/-- A tag of exempt names has a meaning, wherever it is written, and a check does not report it; what is reported in the
very words for it is about another parameter of the method.  Only if the tag has a `self` in a namespace which is not
known by its own name, then the namespace is missing and is reported.  No type with methods is such a namespace, unless
its name starts with colons. -/
theorem Task.check_exempt (s : Snapshot) (settings : Settings) {text : String} {family : RuleFamily}
    {location : Location} {writer : Option String} {finding : String → List String → Finding}
    (hwrites : s.Writes text family location writer finding)
    (hexempt : ∀ name ∈ (DocType.parse text).names, Exempt settings.builtins name) :
    ((∀ ns, ¬ s.SelfAstray settings writer text ns) →
      (∃ declared, s.Means settings writer text declared) ∧
        ∀ ps, (Task.check ⟨.ofSnapshot s, settings⟩).result = .ok ps →
          ∀ p ∈ ps, p.kind = .unresolved → p.location = location → p.message = (finding (trim text) []).message →
            family = .params ∧ ∃ i m tag, tag.text ≠ text ∧ s.ParamUnresolved settings i m tag ∧
              location = ⟨.method i, m.span⟩ ∧ p.message = tag.unresolvedMessage m) ∧
      (∀ ns, s.SelfAstray settings writer text ns →
        Task.resolution ⟨.ofSnapshot s, settings⟩ ⟨location.anchor, writer, text⟩ =
          .unresolved ((DocType.parse text).replaceSelf ns) [ns] ∧
        (settings.checks family = true → ∀ ps, (Task.check ⟨.ofSnapshot s, settings⟩).result = .ok ps →
          ∃ p ∈ ps, p.kind = .unresolved ∧ p.location = location ∧
            p.message = (finding (trim text) [ns]).message)) ∧
      ∀ m ∈ s.methods, m.owner = writer → (∀ ns, writer = some ns → ns.startsWith "::" = false) →
        ∀ ns, ¬ s.SelfAstray settings writer text ns := by
  refine ⟨?_, ?_, fun m hm => Snapshot.not_selfAstray_of_owner hm⟩
  · intro hastray
    have hresolved : ¬ s.Unresolved settings writer text := by
      rw [Snapshot.unresolved_iff_selfAstray hexempt]
      exact fun ⟨ns, hns⟩ => hastray ns hns
    refine ⟨by simpa [Snapshot.Unresolved] using hresolved, ?_⟩
    intro ps h p hp
    exact Task.exists_paramUnresolved_of_resolved h hwrites hresolved hp
  · intro ns hns
    have hres := hns.resolution_eq hexempt location.anchor
    refine ⟨hres, ?_⟩
    intro hchecks ps h
    exact Task.exists_listed_of_writes h hwrites hchecks (isBlankText_eq_false_of_mem_names hns.mentioned) hres

/-- Two assignments in a namespace that is declared nowhere, and a method with a tag of many exempt names. -/
def adrift : Snapshot where
  methods := [
    { owner := some "Outer", name := "run", returnTag := some "Hash\x7b#call => self\x7d, Money", body := [.unknown] }
  ]
  assignments := [
    { name := "x", tag := "Array<nil, self>", value := .unknown, within := some "Nowhere" },
    { name := "y", tag := "Array<nil, #call>", value := .unknown, within := some "Nowhere" }
  ]

def lenient : Settings where
  builtins := ["Array", "Hash", "Money"]

/-- The `self` of the method and the tag without one are not reported, the `self` of the other assignment is. -/
theorem check_exempt_adrift :
    (Task.check ⟨.ofSnapshot adrift, lenient⟩).result = .ok [
        (Finding.unresolvedVariable "x" "Array<nil, self>" ["Nowhere"]).report ⟨.assignment 0, {}⟩
      ] ∧
      (∃ declared, adrift.Means lenient (some "Outer") "Hash\x7b#call => self\x7d, Money" declared) ∧
      (∃ declared, adrift.Means lenient (some "Nowhere") "Array<nil, #call>" declared) ∧
      adrift.SelfAstray lenient (some "Nowhere") "Array<nil, self>" "Nowhere" ∧
      Task.resolution ⟨.ofSnapshot adrift, lenient⟩
          ⟨.assignment 0, some "Nowhere", "Array<nil, self>"⟩ =
        .unresolved ((DocType.parse "Array<nil, self>").replaceSelf "Nowhere") ["Nowhere"] := by
  have hcheck : (Task.check ⟨.ofSnapshot adrift, lenient⟩).result = .ok [
      (Finding.unresolvedVariable "x" "Array<nil, self>" ["Nowhere"]).report ⟨.assignment 0, {}⟩
    ] := by
    rw [Task.check_result_eq_inOrder]
    decide +kernel
  have hmethod := Task.check_exempt adrift lenient (.returned (i := 0) rfl rfl) (by decide +kernel)
  have hx := Task.check_exempt adrift lenient (.assigned (j := 0) rfl rfl) (by decide +kernel)
  have hy := Task.check_exempt adrift lenient (.assigned (j := 1) rfl rfl) (by decide +kernel)
  have howner := hmethod.2.2 _ List.mem_cons_self rfl (by decide +kernel)
  have hastray : adrift.SelfAstray lenient (some "Nowhere") "Array<nil, self>" "Nowhere" :=
    ⟨rfl, by decide +kernel, by decide +kernel⟩
  have hnot : "self" ∉ (DocType.parse "Array<nil, #call>").names := by decide +kernel
  exact ⟨hcheck, (hmethod.1 howner).1, (hy.1 fun ns hns => hnot hns.mentioned).1, hastray, (hx.2.1 _ hastray).1⟩

/-- An assignment with the tag `self` in a namespace that is declared nowhere. -/
def nowhere : Snapshot where
  assignments := [{ name := "x", tag := "self", value := .unknown, within := some "Nowhere" }]

/-- `self` is exempt, and yet a check reports a tag that says no more than `self`. -/
theorem exempt_self_reported :
    (∀ name ∈ (DocType.parse "self").names, Exempt [] name) ∧
      (Task.check ⟨.ofSnapshot nowhere, {}⟩).result = .ok [
        (Finding.unresolvedVariable "x" "self" ["Nowhere"]).report ⟨.assignment 0, {}⟩
      ] := by
  refine ⟨by decide +kernel, ?_⟩
  rw [Task.check_result_eq_inOrder]
  decide +kernel

end TagCheck
