import TagCheck.Proofs.Mismatch
import TagCheck.Proofs.Signature

/-!
# Unresolved names

A tag is unresolved if the type that writes it does not know all of its names (`Snapshot.Unresolved`).  A check of all
families lists one problem for each unresolved tag that a declaration writes, and nothing else of the kind.  Where a
rule meets an unresolved tag that was written elsewhere it compares nothing and says nothing (`Task.Skips`), but the
declaration that wrote the tag is a method of the snapshot, and the list has a problem there (`Task.check_unresolved`).
-/

namespace TagCheck

namespace Snapshot

variable (s : Snapshot) (settings : Settings)

/-- The tag means nothing to the type that writes it. -/
def Unresolved (writer : Option String) (text : String) : Prop :=
  ∀ declared, ¬ s.Means settings writer text declared

/-- The method of the given number writes a return tag that is unresolved. -/
def ReturnUnresolved (i : Nat) : Prop :=
  ∃ m text, s.methods[i]? = some m ∧ m.returnTag? = some text ∧ s.Unresolved settings m.owner text

/-- The assignment of the given number has a tag that is unresolved. -/
def VariableUnresolved (j : Nat) : Prop :=
  ∃ v, s.assignments[j]? = some v ∧ isBlankText v.tag = false ∧ s.Unresolved settings v.within v.tag

/-- The method of the given number writes the parameter tag, and the tag is unresolved. -/
structure ParamUnresolved (i : Nat) (m : MethodDecl) (tag : ParamTag) : Prop where
  method : s.methods[i]? = some m
  tag_mem : tag ∈ m.paramTags
  written : isBlankText tag.text = false
  unresolved : s.Unresolved settings m.owner tag.text

variable {s settings}

theorem unresolved_iff {writer : Option String} {text : String} (anchor : Anchor) :
    s.Unresolved settings writer text ↔
      ∃ type missing,
        Task.resolution ⟨.ofSnapshot s, settings⟩ ⟨anchor, writer, text⟩ = .unresolved type missing := by
  have hmeans : ∀ declared, s.Means settings writer text declared ↔
      Task.resolution ⟨.ofSnapshot s, settings⟩ ⟨anchor, writer, text⟩ = .resolved declared := fun _ => Iff.rfl
  unfold Unresolved
  simp only [hmeans]
  cases Task.resolution ⟨.ofSnapshot s, settings⟩ ⟨anchor, writer, text⟩ <;> simp

theorem returnUnresolved_iff {i : Nat} :
    s.ReturnUnresolved settings i ↔
      ∃ m f, s.methods[i]? = some m ∧ Task.returnFinding? ⟨.ofSnapshot s, settings⟩ m i = some f ∧
        f.code = "Y0010" := by
  constructor
  · rintro ⟨m, text, hm, hown, hunresolved⟩
    obtain ⟨type, missing, hres⟩ := (unresolved_iff (.method i)).1 hunresolved
    have htag : Task.returnTag? ⟨.ofSnapshot s, settings⟩ m = some (text, none) := Task.tagInEffect?_eq_own_iff.2 hown
    have hfinding := Task.returnFinding?_eq_some_iff.2 ⟨text, none, htag, Or.inl ⟨type, missing, hres, rfl, rfl⟩⟩
    exact ⟨m, _, hm, hfinding, rfl⟩
  · rintro ⟨m, f, hm, hf, hcode⟩
    obtain ⟨text, inheritedFrom, htag, hrest⟩ := Task.returnFinding?_eq_some_iff.1 hf
    rcases hrest with ⟨type, missing, hres, rfl, rfl⟩ | ⟨declared, -, -, -, rfl⟩
    · have hown : m.returnTag? = some text := Task.tagInEffect?_eq_own_iff.1 htag
      exact ⟨m, text, hm, hown, (unresolved_iff (.method i)).2 ⟨type, missing, hres⟩⟩
    · have hcode : "Y0001" = "Y0010" := hcode
      exact absurd hcode (by decide)

theorem variableUnresolved_iff {j : Nat} :
    s.VariableUnresolved settings j ↔
      ∃ v f, s.assignments[j]? = some v ∧ Task.variableFinding? ⟨.ofSnapshot s, settings⟩ v j = some f ∧
        f.code = "Y0012" := by
  constructor
  · rintro ⟨v, hv, hwritten, hunresolved⟩
    obtain ⟨type, missing, hres⟩ := (unresolved_iff (.assignment j)).1 hunresolved
    have hfinding := Task.variableFinding?_eq_some_iff.2 ⟨hwritten, Or.inl ⟨type, missing, hres, rfl⟩⟩
    exact ⟨v, _, hv, hfinding, rfl⟩
  · rintro ⟨v, f, hv, hf, hcode⟩
    obtain ⟨hwritten, hrest⟩ := Task.variableFinding?_eq_some_iff.1 hf
    rcases hrest with ⟨type, missing, hres, rfl⟩ | ⟨declared, -, -, -, rfl⟩
    · exact ⟨v, hv, hwritten, (unresolved_iff (.assignment j)).2 ⟨type, missing, hres⟩⟩
    · have hcode : "Y0002" = "Y0012" := hcode
      exact absurd hcode (by decide)

theorem paramUnresolved_iff {i : Nat} {m : MethodDecl} {tag : ParamTag} :
    s.ParamUnresolved settings i m tag ↔
      s.methods[i]? = some m ∧ tag ∈ m.paramTags ∧
        ∃ missing, Task.paramFinding? ⟨.ofSnapshot s, settings⟩ m i tag =
          some (.unresolvedParam m.path tag.name (trim tag.text) missing) := by
  constructor
  · rintro ⟨hm, htag, hwritten, hunresolved⟩
    obtain ⟨type, missing, hres⟩ := (unresolved_iff (.method i)).1 hunresolved
    exact ⟨hm, htag, missing, Task.paramFinding?_eq_some_iff.2 ⟨hwritten, type, missing, hres, rfl⟩⟩
  · rintro ⟨hm, htag, missing, hf⟩
    obtain ⟨hwritten, type, missing', hres, -⟩ := Task.paramFinding?_eq_some_iff.1 hf
    exact ⟨hm, htag, hwritten, (unresolved_iff (.method i)).2 ⟨type, missing', hres⟩⟩

end Snapshot

/-! ### Tags that are passed over -/

/-- A rule reads a tag of the method that is unresolved, and so compares nothing with it: the return tag that the method
inherits, or the tag of a parameter that an argument is bound to. -/
inductive Task.Skips (t : Task) : MethodDecl → TagSelector → Option String → String → Prop
  | returned {i : Nat} {m : MethodDecl} {text writer : String} {type : DocType} {missing : List String}
      (hm : t.program.snapshot.methods[i]? = some m) (htag : t.returnTag? m = some (text, some writer))
      (hres : t.resolution ⟨.method i, some writer, text⟩ = .unresolved type missing) :
      t.Skips m .returned (some writer) text
  | argument {call : CallSite} {n : Nat} {m : MethodDecl} {sig : Signature} {p : Parameter} {arg : Argument}
      {text : String} {type : DocType} {missing : List String} (hcall : call ∈ t.program.snapshot.calls)
      (hn : n ∈ t.program.callees call) (hm : t.program.snapshot.methods[n]? = some m) (hsig : t.signature n = .ok sig)
      (hbound : (p, arg) ∈ (sig.bind call.args call.kwargs).pairs) (htag : p.tag = some text)
      (hres : t.resolution ⟨.method n, p.inheritedFrom.or sig.owner, text⟩ = .unresolved type missing) :
      t.Skips m (.param p.name) (p.inheritedFrom.or sig.owner) text

/-- What a rule passes over is unresolved where a definition of the same member wrote it. -/
theorem Task.Skips.exists_writer {s : Snapshot} {settings : Settings} {m : MethodDecl} {selector : TagSelector}
    {writer : Option String} {text : String} (h : Task.Skips ⟨.ofSnapshot s, settings⟩ m selector writer text) :
    s.Unresolved settings writer text ∧
      ∃ w ∈ s.methods, w.owner = writer ∧ w.name = m.name ∧ w.scope = m.scope ∧ w.tag? selector = some text := by
  cases h with
  | @returned i _ text writer type missing hm htag hres =>
    have hmem := List.mem_of_getElem? hm
    have heffect := (Task.tagInEffect?_eq_some_iff hmem).1 ⟨some writer, htag, rfl⟩
    exact ⟨(Snapshot.unresolved_iff (.method i)).2 ⟨type, missing, hres⟩, heffect.exists_writer hmem⟩
  | @argument call n _ sig p arg text type missing hcall hn hm hsig hbound htag hres =>
    obtain ⟨m', params, hm', -, rfl⟩ := Task.signature_eq_ok_iff.1 hsig
    obtain rfl : m = m' := Option.some.inj (hm.symm.trans hm')
    have hmem := List.mem_of_getElem? hm
    have heffect := (Task.tag_eq_some_iff hmem (Signature.mem_params_of_mem_pairs hbound)).1 ⟨htag, rfl⟩
    exact ⟨(Snapshot.unresolved_iff (.method n)).2 ⟨type, missing, hres⟩, heffect.exists_writer hmem⟩

/-! ### Tags that are written -/

/-- A declaration of the snapshot has a tag with the text.  Told of the tag are the family that reads it, where the
family reports, the type whose names it uses, and what is found if some of them are missing. -/
inductive Snapshot.Writes (s : Snapshot) (text : String) :
    RuleFamily → Location → Option String → (String → List String → Finding) → Prop
  | returned {i : Nat} {m : MethodDecl} (hm : s.methods[i]? = some m) (htag : m.returnTag = some text) :
      s.Writes text .returns ⟨.method i, m.span⟩ m.owner (.unresolvedReturn m.path)
  | param {i : Nat} {m : MethodDecl} {name : String} (hm : s.methods[i]? = some m) (htag : ⟨name, text⟩ ∈ m.paramTags) :
      s.Writes text .params ⟨.method i, m.span⟩ m.owner (.unresolvedParam m.path name)
  | assigned {j : Nat} {v : Assignment} (hv : s.assignments[j]? = some v) (htag : v.tag = text) :
      s.Writes text .variables ⟨.assignment j, v.span⟩ v.within (.unresolvedVariable v.name)

theorem written?_eq_some_iff {tag text : String} : written? tag = some text ↔ isBlankText tag = false ∧ tag = text := by
  unfold written?
  cases isBlankText tag <;> simp

/-- What the rule for parameter tags finds. -/
theorem Task.mem_problemsOf_params {t : Task} {found : List Problem} (h : t.problemsOf .params = .ok found)
    {p : Problem} :
    p ∈ found ↔
      ∃ i m tag f, t.program.snapshot.methods[i]? = some m ∧ tag ∈ m.paramTags ∧
        t.paramFinding? m i tag = some f ∧ f.report ⟨.method i, m.span⟩ = p := by
  obtain rfl := Except.ok.inj h
  simp only [Task.mem_flatMap_zipIdx, Task.paramProblems, List.mem_map, List.mem_filterMap]
  constructor
  · rintro ⟨i, m, hm, f, ⟨tag, htag, hf⟩, hp⟩
    exact ⟨i, m, tag, f, hm, htag, hf, hp⟩
  · rintro ⟨i, m, tag, f, hm, htag, hf, hp⟩
    exact ⟨i, m, hm, f, ⟨tag, htag, hf⟩, hp⟩

/-- The family that reads a tag finds its missing names. -/
theorem Task.exists_problem_of_writes (t : Task) {text : String} {family : RuleFamily} {location : Location}
    {writer : Option String} {finding : String → List String → Finding}
    (h : t.program.snapshot.Writes text family location writer finding) (hwritten : isBlankText text = false)
    {type : DocType} {missing : List String}
    (hres : t.resolution ⟨location.anchor, writer, text⟩ = .unresolved type missing) :
    ∃ found, t.problemsOf family = .ok found ∧ (finding (trim text) missing).report location ∈ found := by
  cases h with
  | @returned i m hm htag =>
    have htag : m.returnTag? = some text := by simp [MethodDecl.returnTag?, htag, written?, hwritten]
    have htag : t.returnTag? m = some (text, none) := Task.tagInEffect?_eq_own_iff.2 htag
    have hfinding : t.returnFinding? m i = some (.unresolvedReturn m.path (trim text) missing) :=
      Task.returnFinding?_eq_some_iff.2 ⟨text, none, htag, Or.inl ⟨type, missing, hres, rfl, rfl⟩⟩
    refine ⟨_, rfl, Task.mem_flatMap_zipIdx.2 ⟨i, m, hm, ?_⟩⟩
    exact List.mem_map.2 ⟨_, Option.mem_toList.2 hfinding, rfl⟩
  | @param i m name hm htag =>
    have hfinding : t.paramFinding? m i ⟨name, text⟩ = some (.unresolvedParam m.path name (trim text) missing) :=
      Task.paramFinding?_eq_some_iff.2 ⟨hwritten, type, missing, hres, rfl⟩
    exact ⟨_, rfl, (Task.mem_problemsOf_params rfl).2 ⟨i, m, _, _, hm, htag, hfinding, rfl⟩⟩
  | @assigned j v hv htag =>
    subst htag
    have hfinding : t.variableFinding? v j = some (.unresolvedVariable v.name (trim v.tag) missing) :=
      Task.variableFinding?_eq_some_iff.2 ⟨hwritten, Or.inl ⟨type, missing, hres, rfl⟩⟩
    refine ⟨_, rfl, Task.mem_flatMap_zipIdx.2 ⟨j, v, hv, ?_⟩⟩
    exact List.mem_map.2 ⟨_, Option.mem_toList.2 hfinding, rfl⟩

/-- What is missing is listed where it is written. -/
theorem Task.exists_listed_of_writes {t : Task} {ps : List Problem} (h : t.check.result = .ok ps) {text : String}
    {family : RuleFamily} {location : Location} {writer : Option String} {finding : String → List String → Finding}
    (hwrites : t.program.snapshot.Writes text family location writer finding)
    (hchecks : t.settings.checks family = true) (hwritten : isBlankText text = false) {type : DocType}
    {missing : List String} (hres : t.resolution ⟨location.anchor, writer, text⟩ = .unresolved type missing) :
    ∃ p ∈ ps, p.kind = .unresolved ∧ p.location = location ∧ p.message = (finding (trim text) missing).message := by
  obtain ⟨found, hfound, hmem⟩ := t.exists_problem_of_writes hwrites hwritten hres
  obtain ⟨all, rfl, hall⟩ := Task.exists_listing h
  -- a tag that is worded alike may have been listed in its place
  obtain ⟨p, hp, hkey⟩ := Collector.exists_mem_listing ((hall _).2 ⟨family, found, hchecks, hfound, hmem⟩)
  obtain ⟨hkind, hlocation, hmessage⟩ := ProblemKey.mk.inj hkey
  refine ⟨p, hp, ?_, hlocation, hmessage⟩
  rw [hkind]
  cases hwrites <;> rfl

/-- What is listed as unresolved is a tag that a declaration writes, with the names that are missing. -/
theorem Task.exists_writes_of_unresolved {t : Task} {ps : List Problem} (h : t.check.result = .ok ps) {p : Problem}
    (hp : p ∈ ps) (hkind : p.kind = .unresolved) :
    ∃ text family location writer finding type missing,
      t.program.snapshot.Writes text family location writer finding ∧ t.settings.checks family = true ∧
        isBlankText text = false ∧ t.resolution ⟨location.anchor, writer, text⟩ = .unresolved type missing ∧
        p = (finding (trim text) missing).report location := by
  obtain ⟨all, rfl, hall⟩ := Task.exists_listing h
  obtain ⟨family, found, hchecks, hfound, hp⟩ := (hall p).1 (Collector.mem_of_mem_listing hp)
  match family with
  | .returns =>
    obtain rfl := Except.ok.inj hfound
    obtain ⟨i, m, hm, hp⟩ := Task.mem_flatMap_zipIdx.1 hp
    obtain ⟨f, hf, rfl⟩ := List.mem_map.1 hp
    obtain ⟨text, inheritedFrom, htag, hrest⟩ := Task.returnFinding?_eq_some_iff.1 (Option.mem_toList.1 hf)
    rcases hrest with ⟨type, missing, hres, rfl, rfl⟩ | ⟨declared, -, -, -, rfl⟩
    · obtain ⟨tag, hown, htext⟩ := Option.bind_eq_some_iff.1 (Task.tagInEffect?_eq_own_iff.1 htag)
      obtain ⟨hwritten, rfl⟩ := written?_eq_some_iff.1 htext
      exact ⟨tag, _, _, _, _, type, missing, .returned hm hown, hchecks, hwritten, hres, rfl⟩
    · cases hkind
  | .variables =>
    obtain rfl := Except.ok.inj hfound
    obtain ⟨j, v, hv, hp⟩ := Task.mem_flatMap_zipIdx.1 hp
    obtain ⟨f, hf, rfl⟩ := List.mem_map.1 hp
    obtain ⟨hwritten, hrest⟩ := Task.variableFinding?_eq_some_iff.1 (Option.mem_toList.1 hf)
    rcases hrest with ⟨type, missing, hres, rfl⟩ | ⟨declared, -, -, -, rfl⟩
    · exact ⟨v.tag, _, _, _, _, type, missing, .assigned hv rfl, hchecks, hwritten, hres, rfl⟩
    · cases hkind
  | .params =>
    obtain ⟨i, m, tag, f, hm, htag, hf, rfl⟩ := (Task.mem_problemsOf_params hfound).1 hp
    obtain ⟨hwritten, type, missing, hres, rfl⟩ := Task.paramFinding?_eq_some_iff.1 hf
    exact ⟨tag.text, _, _, _, _, type, missing, .param hm htag, hchecks, hwritten, hres, rfl⟩
  | .calls =>
    -- nothing that is wrong with a call is of this kind
    obtain ⟨f, location, rfl, hfamily, -⟩ := Task.reportedBy_of_mem_problemsOf hfound p hp
    cases f <;> cases hkind <;> cases hfamily

/-- The tag that is asked of a method is one that the method writes. -/
theorem Snapshot.writes_of_tag? {s : Snapshot} {i : Nat} {m : MethodDecl} {selector : TagSelector} {text : String}
    (hm : s.methods[i]? = some m) (htag : m.tag? selector = some text) :
    isBlankText text = false ∧ ∃ family finding, s.Writes text family ⟨.method i, m.span⟩ m.owner finding := by
  cases selector with
  | returned =>
    obtain ⟨tag, hown, hwritten⟩ := Option.bind_eq_some_iff.1 htag
    obtain ⟨hblank, rfl⟩ := written?_eq_some_iff.1 hwritten
    exact ⟨hblank, _, _, .returned hm hown⟩
  | param name =>
    obtain ⟨tag, hfind, hwritten⟩ := Option.bind_eq_some_iff.1 htag
    obtain ⟨hblank, rfl⟩ := written?_eq_some_iff.1 hwritten
    exact ⟨hblank, _, _, .param hm (List.mem_of_find?_eq_some hfind)⟩

/-! ### Listed tags -/

/-- The words for an unresolved parameter tag. -/
def ParamTag.unresolvedMessage (m : MethodDecl) (tag : ParamTag) : String :=
  "Unresolved type " ++ trim tag.text ++ " for " ++ tag.name ++ " param on " ++ m.path

/-- The list of problems answers for the tags that are unresolved. -/
structure Snapshot.UnresolvedListed (s : Snapshot) (settings : Settings) (ps : List Problem) : Prop where
  returns : ∀ i, ListedOnceIff ps "Y0010" (.method i) (s.ReturnUnresolved settings i)
  returns_only : ∀ i, s.ReturnUnresolved settings i → ∀ p ∈ ps, p.location.anchor = .method i → p.code ≠ "Y0001"
  assignments : ∀ j, ListedOnceIff ps "Y0012" (.assignment j) (s.VariableUnresolved settings j)
  assignments_only : ∀ j, s.VariableUnresolved settings j →
    ∀ p ∈ ps, p.location.anchor = .assignment j → p.code ≠ "Y0002"
  /-- Tags of one method that are worded alike share a problem. -/
  params : ∀ i m tag, s.ParamUnresolved settings i m tag →
    ∃ p, (ps.filter fun q => q.code = "Y0011" ∧ q.location = ⟨.method i, m.span⟩ ∧
      q.message = tag.unresolvedMessage m) = [p]
  params_only : ∀ p ∈ ps, p.code = "Y0011" →
    ∃ i m tag, s.ParamUnresolved settings i m tag ∧ p.location = ⟨.method i, m.span⟩ ∧
      p.message = tag.unresolvedMessage m
  /-- No tag is passed over in silence. -/
  skipped : ∀ m selector writer text, Task.Skips ⟨.ofSnapshot s, settings⟩ m selector writer text →
    ∃ k w p, s.methods[k]? = some w ∧ w.owner = writer ∧ w.name = m.name ∧ w.scope = m.scope ∧
      w.tag? selector = some text ∧ p ∈ ps ∧ p.kind = .unresolved ∧ p.location.anchor = .method k

theorem Finding.kind_eq_unresolved_iff (f : Finding) :
    f.kind = .unresolved ↔ f.code = "Y0010" ∨ f.code = "Y0011" ∨ f.code = "Y0012" := by
  cases f <;> simp [Finding.kind, Finding.code]

namespace Task

theorem kind_of_mem_check {t : Task} {ps : List Problem} (h : t.check.result = .ok ps) {p : Problem} (hp : p ∈ ps)
    (hcode : p.code = "Y0010" ∨ p.code = "Y0011" ∨ p.code = "Y0012") : p.kind = .unresolved := by
  obtain ⟨family, f, location, rfl, -, -⟩ := reportedBy_of_mem_check h hp
  exact f.kind_eq_unresolved_iff.2 hcode

end Task

section Listed

variable {s : Snapshot} {settings : Settings} {ps : List Problem}

/-- A list with at most one finding for each item has no second code there. -/
private theorem code_ne_of_listedOnceIff {α : Type} {items : List α} {find : α → Nat → Option Finding} {place : Anchor}
    {i : Nat} {code other : String} (hne : code ≠ other)
    (hother : ListedOnceIff ps other place (∃ x f, items[i]? = some x ∧ find x i = some f ∧ f.code = other))
    (h : ∃ x f, items[i]? = some x ∧ find x i = some f ∧ f.code = code) :
    ∀ p ∈ ps, p.location.anchor = place → p.code ≠ other := by
  intro p hp hanchor hcode
  obtain ⟨x, f, hx, hf, rfl⟩ := h
  obtain ⟨y, g, hy, hg, rfl⟩ := hother.1.1 ⟨p, hp, hcode, hanchor⟩
  obtain rfl : x = y := Option.some.inj (hx.symm.trans hy)
  obtain rfl : f = g := Option.some.inj (hf.symm.trans hg)
  exact hne rfl

/-- An unresolved parameter tag is listed once under its words. -/
private theorem exists_filter_of_paramUnresolved (h : (Task.check ⟨.ofSnapshot s, settings⟩).result = .ok ps)
    (hchecks : settings.checks .params = true) {i : Nat} {m : MethodDecl} {tag : ParamTag}
    (htag : s.ParamUnresolved settings i m tag) :
    ∃ p, (ps.filter fun q => q.code = "Y0011" ∧ q.location = ⟨.method i, m.span⟩ ∧
      q.message = tag.unresolvedMessage m) = [p] := by
  obtain ⟨hm, hmem, missing, hfinding⟩ := Snapshot.paramUnresolved_iff.1 htag
  obtain ⟨all, hps, hall⟩ := Task.exists_listing h
  let a := (Finding.unresolvedParam m.path tag.name (trim tag.text) missing).report ⟨.method i, m.span⟩
  have hfound : a ∈ _ := (Task.mem_problemsOf_params rfl).2 ⟨i, m, tag, _, hm, hmem, hfinding, rfl⟩
  have ha : a ∈ all := (hall a).2 ⟨.params, _, hchecks, rfl, hfound⟩
  have hreported : a.ReportedBy .params := Task.reportedBy_of_mem_problemsOf rfl a hfound
  obtain ⟨b, hb⟩ := Collector.filter_key_listing ha
  refine ⟨b, ?_⟩
  rw [← hb, ← hps]
  -- the words and the place give the code away, and the code the kind
  refine List.filter_congr fun q hq => ?_
  rw [Bool.eq_iff_iff, decide_eq_true_iff, beq_iff_eq]
  constructor
  · rintro ⟨hcode, hlocation, hmessage⟩
    have hkind := Task.kind_of_mem_check h hq (Or.inr (Or.inl hcode))
    rw [Problem.key, hkind, hlocation, hmessage]
    rfl
  · intro hkey
    obtain ⟨family, hfamily⟩ := Task.reportedBy_of_mem_check h hq
    exact ⟨Problem.code_eq_of_key_eq hfamily hreported hkey, congrArg ProblemKey.location hkey,
      congrArg ProblemKey.message hkey⟩

private theorem exists_paramUnresolved (h : (Task.check ⟨.ofSnapshot s, settings⟩).result = .ok ps) {p : Problem}
    (hp : p ∈ ps) (hcode : p.code = "Y0011") :
    ∃ i m tag, s.ParamUnresolved settings i m tag ∧ p.location = ⟨.method i, m.span⟩ ∧
      p.message = tag.unresolvedMessage m := by
  have hkind := Task.kind_of_mem_check h hp (Or.inr (Or.inl hcode))
  obtain ⟨text, family, location, writer, finding, type, missing, hwrites, -, hwritten, hres, rfl⟩ :=
    Task.exists_writes_of_unresolved h hp hkind
  have hunresolved := (Snapshot.unresolved_iff location.anchor).2 ⟨type, missing, hres⟩
  cases hwrites with
  | returned => exact absurd (show "Y0010" = "Y0011" from hcode) (by decide)
  | @param i m name hm htag => exact ⟨i, m, ⟨name, text⟩, ⟨hm, htag, hwritten, hunresolved⟩, rfl, rfl⟩
  | assigned => exact absurd (show "Y0012" = "Y0011" from hcode) (by decide)

end Listed

/-- A check of all families that succeeds answers for every unresolved tag: it lists one problem for each that a
declaration writes and compares nothing with it, and a rule that passes over a tag written elsewhere does so only where
the list has a problem at the method that wrote it. -/
theorem Task.check_unresolved (s : Snapshot) (settings : Settings) (hall : ∀ family, settings.checks family = true)
    {ps : List Problem} (h : (Task.check ⟨.ofSnapshot s, settings⟩).result = .ok ps) :
    s.UnresolvedListed settings ps := by
  have hreturns : ∀ code ∈ RuleFamily.returns.codes, ∀ i, ListedOnceIff ps code (.method i)
      (∃ m f, s.methods[i]? = some m ∧ Task.returnFinding? ⟨.ofSnapshot s, settings⟩ m i = some f ∧ f.code = code) :=
    fun code hcode i => Task.listedOnceIff_finding h (hall .returns) hcode rfl (fun n k => Anchor.method.inj) i
  have hvariables : ∀ code ∈ RuleFamily.variables.codes, ∀ j, ListedOnceIff ps code (.assignment j)
      (∃ v f, s.assignments[j]? = some v ∧ Task.variableFinding? ⟨.ofSnapshot s, settings⟩ v j = some f ∧
        f.code = code) :=
    fun code hcode j => Task.listedOnceIff_finding h (hall .variables) hcode rfl (fun n k => Anchor.assignment.inj) j
  have hlisted : ∀ i, ListedOnceIff ps "Y0010" (.method i) (s.ReturnUnresolved settings i) := by
    intro i
    rw [Snapshot.returnUnresolved_iff]
    exact hreturns "Y0010" (by decide) i
  refine ⟨hlisted, ?_, ?_, ?_, ?_, ?_, ?_⟩
  · intro i hi
    exact code_ne_of_listedOnceIff (by decide) (hreturns "Y0001" (by decide) i) (Snapshot.returnUnresolved_iff.1 hi)
  · intro j
    rw [Snapshot.variableUnresolved_iff]
    exact hvariables "Y0012" (by decide) j
  · intro j hj
    exact code_ne_of_listedOnceIff (by decide) (hvariables "Y0002" (by decide) j)
      (Snapshot.variableUnresolved_iff.1 hj)
  · intro i m tag htag
    exact exists_filter_of_paramUnresolved h (hall .params) htag
  · intro p hp hcode
    exact exists_paramUnresolved h hp hcode
  · intro m selector writer text hskips
    obtain ⟨hunresolved, w, hw, rfl, hname, hscope, htext⟩ := hskips.exists_writer
    obtain ⟨k, hk⟩ := List.mem_iff_getElem?.1 hw
    obtain ⟨hwritten, family, finding, hwrites⟩ := Snapshot.writes_of_tag? hk htext
    obtain ⟨type, missing, hres⟩ := (Snapshot.unresolved_iff (.method k)).1 hunresolved
    obtain ⟨p, hp, hkind, hlocation, -⟩ := Task.exists_listed_of_writes h hwrites (hall family) hwritten hres
    exact ⟨k, w, p, hk, rfl, hname, hscope, htext, hp, hkind, congrArg Location.anchor hlocation⟩

/-- A type whose methods inherit a return tag and a parameter tag of unknown names, and a call that passes an argument
for the parameter. -/
def orphaned : Snapshot where
  types := [{ name := "Sup" }, { name := "Sub", superclass := some "Sup" }]
  methods := [
    { owner := some "Sup", name := "name", returnTag := some "Gone", body := [.literal "String"] },
    { owner := some "Sub", name := "name", body := [.literal "String"] },
    { owner := some "Sup", name := "run", params := some [⟨"x", .required⟩], paramTags := [⟨"x", "Lost"⟩] },
    { owner := some "Sub", name := "run", params := some [⟨"x", .required⟩] }
  ]
  calls := [{ receiver := some (.new "Sub"), method := "run", args := [.literal "Integer"] }]

/-- Both tags are passed over where they are inherited and listed where they are written. -/
theorem check_unresolved_orphaned :
    (Task.check ⟨.ofSnapshot orphaned, {}⟩).result = .ok [
        (Finding.unresolvedReturn "Sup#name" "Gone" ["Gone"]).report ⟨.method 0, {}⟩,
        (Finding.unresolvedParam "Sup#run" "x" "Lost" ["Lost"]).report ⟨.method 2, {}⟩
      ] ∧
      (∃ m, Task.Skips ⟨.ofSnapshot orphaned, {}⟩ m .returned (some "Sup") "Gone") ∧
      (∃ m, Task.Skips ⟨.ofSnapshot orphaned, {}⟩ m (.param "x") (some "Sup") "Lost") ∧
      orphaned.UnresolvedListed {} [
        (Finding.unresolvedReturn "Sup#name" "Gone" ["Gone"]).report ⟨.method 0, {}⟩,
        (Finding.unresolvedParam "Sup#run" "x" "Lost" ["Lost"]).report ⟨.method 2, {}⟩
      ] := by
  have hcheck : (Task.check ⟨.ofSnapshot orphaned, {}⟩).result = .ok [
      (Finding.unresolvedReturn "Sup#name" "Gone" ["Gone"]).report ⟨.method 0, {}⟩,
      (Finding.unresolvedParam "Sup#run" "x" "Lost" ["Lost"]).report ⟨.method 2, {}⟩
    ] := by
    rw [Task.check_result_eq_inOrder]
    decide +kernel
  have hreturn : Task.returnTag? ⟨.ofSnapshot orphaned, {}⟩
      { owner := some "Sub", name := "name", body := [.literal "String"] } = some ("Gone", some "Sup") := by
    rw [Program.ofSnapshot_eq_inOrder]
    decide +kernel
  have hparam : Task.paramTag? ⟨.ofSnapshot orphaned, {}⟩
      { owner := some "Sub", name := "run", params := some [⟨"x", .required⟩] } "x" = some ("Lost", some "Sup") := by
    rw [Program.ofSnapshot_eq_inOrder]
    decide +kernel
  have hgone : Task.resolution ⟨.ofSnapshot orphaned, {}⟩ ⟨.method 1, some "Sup", "Gone"⟩ =
      .unresolved (.named "Gone") ["Gone"] := by
    rw [Program.ofSnapshot_eq_inOrder]
    decide +kernel
  have hlost : Task.resolution ⟨.ofSnapshot orphaned, {}⟩ ⟨.method 3, some "Sup", "Lost"⟩ =
      .unresolved (.named "Lost") ["Lost"] := by
    rw [Program.ofSnapshot_eq_inOrder]
    decide +kernel
  have hcallee : 3 ∈ (Program.ofSnapshot orphaned).callees
      { receiver := some (.new "Sub"), method := "run", args := [.literal "Integer"] } := by
    rw [Program.ofSnapshot_eq_inOrder]
    decide +kernel
  have hsignature : Task.signature ⟨.ofSnapshot orphaned, {}⟩ 3 =
      .ok ⟨3, "Sub#run", some "Sub", [Signature.parameter ⟨"x", .required⟩ (some ("Lost", some "Sup"))]⟩ := by
    rw [← hparam]
    exact Task.signature_eq_ok_iff.2 ⟨_, _, rfl, rfl, rfl⟩
  let x := Signature.parameter ⟨"x", .required⟩ (some ("Lost", some "Sup"))
  have hbound : (x, ⟨.positional 0, .literal "Integer"⟩) ∈
      (Signature.bind ⟨3, "Sub#run", some "Sub", [x]⟩ [.literal "Integer"] []).pairs := List.mem_cons_self
  have htag : x.tag = some "Lost" := rfl
  refine ⟨hcheck, ?_, ?_, Task.check_unresolved orphaned {} (fun _ => rfl) hcheck⟩
  · exact ⟨_, .returned (i := 1) rfl hreturn hgone⟩
  · exact ⟨_, Task.Skips.argument (p := x) (n := 3) List.mem_cons_self hcallee rfl hsignature hbound htag hlost⟩

end TagCheck
