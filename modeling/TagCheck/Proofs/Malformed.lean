import TagCheck.Proofs.Grammar
import TagCheck.Proofs.KnownNames

/-!
# Malformed tags

A text that is no sentence of the grammar is kept whole as one name (`Malformed.parse_eq`).  It is none of the names
that need no declaration, since those are sentences.  So it is missing as a whole unless a type or a setting has the
very same text as its name, or it starts with `#` and passes for a duck type (`Malformed.isKnown_iff`).  Where it is
missing, a check reports it at every declaration that writes it, and where it passes for a duck type, at none
(`Malformed.reported`).
-/

namespace TagCheck

/-- The text says something, but it is no sentence. -/
structure Malformed (text : String) : Prop where
  written : isBlankText text = false
  not_sentence : ∀ vs, ¬ Sentence (trim text).toList vs

theorem malformed_iff {text : String} :
    Malformed text ↔ isBlankText text = false ∧ readTokens? (Token.scan (trim text).toList) = none := by
  simp only [Option.eq_none_iff_forall_ne_some, ne_eq, readTokens?_scan_eq_some_iff]
  exact ⟨fun h => ⟨h.written, h.not_sentence⟩, fun h => ⟨h.1, h.2⟩⟩

instance : DecidablePred Malformed :=
  fun _ => decidable_of_iff' _ malformed_iff

namespace Malformed

variable {text : String}

theorem parse_eq (h : Malformed text) : DocType.parse text = .named (trim text) := by
  have hne : trimChars text.toList ≠ [] := by simpa [isBlankText] using h.written
  have hnot : ∀ vs, ¬ Sentence (trimChars text.toList) vs := by simpa [trim] using h.not_sentence
  exact parse_eq_of_denotes (trimsTo_trimChars text.toList) (.other hne hnot)

/-- A text that is read without a hitch is not malformed. -/
theorem trim_ne (h : Malformed text) {name : String} (hname : (readTokens? (Token.scan name.toList)).isSome = true) :
    trim text ≠ name := by
  rintro rfl
  obtain ⟨vs, hvs⟩ := Option.isSome_iff_exists.1 hname
  exact h.not_sentence vs (readTokens?_scan_eq_some_iff.1 hvs)

theorem not_builtin (h : Malformed text) : trim text ∉ builtinNames := by
  have hread : ∀ name ∈ builtinNames, (readTokens? (Token.scan name.toList)).isSome = true := by decide +kernel
  exact fun hmem => h.trim_ne (hread _ hmem) rfl

/-- A lone `#` is a sentence, so a malformed text that starts with it goes on. -/
theorem isDuck_iff (h : Malformed text) :
    (Variant.named (trim text)).isDuck = true ↔ (trim text).toList.head? = some '#' := by
  have hlone : trim text ≠ "#" := h.trim_ne (by decide +kernel)
  have hlone : (trim text).toList ≠ ['#'] := fun heq => hlone (String.toList_inj.1 heq)
  rw [Variant.isDuck, Variant.duckMethod?, Variant.named]
  split
  next c cs heq => simp [heq]
  next hnot =>
    cases hcs : (trim text).toList with
    | nil => simp
    | cons c cs =>
      cases cs with
      | nil =>
        rw [hcs] at hlone
        simpa using hlone
      | cons d ds =>
        have hc : c ≠ '#' := by
          rintro rfl
          exact hnot d ds hcs
        simpa using hc

theorem isKnown_iff (h : Malformed text) (scope : Scope) :
    scope.isKnown (trim text) = true ↔
      (trim text).toList.head? = some '#' ∨ trim text ∈ scope.builtins ∨ scope.Indexes (trim text) := by
  rw [Scope.isKnown_iff, Scope.Known, Exempt, h.isDuck_iff, Scope.isSome_qualify?_iff]
  simp only [h.not_builtin, false_or, or_assoc]

/-- What nothing else knows is missing as a whole. -/
theorem resolve_eq_unresolved (h : Malformed text) {scope : Scope} (hbuiltins : trim text ∉ scope.builtins)
    (hindexes : ¬ scope.Indexes (trim text)) (hhash : (trim text).toList.head? ≠ some '#') :
    scope.resolve (.named (trim text)) = .unresolved (.named (trim text)) [trim text] := by
  have hunknown : ¬ scope.isKnown (trim text) = true := by simp [h.isKnown_iff, hhash, hbuiltins, hindexes]
  rw [Scope.resolve_named, if_neg hunknown]

/-- What passes for a duck type is resolved, whatever else is known. -/
theorem resolve_eq_resolved (h : Malformed text) (scope : Scope) (hhash : (trim text).toList.head? = some '#') :
    scope.resolve (.named (trim text)) = .resolved (.named (scope.fullName (trim text))) := by
  rw [Scope.resolve_named, if_pos ((h.isKnown_iff scope).2 (Or.inl hhash))]

/-- There is no `self` in a malformed text to be read as the type around it. -/
theorem resolution_eq (h : Malformed text) (t : Task) (anchor : Anchor) (writer : Option String) :
    t.resolution ⟨anchor, writer, text⟩ =
      Scope.resolve ⟨t.ancestry.index, writer, t.settings.builtins⟩ (.named (trim text)) := by
  have hself : trim text ≠ "self" := h.trim_ne (by decide +kernel)
  rw [Task.resolution, h.parse_eq]
  cases writer with
  | none => rfl
  | some ns =>
    have hreplace : (DocType.named (trim text)).replaceSelf ns = .named (trim text) := by
      simp [DocType.named, Variant.named, DocType.replaceSelf, DocType.mapNames, mapNamesOfVariants, Variant.mapNames,
        mapNamesOfParams, hself]
    exact congrArg _ hreplace

end Malformed

/-! ### Reported texts -/

/-- A malformed text that is no name of the index or the settings is missing as a whole, unless it starts with `#` and
is taken for a known name.  Wherever a declaration writes it, a check reports it if it does not start with `#`.  If it
does, then it is not reported; what is reported in the very words for it is about another parameter of the method. -/
theorem Malformed.reported {text : String} (h : Malformed text) :
    (∀ scope : Scope, trim text ∉ scope.builtins → ¬ scope.Indexes (trim text) →
      ((trim text).toList.head? ≠ some '#' →
        scope.resolve (.parse text) = .unresolved (.named (trim text)) [trim text]) ∧
      ((trim text).toList.head? = some '#' → scope.resolve (.parse text) = .resolved (.named (trim text)))) ∧
    ∀ (s : Snapshot) (settings : Settings) (ps : List Problem),
      (Task.check ⟨.ofSnapshot s, settings⟩).result = .ok ps →
      ∀ family location writer finding, s.Writes text family location writer finding →
        ((trim text).toList.head? ≠ some '#' → trim text ∉ settings.builtins → settings.checks family = true →
          ¬ Scope.Indexes ⟨.ofSnapshot s, writer, settings.builtins⟩ (trim text) →
          ∃ p ∈ ps, p.kind = .unresolved ∧ p.location = location ∧
            p.message = (finding (trim text) [trim text]).message) ∧
        ((trim text).toList.head? = some '#' →
          ∀ p ∈ ps, p.kind = .unresolved → p.location = location → p.message = (finding (trim text) []).message →
            family = .params ∧ ∃ i m tag, tag.text ≠ text ∧ s.ParamUnresolved settings i m tag ∧
              location = ⟨.method i, m.span⟩ ∧ p.message = tag.unresolvedMessage m) := by
  constructor
  · intro scope hbuiltins hindexes
    rw [h.parse_eq]
    refine ⟨h.resolve_eq_unresolved hbuiltins hindexes, ?_⟩
    intro hhash
    rw [h.resolve_eq_resolved scope hhash, Scope.fullName, Scope.qualify?_eq_none_iff.2 hindexes, Option.getD_none]
  · intro s settings ps hcheck family location writer finding hwrites
    constructor
    · intro hhash hbuiltins hchecks hindexes
      have hres : Task.resolution ⟨.ofSnapshot s, settings⟩ ⟨location.anchor, writer, text⟩ =
          .unresolved (.named (trim text)) [trim text] := by
        rw [h.resolution_eq]
        exact h.resolve_eq_unresolved hbuiltins hindexes hhash
      exact Task.exists_listed_of_writes hcheck hwrites hchecks h.written hres
    · intro hhash p hp
      have hresolved : ¬ s.Unresolved settings writer text := by
        rw [Snapshot.unresolved_iff location.anchor, h.resolution_eq, h.resolve_eq_resolved _ hhash]
        simp
      exact Task.exists_paramUnresolved_of_resolved hcheck hwrites hresolved hp

/-- A method with the given parameter tags. -/
def taggedMethod (tags : List ParamTag) : MethodDecl where
  owner := some "Outer"
  name := "run"
  params := some (tags.map fun tag => ⟨tag.name, .required⟩)
  paramTags := tags

def tagged (tags : List ParamTag) : Snapshot where
  methods := [taggedMethod tags]

/-- A bracket that is not closed, a malformed text behind `#`, and a text of the grammar that is worded like it. -/
def mixedTags : List ParamTag :=
  [⟨"x", " Array<Outer "⟩, ⟨"y", "#a, Gone for x"⟩, ⟨"x for y", "#a, Gone"⟩]

/-- What is listed for the first and for the last of these tags. -/
def mixedProblems : List Problem := [
    (Finding.unresolvedParam "Outer#run" "x" "Array<Outer" ["Array<Outer"]).report ⟨.method 0, {}⟩,
    (Finding.unresolvedParam "Outer#run" "x for y" "#a, Gone" ["Gone"]).report ⟨.method 0, {}⟩
  ]

/-- The bracket is reported, though both of the names around it are known.  The problem in the words for the second tag
is about the third. -/
theorem reported_mixedTags :
    Malformed " Array<Outer " ∧ Malformed "#a, Gone for x" ∧
      Scope.resolve ⟨.ofSnapshot (tagged mixedTags), some "Outer", ["Array"]⟩ (.parse " Array<Outer ") =
        .unresolved (.named "Array<Outer") ["Array<Outer"] ∧
      (Task.check ⟨.ofSnapshot (tagged mixedTags), { builtins := ["Array"] }⟩).result = .ok mixedProblems ∧
      (∃ p ∈ mixedProblems, p.kind = .unresolved ∧ p.location = ⟨.method 0, {}⟩ ∧
        p.message = (Finding.unresolvedParam "Outer#run" "x" "Array<Outer" ["Array<Outer"]).message) ∧
      ∃ i m tag, tag.text ≠ "#a, Gone for x" ∧ (tagged mixedTags).ParamUnresolved { builtins := ["Array"] } i m tag ∧
        "Unresolved type #a, Gone for x for y param on Outer#run" = tag.unresolvedMessage m := by
  have hbracket : Malformed " Array<Outer " := by decide +kernel
  have hduck : Malformed "#a, Gone for x" := by decide +kernel
  have htrim : trim " Array<Outer " = "Array<Outer" := by decide +kernel
  have hindexes : ¬ Scope.Indexes ⟨.ofSnapshot (tagged mixedTags), some "Outer", ["Array"]⟩
      (trim " Array<Outer ") := Scope.qualify?_eq_none_iff.1 (by decide +kernel)
  have hpath : (taggedMethod mixedTags).path = "Outer#run" := by decide +kernel
  have hwrites : ∀ tag ∈ mixedTags, (tagged mixedTags).Writes tag.text .params ⟨.method 0, {}⟩ (some "Outer")
      (.unresolvedParam "Outer#run" tag.name) := by
    intro tag htag
    rw [← hpath]
    exact .param (i := 0) (m := taggedMethod mixedTags) rfl htag
  have hcheck : (Task.check ⟨.ofSnapshot (tagged mixedTags), { builtins := ["Array"] }⟩).result = .ok mixedProblems := by
    rw [Task.check_result_eq_inOrder]
    decide +kernel
  obtain ⟨hresolve, hrun⟩ := hbracket.reported
  have hmissing := (hresolve _ (by decide +kernel) hindexes).1 (by decide +kernel)
  have hlisted := (hrun _ _ _ hcheck _ _ _ _ (hwrites ⟨"x", " Array<Outer "⟩ (by decide))).1 (by decide +kernel)
    (by decide +kernel) rfl hindexes
  rw [htrim] at hmissing hlisted
  have hother := (hduck.reported.2 _ _ _ hcheck _ _ _ _ (hwrites ⟨"y", "#a, Gone for x"⟩ (by decide))).2
    (by decide +kernel) _ (List.mem_cons_of_mem _ List.mem_cons_self) rfl rfl (by decide +kernel)
  obtain ⟨-, i, m, tag, htext, hunresolved, -, hmessage⟩ := hother
  exact ⟨hbracket, hduck, hmissing, hcheck, hlisted, i, m, tag, htext, hunresolved, hmessage⟩

/-- A malformed text behind `#` is taken for a known name, and a check does not report it. -/
theorem malformed_duck_unreported :
    Malformed "#call<" ∧ ¬ Scope.Indexes ⟨.ofSnapshot (tagged [⟨"x", "#call<"⟩]), some "Outer", []⟩ "#call<" ∧
      Scope.resolve ⟨.ofSnapshot (tagged [⟨"x", "#call<"⟩]), some "Outer", []⟩ (.parse "#call<") =
        .resolved (.named "#call<") ∧
      (Task.check ⟨.ofSnapshot (tagged [⟨"x", "#call<"⟩]), {}⟩).result = .ok [] := by
  refine ⟨by decide +kernel, Scope.qualify?_eq_none_iff.1 (by decide +kernel), by decide +kernel, ?_⟩
  rw [Task.check_result_eq_inOrder]
  decide +kernel

end TagCheck
