import TagCheck.Proofs.Grammar
import Mathlib.Data.List.Induction

/-!
# Types that are shown and read again

A type is shown with a comma between alternatives, wherever they stand.  Between round brackets a comma ends an element,
so an element of several alternatives is read again as several elements; `DocType.ungroup` is the type that results.
Nothing else is lost: the text of every phrase is again a phrase, of the ungrouped meaning (`rereads_of_derives`), and
ungrouping changes a type exactly when some element in it has several alternatives (`staysIffNarrow_of_derives`).
-/

namespace TagCheck

/-! ### Alternatives at any depth -/

mutual

/-- The variant and all alternatives inside its parameters. -/
def Variant.subvariants : Variant → List Variant
  | ⟨name, params, shape, nilable⟩ => ⟨name, params, shape, nilable⟩ :: subvariantsOfParams params

/-- The alternatives of a type and all alternatives inside their parameters. -/
def DocType.subvariants : DocType → List Variant
  | .union vs => subvariantsOfVariants vs
  | _ => []

def subvariantsOfVariants : List Variant → List Variant
  | [] => []
  | v :: vs => v.subvariants ++ subvariantsOfVariants vs

def subvariantsOfParams : List DocType → List Variant
  | [] => []
  | t :: ts => t.subvariants ++ subvariantsOfParams ts

end

/-- Whether an element between the round brackets of the variant has several alternatives. -/
def Variant.hasWideElement (v : Variant) : Bool :=
  v.shape == .fixed && v.params.any fun e => 1 < e.variants.length

/-! ### Elements taken apart -/

mutual

/-- The variant with one element for each alternative of an element between round brackets, at any depth. -/
def Variant.ungroup : Variant → Variant
  | ⟨name, params, .fixed, nilable⟩ => ⟨name, ungroupElements params, .fixed, nilable⟩
  | ⟨name, params, .list, nilable⟩ => ⟨name, ungroupParams params, .list, nilable⟩
  | ⟨name, params, .keyValue, nilable⟩ => ⟨name, ungroupParams params, .keyValue, nilable⟩

/-- The type with one element for each alternative of an element between round brackets, at any depth. -/
def DocType.ungroup : DocType → DocType
  | .union vs => .union (ungroupVariants vs)
  | t => t

def ungroupVariants : List Variant → List Variant
  | [] => []
  | v :: vs => v.ungroup :: ungroupVariants vs

def ungroupParams : List DocType → List DocType
  | [] => []
  | t :: ts => t.ungroup :: ungroupParams ts

def ungroupElements : List DocType → List DocType
  | [] => []
  | t :: ts => t.ungroup.variants.map (fun v => .union [v]) ++ ungroupElements ts

end

/-- The parameters taken apart as their brackets ask for. -/
def Shape.ungroup : Shape → List DocType → List DocType
  | .fixed => ungroupElements
  | _ => ungroupParams

theorem Variant.ungroup_mk (name : String) (params : List DocType) (shape : Shape) (nilable : Bool) :
    Variant.ungroup ⟨name, params, shape, nilable⟩ = ⟨name, shape.ungroup params, shape, nilable⟩ := by
  cases shape <;> rfl

theorem ungroupElements_cons (vs : List Variant) (types : List DocType) :
    ungroupElements (.union vs :: types) = (ungroupVariants vs).map (fun v => .union [v]) ++ ungroupElements types :=
  rfl

/-! ### Spelling one text after another -/

theorem Spells.append {cs ds : List Char} {ts us : List Token} (hcs : Spells cs ts) (hds : Spells ds us)
    (hjoin : ∀ c ∈ ds.head?, isNameChar c = false) : Spells (cs ++ ds) (ts ++ us) := by
  induction hcs with
  | nil => exact hds
  | blank hc _ ih => exact .blank hc ih
  | @name run cs ts hrun hname hend _ ih =>
    rw [List.append_assoc]
    refine .name hrun hname ?_ ih
    cases cs with
    | nil => exact hjoin
    | cons c cs => exact hend
  | mark hmark _ ih =>
    rw [List.append_assoc]
    exact .mark hmark ih

/-- A name can be written as one token. -/
def IsName (name : String) : Prop :=
  name.toList ≠ [] ∧ ∀ c ∈ name.toList, isNameChar c = true

theorem Spells.isName {cs : List Char} {ts : List Token} (h : Spells cs ts) {name : String}
    (hname : Token.name name ∈ ts) : IsName name := by
  induction h with
  | nil => cases hname
  | blank _ _ ih => exact ih hname
  | @name run cs ts hrun hchars _ _ ih =>
    rcases List.mem_cons.1 hname with heq | hname
    · obtain rfl := Token.name.inj heq
      simpa [IsName] using And.intro hrun hchars
    · exact ih hname
  | mark hmark _ ih =>
    rcases List.mem_cons.1 hname with rfl | hname
    · cases hmark
    · exact ih hname

theorem IsName.spells {name : String} (h : IsName name) {cs : List Char} {ts : List Token} (hcs : Spells cs ts)
    (hend : ∀ c ∈ cs.head?, isNameChar c = false) : Spells (name.toList ++ cs) (.name name :: ts) := by
  have hname := Spells.name h.1 h.2 hend hcs
  rwa [String.ofList_toList] at hname

/-! ### Blank characters around a text -/

private theorem Token.mark?_spec {t : Token} {text : List Char} (h : t.mark? = some text) :
    text ≠ [] ∧ ∀ c ∈ text, isBlank c = false := by
  cases t with
  | name | stray => cases h
  | _ =>
    obtain rfl := Option.some.inj h
    simp only [ne_eq, reduceCtorEq, not_false_eq_true, true_and, List.forall_mem_cons, List.not_mem_nil, false_imp_iff,
      implies_true, and_true]
    decide

private theorem Spells.of_blank_cons {c : Char} {cs : List Char} {ts : List Token} (h : Spells (c :: cs) ts)
    (hc : isBlank c = true) : Spells cs ts := by
  generalize heq : c :: cs = ds at h
  -- a token would start with `c`
  have hstart : ∀ {run rest : List Char}, c :: cs = run ++ rest → run ≠ [] → c ∈ run := by
    intro run rest heq hrun
    obtain ⟨d, run, rfl⟩ := List.exists_cons_of_ne_nil hrun
    obtain ⟨rfl, -⟩ := List.cons.inj heq
    exact List.mem_cons_self
  cases h with
  | nil => cases heq
  | blank hd rest =>
    obtain ⟨rfl, rfl⟩ := List.cons.inj heq
    exact rest
  | name hrun hname hend rest =>
    have := hname c (hstart heq hrun)
    simp [not_isNameChar_of_isBlank hc] at this
  | mark hmark rest =>
    obtain ⟨hne, hmark⟩ := Token.mark?_spec hmark
    have := hmark c (hstart heq hne)
    simp [hc] at this

private theorem Spells.of_append_blank {c : Char} {cs : List Char} {ts : List Token} (h : Spells (cs ++ [c]) ts)
    (hc : isBlank c = true) : Spells cs ts := by
  generalize heq : cs ++ [c] = ds at h
  -- a token ends before `c`
  have hsplit : ∀ {run rest cs : List Char}, cs ++ [c] = run ++ rest → c ∉ run →
      ∃ before, rest = before ++ [c] ∧ cs = run ++ before := by
    intro run rest cs heq hrun
    rcases List.eq_nil_or_concat rest with rfl | ⟨before, d, rfl⟩
    · refine absurd ?_ hrun
      rw [List.append_nil] at heq
      simp [← heq]
    · rw [List.concat_eq_append, ← List.append_assoc] at heq
      obtain ⟨rfl, hd⟩ := List.append_inj' heq rfl
      exact ⟨before, by rw [List.concat_eq_append, hd], rfl⟩
  induction h generalizing cs with
  | nil => simp at heq
  | @blank d ds ts hd hds ih =>
    cases cs with
    | nil =>
      obtain ⟨-, rfl⟩ := List.cons.inj heq
      exact hds
    | cons b cs =>
      obtain ⟨rfl, rfl⟩ := List.cons.inj heq
      exact .blank hd (ih rfl)
  | @name run ds ts hrun hname hend hds ih =>
    have hnot : c ∉ run := by
      intro hmem
      have := hname c hmem
      simp [not_isNameChar_of_isBlank hc] at this
    obtain ⟨before, rfl, rfl⟩ := hsplit heq hnot
    refine .name hrun hname ?_ (ih rfl)
    intro d hd
    apply hend d
    rw [List.head?_append, Option.mem_def.1 hd]
    rfl
  | @mark t text ds ts hmark hds ih =>
    have hnot : c ∉ text := by
      intro hmem
      have := (Token.mark?_spec hmark).2 c hmem
      simp [hc] at this
    obtain ⟨before, rfl, rfl⟩ := hsplit heq hnot
    exact .mark hmark (ih rfl)

/-- A text spells the same tokens without the blank characters around it. -/
theorem Spells.trimmed {cs core : List Char} {ts : List Token} (h : Spells cs ts) (htrim : TrimsTo cs core) :
    Spells core ts := by
  obtain ⟨⟨before, after, rfl, hbefore, hafter⟩, -, -⟩ := htrim
  have hfront : Spells (core ++ after) ts := by
    induction before with
    | nil => exact h
    | cons c before ih =>
      rw [List.forall_mem_cons] at hbefore
      exact ih (h.of_blank_cons hbefore.1) hbefore.2
  clear h
  induction after using List.reverseRecOn with
  | nil => rwa [List.append_nil] at hfront
  | append_singleton after c ih =>
    rw [← List.append_assoc] at hfront
    exact ih (fun d hd => hafter d (List.mem_append_left _ hd)) (hfront.of_append_blank (hafter c (by simp)))

/-! ### Phrases as they are shown -/

/-- The text spells a phrase of the kind `k` with the meaning `m`. -/
def Shows (k : Phrase) (text : String) (m : k.Meaning) : Prop :=
  ∃ ts, Spells text.toList ts ∧ Derives k ts m

private theorem Spells.after_comma {cs : List Char} {ts : List Token} (h : Spells cs ts) :
    Spells (", ".toList ++ cs) (.comma :: ts) := by
  have hmark : Token.comma.mark? = some [','] := rfl
  have hblank : Spells (' ' :: cs) ts := .blank (by decide) h
  have hcomma := Spells.mark hmark hblank
  exact hcomma

private theorem Spells.after_arrow {cs : List Char} {ts : List Token} (h : Spells cs ts) :
    Spells (" => ".toList ++ cs) (.arrow :: ts) := by
  have hmark : Token.arrow.mark? = some ['=', '>'] := rfl
  have hblank : Spells (' ' :: cs) ts := .blank (by decide) h
  have harrow := Spells.blank (show isBlank ' ' = true by decide) (.mark hmark hblank)
  exact harrow

private theorem Spells.append_comma {cs ds : List Char} {ts us : List Token} (hcs : Spells cs ts) (hds : Spells ds us) :
    Spells (cs ++ ", ".toList ++ ds) (ts ++ .comma :: us) := by
  rw [List.append_assoc]
  exact hcs.append hds.after_comma (by simp; decide)

private theorem derives_elements_append {ts us : List Token} {xs ys : List DocType} (hts : Derives .elements ts xs)
    (hus : Derives .elements us ys) : Derives .elements (ts ++ .comma :: us) (xs ++ ys) := by
  induction xs generalizing ts with
  | nil => cases hts
  | cons x xs ih =>
    cases hts with
    | lastElement hts => exact .nextElement hts hus
    | nextElement hts hes =>
      rw [List.append_assoc]
      exact .nextElement hts (ih hes)

theorem Shows.union_cons {first rest : String} {v : Variant} {vs : List Variant} (hv : Shows .alternative first v)
    (hvs : Shows (.union false) rest vs) : Shows (.union false) (first ++ ", " ++ rest) (v :: vs) := by
  obtain ⟨ts, hts, hv⟩ := hv
  obtain ⟨us, hus, hvs⟩ := hvs
  refine ⟨ts ++ .comma :: us, ?_, .more hv rfl hvs⟩
  rw [String.toList_append, String.toList_append]
  exact hts.append_comma hus

theorem Shows.elements_append {first rest : String} {xs ys : List DocType} (hxs : Shows .elements first xs)
    (hys : Shows .elements rest ys) : Shows .elements (first ++ ", " ++ rest) (xs ++ ys) := by
  obtain ⟨ts, hts, hxs⟩ := hxs
  obtain ⟨us, hus, hys⟩ := hys
  refine ⟨ts ++ .comma :: us, ?_, derives_elements_append hxs hys⟩
  rw [String.toList_append, String.toList_append]
  exact hts.append_comma hus

theorem Shows.element {text : String} {v : Variant} (h : Shows .alternative text v) :
    Shows .elements text [.union [v]] := by
  obtain ⟨ts, hts, hv⟩ := h
  exact ⟨ts, hts, .lastElement (.one hv)⟩

/-- The text between brackets and the brackets around it. -/
private theorem Spells.between {opening closing : Token} {left right cs : List Char} {ts : List Token}
    (hopening : opening.mark? = some left) (hcs : Spells cs ts) (hclosing : closing.mark? = some right)
    (hjoin : ∀ c ∈ right.head?, isNameChar c = false) :
    Spells (left ++ cs ++ right) (opening :: (ts ++ [closing])) := by
  rw [List.append_assoc]
  refine .mark hopening (hcs.append ?_ hjoin)
  have hright : Spells (right ++ []) [closing] := .mark hclosing .nil
  rwa [List.append_nil] at hright

theorem textsOfVariants_ne_nil {b : Bool} {ts : List Token} {vs : List Variant} (h : Derives (.union b) ts vs) :
    textsOfVariants vs ≠ [] := by
  cases h <;> simp [textsOfVariants]

theorem textsOfParams_ne_nil {ts : List Token} {types : List DocType} (h : Derives .elements ts types) :
    textsOfParams types ≠ [] := by
  cases h <;> simp [textsOfParams]

/-- A bracket does not go on with a name. -/
theorem not_isNameChar_of_bracket (shape : Shape) (params : List String) :
    ∀ c ∈ (shape.bracket params).toList.head?, isNameChar c = false := by
  cases params with
  | nil => cases shape <;> simp [Shape.bracket]
  | cons p ps => cases shape <;> simp [Shape.bracket, String.toList_append] <;> decide

/-- What is shown of a phrase is a phrase again, and its meaning is the ungrouped one.  The alternatives of an element
come back as elements. -/
def Phrase.Rereads : (k : Phrase) → k.Meaning → Prop
  | .alternative, v => Shows .alternative v.text v.ungroup
  | .parameters, m => Shows .parameters (m.2.bracket (textsOfParams m.1)) (m.2.ungroup m.1, m.2)
  | .union false, vs => Shows (.union false) (", ".intercalate (textsOfVariants vs)) (ungroupVariants vs)
  | .union true, vs =>
    Shows .elements (", ".intercalate (textsOfVariants vs)) ((ungroupVariants vs).map fun v => .union [v])
  | .elements, types => Shows .elements (", ".intercalate (textsOfParams types)) (ungroupElements types)

theorem rereads_alternative {name : String} {params : List DocType} {shape : Shape} {nilable : Bool}
    (hname : IsName name) (h : Phrase.parameters.Rereads (params, shape)) :
    Phrase.alternative.Rereads ⟨name, params, shape, nilable⟩ := by
  obtain ⟨ps, hps, hparams⟩ := h
  simp only [Phrase.Rereads, Variant.ungroup_mk, Variant.text]
  refine ⟨_, ?_, .alternative hparams⟩
  have hmark : Spells (if nilable then "?" else "").toList (Token.nilableMark nilable) := by
    cases nilable with
    | false => exact .nil
    | true =>
      have hquestion : Token.question.mark? = some ['?'] := rfl
      exact .mark hquestion .nil
  have hmarkHead : ∀ c ∈ (if nilable then "?" else "").toList.head?, isNameChar c = false := by
    cases nilable with
    | false => simp
    | true => simp; decide
  rw [String.toList_append, String.toList_append, List.append_assoc]
  refine hname.spells (hps.append hmark hmarkHead) ?_
  -- after the name comes a bracket, or else the nilable mark, or nothing
  intro c hc
  cases hbracket : (shape.bracket (textsOfParams params)).toList with
  | nil => exact hmarkHead c (by simpa [hbracket] using hc)
  | cons d ds => exact not_isNameChar_of_bracket shape (textsOfParams params) c (by simpa [hbracket] using hc)

theorem rereads_of_derives {k : Phrase} {ts : List Token} {m : k.Meaning} (h : Derives k ts m)
    (hnames : ∀ name, Token.name name ∈ ts → IsName name) : k.Rereads m := by
  induction h with
  | alternative hps ih =>
    refine rereads_alternative (hnames _ (by simp)) (ih ?_)
    intro name hname
    exact hnames name (by simp [hname])
  | bare => exact ⟨[], .nil, .bare⟩
  | @list us vs hus ih =>
    obtain ⟨ts, hts, hvs⟩ := ih fun name hname => hnames name (by simp [hname])
    refine ⟨_, ?_, .list hvs⟩
    simp only [textsOfParams, DocType.text, Shape.bracket, String.intercalate_singleton, String.toList_append]
    exact .between (by rfl) hts (by rfl) (by simp; decide)
  | @keyValue ks us keys values hks hus ihKeys ihValues =>
    obtain ⟨ts, hts, hkeys⟩ := ihKeys fun name hname => hnames name (by simp [hname])
    obtain ⟨ws, hws, hvalues⟩ := ihValues fun name hname => hnames name (by simp [hname])
    refine ⟨_, ?_, .keyValue hkeys hvalues⟩
    simp only [textsOfParams, DocType.text, Shape.bracket, String.intercalate_cons_cons, String.intercalate_singleton,
      String.toList_append]
    have hleft : Token.leftBrace.mark? = some ['\x7b'] := rfl
    have hright : Token.rightBrace.mark? = some ['\x7d'] := rfl
    have hinside := hts.append hws.after_arrow (by simp; decide)
    have hall := Spells.between hleft hinside hright (by simp; decide)
    simpa using hall
  | @fixed es types hes ih =>
    obtain ⟨ts, hts, htypes⟩ := ih fun name hname => hnames name (by simp [hname])
    refine ⟨_, ?_, .fixed htypes⟩
    obtain ⟨t, rest, htexts⟩ := List.exists_cons_of_ne_nil (textsOfParams_ne_nil hes)
    simp only [htexts, Shape.bracket, String.toList_append] at hts ⊢
    exact .between (by rfl) hts (by rfl) (by simp; decide)
  | @one inElement ts v hv ih =>
    have hv : Shows .alternative v.text v.ungroup := ih hnames
    cases inElement with
    | false =>
      obtain ⟨ts, hts, hv⟩ := hv
      simp only [Phrase.Rereads, textsOfVariants, String.intercalate_singleton]
      exact ⟨ts, hts, .one hv⟩
    | true =>
      simp only [Phrase.Rereads, textsOfVariants, String.intercalate_singleton]
      exact hv.element
  | @more inElement ts us t v vs hv ht hus ihv ihu =>
    have hv : Shows .alternative v.text v.ungroup := ihv fun name hname => hnames name (by simp [hname])
    have hvs := ihu fun name hname => hnames name (by simp [hname])
    cases inElement with
    | false =>
      simp only [Phrase.Rereads, textsOfVariants,
        String.intercalate_cons_of_ne_nil (textsOfVariants_ne_nil hus)] at hvs ⊢
      exact hv.union_cons hvs
    | true =>
      simp only [Phrase.Rereads, textsOfVariants,
        String.intercalate_cons_of_ne_nil (textsOfVariants_ne_nil hus)] at hvs ⊢
      -- the comma between alternatives is read as one between elements
      exact hv.element.elements_append hvs
  | @lastElement ts vs hts ih =>
    have hvs := ih hnames
    simp only [Phrase.Rereads, textsOfParams, DocType.text, String.intercalate_singleton, ungroupElements,
      List.append_nil] at hvs ⊢
    exact hvs
  | @nextElement ts es vs types hts hes iht ihe =>
    have hvs := iht fun name hname => hnames name (by simp [hname])
    have htypes := ihe fun name hname => hnames name (by simp [hname])
    simp only [Phrase.Rereads, textsOfParams, DocType.text, ungroupElements_cons,
      String.intercalate_cons_of_ne_nil (textsOfParams_ne_nil hes)] at hvs htypes ⊢
    exact hvs.elements_append htypes

/-! ### Types that stay as they are -/

/-- No variant of the list has an element of several alternatives. -/
def Narrow (vs : List Variant) : Prop :=
  ∀ v ∈ vs, v.hasWideElement = false

theorem narrow_append {vs ws : List Variant} : Narrow (vs ++ ws) ↔ Narrow vs ∧ Narrow ws := by
  simp only [Narrow, List.mem_append, or_imp, forall_and]

theorem narrow_cons {v : Variant} {vs : List Variant} : Narrow (v :: vs) ↔ v.hasWideElement = false ∧ Narrow vs := by
  simp only [Narrow, List.forall_mem_cons]

/-- Ungrouping leaves the meaning of a phrase as it is exactly when no element in it has several alternatives. -/
def Phrase.StaysIffNarrow : (k : Phrase) → k.Meaning → Prop
  | .alternative, v => v.ungroup = v ↔ Narrow v.subvariants
  | .parameters, m =>
    m.2.ungroup m.1 = m.1 ↔
      (m.2 = .fixed → ∀ e ∈ m.1, ¬ 1 < e.variants.length) ∧ Narrow (subvariantsOfParams m.1)
  | .union _, vs => ungroupVariants vs = vs ↔ Narrow (subvariantsOfVariants vs)
  | .elements, types =>
    ungroupElements types = types ↔ (∀ e ∈ types, ¬ 1 < e.variants.length) ∧ Narrow (subvariantsOfParams types)

/-- An element keeps its place exactly when it has one alternative, which itself stays as it is. -/
private theorem ungroup_element_iff {b : Bool} {ts : List Token} {vs : List Variant} (h : Derives (.union b) ts vs)
    {types rest : List DocType} :
    (ungroupVariants vs).map (fun v => DocType.union [v]) ++ rest = .union vs :: types ↔
      (¬ 1 < vs.length ∧ ungroupVariants vs = vs) ∧ rest = types := by
  cases h with
  | one => simp [ungroupVariants]
  | more _ _ hus => cases hus <;> simp [ungroupVariants]

theorem staysIffNarrow_of_derives {k : Phrase} {ts : List Token} {m : k.Meaning} (h : Derives k ts m) :
    k.StaysIffNarrow m := by
  induction h with
  | @alternative name ps params shape nilable hps ih =>
    simp only [Phrase.StaysIffNarrow] at ih
    simp only [Phrase.StaysIffNarrow, Variant.ungroup_mk, Variant.mk.injEq, true_and, and_true, ih, Variant.subvariants,
      narrow_cons]
    simp [Variant.hasWideElement]
  | bare => simp [Phrase.StaysIffNarrow, Shape.ungroup, ungroupParams, subvariantsOfParams, Narrow]
  | @list us vs hus ih =>
    simp only [Phrase.StaysIffNarrow] at ih
    simp [Phrase.StaysIffNarrow, Shape.ungroup, ungroupParams, DocType.ungroup, subvariantsOfParams,
      DocType.subvariants, ih]
  | @keyValue ks us keys values hks hus ihKeys ihValues =>
    simp only [Phrase.StaysIffNarrow] at ihKeys ihValues
    simp [Phrase.StaysIffNarrow, Shape.ungroup, ungroupParams, DocType.ungroup, subvariantsOfParams,
      DocType.subvariants, ihKeys, ihValues, narrow_append]
  | @fixed es types hes ih =>
    simp only [Phrase.StaysIffNarrow] at ih
    simpa [Phrase.StaysIffNarrow, Shape.ungroup] using ih
  | @one inElement ts v hv ih =>
    simp only [Phrase.StaysIffNarrow] at ih
    simp [Phrase.StaysIffNarrow, ungroupVariants, subvariantsOfVariants, ih]
  | @more inElement ts us t v vs hv ht hus ihv ihu =>
    simp only [Phrase.StaysIffNarrow] at ihv ihu
    simp [Phrase.StaysIffNarrow, ungroupVariants, subvariantsOfVariants, ihv, ihu, narrow_append]
  | @lastElement ts vs hts ih =>
    simp only [Phrase.StaysIffNarrow] at ih
    simp only [Phrase.StaysIffNarrow, ungroupElements_cons, ungroup_element_iff hts, ih]
    simp [ungroupElements, subvariantsOfParams, DocType.subvariants, DocType.variants]
  | @nextElement ts es vs types hts hes iht ihe =>
    simp only [Phrase.StaysIffNarrow] at iht ihe
    simp only [Phrase.StaysIffNarrow, ungroupElements_cons, ungroup_element_iff hts, iht, ihe, List.forall_mem_cons,
      subvariantsOfParams, DocType.subvariants, DocType.variants, narrow_append]
    exact and_and_and_comm

/-! ### Reading the text of a type -/

theorem Sentence.trimmed {cs core : List Char} {vs : List Variant} (h : Sentence cs vs) (htrim : TrimsTo cs core) :
    Sentence core vs := by
  obtain ⟨ts, hts, hvs⟩ := h
  exact ⟨ts, hts.trimmed htrim, hvs⟩

theorem Sentence.text {cs : List Char} {vs : List Variant} (h : Sentence cs vs) :
    Sentence (DocType.union vs).text.toList (ungroupVariants vs) := by
  obtain ⟨ts, hts, hvs⟩ := h
  exact rereads_of_derives hvs fun name hname => hts.isName hname

/-- Ungrouping makes no alternative the bare word `void`. -/
theorem ungroupVariants_ne_void {vs : List Variant} (h : ∀ nilable, vs ≠ [⟨"void", [], .list, nilable⟩])
    (nilable : Bool) : ungroupVariants vs ≠ [⟨"void", [], .list, nilable⟩] := by
  intro heq
  match vs with
  | [] => cases heq
  | [⟨name, params, shape, nilable'⟩] =>
    simp only [ungroupVariants, Variant.ungroup_mk, List.cons.injEq, Variant.mk.injEq, and_true] at heq
    obtain ⟨rfl, hparams, rfl, rfl⟩ := heq
    cases params with
    | nil => exact h _ rfl
    | cons t ts => cases hparams
  | _ :: _ :: _ => simp [ungroupVariants] at heq

theorem TrimsTo.self {cs core : List Char} (h : TrimsTo cs core) : TrimsTo core core :=
  ⟨⟨[], [], by simp, by simp, by simp⟩, h.head, h.last⟩

/-- The text of a type that was read is read as the ungrouped type. -/
theorem parse_text_of_denotes {core : List Char} {t : DocType} (h : Denotes core t) (hcore : core ≠ [])
    (htrim : TrimsTo core core) : DocType.parse t.text = t.ungroup := by
  cases h with
  | absent h => exact absurd h hcore
  | void => decide +kernel
  | @union vs h hvoid =>
    have htext := trimsTo_trimChars (DocType.union vs).text.toList
    exact parse_eq_of_denotes htext (.union (h.text.trimmed htext) (ungroupVariants_ne_void hvoid))
  | other hne h =>
    have htext : (DocType.union [⟨String.ofList core, [], .list, false⟩]).text = String.ofList core := by
      simp [DocType.text, textsOfVariants, Variant.text, textsOfParams, Shape.bracket]
    rw [htext]
    exact parse_eq_of_denotes (by simpa using htrim) (.other hne h)

theorem ungroup_eq_iff_of_denotes {core : List Char} {t : DocType} (h : Denotes core t) :
    t.ungroup = t ↔ Narrow t.subvariants := by
  cases h with
  | absent | void => simp [DocType.ungroup, DocType.subvariants, Narrow]
  | @union vs h =>
    obtain ⟨ts, -, hvs⟩ := h
    rw [DocType.ungroup, DocType.union.injEq]
    exact staysIffNarrow_of_derives hvs
  | other => simp [DocType.ungroup, ungroupVariants, Variant.ungroup, ungroupParams, DocType.subvariants,
      subvariantsOfVariants, Variant.subvariants, subvariantsOfParams, Narrow, Variant.hasWideElement]

/-- Of a type that was read from a text, its own text is read as the type with the alternatives of every element taken
apart. So the type comes back exactly when no element in it has several alternatives. -/
theorem DocType.parse_text_parse_eq_iff (text : String) (h : isBlankText text = false) :
    DocType.parse (DocType.parse text).text = (DocType.parse text).ungroup ∧
      (DocType.parse (DocType.parse text).text = DocType.parse text ↔
        ∀ v ∈ (DocType.parse text).subvariants, v.hasWideElement = false) := by
  have htrim := trimsTo_trimChars text.toList
  obtain ⟨t, ht⟩ := exists_denotes (trimChars text.toList)
  rw [parse_eq_of_denotes htrim ht]
  have hread := parse_text_of_denotes ht (by simpa [isBlankText] using h) htrim.self
  refine ⟨hread, ?_⟩
  rw [hread]
  exact ungroup_eq_iff_of_denotes ht

/-- The element `String | Integer` inside other brackets comes apart, and the rest of the type comes back. -/
theorem parse_text_parse_eq_iff_nested :
    DocType.parse (DocType.parse "Hash\x7bSymbol => Array(String|Integer, Set<A|B>?)\x7d").text =
        DocType.parse "Hash\x7bSymbol => Array(String, Integer, Set<A, B>?)\x7d" ∧
      DocType.parse (DocType.parse "Hash\x7bSymbol => Array(String|Integer, Set<A|B>?)\x7d").text ≠
        DocType.parse "Hash\x7bSymbol => Array(String|Integer, Set<A|B>?)\x7d" ∧
      DocType.parse (DocType.parse "Array(Set<A|B>?), void | Hash\x7bA|B => C\x7d").text =
        DocType.parse "Array(Set<A|B>?), void | Hash\x7bA|B => C\x7d" := by
  have hwide := DocType.parse_text_parse_eq_iff "Hash\x7bSymbol => Array(String|Integer, Set<A|B>?)\x7d"
    (by decide +kernel)
  have hkept := DocType.parse_text_parse_eq_iff "Array(Set<A|B>?), void | Hash\x7bA|B => C\x7d" (by decide +kernel)
  refine ⟨hwide.1.trans (by decide +kernel), ?_, hkept.2.2 (by decide +kernel)⟩
  rw [Ne, hwide.2]
  decide +kernel

end TagCheck
