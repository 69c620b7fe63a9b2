import TagCheck.DocType.Parser
import TagCheck.Proofs.Spelling
import Mathlib.Tactic.Common

/-!
# The grammar of documented types

`Derives k ts m` says that the tokens `ts` form a phrase of the kind `k` with the meaning `m`:

* an alternative is a name, then perhaps parameters in brackets, then perhaps `?`;
* parameters are alternatives in angle brackets, two rows of alternatives around an arrow in braces, or elements in
  round brackets;
* alternatives are separated by `,` or `|`, but by `|` alone in an element, since there `,` ends the element.

The readers read the phrases of the grammar and nothing else, and give back their meaning (`read_complete`,
`readsPhrases`).  Since a reader goes on as long as it can, a phrase is read whole only where the token after it cannot
belong to it (`Phrase.stops`).  So a text has at most one meaning, it is read as the grammar says, and a text that is no
sentence is kept as one name (`DocType.parse_eq_iff_denotes`).
-/

namespace TagCheck

/-! ### Phrases -/

/-- The kinds of phrases. -/
inductive Phrase where
  | alternative
  | parameters
  /-- Alternatives, those of an element of round brackets or others. -/
  | union (inElement : Bool)
  | elements

/-- What a phrase stands for. -/
abbrev Phrase.Meaning : Phrase → Type
  | .alternative => Variant
  | .parameters => List DocType × Shape
  | .union _ => List Variant
  | .elements => List DocType

/-- Whether a token separates two alternatives. -/
def Token.parts : Bool → Token → Bool
  | true => separatesInElement
  | false => separates

/-- The mark of a nilable alternative. -/
def Token.nilableMark (nilable : Bool) : List Token :=
  if nilable then [.question] else []

/-- The tokens form a phrase with the given meaning. -/
inductive Derives : (k : Phrase) → List Token → k.Meaning → Prop where
  | alternative {name : String} {ps : List Token} {params : List DocType} {shape : Shape} {nilable : Bool}
      (hps : Derives .parameters ps (params, shape)) :
      Derives .alternative (.name name :: (ps ++ Token.nilableMark nilable)) ⟨name, params, shape, nilable⟩
  | bare : Derives .parameters [] ([], .list)
  | list {us : List Token} {vs : List Variant} (hus : Derives (.union false) us vs) :
      Derives .parameters (.less :: (us ++ [.greater])) ([.union vs], .list)
  | keyValue {ks us : List Token} {keys values : List Variant} (hks : Derives (.union false) ks keys)
      (hus : Derives (.union false) us values) :
      Derives .parameters (.leftBrace :: (ks ++ .arrow :: (us ++ [.rightBrace])))
        ([.union keys, .union values], .keyValue)
  | fixed {es : List Token} {types : List DocType} (hes : Derives .elements es types) :
      Derives .parameters (.leftParen :: (es ++ [.rightParen])) (types, .fixed)
  | one {inElement : Bool} {ts : List Token} {v : Variant} (hv : Derives .alternative ts v) :
      Derives (.union inElement) ts [v]
  | more {inElement : Bool} {ts us : List Token} {t : Token} {v : Variant} {vs : List Variant}
      (hv : Derives .alternative ts v) (ht : t.parts inElement = true) (hus : Derives (.union inElement) us vs) :
      Derives (.union inElement) (ts ++ t :: us) (v :: vs)
  | lastElement {ts : List Token} {vs : List Variant} (hts : Derives (.union true) ts vs) :
      Derives .elements ts [.union vs]
  | nextElement {ts es : List Token} {vs : List Variant} {types : List DocType}
      (hts : Derives (.union true) ts vs) (hes : Derives .elements es types) :
      Derives .elements (ts ++ .comma :: es) (.union vs :: types)

/-! ### Readers of phrases -/

/-- The reader of each kind of phrase. -/
def Phrase.read : (k : Phrase) → Nat → List Token → Option (k.Meaning × List Token)
  | .alternative, fuel, ts => readVariant fuel ts
  | .parameters, fuel, ts => (readParams fuel ts).map fun r => ((r.1, r.2.1), r.2.2)
  | .union inElement, fuel, ts => readUnion (Token.parts inElement) fuel ts
  | .elements, fuel, ts => readElements fuel ts

/-- Whether a token opens a bracket. -/
def Token.opens : Token → Bool
  | .less | .leftBrace | .leftParen => true
  | _ => false

/-- Whether a token after a phrase cannot belong to it. -/
def Phrase.stops : Phrase → Token → Bool
  | .parameters, t => !t.opens
  | .alternative, t => !t.opens && t != .question
  | .union inElement, t => !t.opens && t != .question && !t.parts inElement
  | .elements, t => !t.opens && t != .question && t != .bar && t != .comma

/-- What follows a phrase does not belong to it. -/
def Phrase.Ends (k : Phrase) (rest : List Token) : Prop :=
  ∀ t ∈ rest.head?, k.stops t = true

/-- A bound on the depth that is enough for a phrase of `n` tokens. A reader of elements may pass through the readers of
alternatives, of one alternative and of its parameters before it uses up a token. -/
def Phrase.Enough : Phrase → Nat → Nat → Prop
  | .alternative, n, fuel => 4 * n ≤ fuel + 2
  | .parameters, n, fuel => 1 ≤ fuel ∧ 4 * n ≤ fuel + 7
  | .union _, n, fuel => 4 * n ≤ fuel + 1
  | .elements, n, fuel => 4 * n ≤ fuel

theorem read_parameters {fuel : Nat} {ts rest : List Token} {params : List DocType} {shape : Shape} :
    Phrase.parameters.read fuel ts = some ((params, shape), rest) ↔ readParams fuel ts = some (params, shape, rest) := by
  simp only [Phrase.read, Option.map_eq_some_iff, Prod.mk.injEq]
  constructor
  · rintro ⟨⟨_, _, _⟩, h, ⟨rfl, rfl⟩, rfl⟩
    exact h
  · exact fun h => ⟨_, h, ⟨rfl, rfl⟩, rfl⟩

theorem ofVariants_of_derives {b : Bool} {ts : List Token} {vs : List Variant} (h : Derives (.union b) ts vs) :
    DocType.ofVariants vs = .union vs := by
  cases h <;> rfl

theorem Phrase.ends_nil (k : Phrase) : k.Ends [] := by
  simp [Ends]

theorem Phrase.ends_cons {k : Phrase} {t : Token} {rest : List Token} : k.Ends (t :: rest) ↔ k.stops t = true := by
  simp [Ends]

theorem takeQuestion_nilableMark {nilable : Bool} {rest : List Token} (h : Phrase.alternative.Ends rest) :
    takeQuestion (Token.nilableMark nilable ++ rest) = (nilable, rest) := by
  cases nilable with
  | true => rfl
  | false =>
    cases rest with
    | nil => rfl
    | cons t rest =>
      rw [Phrase.ends_cons] at h
      cases t with
      | question => exact absurd h (by decide)
      | _ => rfl

theorem ends_nilableMark {nilable : Bool} {rest : List Token} (h : Phrase.alternative.Ends rest) :
    Phrase.parameters.Ends (Token.nilableMark nilable ++ rest) := by
  cases nilable with
  | true => exact Phrase.ends_cons.2 rfl
  | false =>
    intro t ht
    exact (Bool.and_eq_true_iff.1 (h t ht)).1

theorem readParams_of_ends {fuel : Nat} {ts : List Token} (h : Phrase.parameters.Ends ts) :
    readParams (fuel + 1) ts = some ([], .list, ts) := by
  cases ts with
  | nil => rfl
  | cons t ts =>
    rw [Phrase.ends_cons] at h
    cases t with
    | less | leftBrace | leftParen => exact absurd h (by decide)
    | _ => rfl

theorem stops_of_parts {b : Bool} {t : Token} (h : t.parts b = true) : Phrase.alternative.stops t = true := by
  cases t with
  | comma | bar => rfl
  | _ => cases b <;> cases h

theorem Phrase.Ends.alternative_of_union {b : Bool} {rest : List Token} (h : (Phrase.union b).Ends rest) :
    Phrase.alternative.Ends rest :=
  fun t ht => (Bool.and_eq_true_iff.1 (h t ht)).1

theorem Phrase.Ends.union_of_elements {rest : List Token} (h : Phrase.elements.Ends rest) :
    (Phrase.union true).Ends rest := by
  intro t ht
  have := h t ht
  cases t <;> simp_all [stops, Token.parts, Token.separatesInElement]

theorem length_pos_of_derives_alternative {ts : List Token} {v : Variant} (h : Derives .alternative ts v) :
    0 < ts.length := by
  cases h
  exact Nat.succ_pos _

theorem length_pos_of_derives_union {b : Bool} {ts : List Token} {vs : List Variant} (h : Derives (.union b) ts vs) :
    0 < ts.length := by
  cases h with
  | one hv => exact length_pos_of_derives_alternative hv
  | more hv =>
    rw [List.length_append]
    exact Nat.add_pos_left (length_pos_of_derives_alternative hv) _

/-- A bound that is enough is not zero. -/
theorem exists_fuel {k : Phrase} {ts : List Token} {m : k.Meaning} (h : Derives k ts m) {fuel : Nat}
    (hf : k.Enough ts.length fuel) : ∃ g, fuel = g + 1 := by
  apply Nat.exists_eq_add_one.2
  cases k with
  | alternative =>
    have := length_pos_of_derives_alternative h
    simp only [Phrase.Enough] at hf
    omega
  | parameters => exact hf.1
  | union inElement =>
    have := length_pos_of_derives_union h
    simp only [Phrase.Enough] at hf
    omega
  | elements =>
    simp only [Phrase.Enough] at hf
    cases h with
    | lastElement hts =>
      have := length_pos_of_derives_union hts
      omega
    | nextElement hts hes =>
      rw [List.length_append] at hf
      have := length_pos_of_derives_union hts
      omega

theorem readUnion_one {b : Bool} {fuel : Nat} {ts rest : List Token} {v : Variant}
    (hv : readVariant fuel ts = some (v, rest)) (hrest : (Phrase.union b).Ends rest) :
    readUnion (Token.parts b) (fuel + 1) ts = some ([v], rest) := by
  cases rest with
  | nil => simp [readUnion, hv]
  | cons t rest =>
    have ht : t.parts b = false := by
      simpa using (Bool.and_eq_true_iff.1 (Phrase.ends_cons.1 hrest)).2
    simp [readUnion, hv, ht]

theorem readElements_last {fuel : Nat} {ts rest : List Token} {vs : List Variant}
    (hvs : readUnion (Token.parts true) fuel ts = some (vs, rest)) (hrest : Phrase.elements.Ends rest) :
    readElements (fuel + 1) ts = some ([.ofVariants vs], rest) := by
  have hvs : readUnion Token.separatesInElement fuel ts = some (vs, rest) := hvs
  cases rest with
  | nil => simp [readElements, hvs]
  | cons t rest =>
    have ht : t ≠ .comma := by
      rintro rfl
      exact absurd (Phrase.ends_cons.1 hrest) (by decide)
    cases t <;> simp_all [readElements]

/-- The reader of a phrase reads it whole and stops there. -/
theorem read_complete {k : Phrase} {ts : List Token} {m : k.Meaning} (h : Derives k ts m) (fuel : Nat)
    (rest : List Token) (hf : k.Enough ts.length fuel) (hrest : k.Ends rest) :
    k.read fuel (ts ++ rest) = some (m, rest) := by
  induction h generalizing fuel rest with
  | @alternative name ps params shape nilable hps ih =>
    obtain ⟨fuel, rfl⟩ := exists_fuel (.alternative hps) hf
    simp only [Phrase.Enough, List.length_cons, List.length_append] at hf
    have hparams := read_parameters.1 (ih fuel (Token.nilableMark nilable ++ rest)
      (by simp only [Phrase.Enough]; omega) (ends_nilableMark hrest))
    simp [Phrase.read, readVariant, hparams, takeQuestion_nilableMark hrest]
  | bare =>
    obtain ⟨fuel, rfl⟩ := exists_fuel .bare hf
    exact read_parameters.2 (readParams_of_ends hrest)
  | @list us vs hus ih =>
    obtain ⟨fuel, rfl⟩ := exists_fuel (.list hus) hf
    simp only [Phrase.Enough, List.length_cons, List.length_append, List.length_nil] at hf
    have hunion : readUnion Token.separates fuel (us ++ .greater :: rest) = some (vs, .greater :: rest) :=
      ih fuel (.greater :: rest) (by simp only [Phrase.Enough]; omega) (Phrase.ends_cons.2 rfl)
    apply read_parameters.2
    simp [readParams, hunion, ofVariants_of_derives hus]
  | @keyValue ks us keys values hks hus ihKeys ihValues =>
    obtain ⟨fuel, rfl⟩ := exists_fuel (.keyValue hks hus) hf
    simp only [Phrase.Enough, List.length_cons, List.length_append, List.length_nil] at hf
    have hkeys : readUnion Token.separates fuel (ks ++ .arrow :: (us ++ .rightBrace :: rest)) =
        some (keys, .arrow :: (us ++ .rightBrace :: rest)) :=
      ihKeys fuel _ (by simp only [Phrase.Enough]; omega) (Phrase.ends_cons.2 rfl)
    have hvalues : readUnion Token.separates fuel (us ++ .rightBrace :: rest) = some (values, .rightBrace :: rest) :=
      ihValues fuel _ (by simp only [Phrase.Enough]; omega) (Phrase.ends_cons.2 rfl)
    apply read_parameters.2
    simp [readParams, hkeys, hvalues, ofVariants_of_derives hks, ofVariants_of_derives hus]
  | @fixed es types hes ih =>
    obtain ⟨fuel, rfl⟩ := exists_fuel (.fixed hes) hf
    simp only [Phrase.Enough, List.length_cons, List.length_append, List.length_nil] at hf
    have helements : readElements fuel (es ++ .rightParen :: rest) = some (types, .rightParen :: rest) :=
      ih fuel _ (by simp only [Phrase.Enough]; omega) (Phrase.ends_cons.2 rfl)
    apply read_parameters.2
    simp [readParams, helements]
  | one hv ih =>
    obtain ⟨fuel, rfl⟩ := exists_fuel (.one hv) hf
    simp only [Phrase.Enough] at hf
    exact readUnion_one (ih fuel rest (by simp only [Phrase.Enough]; omega) hrest.alternative_of_union) hrest
  | @more inElement ts us t v vs hv ht hus ihv ihu =>
    obtain ⟨fuel, rfl⟩ := exists_fuel (.more hv ht hus) hf
    simp only [Phrase.Enough, List.length_cons, List.length_append] at hf
    have hfirst : readVariant fuel (ts ++ t :: (us ++ rest)) = some (v, t :: (us ++ rest)) :=
      ihv fuel _ (by simp only [Phrase.Enough]; omega) (Phrase.ends_cons.2 (stops_of_parts ht))
    have hrow : readUnion (Token.parts inElement) fuel (us ++ rest) = some (vs, rest) :=
      ihu fuel rest (by simp only [Phrase.Enough]; omega) hrest
    simp [Phrase.read, readUnion, hfirst, ht, hrow]
  | lastElement hts ih =>
    obtain ⟨fuel, rfl⟩ := exists_fuel (.lastElement hts) hf
    simp only [Phrase.Enough] at hf
    rw [← ofVariants_of_derives hts]
    exact readElements_last (ih fuel rest (by simp only [Phrase.Enough]; omega) hrest.union_of_elements) hrest
  | @nextElement ts es vs types hts hes iht ihe =>
    obtain ⟨fuel, rfl⟩ := exists_fuel (.nextElement hts hes) hf
    simp only [Phrase.Enough, List.length_cons, List.length_append] at hf
    have hfirst : readUnion Token.separatesInElement fuel (ts ++ .comma :: (es ++ rest)) =
        some (vs, .comma :: (es ++ rest)) :=
      iht fuel _ (by simp only [Phrase.Enough]; omega) (Phrase.ends_cons.2 rfl)
    have hrow : readElements fuel (es ++ rest) = some (types, rest) :=
      ihe fuel rest (by simp only [Phrase.Enough]; omega) hrest
    simp [Phrase.read, readElements, hfirst, hrow, ofVariants_of_derives hts]

/-! ### Phrases that the readers find -/

/-- At this depth the readers read nothing but phrases. -/
def ReadsPhrases (fuel : Nat) : Prop :=
  ∀ ⦃k : Phrase⦄ ⦃ts rest : List Token⦄ ⦃m : k.Meaning⦄,
    k.read fuel ts = some (m, rest) → ∃ us, ts = us ++ rest ∧ Derives k us m

theorem eq_nilableMark_append_takeQuestion (ts : List Token) :
    ts = Token.nilableMark (takeQuestion ts).1 ++ (takeQuestion ts).2 := by
  fun_cases takeQuestion ts <;> rfl

theorem ReadsPhrases.of_readVariant {fuel : Nat} (h : ReadsPhrases fuel) {ts rest : List Token} {v : Variant}
    (hv : readVariant (fuel + 1) ts = some (v, rest)) : ∃ us, ts = us ++ rest ∧ Derives .alternative us v := by
  cases ts with
  | nil => simp [readVariant] at hv
  | cons t ts =>
    cases t <;> simp only [readVariant, reduceCtorEq, Option.bind_eq_bind, Option.bind_eq_some_iff] at hv
    obtain ⟨⟨params, shape, more⟩, hparams, heq⟩ := hv
    obtain ⟨ps, rfl, hps⟩ := h (read_parameters.2 hparams)
    simp only [Option.pure_def, Option.some.injEq, Prod.mk.injEq] at heq
    obtain ⟨rfl, rfl⟩ := heq
    refine ⟨_, ?_, .alternative hps⟩
    simp [← eq_nilableMark_append_takeQuestion]

theorem ReadsPhrases.of_readUnion {fuel : Nat} (h : ReadsPhrases fuel) {b : Bool} {ts rest : List Token}
    {vs : List Variant} (hvs : readUnion (Token.parts b) (fuel + 1) ts = some (vs, rest)) :
    ∃ us, ts = us ++ rest ∧ Derives (.union b) us vs := by
  simp only [readUnion, Option.bind_eq_bind, Option.bind_eq_some_iff] at hvs
  obtain ⟨⟨v, more⟩, hv, hvs⟩ := hvs
  obtain ⟨us, rfl, hus⟩ := h (k := .alternative) hv
  cases more with
  | nil =>
    obtain ⟨rfl, rfl⟩ : [v] = vs ∧ [] = rest := by simpa using hvs
    exact ⟨us, rfl, .one hus⟩
  | cons t more =>
    by_cases ht : t.parts b = true
    · simp only [ht, ite_true, Option.bind_eq_some_iff] at hvs
      obtain ⟨⟨row, after⟩, hrow, heq⟩ := hvs
      obtain ⟨ws, rfl, hws⟩ := h (k := .union b) hrow
      obtain ⟨rfl, rfl⟩ : v :: row = vs ∧ after = rest := by simpa using heq
      exact ⟨us ++ t :: ws, by simp, .more hus ht hws⟩
    · obtain ⟨rfl, rfl⟩ : [v] = vs ∧ t :: more = rest := by simpa [ht] using hvs
      exact ⟨us, rfl, .one hus⟩

theorem ReadsPhrases.of_readElements {fuel : Nat} (h : ReadsPhrases fuel) {ts rest : List Token} {types : List DocType}
    (hes : readElements (fuel + 1) ts = some (types, rest)) : ∃ us, ts = us ++ rest ∧ Derives .elements us types := by
  simp only [readElements, Option.bind_eq_bind, Option.bind_eq_some_iff] at hes
  obtain ⟨⟨vs, more⟩, hvs, hes⟩ := hes
  obtain ⟨us, rfl, hus⟩ := h (k := .union true) hvs
  simp only [ofVariants_of_derives hus] at hes
  split at hes
  next after =>
    simp only [Option.bind_eq_some_iff] at hes
    obtain ⟨⟨row, after⟩, hrow, heq⟩ := hes
    obtain ⟨ws, rfl, hws⟩ := h (k := .elements) hrow
    obtain ⟨rfl, rfl⟩ : .union vs :: row = types ∧ after = rest := by simpa using heq
    exact ⟨us ++ .comma :: ws, by simp, .nextElement hus hws⟩
  next =>
    obtain ⟨rfl, rfl⟩ : [.union vs] = types ∧ more = rest := by simpa using hes
    exact ⟨us, rfl, .lastElement hus⟩

theorem ReadsPhrases.of_readParams {fuel : Nat} (h : ReadsPhrases fuel) {ts rest : List Token} {params : List DocType}
    {shape : Shape} (hps : readParams (fuel + 1) ts = some (params, shape, rest)) :
    ∃ us, ts = us ++ rest ∧ Derives .parameters us (params, shape) := by
  -- where no bracket opens, nothing is read
  have hstop : ∀ {ts}, Phrase.parameters.Ends ts → readParams (fuel + 1) ts = some (params, shape, rest) →
      ∃ us, ts = us ++ rest ∧ Derives .parameters us (params, shape) := by
    intro ts hends hps
    obtain ⟨rfl, rfl, rfl⟩ : [] = params ∧ .list = shape ∧ ts = rest := by
      simpa [readParams_of_ends hends] using hps
    exact ⟨[], rfl, .bare⟩
  cases ts with
  | nil => exact hstop (Phrase.ends_nil _) hps
  | cons t ts =>
    cases t with
    | less =>
      simp only [readParams, Option.bind_eq_bind, Option.bind_eq_some_iff] at hps
      obtain ⟨⟨vs, more⟩, hvs, hps⟩ := hps
      obtain ⟨us, rfl, hus⟩ := h (k := .union false) hvs
      simp only [ofVariants_of_derives hus] at hps
      split at hps
      next after =>
        obtain ⟨rfl, rfl, rfl⟩ : [.union vs] = params ∧ .list = shape ∧ after = rest := by simpa using hps
        exact ⟨.less :: (us ++ [.greater]), by simp, .list hus⟩
      next => cases hps
    | leftBrace =>
      simp only [readParams, Option.bind_eq_bind, Option.bind_eq_some_iff] at hps
      obtain ⟨⟨keys, more⟩, hkeys, hps⟩ := hps
      obtain ⟨ks, rfl, hks⟩ := h (k := .union false) hkeys
      simp only [ofVariants_of_derives hks] at hps
      split at hps
      next after =>
        simp only [Option.bind_eq_some_iff] at hps
        obtain ⟨⟨values, more⟩, hvalues, hps⟩ := hps
        obtain ⟨us, rfl, hus⟩ := h (k := .union false) hvalues
        simp only [ofVariants_of_derives hus] at hps
        split at hps
        next after =>
          obtain ⟨rfl, rfl, rfl⟩ : [.union keys, .union values] = params ∧ .keyValue = shape ∧ after = rest := by
            simpa using hps
          exact ⟨.leftBrace :: (ks ++ .arrow :: (us ++ [.rightBrace])), by simp, .keyValue hks hus⟩
        next => cases hps
      next => cases hps
    | leftParen =>
      simp only [readParams, Option.bind_eq_bind, Option.bind_eq_some_iff] at hps
      obtain ⟨⟨types, more⟩, htypes, hps⟩ := hps
      obtain ⟨es, rfl, hes⟩ := h (k := .elements) htypes
      dsimp only at hps
      split at hps
      next after =>
        obtain ⟨rfl, rfl, rfl⟩ : types = params ∧ .fixed = shape ∧ after = rest := by simpa using hps
        exact ⟨.leftParen :: (es ++ [.rightParen]), by simp, .fixed hes⟩
      next => cases hps
    | _ => exact hstop (Phrase.ends_cons.2 rfl) hps

/-- What the readers take from the front of the tokens is a phrase. -/
theorem readsPhrases (fuel : Nat) : ReadsPhrases fuel := by
  induction fuel with
  | zero =>
    intro k ts rest m h
    cases k <;> simp [Phrase.read, readVariant, readParams, readUnion, readElements] at h
  | succ fuel ih =>
    intro k ts rest m h
    cases k with
    | alternative => exact ih.of_readVariant h
    | parameters => exact ih.of_readParams (read_parameters.1 h)
    | union inElement => exact ih.of_readUnion h
    | elements => exact ih.of_readElements h

/-- The tokens that are read as alternatives are the rows of alternatives of the grammar. -/
theorem readTokens?_eq_some_iff {ts : List Token} {vs : List Variant} :
    readTokens? ts = some vs ↔ Derives (.union false) ts vs := by
  constructor
  · intro h
    have hread : readUnion Token.separates (4 * ts.length + 4) ts = some (vs, []) := by
      unfold readTokens? at h
      split at h
      next heq =>
        cases h
        exact heq
      next => cases h
    obtain ⟨us, hus, hderives⟩ := readsPhrases (4 * ts.length + 4) (k := .union false) hread
    rw [hus, List.append_nil]
    exact hderives
  · intro h
    have hread : readUnion Token.separates (4 * ts.length + 4) (ts ++ []) = some (vs, []) :=
      read_complete h (4 * ts.length + 4) [] (by simp only [Phrase.Enough]; omega) (Phrase.ends_nil _)
    rw [List.append_nil] at hread
    simp [readTokens?, hread]

/-! ### Sentences -/

/-- The text spells out the alternatives `vs`. -/
def Sentence (cs : List Char) (vs : List Variant) : Prop :=
  ∃ ts, Spells cs ts ∧ Derives (.union false) ts vs

theorem stray_notMem_of_derives {k : Phrase} {ts : List Token} {m : k.Meaning} (h : Derives k ts m) (c : Char) :
    Token.stray c ∉ ts := by
  induction h with
  | @alternative name ps params shape nilable hps ih => cases nilable <;> simp [Token.nilableMark, ih]
  | @more inElement ts us t v vs hv ht hus ihv ihu =>
    have hne : Token.stray c ≠ t := by
      rintro rfl
      cases inElement <;> cases ht
    simp [hne, ihv, ihu]
  | _ => simp_all

theorem readTokens?_scan_eq_some_iff {cs : List Char} {vs : List Variant} :
    readTokens? (Token.scan cs) = some vs ↔ Sentence cs vs := by
  constructor
  · intro h
    have hderives := readTokens?_eq_some_iff.1 h
    exact ⟨_, spells_scan (stray_notMem_of_derives hderives), hderives⟩
  · rintro ⟨ts, hspells, hderives⟩
    rw [hspells.scan_eq]
    exact readTokens?_eq_some_iff.2 hderives

theorem Sentence.unique {cs : List Char} {vs ws : List Variant} (hvs : Sentence cs vs) (hws : Sentence cs ws) :
    vs = ws := by
  rw [← readTokens?_scan_eq_some_iff] at hvs hws
  exact Option.some.inj (hvs.symm.trans hws)

theorem Sentence.ne_nil {cs : List Char} {vs : List Variant} (h : Sentence cs vs) : cs ≠ [] := by
  rintro rfl
  obtain ⟨ts, hspells, hderives⟩ := h
  have hpos := length_pos_of_derives_union hderives
  rw [← hspells.scan_eq] at hpos
  exact absurd hpos (by decide)

theorem Sentence.ofVariants_eq {cs : List Char} {vs : List Variant} (h : Sentence cs vs) :
    DocType.ofVariants vs = .union vs := by
  obtain ⟨ts, -, hderives⟩ := h
  exact ofVariants_of_derives hderives

/-- Brackets hold at least one parameter. -/
theorem shape_eq_list_of_derives {ps : List Token} {shape : Shape} (h : Derives .parameters ps ([], shape)) :
    shape = .list := by
  cases h with
  | bare => rfl
  | fixed hes => cases hes

theorem Sentence.shape_eq_list {cs : List Char} {name : String} {shape : Shape} {nilable : Bool}
    (h : Sentence cs [⟨name, [], shape, nilable⟩]) : shape = .list := by
  obtain ⟨ts, -, hderives⟩ := h
  cases hderives with
  | one hv =>
    cases hv with
    | alternative hps => exact shape_eq_list_of_derives hps
  | more hv ht hus => cases hus

/-- What the text of a documented type says, where no blank character stands around it. -/
inductive Denotes (cs : List Char) : DocType → Prop where
  | absent (h : cs = []) : Denotes cs .absent
  | void {nilable : Bool} (h : Sentence cs [⟨"void", [], .list, nilable⟩]) : Denotes cs .void
  | union {vs : List Variant} (h : Sentence cs vs) (hvoid : ∀ nilable, vs ≠ [⟨"void", [], .list, nilable⟩]) :
      Denotes cs (.union vs)
  | other (hne : cs ≠ []) (h : ∀ vs, ¬ Sentence cs vs) :
      Denotes cs (.union [⟨String.ofList cs, [], .list, false⟩])

theorem exists_denotes (cs : List Char) : ∃ t, Denotes cs t := by
  by_cases hcs : cs = []
  · exact ⟨_, .absent hcs⟩
  · by_cases hsentence : ∃ vs, Sentence cs vs
    · obtain ⟨vs, hvs⟩ := hsentence
      by_cases hvoid : ∃ nilable, vs = [⟨"void", [], .list, nilable⟩]
      · obtain ⟨nilable, rfl⟩ := hvoid
        exact ⟨_, .void hvs⟩
      · exact ⟨_, .union hvs (not_exists.1 hvoid)⟩
    · exact ⟨_, .other hcs (not_exists.1 hsentence)⟩

/-- A row of one alternative is void only when it is the bare word. -/
theorem Sentence.not_void {cs : List Char} {v : Variant} (h : Sentence cs [v])
    (hvoid : ∀ nilable, [v] ≠ [⟨"void", [], .list, nilable⟩]) : (v.name == "void" && v.params.isEmpty) = false := by
  obtain ⟨name, params, shape, nilable⟩ := v
  by_contra hbare
  obtain ⟨rfl, rfl⟩ : name = "void" ∧ params = [] := by simpa using hbare
  obtain rfl := h.shape_eq_list
  exact hvoid nilable rfl

theorem parse_eq_of_denotes {text : String} {core : List Char} {t : DocType} (htrim : TrimsTo text.toList core)
    (h : Denotes core t) : DocType.parse text = t := by
  unfold DocType.parse
  rw [htrim.trimChars_eq]
  cases h with
  | absent h => simp [h]
  | void h => simp [h.ne_nil, readTokens?_scan_eq_some_iff.2 h]
  | @union vs h hvoid =>
    simp only [List.isEmpty_iff, h.ne_nil, if_false, readTokens?_scan_eq_some_iff.2 h]
    split
    next v heq =>
      obtain rfl := Option.some.inj heq
      simp [h.not_void hvoid]
    next ws hws heq =>
      obtain rfl := Option.some.inj heq
      exact h.ofVariants_eq
    next heq => cases heq
  | other hne h =>
    have hread : readTokens? (Token.scan core) = none :=
      Option.eq_none_iff_forall_ne_some.2 fun vs hvs => h vs (readTokens?_scan_eq_some_iff.1 hvs)
    simp [hne, hread, DocType.named, Variant.named]

/-- A text is read as the grammar says: every text denotes one type, a sentence has one meaning, and nothing but blank
text is read as nothing. -/
theorem DocType.parse_eq_iff_denotes (text : String) :
    (∀ t, DocType.parse text = t ↔ ∃ core, TrimsTo text.toList core ∧ Denotes core t) ∧
      (∀ core vs ws, Sentence core vs → Sentence core ws → vs = ws) ∧
      (DocType.parse text = .absent ↔ ∀ c ∈ text.toList, isBlank c = true) := by
  have hparse : ∀ t, DocType.parse text = t ↔ ∃ core, TrimsTo text.toList core ∧ Denotes core t := by
    intro t
    constructor
    · rintro rfl
      have htrim := trimsTo_trimChars text.toList
      obtain ⟨t, ht⟩ := exists_denotes (trimChars text.toList)
      rw [parse_eq_of_denotes htrim ht]
      exact ⟨_, htrim, ht⟩
    · rintro ⟨core, htrim, ht⟩
      exact parse_eq_of_denotes htrim ht
  refine ⟨hparse, fun _ _ _ hvs hws => hvs.unique hws, ?_⟩
  rw [hparse, ← trimsTo_nil_iff]
  constructor
  · rintro ⟨core, htrim, ⟨rfl⟩⟩
    exact htrim
  · intro htrim
    exact ⟨[], htrim, .absent rfl⟩

/-- A nilable alternative with parameters inside its parameters. -/
def hashOfArrays : Variant :=
  ⟨"Hash", [.named "Symbol", .union [⟨"Array", [.named "String"], .list, false⟩]], .keyValue, true⟩

theorem parse_eq_iff_denotes_hashOfArrays :
    (∃ core, TrimsTo " Hash\x7bSymbol => Array<String>\x7d? ".toList core ∧ Denotes core (.union [hashOfArrays])) ∧
      Sentence "Hash\x7bSymbol => Array<String>\x7d?".toList [hashOfArrays] ∧
      ∀ vs, Sentence "Hash\x7bSymbol => Array<String>\x7d?".toList vs → [hashOfArrays] = vs := by
  have hsentence : Sentence "Hash\x7bSymbol => Array<String>\x7d?".toList [hashOfArrays] := by
    rw [← readTokens?_scan_eq_some_iff]
    decide +kernel
  have hspec := DocType.parse_eq_iff_denotes " Hash\x7bSymbol => Array<String>\x7d? "
  refine ⟨(hspec.1 _).1 (by decide +kernel), hsentence, ?_⟩
  intro vs hvs
  exact hspec.2.1 _ _ _ hsentence hvs

end TagCheck
