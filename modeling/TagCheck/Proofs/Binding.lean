import TagCheck.Signature.Binding
import Mathlib.Algebra.Ring.Nat
import Mathlib.Data.List.Basic

/-!
# Arguments and their parameters

The values for the positional parameters of a call are its positional arguments and, if no parameter tells keyword
arguments apart, the hash of these.  They are dealt out in order, to each parameter as many as is its share
(`Binding.deal_eq`), so that nothing is lost, doubled or put in another order.  The shares are counted before anything
is dealt out.  If there are at least as many values as required parameters, then what was counted is enough for each
parameter that is still to come (`Binding.Enough.step`), and each gets what it wants; if there are fewer, then only the
first required parameters get a value (`Signature.fairShares`).  What a call binds by position is said by
`Signature.bind_positional`.

Keyword arguments go to the parameter of their name or else to the one that takes all others (`KeywordGoesTo`).  What a
call binds by name, and what is missing, is said by `Signature.bind_keywords`.
-/

namespace TagCheck

namespace Binding

/-! ### Shares -/

/-- How many values each parameter takes, where `left` values are there to be taken. -/
def shares (restCount : Nat) : Nat → Nat → List Parameter → List Nat
  | _, _, [] => []
  | optionalLeft, left, p :: ps =>
    let (wanted, optionalLeft) := share restCount optionalLeft p.kind
    min wanted left :: shares restCount optionalLeft (left - wanted) ps

/-- The parameters in declaration order, each as often as its share says. -/
def takers (params : List Parameter) (shares : List Nat) : List Parameter :=
  (params.zip shares).flatMap fun (p, share) => List.replicate share p

theorem shares_cons (restCount optionalLeft left : Nat) (p : Parameter) (ps : List Parameter) :
    shares restCount optionalLeft left (p :: ps) =
      min (share restCount optionalLeft p.kind).1 left ::
        shares restCount (share restCount optionalLeft p.kind).2 (left - (share restCount optionalLeft p.kind).1) ps :=
  rfl

theorem takers_cons (p : Parameter) (ps : List Parameter) (share : Nat) (shares : List Nat) :
    takers (p :: ps) (share :: shares) = List.replicate share p ++ takers ps shares := rfl

theorem length_shares (restCount optionalLeft left : Nat) (params : List Parameter) :
    (shares restCount optionalLeft left params).length = params.length := by
  induction params generalizing optionalLeft left with
  | nil => rfl
  | cons p ps ih => rw [shares_cons, List.length_cons, ih, List.length_cons]

theorem sum_shares_le (restCount optionalLeft left : Nat) (params : List Parameter) :
    (shares restCount optionalLeft left params).sum ≤ left := by
  induction params generalizing optionalLeft left with
  | nil => exact Nat.zero_le left
  | cons p ps ih =>
    rw [shares_cons, List.sum_cons]
    have hrest := ih (share restCount optionalLeft p.kind).2 (left - (share restCount optionalLeft p.kind).1)
    omega

/-- The argument in a slot goes to the parameter; nothing is bound where the hash of keyword arguments is taken. -/
def pair? : Parameter × Slot → Option (Parameter × Argument)
  | (p, slot) => slot.map fun arg => (p, arg)

/-- A parameter gets the arguments among the values at the front, and the other parameters get those behind. -/
private theorem filterMap_pair?_zip (p : Parameter) (ps : List Parameter) (front back : List Slot) :
    ((List.replicate front.length p ++ ps).zip (front ++ back)).filterMap pair? =
      front.reduceOption.map (fun arg => (p, arg)) ++ (ps.zip back).filterMap pair? := by
  induction front with
  | nil => rfl
  | cons slot front ih =>
    rw [List.length_cons, List.replicate_succ, List.cons_append, List.cons_append, List.zip_cons_cons]
    cases slot with
    | none => exact ih
    | some arg => exact congrArg (fun pairs => (p, arg) :: pairs) ih

/-- Dealing hands the slots out in order, to each parameter as many as its share says. -/
theorem deal_eq (restCount optionalLeft : Nat) (params : List Parameter) (slots : List Slot) :
    deal restCount optionalLeft params slots =
      (((takers params (shares restCount optionalLeft slots.length params)).zip slots).filterMap pair?,
        slots.drop (shares restCount optionalLeft slots.length params).sum) := by
  induction params generalizing optionalLeft slots with
  | nil => simp [deal, shares, takers]
  | cons p ps ih =>
    have hstep : deal restCount optionalLeft (p :: ps) slots =
        ((slots.take (share restCount optionalLeft p.kind).1).reduceOption.map (fun arg => (p, arg)) ++
            (deal restCount (share restCount optionalLeft p.kind).2 ps
              (slots.drop (share restCount optionalLeft p.kind).1)).1,
          (deal restCount (share restCount optionalLeft p.kind).2 ps
            (slots.drop (share restCount optionalLeft p.kind).1)).2) := rfl
    rw [hstep, ih, shares_cons, takers_cons, List.sum_cons, List.length_drop]
    generalize (share restCount optionalLeft p.kind).1 = wanted
    generalize shares restCount (share restCount optionalLeft p.kind).2 (slots.length - wanted) ps = rest
    have hpairs := filterMap_pair?_zip p (takers ps rest) (slots.take wanted) (slots.drop wanted)
    rw [List.take_append_drop, List.length_take] at hpairs
    have hleftover : (slots.drop wanted).drop rest.sum = slots.drop (min wanted slots.length + rest.sum) := by
      rw [List.drop_drop]
      rcases Nat.le_total wanted slots.length with h | h
      · rw [Nat.min_eq_left h]
      · rw [List.drop_eq_nil_of_le (by omega), List.drop_eq_nil_of_le (by omega)]
    rw [hpairs, hleftover]

/-! ### Who gets how much -/

/-- The number of parameters of the given kind. -/
def countOf (kind : ParamKind) (params : List Parameter) : Nat :=
  params.countP fun p => p.kind == kind

theorem countOf_cons (kind : ParamKind) (p : Parameter) (ps : List Parameter) :
    countOf kind (p :: ps) = countOf kind ps + if p.kind = kind then 1 else 0 := by
  simp [countOf, List.countP_cons]

/-- An optional parameter uses up one of the values for optional parameters, if any are left. -/
theorem share_snd (restCount optionalLeft : Nat) (kind : ParamKind) :
    (share restCount optionalLeft kind).2 = optionalLeft - if kind = .optional then 1 else 0 := by
  cases kind with
  | optional =>
    by_cases h : optionalLeft > 0
    · simp [share, h]
    · simp only [share, h, if_false, if_true]
      omega
  | _ => rfl

/-- If nothing is to spare, then only required parameters want a value. -/
theorem share_zero (kind : ParamKind) : share 0 0 kind = (if kind = .required then 1 else 0, 0) := by
  cases kind <;> rfl

/-- There are enough values for the required parameters, for the optional ones that may still take one, and for all
rest parameters. -/
def Enough (restCount optionalLeft left : Nat) (params : List Parameter) : Prop :=
  countOf .required params + optionalLeft + restCount * countOf .rest params ≤ left

/-- If there are enough values, then the first parameter gets what it wants and enough are left for the others. -/
theorem Enough.step {restCount optionalLeft left : Nat} {p : Parameter} {ps : List Parameter}
    (h : Enough restCount optionalLeft left (p :: ps)) :
    (share restCount optionalLeft p.kind).1 ≤ left ∧
      Enough restCount (share restCount optionalLeft p.kind).2 (left - (share restCount optionalLeft p.kind).1) ps := by
  unfold Enough at h ⊢
  rw [countOf_cons, countOf_cons, Nat.mul_add] at h
  cases hkind : p.kind with
  | optional =>
    by_cases hleft : optionalLeft > 0
    · simp only [share, hkind, hleft, reduceCtorEq, if_true, if_false] at h ⊢
      omega
    · simp only [share, hkind, hleft, reduceCtorEq, if_false] at h ⊢
      omega
  | _ =>
    simp only [share, hkind, reduceCtorEq, if_true, if_false] at h ⊢
    omega

/-- If there are enough values, then each parameter gets what it wants. -/
theorem getElem?_shares_of_enough {restCount optionalLeft left : Nat} {params : List Parameter}
    (h : Enough restCount optionalLeft left params) {i : Nat} {p : Parameter} (hp : params[i]? = some p) :
    (shares restCount optionalLeft left params)[i]? =
      some (share restCount (optionalLeft - countOf .optional (params.take i)) p.kind).1 := by
  induction params generalizing optionalLeft left i with
  | nil => cases hp
  | cons q qs ih =>
    obtain ⟨hfirst, hrest⟩ := h.step
    rw [shares_cons, Nat.min_eq_left hfirst]
    cases i with
    | zero =>
      obtain rfl : q = p := Option.some.inj hp
      rfl
    | succ i =>
      rw [List.getElem?_cons_succ, ih hrest hp, List.take_succ_cons, countOf_cons, share_snd, Nat.sub_sub,
        Nat.add_comm (countOf _ _)]

theorem sum_shares_of_enough {restCount optionalLeft left : Nat} {params : List Parameter}
    (h : Enough restCount optionalLeft left params) :
    (shares restCount optionalLeft left params).sum =
      countOf .required params + min optionalLeft (countOf .optional params) + restCount * countOf .rest params := by
  induction params generalizing optionalLeft left with
  | nil => simp [shares, countOf]
  | cons p ps ih =>
    obtain ⟨hfirst, hrest⟩ := h.step
    rw [shares_cons, Nat.min_eq_left hfirst, List.sum_cons, ih hrest, countOf_cons, countOf_cons, countOf_cons,
      Nat.mul_add]
    cases hkind : p.kind with
    | optional =>
      by_cases hleft : optionalLeft > 0
      · simp only [share, hleft, reduceCtorEq, if_true, if_false]
        omega
      · simp only [share, hleft, reduceCtorEq, if_true, if_false]
        omega
    | _ =>
      simp only [share, reduceCtorEq, if_true, if_false]
      omega

/-- If nothing is to spare, then the values go to the required parameters as far as they reach. -/
theorem getElem?_shares_of_none_spare {left : Nat} {params : List Parameter} {i : Nat} {p : Parameter}
    (hp : params[i]? = some p) :
    (shares 0 0 left params)[i]? =
      some (if p.kind = .required ∧ countOf .required (params.take i) < left then 1 else 0) := by
  induction params generalizing left i with
  | nil => cases hp
  | cons q qs ih =>
    rw [shares_cons, share_zero]
    cases i with
    | zero =>
      obtain rfl : q = p := Option.some.inj hp
      by_cases hkind : q.kind = .required
      · by_cases hleft : 0 < left
        · simp [hkind, countOf, hleft]
          omega
        · simp [hkind, countOf, hleft]
          omega
      · simp [hkind]
    | succ i =>
      rw [List.getElem?_cons_succ, ih hp, List.take_succ_cons, countOf_cons]
      by_cases hkind : q.kind = .required
      · simp only [hkind, if_true, Nat.lt_sub_iff_add_lt]
      · simp only [hkind, if_false, Nat.add_zero, Nat.sub_zero]

/-- A parameter that is not positional gets nothing. -/
theorem getElem?_shares_eq_zero {restCount optionalLeft left : Nat} {params : List Parameter} {i : Nat} {p : Parameter}
    (hp : params[i]? = some p) (hkind : p.kind ∉ [.required, .optional, .rest]) :
    (shares restCount optionalLeft left params)[i]? = some 0 := by
  induction params generalizing optionalLeft left i with
  | nil => cases hp
  | cons q qs ih =>
    rw [shares_cons]
    cases i with
    | zero =>
      obtain rfl : q = p := Option.some.inj hp
      cases hq : q.kind <;> simp_all [share]
    | succ i => exact ih hp

/-! ### Values -/

theorem length_slots (args : List Expr) (hash : Bool) :
    (slots args hash).length = args.length + if hash then 1 else 0 := by
  cases hash <;> simp [slots]

/-- The pair of a parameter and the positional argument of the given number. -/
def positionalPair : Parameter × Expr × Nat → Parameter × Argument
  | (p, value, n) => (p, ⟨.positional n, value⟩)

/-- The arguments are bound in order; the hash comes after them and is bound to nothing. -/
theorem filterMap_pair?_slots (ps : List Parameter) (args : List Expr) (hash : Bool) :
    (ps.zip (slots args hash)).filterMap pair? = (ps.zip args.zipIdx).map positionalPair := by
  unfold slots
  generalize args.zipIdx = values
  induction values generalizing ps with
  | nil => cases hash <;> cases ps <;> simp [pair?]
  | cons value values ih =>
    cases ps with
    | nil => rfl
    | cons p ps => exact congrArg (fun pairs => positionalPair (p, value) :: pairs) (ih ps)

/-- The arguments that are left over are told by their numbers, and the hash of keyword arguments comes last. -/
theorem map_slotText_drop (args : List Expr) (hash : Bool) (k : Nat) :
    ((slots args hash).drop k).map slotText =
      (args.zipIdx.drop k).map (fun (_, n) => "argument " ++ toString (n + 1)) ++
        if hash = true ∧ k ≤ args.length then ["keyword arguments"] else [] := by
  have hnumbers : (args.zipIdx.map fun (value, n) => some (Argument.mk (.positional n) value)).map slotText =
      args.zipIdx.map fun (_, n) => "argument " ++ toString (n + 1) := List.map_map
  rw [slots, List.drop_append, List.map_append, List.map_drop, hnumbers, ← List.map_drop, List.length_map,
    List.length_zipIdx]
  congr 1
  cases hash with
  | false => simp
  | true =>
    by_cases hk : k ≤ args.length
    · simp [hk, slotText]
    · have hdrop : ([none] : List Slot).drop (k - args.length) = [] :=
        List.drop_eq_nil_of_le (by rw [List.length_singleton]; omega)
      simp [hk, hdrop]

/-! ### Keyword arguments -/

theorem dealKeywords_eq (params : List Parameter) (kwargs : List (KeywordArg × Nat)) :
    dealKeywords params kwargs =
      (kwargs.filterMap fun (k, n) => (keywordParam? params k.name).map fun p => (p, ⟨.keyword n, k.value⟩),
        (kwargs.filter fun (k, _) => (keywordParam? params k.name).isNone).map fun (k, _) => k.name ++ ":") := by
  induction kwargs with
  | nil => rfl
  | cons kwarg kwargs ih =>
    unfold dealKeywords
    rw [ih]
    cases hparam : keywordParam? params kwarg.1.name with
    | none => simp [hparam]
    | some p => simp [hparam]

end Binding

/-! ### Bindings -/

namespace Signature

variable (s : Signature) (args : List Expr) (kwargs : List KeywordArg)

open Binding

/-- The keyword arguments are given as a hash, since no parameter tells them apart by their names. -/
def takesHash : Bool :=
  !kwargs.isEmpty && !s.hasKeywords

/-- The number of values for the positional parameters: the positional arguments and the hash, if there is one. -/
def valueCount : Nat :=
  args.length + if s.takesHash kwargs then 1 else 0

/-- How many of `n` values are for the optional parameters: what the required ones leave over, as far as it is
wanted. -/
def optionalCount (n : Nat) : Nat :=
  min (n - countOf .required s.params) (countOf .optional s.params)

/-- How many of `n` values are for the rest parameter. -/
def restCount (n : Nat) : Nat :=
  n - countOf .required s.params - s.optionalCount n

/-- How many of `n` values each parameter takes. -/
def sharesOf (n : Nat) : List Nat :=
  shares (s.restCount n) (s.optionalCount n) n s.params

/-- The pairs of keyword arguments with the parameters that accept them, in order. -/
def keywordPairs : List (Parameter × Argument) :=
  kwargs.zipIdx.filterMap fun (k, n) => (keywordParam? s.params k.name).map fun p => (p, ⟨.keyword n, k.value⟩)

/-- The keyword arguments that no parameter accepts, in words. -/
def keywordsUnbound : List String :=
  (kwargs.filter fun k => (keywordParam? s.params k.name).isNone).map fun k => k.name ++ ":"

/-- How the values are dealt out. -/
private theorem deal_slots :
    deal (s.restCount (slots args (s.takesHash kwargs)).length)
        (s.optionalCount (slots args (s.takesHash kwargs)).length) s.params (slots args (s.takesHash kwargs)) =
      (((takers s.params (s.sharesOf (s.valueCount args kwargs))).zip args.zipIdx).map positionalPair,
        (slots args (s.takesHash kwargs)).drop (s.sharesOf (s.valueCount args kwargs)).sum) := by
  rw [deal_eq, length_slots, filterMap_pair?_slots]
  rfl

theorem pairs_bind :
    (s.bind args kwargs).pairs =
      ((takers s.params (s.sharesOf (s.valueCount args kwargs))).zip args.zipIdx).map positionalPair ++
        if s.takesHash kwargs then [] else s.keywordPairs kwargs := by
  have hdealt := congrArg Prod.fst (s.deal_slots args kwargs)
  have hkeywords : (if s.takesHash kwargs then ([], []) else dealKeywords s.params kwargs.zipIdx).1 =
      if s.takesHash kwargs then [] else s.keywordPairs kwargs := by
    rw [dealKeywords_eq]
    cases s.takesHash kwargs <;> rfl
  exact congrArg₂ (· ++ ·) hdealt hkeywords

theorem unbound_bind :
    (s.bind args kwargs).unbound =
      (args.zipIdx.drop (s.sharesOf (s.valueCount args kwargs)).sum).map
          (fun (_, n) => "argument " ++ toString (n + 1)) ++
        (if s.takesHash kwargs = true ∧ (s.sharesOf (s.valueCount args kwargs)).sum ≤ args.length then
          ["keyword arguments"] else []) ++
        if s.takesHash kwargs then [] else s.keywordsUnbound kwargs := by
  have hdealt := congrArg (fun dealt => dealt.2.map slotText) (s.deal_slots args kwargs)
  have hkeywords : (if s.takesHash kwargs then ([], []) else dealKeywords s.params kwargs.zipIdx).2 =
      if s.takesHash kwargs then [] else s.keywordsUnbound kwargs := by
    rw [dealKeywords_eq]
    cases s.takesHash kwargs with
    | true => rfl
    | false =>
      have hargs : kwargs.zipIdx.map Prod.fst = kwargs := List.zipIdx_map_fst 0 kwargs
      rw [keywordsUnbound, ← hargs, List.filter_map, List.map_map, hargs]
      rfl
  rw [← map_slotText_drop]
  exact congrArg₂ (· ++ ·) hdealt hkeywords

theorem missing_bind :
    (s.bind args kwargs).missing =
      s.params.filter fun p => p.kind = .keyword ∧ ∀ k ∈ kwargs, k.name ≠ p.name := by
  refine List.filter_congr fun p _ => ?_
  rw [Bool.eq_iff_iff]
  simp

end Signature

/-! ### Positional arguments -/

/-- Whether the place is one among the positional arguments. -/
def ArgPlace.isPositional : ArgPlace → Bool
  | .positional _ => true
  | .keyword _ => false

namespace Binding

/-- The pairs of the binding that hold positional arguments. -/
def positionalPairs (b : Binding) : List (Parameter × Argument) :=
  b.pairs.filter fun pair => pair.2.place.isPositional

/-- The pairs of the binding that hold keyword arguments. -/
def keywordPairs (b : Binding) : List (Parameter × Argument) :=
  b.pairs.filter fun pair => !pair.2.place.isPositional

/-- What the parameters receive of `n` values that go to them in order. -/
structure FairShares (params : List Parameter) (n : Nat) (shares : List Nat) : Prop where
  length_eq : shares.length = params.length
  sum_le : shares.sum ≤ n
  required (henough : countOf .required params ≤ n) (hrest : countOf .rest params ≤ 1) {i : Nat} {p : Parameter}
    (hp : params[i]? = some p) (hkind : p.kind = .required) : shares[i]? = some 1
  /-- What the required parameters leave over goes to the first optional ones. -/
  optional (henough : countOf .required params ≤ n) (hrest : countOf .rest params ≤ 1) {i : Nat} {p : Parameter}
    (hp : params[i]? = some p) (hkind : p.kind = .optional) :
    shares[i]? =
      some (if countOf .optional (params.take i) < min (countOf .optional params) (n - countOf .required params) then 1
        else 0)
  /-- What is still left over goes to the rest parameter. -/
  rest (henough : countOf .required params ≤ n) (hrest : countOf .rest params ≤ 1) {i : Nat} {p : Parameter}
    (hp : params[i]? = some p) (hkind : p.kind = .rest) :
    shares[i]? = some (n - (countOf .required params + min (countOf .optional params) (n - countOf .required params)))
  all_taken (henough : countOf .required params ≤ n) (hrest : countOf .rest params = 1) : shares.sum = n
  /-- Too few values go to the first required parameters. -/
  few (hfew : n < countOf .required params) {i : Nat} {p : Parameter} (hp : params[i]? = some p) :
    shares[i]? = some (if p.kind = .required ∧ countOf .required (params.take i) < n then 1 else 0)
  other {i : Nat} {p : Parameter} (hp : params[i]? = some p) (hkind : p.kind ∉ [.required, .optional, .rest]) :
    shares[i]? = some 0

end Binding

open Binding in
/-- What is counted beforehand is enough for what the parameters want. -/
theorem Signature.enough {s : Signature} {n : Nat} (henough : countOf .required s.params ≤ n)
    (hrest : countOf .rest s.params ≤ 1) : Enough (s.restCount n) (s.optionalCount n) n s.params := by
  have hmul : s.restCount n * countOf .rest s.params ≤ s.restCount n * 1 := Nat.mul_le_mul_left _ hrest
  unfold Enough
  unfold restCount optionalCount at *
  omega

open Binding in
theorem Signature.fairShares (s : Signature) (n : Nat) : FairShares s.params n (s.sharesOf n) where
  length_eq := length_shares _ _ _ _
  sum_le := sum_shares_le _ _ _ _
  required henough hrest i p hp hkind := by
    rw [sharesOf, getElem?_shares_of_enough (enough henough hrest) hp, hkind]
    rfl
  optional henough hrest i p hp hkind := by
    rw [sharesOf, getElem?_shares_of_enough (enough henough hrest) hp, hkind, Nat.min_comm (countOf _ _),
      optionalCount]
    unfold share
    simp only [gt_iff_lt, Nat.sub_pos_iff_lt]
    split <;> rfl
  rest henough hrest i p hp hkind := by
    rw [sharesOf, getElem?_shares_of_enough (enough henough hrest) hp, hkind, Nat.min_comm, ← Nat.sub_sub]
    rfl
  all_taken henough hrest := by
    rw [sharesOf, sum_shares_of_enough (enough henough (Nat.le_of_eq hrest)), hrest, restCount, optionalCount]
    omega
  few hfew i p hp := by
    have hspare : n - countOf .required s.params = 0 := by omega
    rw [sharesOf, restCount, optionalCount, hspare, Nat.zero_min, Nat.sub_zero]
    exact getElem?_shares_of_none_spare hp
  other hp hkind := getElem?_shares_eq_zero hp hkind

namespace Signature

open Binding

variable (s : Signature) (args : List Expr) (kwargs : List KeywordArg)

theorem isPositional_eq_false_of_mem_keywordPairs {pair : Parameter × Argument} (h : pair ∈ s.keywordPairs kwargs) :
    pair.2.place.isPositional = false := by
  obtain ⟨⟨k, n⟩, -, hk⟩ := List.mem_filterMap.1 h
  obtain ⟨p, -, rfl⟩ := Option.map_eq_some_iff.1 hk
  rfl

theorem positionalPairs_bind :
    (s.bind args kwargs).positionalPairs =
      ((takers s.params (s.sharesOf (s.valueCount args kwargs))).zip args.zipIdx).map positionalPair := by
  rw [positionalPairs, pairs_bind, List.filter_append, List.filter_eq_self.2, List.filter_eq_nil_iff.2,
    List.append_nil]
  · intro pair hpair
    split at hpair
    · cases hpair
    · simp [s.isPositional_eq_false_of_mem_keywordPairs kwargs hpair]
  · intro pair hpair
    obtain ⟨value, -, rfl⟩ := List.mem_map.1 hpair
    rfl

theorem keywordPairs_bind :
    (s.bind args kwargs).keywordPairs = if s.takesHash kwargs then [] else s.keywordPairs kwargs := by
  rw [Binding.keywordPairs, pairs_bind, List.filter_append, List.filter_eq_nil_iff.2, List.filter_eq_self.2,
    List.nil_append]
  · intro pair hpair
    split at hpair
    · cases hpair
    · simp [s.isPositional_eq_false_of_mem_keywordPairs kwargs hpair]
  · intro pair hpair
    obtain ⟨value, -, rfl⟩ := List.mem_map.1 hpair
    simp [positionalPair, ArgPlace.isPositional]

/-- The positional pairs come first. -/
theorem pairs_bind_eq_append :
    (s.bind args kwargs).pairs = (s.bind args kwargs).positionalPairs ++ (s.bind args kwargs).keywordPairs := by
  rw [positionalPairs_bind, keywordPairs_bind, pairs_bind]

end Signature

open Binding in
/-- The values of a call, that is its positional arguments in order and the hash of its keyword arguments if there is
one, go to the parameters in declaration order, to each of them as many as is its fair share.  The positional arguments
that are not taken are told by their numbers, and the hash after them; with a rest parameter and enough values there are
none. -/
theorem Signature.bind_positional (s : Signature) (args : List Expr) (kwargs : List KeywordArg) :
    ∃ shares : List Nat,
      FairShares s.params (s.valueCount args kwargs) shares ∧
      (s.bind args kwargs).positionalPairs =
        ((takers s.params shares).zip args.zipIdx).map (fun (p, value, n) => (p, ⟨.positional n, value⟩)) ∧
      ∃ keywords : List String,
        (s.bind args kwargs).unbound =
          (args.zipIdx.drop shares.sum).map (fun (_, n) => "argument " ++ toString (n + 1)) ++
            (if s.takesHash kwargs = true ∧ shares.sum ≤ args.length then ["keyword arguments"] else []) ++ keywords ∧
        (s.takesHash kwargs = true → keywords = []) ∧ (∀ text ∈ keywords, ∃ k ∈ kwargs, text = k.name ++ ":") ∧
        (countOf .required s.params ≤ s.valueCount args kwargs → countOf .rest s.params = 1 →
          (s.bind args kwargs).unbound = keywords) := by
  refine ⟨s.sharesOf (s.valueCount args kwargs), s.fairShares _, s.positionalPairs_bind args kwargs,
    _, s.unbound_bind args kwargs, ?_, ?_, ?_⟩
  · intro hhash
    rw [if_pos hhash]
  · intro text htext
    split at htext
    · cases htext
    · obtain ⟨k, hk, rfl⟩ := List.mem_map.1 htext
      exact ⟨k, (List.mem_filter.1 hk).1, rfl⟩
  · intro henough hrest
    rw [unbound_bind, (s.fairShares _).all_taken henough hrest, List.drop_eq_nil_of_le, if_neg]
    · rfl
    · rintro ⟨hhash, hle⟩
      rw [valueCount, if_pos hhash] at hle
      omega
    · rw [List.length_zipIdx, valueCount]
      exact Nat.le_add_right _ _

/-- A parameter without a tag. -/
def plainParameter (name : String) (kind : ParamKind) : Parameter :=
  ⟨name, kind, none, .absent, none⟩

/-- A signature with an optional parameter and a rest parameter before the required one. -/
def fronted : Signature where
  method := 0
  path := "List#place"
  owner := some "List"
  params := [plainParameter "at" .optional, plainParameter "items" .rest, plainParameter "last" .required]

/-- Of three arguments and the hash of a keyword argument, the required parameter gets the hash. -/
theorem bind_positional_fronted :
    fronted.valueCount [.nil, .unknown, .selfRef] [⟨"key", .nil⟩] = 4 ∧
      Binding.FairShares fronted.params 4 [1, 2, 1] ∧
      (fronted.bind [.nil, .unknown, .selfRef] [⟨"key", .nil⟩]).positionalPairs = [
        (plainParameter "at" .optional, ⟨.positional 0, .nil⟩),
        (plainParameter "items" .rest, ⟨.positional 1, .unknown⟩),
        (plainParameter "items" .rest, ⟨.positional 2, .selfRef⟩)
      ] ∧
      (fronted.bind [.nil, .unknown, .selfRef] [⟨"key", .nil⟩]).unbound = [] := by
  obtain ⟨shares, hshares, hpairs, keywords, -, hhash, -, hunbound⟩ :=
    Signature.bind_positional fronted [.nil, .unknown, .selfRef] [⟨"key", .nil⟩]
  have hcount : fronted.valueCount [.nil, .unknown, .selfRef] [⟨"key", .nil⟩] = 4 := rfl
  rw [hcount] at hshares
  have hrequired := hshares.required (i := 2) (by decide) (by decide) rfl rfl
  have hoptional := hshares.optional (i := 0) (by decide) (by decide) rfl rfl
  have hrest := hshares.rest (i := 1) (by decide) (by decide) rfl rfl
  obtain ⟨a, b, c, rfl⟩ := List.length_eq_three.1 hshares.length_eq
  obtain rfl : a = 1 := Option.some.inj hoptional
  obtain rfl : b = 2 := Option.some.inj hrest
  obtain rfl : c = 1 := Option.some.inj hrequired
  exact ⟨hcount, hshares, hpairs, (hunbound (by decide) rfl).trans (hhash rfl)⟩

/-! ### Arguments by name -/

/-- The parameter that a keyword argument of the given name goes to. -/
inductive KeywordGoesTo (params : List Parameter) (name : String) (p : Parameter) : Prop
  /-- The first parameter for keyword arguments that has the name. -/
  | named {before after : List Parameter} (hsplit : params = before ++ p :: after) (hkind : p.kind.isKeyword = true)
      (hname : p.name = name) (hfirst : ∀ q ∈ before, q.kind.isKeyword = true → q.name ≠ name)
  /-- The first parameter that takes all other keyword arguments, if none has the name. -/
  | collected {before after : List Parameter} (hnone : ∀ q ∈ params, q.kind.isKeyword = true → q.name ≠ name)
      (hsplit : params = before ++ p :: after) (hkind : p.kind = .doubleRest)
      (hfirst : ∀ q ∈ before, q.kind ≠ .doubleRest)

theorem Binding.keywordParam?_eq_some_iff {params : List Parameter} {name : String} {p : Parameter} :
    keywordParam? params name = some p ↔ KeywordGoesTo params name p := by
  rw [keywordParam?, Option.or_eq_some_iff, List.find?_eq_some_iff_append, List.find?_eq_none,
    List.find?_eq_some_iff_append]
  simp only [Bool.and_eq_true, beq_iff_eq, Bool.not_eq_true', Bool.and_eq_false_imp, beq_eq_false_iff_ne, not_and]
  constructor
  · rintro (⟨⟨hkind, hname⟩, before, after, hsplit, hfirst⟩ | ⟨hnone, hkind, before, after, hsplit, hfirst⟩)
    · exact .named hsplit hkind hname hfirst
    · exact .collected hnone hsplit hkind hfirst
  · intro h
    cases h with
    | named hsplit hkind hname hfirst => exact Or.inl ⟨⟨hkind, hname⟩, _, _, hsplit, hfirst⟩
    | collected hnone hsplit hkind hfirst => exact Or.inr ⟨hnone, hkind, _, _, hsplit, hfirst⟩

namespace Signature

open Binding

variable (s : Signature) (args : List Expr) (kwargs : List KeywordArg)

/-- Whether some parameter takes a keyword argument of the given name. -/
def takesKeyword (name : String) : Bool :=
  s.params.any fun p => p.kind.isKeyword && p.name == name || p.kind == .doubleRest

theorem isSome_keywordParam? (name : String) : (keywordParam? s.params name).isSome = s.takesKeyword name := by
  rw [Bool.eq_iff_iff, keywordParam?, takesKeyword, Option.isSome_or, Bool.or_eq_true, List.find?_isSome,
    List.find?_isSome, List.any_eq_true]
  simp only [Bool.or_eq_true, and_or_left, exists_or]

/-- The pairs are those of the accepted keyword arguments, one for each and in order. -/
theorem forall₂_keywordPairs :
    List.Forall₂
      (fun kwarg pair => KeywordGoesTo s.params kwarg.1.name pair.1 ∧ pair.2 = ⟨.keyword kwarg.2, kwarg.1.value⟩)
      (kwargs.zipIdx.filter fun kwarg => s.takesKeyword kwarg.1.name) (s.keywordPairs kwargs) := by
  unfold keywordPairs
  induction kwargs.zipIdx with
  | nil => exact .nil
  | cons kwarg rest ih =>
    cases hparam : keywordParam? s.params kwarg.1.name with
    | none =>
      have htakes : s.takesKeyword kwarg.1.name = false := by rw [← isSome_keywordParam?, hparam]; rfl
      simpa [hparam, htakes] using ih
    | some p =>
      have htakes : s.takesKeyword kwarg.1.name = true := by rw [← isSome_keywordParam?, hparam]; rfl
      simpa [hparam, htakes] using ⟨keywordParam?_eq_some_iff.1 hparam, ih⟩

theorem keywordsUnbound_eq :
    s.keywordsUnbound kwargs = (kwargs.filter fun k => !s.takesKeyword k.name).map fun k => k.name ++ ":" := by
  simp only [keywordsUnbound, ← isSome_keywordParam?, Option.not_isSome]

/-- A signature with a required keyword has keywords. -/
theorem hasKeywords_of_keyword {p : Parameter} (hp : p ∈ s.params) (hkind : p.kind = .keyword) :
    s.hasKeywords = true :=
  List.any_eq_true.2 ⟨p, hp, by rw [hkind]; rfl⟩

theorem takesHash_eq_false (h : s.hasKeywords = true) : s.takesHash kwargs = false := by
  rw [takesHash, h, Bool.not_true, Bool.and_false]

/-- A keyword argument with the name of a required keyword is bound to a parameter of that name. -/
theorem exists_pair_of_keyword (hkeywords : s.hasKeywords = true) {p : Parameter} (hp : p ∈ s.params)
    (hkind : p.kind = .keyword) {n : Nat} {k : KeywordArg} (hk : kwargs[n]? = some k) (hname : k.name = p.name) :
    ∃ pair ∈ (s.bind args kwargs).pairs,
      pair.1.kind.isKeyword = true ∧ pair.1.name = p.name ∧ pair.2 = ⟨.keyword n, k.value⟩ := by
  have hsome : (s.params.find? fun q => q.kind.isKeyword && q.name == k.name).isSome = true :=
    List.find?_isSome.2 ⟨p, hp, by rw [hkind, hname, beq_self_eq_true]; rfl⟩
  obtain ⟨q, hq⟩ := Option.isSome_iff_exists.1 hsome
  have hparam : keywordParam? s.params k.name = some q := Option.or_eq_some_iff.2 (Or.inl hq)
  have hqk := List.find?_some hq
  simp only [Bool.and_eq_true, beq_iff_eq] at hqk
  refine ⟨(q, ⟨.keyword n, k.value⟩), ?_, hqk.1, hqk.2.trans hname, rfl⟩
  rw [pairs_bind, s.takesHash_eq_false kwargs hkeywords]
  refine List.mem_append_right _ (List.mem_filterMap.2 ⟨(k, n), List.mem_zipIdx_iff_getElem?.2 hk, ?_⟩)
  exact congrArg (Option.map fun p => (p, Argument.mk (.keyword n) k.value)) hparam

theorem mem_missing_bind_iff {p : Parameter} :
    p ∈ (s.bind args kwargs).missing ↔ p ∈ s.params ∧ p.kind = .keyword ∧ ∀ k ∈ kwargs, k.name ≠ p.name := by
  rw [missing_bind, List.mem_filter, decide_eq_true_iff]

/-- The name of a required keyword is missing if no argument has it, whichever of the keywords of that name is asked. -/
theorem exists_missing_iff {p : Parameter} (hp : p ∈ s.params) (hkind : p.kind = .keyword) :
    (∃ q ∈ (s.bind args kwargs).missing, q.name = p.name) ↔ ∀ k ∈ kwargs, k.name ≠ p.name := by
  constructor
  · rintro ⟨q, hq, hname⟩
    rw [← hname]
    exact ((s.mem_missing_bind_iff args kwargs).1 hq).2.2
  · intro hnone
    exact ⟨p, (s.mem_missing_bind_iff args kwargs).2 ⟨hp, hkind, hnone⟩, rfl⟩

theorem missing_bind_of_not_hasKeywords (h : s.hasKeywords = false) : (s.bind args kwargs).missing = [] := by
  rw [List.eq_nil_iff_forall_not_mem]
  intro p hp
  obtain ⟨hparam, hkind, -⟩ := (s.mem_missing_bind_iff args kwargs).1 hp
  exact absurd ((s.hasKeywords_of_keyword hparam hkind).symm.trans h) (by decide)

theorem keywordPairs_bind_of_not_hasKeywords (h : s.hasKeywords = false) :
    (s.bind args kwargs).keywordPairs = [] := by
  rw [keywordPairs_bind, takesHash, h]
  cases kwargs <;> rfl

end Signature

open Binding in
/-- In a signature with keywords the pairs of the keyword arguments follow those of the positional arguments.  Each
keyword argument that some parameter takes is bound once, to the parameter that it goes to, and the others are told by
their names.  A required keyword that no argument names is missing, and any other is bound to an argument of its name.
Without keywords, no keyword argument is bound to a parameter and nothing is missing. -/
theorem Signature.bind_keywords (s : Signature) (args : List Expr) (kwargs : List KeywordArg) :
    (s.hasKeywords = true →
      (s.bind args kwargs).pairs = (s.bind args kwargs).positionalPairs ++ (s.bind args kwargs).keywordPairs ∧
      List.Forall₂
        (fun kwarg pair => KeywordGoesTo s.params kwarg.1.name pair.1 ∧ pair.2 = ⟨.keyword kwarg.2, kwarg.1.value⟩)
        (kwargs.zipIdx.filter fun kwarg => s.takesKeyword kwarg.1.name) (s.bind args kwargs).keywordPairs ∧
      (∃ positional : List String,
        (s.bind args kwargs).unbound =
          positional ++ (kwargs.filter fun k => !s.takesKeyword k.name).map (fun k => k.name ++ ":") ∧
        ∀ text ∈ positional, ∃ n < args.length, text = "argument " ++ toString (n + 1)) ∧
      (s.bind args kwargs).missing =
        s.params.filter (fun p => p.kind = .keyword ∧ ∀ k ∈ kwargs, k.name ≠ p.name) ∧
      ∀ p ∈ s.params, p.kind = .keyword →
        ((∃ q ∈ (s.bind args kwargs).missing, q.name = p.name) ↔
          ¬ ∃ pair ∈ (s.bind args kwargs).pairs, ∃ n k, kwargs[n]? = some k ∧ k.name = p.name ∧
            pair.1.kind.isKeyword = true ∧ pair.1.name = p.name ∧ pair.2 = ⟨.keyword n, k.value⟩)) ∧
    (s.hasKeywords = false →
      (∀ pair ∈ (s.bind args kwargs).pairs, pair.2.place.isPositional = true) ∧
        (s.bind args kwargs).missing = []) := by
  constructor
  · intro hkeywords
    have hhash := s.takesHash_eq_false kwargs hkeywords
    refine ⟨s.pairs_bind_eq_append args kwargs, ?_, ?_, s.missing_bind args kwargs, ?_⟩
    · rw [keywordPairs_bind, hhash]
      exact s.forall₂_keywordPairs kwargs
    · refine ⟨_, by rw [unbound_bind, hhash, ← keywordsUnbound_eq]; rfl, ?_⟩
      intro text htext
      simp only [Bool.false_eq_true, false_and, if_false, List.append_nil] at htext
      obtain ⟨⟨value, n⟩, hmem, rfl⟩ := List.mem_map.1 htext
      have hn := (List.mem_zipIdx (List.mem_of_mem_drop hmem)).2.1
      exact ⟨n, by omega, rfl⟩
    · intro p hp hkind
      rw [s.exists_missing_iff args kwargs hp hkind]
      constructor
      · rintro hnone ⟨pair, -, n, k, hk, hname, -⟩
        exact hnone k (List.mem_of_getElem? hk) hname
      · intro hunbound k hk hname
        obtain ⟨n, hn⟩ := List.mem_iff_getElem?.1 hk
        obtain ⟨pair, hpair, hbound⟩ := s.exists_pair_of_keyword args kwargs hkeywords hp hkind hn hname
        exact hunbound ⟨pair, hpair, n, k, hn, hname, hbound⟩
  · intro hkeywords
    refine ⟨?_, s.missing_bind_of_not_hasKeywords args kwargs hkeywords⟩
    intro pair hpair
    rw [pairs_bind_eq_append, s.keywordPairs_bind_of_not_hasKeywords args kwargs hkeywords, List.append_nil] at hpair
    exact (List.mem_filter.1 hpair).2

/-- A signature with two parameters for the keyword `size`, one for `color` and one that takes all others. -/
def shadowed : Signature where
  method := 0
  path := "Shape#draw"
  owner := some "Shape"
  params := [plainParameter "size" .required, plainParameter "size" .optionalKeyword, plainParameter "size" .keyword,
    plainParameter "color" .keyword, plainParameter "rest" .doubleRest]

/-- Keyword arguments of which one name comes twice. -/
def sizes : List KeywordArg :=
  [⟨"size", .nil⟩, ⟨"style", .unknown⟩, ⟨"size", .selfRef⟩]

/-- Both sizes go to the first keyword of that name, and only the color is missing. -/
theorem bind_keywords_shadowed :
    shadowed.hasKeywords = true ∧
      (shadowed.bind [] sizes).keywordPairs = [
        (plainParameter "size" .optionalKeyword, ⟨.keyword 0, .nil⟩),
        (plainParameter "rest" .doubleRest, ⟨.keyword 1, .unknown⟩),
        (plainParameter "size" .optionalKeyword, ⟨.keyword 2, .selfRef⟩)
      ] ∧
      (shadowed.bind [] sizes).missing = [plainParameter "color" .keyword] ∧
      ¬ ∃ pair ∈ (shadowed.bind [] sizes).pairs, ∃ n k, sizes[n]? = some k ∧ k.name = "color" ∧
        pair.1.kind.isKeyword = true ∧ pair.1.name = "color" ∧ pair.2 = ⟨.keyword n, k.value⟩ := by
  have hcolor : plainParameter "color" .keyword ∈ shadowed.params := by simp [shadowed]
  obtain ⟨-, -, -, hmissing, heither⟩ := (Signature.bind_keywords shadowed [] sizes).1 rfl
  have hmissing : (shadowed.bind [] sizes).missing = [plainParameter "color" .keyword] := hmissing
  refine ⟨rfl, rfl, hmissing, (heither _ hcolor rfl).1 ⟨_, ?_, rfl⟩⟩
  rw [hmissing]
  exact List.mem_singleton_self _

end TagCheck
