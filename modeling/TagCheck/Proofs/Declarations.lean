import TagCheck.Index.Basic
import TagCheck.Proofs.Distinct

/-!
# What an index says of the declarations

The index of a snapshot is folded together from the core types, the declared types and the methods.  What it says of a
name depends on the declarations of that name alone (`Index.entry?_ofSnapshot`): the type starts as its core type, as
its first declaration or as a class that is known for its methods only, and each declaration of it adds its superclass
and its includes.  A member is the last method that defines it (`Index.member?_eq_some_iff`).

`Index.Reflects` puts together what the index has to say of all names.  The index of a snapshot does
(`Index.ofSnapshot_reflects`).
-/

namespace TagCheck

/-! ### Types after some declarations -/

private theorem lookup_cons_eq_ite {κ β : Type} [DecidableEq κ] (a key : κ) (value : β) (rest : List (κ × β)) :
    ((key, value) :: rest).lookup a = if a = key then some value else rest.lookup a := by
  by_cases h : a = key
  · simp [h]
  · have hkey : (a == key) = false := by simpa using h
    rw [List.lookup_cons, hkey, if_neg h]

theorem isSome_lookup_iff {β : Type} {table : List (String × β)} {name : String} :
    (table.lookup name).isSome = true ↔ name ∈ table.map Prod.fst := by
  rw [List.lookup_isSome_iff, List.mem_map]
  constructor
  · rintro ⟨p, hp, h⟩
    exact ⟨p, hp, (beq_iff_eq.1 h).symm⟩
  · rintro ⟨p, hp, rfl⟩
    exact ⟨p, hp, beq_self_eq_true p.1⟩

theorem lookup_alterType (types : List (String × TypeEntry)) (name : String) (fresh : TypeEntry)
    (f : TypeEntry → TypeEntry) (a : String) :
    (alterType name fresh f types).lookup a =
      if a = name then some (f ((types.lookup name).getD fresh)) else types.lookup a := by
  induction types with
  | nil => exact lookup_cons_eq_ite a name (f fresh) []
  | cons head types ih =>
    obtain ⟨key, entry⟩ := head
    unfold alterType
    simp only [lookup_cons_eq_ite, beq_iff_eq]
    by_cases hkey : key = name
    · subst hkey
      by_cases h : a = key <;> simp [lookup_cons_eq_ite, h]
    · rw [if_neg hkey, lookup_cons_eq_ite, ih, if_neg (Ne.symm hkey)]
      by_cases h : a = key
      · have hname : a ≠ name := fun ha => hkey (h.symm.trans ha)
        rw [if_pos h, if_neg hname, if_pos h]
      · rw [if_neg h, if_neg h]

/-- The declarations add their superclasses and their includes to what is known of the type. -/
theorem TypeEntry.foldl_declare (entry : TypeEntry) (decls : List TypeDecl) :
    decls.foldl TypeEntry.declare entry =
      { entry with
        superclass := (decls.filterMap TypeDecl.superclass).getLast?.or entry.superclass
        includes := appendNew entry.includes (decls.flatMap TypeDecl.includes) } := by
  induction decls generalizing entry with
  | nil => rfl
  | cons decl decls ih =>
    rw [List.foldl_cons, ih]
    simp only [TypeEntry.declare, List.flatMap_cons, appendNew_append]
    cases hsuperclass : decl.superclass with
    | none => simp [hsuperclass]
    | some superclass =>
      rw [List.filterMap_cons_some hsuperclass, List.getLast?_cons]
      cases (decls.filterMap TypeDecl.superclass).getLast? <;> rfl

/-- The declarations of a name. -/
def declarationsOf (name : String) (decls : List TypeDecl) : List TypeDecl :=
  decls.filter fun decl => decl.name = name

theorem lookup_foldl_declareType (types : List (String × TypeEntry)) (decls : List TypeDecl) (name : String) :
    (decls.foldl declareType types).lookup name =
      ((types.lookup name).or ((declarationsOf name decls).head?.map fun decl => .fresh name decl.kind)).map
        fun entry => (declarationsOf name decls).foldl TypeEntry.declare entry := by
  induction decls generalizing types with
  | nil => simp [declarationsOf]
  | cons decl decls ih =>
    rw [List.foldl_cons, ih, declareType, lookup_alterType]
    by_cases h : decl.name = name
    · subst h
      cases types.lookup decl.name <;> simp [declarationsOf]
    · have hne : name ≠ decl.name := Ne.symm h
      simp [declarationsOf, h, hne]

theorem lookup_foldl_declareOwner (types : List (String × TypeEntry)) (methods : List MethodDecl) (name : String) :
    (methods.foldl declareOwner types).lookup name =
      (types.lookup name).or
        (if ∃ m ∈ methods, m.owner = some name then some (.fresh name .classType) else none) := by
  induction methods generalizing types with
  | nil => simp
  | cons m methods ih =>
    rw [List.foldl_cons, ih]
    unfold declareOwner
    cases howner : m.owner with
    | none => simp [howner]
    | some owner =>
      simp only [lookup_alterType]
      by_cases h : name = owner
      · subst h
        cases types.lookup name <;> simp [howner]
      · have hne : owner ≠ name := Ne.symm h
        simp [howner, h, hne]

namespace Snapshot

variable (s : Snapshot)

/-- What is known of a type before its declarations are taken in: that it is a core type, or else the kind that its
first declaration gives it, or else that it has methods and so is a class. -/
def origin? (name : String) : Option TypeEntry :=
  ((coreTypes.lookup name).or ((declarationsOf name s.types).head?.map fun decl => .fresh name decl.kind)).or
    (if ∃ m ∈ s.methods, m.owner = some name then some (.fresh name .classType) else none)

end Snapshot

/-- What the index says of a type is its origin with its declarations taken in. -/
theorem Index.entry?_ofSnapshot (s : Snapshot) (name : String) :
    Index.entry? (ofSnapshot s) name =
      (s.origin? name).map fun entry => (declarationsOf name s.types).foldl TypeEntry.declare entry := by
  rw [Index.entry?, ofSnapshot, lookup_foldl_declareOwner, lookup_foldl_declareType, Snapshot.origin?]
  cases hcore : coreTypes.lookup name with
  | some entry => simp
  | none =>
    cases hdecls : declarationsOf name s.types with
    | nil => simp
    | cons decl decls => simp

/-- The index of a snapshot has the core types, the declared types and the owners of methods. -/
theorem Index.contains_ofSnapshot_iff {s : Snapshot} {name : String} :
    (ofSnapshot s).contains name = true ↔
      (∃ m ∈ s.methods, m.owner = some name) ∨ (∃ decl ∈ s.types, decl.name = name) ∨
        name ∈ coreTypes.map Prod.fst := by
  have hdecls : (declarationsOf name s.types).head?.isSome = true ↔ ∃ decl ∈ s.types, decl.name = name := by
    simp [declarationsOf]
  rw [contains, entry?_ofSnapshot, Option.isSome_map, Snapshot.origin?, Option.isSome_or, Option.isSome_or,
    Bool.or_eq_true, Bool.or_eq_true, Option.isSome_map, isSome_lookup_iff, hdecls]
  split
  next howner => simp [howner]
  next howner =>
    simp only [Option.isSome_none, Bool.false_eq_true, or_false, howner, false_or]
    exact or_comm

/-! ### Members -/

/-- The number is that of the last element with the property. -/
def IsLastWhere {α : Type} (p : α → Prop) (xs : List α) (n : Nat) : Prop :=
  (∃ x, xs[n]? = some x ∧ p x) ∧ ∀ k x, n < k → xs[k]? = some x → ¬ p x

private theorem getElem?_concat_eq_some_iff {α : Type} {xs : List α} {x y : α} {n : Nat} :
    (xs ++ [x])[n]? = some y ↔ xs[n]? = some y ∨ n = xs.length ∧ x = y := by
  rcases Nat.lt_trichotomy n xs.length with hn | rfl | hn
  · have hne : n ≠ xs.length := by omega
    simp [List.getElem?_append_left hn, hne]
  · simp
  · have hne : n ≠ xs.length := by omega
    have hxs : xs[n]? = none := List.getElem?_eq_none (by omega)
    have hconcat : (xs ++ [x])[n]? = none := List.getElem?_eq_none (by simp; omega)
    simp [hxs, hconcat, hne]

theorem isLastWhere_concat {α : Type} {p : α → Prop} {xs : List α} {x : α} {n : Nat} :
    IsLastWhere p (xs ++ [x]) n ↔ p x ∧ n = xs.length ∨ ¬ p x ∧ IsLastWhere p xs n := by
  have hlast : (xs ++ [x])[xs.length]? = some x := List.getElem?_concat_length
  constructor
  · rintro ⟨⟨y, hy, hp⟩, hafter⟩
    rcases getElem?_concat_eq_some_iff.1 hy with hy | ⟨rfl, rfl⟩
    · have hn : n < xs.length := (List.getElem?_eq_some_iff.1 hy).1
      refine Or.inr ⟨hafter _ x hn hlast, ⟨y, hy, hp⟩, ?_⟩
      intro k z hk hz
      exact hafter k z hk (getElem?_concat_eq_some_iff.2 (Or.inl hz))
    · exact Or.inl ⟨hp, rfl⟩
  · rintro (⟨hp, rfl⟩ | ⟨hx, ⟨y, hy, hp⟩, hafter⟩)
    · refine ⟨⟨x, hlast, hp⟩, ?_⟩
      intro k z hk hz
      have hlength := (List.getElem?_eq_some_iff.1 hz).1
      rw [List.length_append, List.length_singleton] at hlength
      omega
    · refine ⟨⟨y, getElem?_concat_eq_some_iff.2 (Or.inl hy), hp⟩, ?_⟩
      intro k z hk hz
      rcases getElem?_concat_eq_some_iff.1 hz with hz | ⟨-, rfl⟩
      · exact hafter k z hk hz
      · exact hx

/-- The latest method stands first. -/
theorem memberTable_concat (n : Nat) (table : List (MemberKey × Nat)) (ms : List MethodDecl) (m : MethodDecl) :
    memberTable n table (ms ++ [m]) = (m.key, n + ms.length) :: memberTable n table ms := by
  induction ms generalizing n table with
  | nil => rfl
  | cons first ms ih =>
    rw [List.cons_append, memberTable, ih, memberTable, List.length_cons, Nat.add_assoc, Nat.add_comm 1]

theorem lookup_memberTable_eq_some_iff {ms : List MethodDecl} {key : MemberKey} {n : Nat} :
    (memberTable 0 [] ms).lookup key = some n ↔ IsLastWhere (fun m => m.key = key) ms n := by
  induction ms using List.reverseRecOn with
  | nil => simp [memberTable, IsLastWhere]
  | append_singleton ms m ih =>
    rw [memberTable_concat, lookup_cons_eq_ite, isLastWhere_concat, ← ih, Nat.zero_add]
    by_cases h : key = m.key
    · simp [h, eq_comm]
    · have hkey : m.key ≠ key := Ne.symm h
      simp [h, hkey]

theorem lookup_memberTable_eq_none_iff {ms : List MethodDecl} {key : MemberKey} :
    (memberTable 0 [] ms).lookup key = none ↔ ∀ m ∈ ms, m.key ≠ key := by
  induction ms using List.reverseRecOn with
  | nil => simp [memberTable]
  | append_singleton ms m ih =>
    rw [memberTable_concat, lookup_cons_eq_ite, List.forall_mem_append, List.forall_mem_singleton, ← ih]
    by_cases h : key = m.key
    · simp [h]
    · have hkey : m.key ≠ key := Ne.symm h
      simp [h, hkey]

/-- The table of members leads to the last method with a key, if there is one. -/
theorem find?_memberTable (ms : List MethodDecl) (key : MemberKey) :
    ((memberTable 0 [] ms).lookup key).bind (ms[·]?) = ms.reverse.find? fun m => m.key = key := by
  induction ms using List.reverseRecOn with
  | nil => rfl
  | append_singleton ms m ih =>
    rw [memberTable_concat, lookup_cons_eq_ite, List.reverse_append, List.reverse_singleton, List.singleton_append,
      List.find?_cons, ← ih]
    by_cases h : key = m.key
    · simp [h]
    · have hkey : m.key ≠ key := Ne.symm h
      simp only [h, if_false, hkey, decide_false]
      cases hlookup : (memberTable 0 [] ms).lookup key with
      | none => rfl
      | some n =>
        obtain ⟨⟨x, hx, -⟩, -⟩ := lookup_memberTable_eq_some_iff.1 hlookup
        obtain ⟨hn, -⟩ := List.getElem?_eq_some_iff.1 hx
        exact List.getElem?_append_left hn

/-- The method is a definition of the member. -/
def MethodDecl.Defines (m : MethodDecl) (owner : String) (scope : MethodScope) (name : String) : Prop :=
  m.owner = some owner ∧ m.scope = scope ∧ m.name = name

instance (m : MethodDecl) (owner : String) (scope : MethodScope) (name : String) :
    Decidable (m.Defines owner scope name) :=
  inferInstanceAs (Decidable (_ ∧ _ ∧ _))

theorem MethodDecl.key_eq_iff {m : MethodDecl} {owner name : String} {scope : MethodScope} :
    m.key = ⟨some owner, scope, name⟩ ↔ m.Defines owner scope name := by
  unfold MethodDecl.key MethodDecl.Defines
  cases m.owner <;> simp

theorem MethodDecl.key_eq_topLevel_iff {m : MethodDecl} {name : String} :
    m.key = ⟨none, .onInstance, name⟩ ↔ m.owner = none ∧ m.name = name := by
  unfold MethodDecl.key
  cases m.owner <;> simp

/-! ### What the index has to say -/

/-- The index says of each type and each member what the declarations of the snapshot say of it. -/
structure Index.Reflects (ix : Index) (s : Snapshot) : Prop where
  contains_iff (name : String) :
    ix.contains name = true ↔
      name ∈ coreTypes.map Prod.fst ∨ (∃ decl ∈ s.types, decl.name = name) ∨ ∃ m ∈ s.methods, m.owner = some name
  /-- A core type keeps its kind, and of several declarations the first counts. -/
  kind_eq (name : String) :
    ix.kind? name =
      ((coreTypes.lookup name).map TypeEntry.kind).or
        (((declarationsOf name s.types).head?.map TypeDecl.kind).or
          (if ∃ m ∈ s.methods, m.owner = some name then some .classType else none))
  /-- Of several superclasses the last counts, and what has none declared falls back on the core types. -/
  superclass_eq (name : String) :
    ix.superclass? name =
      ((declarationsOf name s.types).filterMap TypeDecl.superclass).getLast?.or
        (((coreTypes.lookup name).bind TypeEntry.superclass).or
          (if ix.kind? name = some .classType ∧ name ≠ "BasicObject" then some "Object" else none))
  mixins_firstOccurrences (name : String) :
    FirstOccurrences
      ((coreTypes.lookup name).elim [] TypeEntry.includes ++
        (declarationsOf name s.types).flatMap TypeDecl.includes)
      (ix.mixins name)
  member_eq_some_iff (owner name : String) (scope : MethodScope) (n : Nat) :
    ix.member? owner name scope = some n ↔
      IsLastWhere (fun m => m.Defines owner scope name) s.methods n
  member_eq_none_iff (owner name : String) (scope : MethodScope) :
    ix.member? owner name scope = none ↔ ∀ m ∈ s.methods, ¬ m.Defines owner scope name
  topLevel_eq_some_iff (name : String) (n : Nat) :
    ix.topLevel? name = some n ↔ IsLastWhere (fun m => m.owner = none ∧ m.name = name) s.methods n
  topLevel_eq_none_iff (name : String) :
    ix.topLevel? name = none ↔ ∀ m ∈ s.methods, ¬ (m.owner = none ∧ m.name = name)

theorem mem_coreTypes_of_lookup {name : String} {entry : TypeEntry} (h : coreTypes.lookup name = some entry) :
    (name, entry) ∈ coreTypes := by
  obtain ⟨before, after, hsplit, -⟩ := List.lookup_eq_some_iff.1 h
  simp [hsplit]

/-- A core type without a superclass is a module or the one root of all classes. -/
theorem superclass_of_mem_coreTypes :
    ∀ core ∈ coreTypes, core.2.superclass = none → core.2.kind = .classType → core.1 = "BasicObject" := by
  decide

theorem nodup_includes_of_mem_coreTypes : ∀ core ∈ coreTypes, core.2.includes.Nodup := by
  decide

namespace Index

variable (s : Snapshot) (name : String)

theorem kind?_ofSnapshot :
    (ofSnapshot s).kind? name =
      ((coreTypes.lookup name).map TypeEntry.kind).or
        (((declarationsOf name s.types).head?.map TypeDecl.kind).or
          (if ∃ m ∈ s.methods, m.owner = some name then some .classType else none)) := by
  rw [kind?, entry?_ofSnapshot, Snapshot.origin?]
  simp only [TypeEntry.foldl_declare]
  cases coreTypes.lookup name with
  | some entry => simp
  | none =>
    cases (declarationsOf name s.types).head? with
    | some decl => simp [TypeEntry.fresh]
    | none => split <;> simp [TypeEntry.fresh]

theorem superclass?_ofSnapshot :
    (ofSnapshot s).superclass? name =
      ((declarationsOf name s.types).filterMap TypeDecl.superclass).getLast?.or
        (((coreTypes.lookup name).bind TypeEntry.superclass).or
          (if (ofSnapshot s).kind? name = some .classType ∧ name ≠ "BasicObject" then some "Object" else none)) := by
  rw [superclass?, kind?_ofSnapshot, entry?_ofSnapshot, Snapshot.origin?]
  simp only [TypeEntry.foldl_declare]
  cases hcore : coreTypes.lookup name with
  | some entry =>
    cases hsuperclass : entry.superclass with
    | some superclass => simp [hsuperclass]
    | none =>
      -- the fallback is not for the core types, which say themselves what their superclass is
      have hroot := superclass_of_mem_coreTypes (name, entry) (mem_coreTypes_of_lookup hcore) hsuperclass
      have hfallback : ¬ (entry.kind = .classType ∧ name ≠ "BasicObject") := fun h => h.2 (hroot h.1)
      simp [hsuperclass, hfallback]
  | none =>
    cases hdecls : declarationsOf name s.types with
    | cons decl decls => simp [TypeEntry.fresh]
    | nil => split <;> simp [TypeEntry.fresh]

theorem mixins_ofSnapshot :
    (ofSnapshot s).mixins name =
      distinct ((coreTypes.lookup name).elim [] TypeEntry.includes ++
        (declarationsOf name s.types).flatMap TypeDecl.includes) := by
  rw [mixins, entry?_ofSnapshot, Snapshot.origin?]
  simp only [TypeEntry.foldl_declare]
  cases hcore : coreTypes.lookup name with
  | some entry =>
    have hnodup := nodup_includes_of_mem_coreTypes (name, entry) (mem_coreTypes_of_lookup hcore)
    exact (distinct_append hnodup _).symm
  | none =>
    cases hdecls : declarationsOf name s.types with
    | cons decl decls => rfl
    | nil => split <;> rfl

variable {s name} {owner : String} {scope : MethodScope} {n : Nat}

theorem member?_eq_some_iff :
    (ofSnapshot s).member? owner name scope = some n ↔
      IsLastWhere (fun m => m.Defines owner scope name) s.methods n := by
  simp only [member?, ofSnapshot, lookup_memberTable_eq_some_iff, MethodDecl.key_eq_iff]

theorem member?_eq_none_iff :
    (ofSnapshot s).member? owner name scope = none ↔ ∀ m ∈ s.methods, ¬ m.Defines owner scope name := by
  simp only [member?, ofSnapshot, lookup_memberTable_eq_none_iff, ne_eq, MethodDecl.key_eq_iff]

theorem topLevel?_eq_some_iff :
    (ofSnapshot s).topLevel? name = some n ↔ IsLastWhere (fun m => m.owner = none ∧ m.name = name) s.methods n := by
  simp only [topLevel?, ofSnapshot, lookup_memberTable_eq_some_iff, MethodDecl.key_eq_topLevel_iff]

theorem topLevel?_eq_none_iff :
    (ofSnapshot s).topLevel? name = none ↔ ∀ m ∈ s.methods, ¬ (m.owner = none ∧ m.name = name) := by
  simp only [topLevel?, ofSnapshot, lookup_memberTable_eq_none_iff, ne_eq, MethodDecl.key_eq_topLevel_iff]

end Index

/-- The index of a snapshot says of each name what the declarations of the name say, whatever else is declared and
however often: the core types come first, then the first kind, the last superclass, all includes and the last method of
a key. -/
theorem Index.ofSnapshot_reflects (s : Snapshot) : (ofSnapshot s).Reflects s where
  contains_iff name := by
    rw [contains_ofSnapshot_iff, ← or_assoc, or_comm, or_congr_right or_comm]
  kind_eq := kind?_ofSnapshot s
  superclass_eq := superclass?_ofSnapshot s
  mixins_firstOccurrences name := by
    rw [mixins_ofSnapshot]
    exact firstOccurrences_distinct _
  member_eq_some_iff _ _ _ _ := member?_eq_some_iff
  member_eq_none_iff _ _ _ := member?_eq_none_iff
  topLevel_eq_some_iff _ _ := topLevel?_eq_some_iff
  topLevel_eq_none_iff _ := topLevel?_eq_none_iff

/-- A core class that is opened twice, a module that is opened again as a class, and a method that is defined again. -/
def reopened : Snapshot where
  types := [
    { name := "String", kind := .moduleType, superclass := some "Text", includes := ["Listed"] },
    { name := "Listed", kind := .moduleType },
    { name := "String", includes := ["Comparable", "Listed", "Shown"] },
    { name := "Listed" }
  ]
  methods := [
    { owner := some "String", name := "show" },
    { name := "show" },
    { owner := some "Hidden", name := "show" },
    { owner := some "String", name := "show" }
  ]

theorem ofSnapshot_reflects_reopened :
    (Index.ofSnapshot reopened).Reflects reopened ∧
      (Index.ofSnapshot reopened).kind? "String" = some .classType ∧
      (Index.ofSnapshot reopened).superclass? "String" = some "Text" ∧
      (Index.ofSnapshot reopened).mixins "String" = ["Comparable", "Listed", "Shown"] ∧
      (Index.ofSnapshot reopened).superclass? "Listed" = none ∧
      (Index.ofSnapshot reopened).superclass? "Hidden" = some "Object" ∧
      (Index.ofSnapshot reopened).contains "Text" = false ∧
      (Index.ofSnapshot reopened).member? "String" "show" .onInstance = some 3 ∧
      (Index.ofSnapshot reopened).topLevel? "show" = some 1 := by
  refine ⟨Index.ofSnapshot_reflects reopened, ?_⟩
  decide

end TagCheck
