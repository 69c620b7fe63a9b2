import TagCheck.Proofs.FieldOrder
import TagCheck.Snapshot.Encoder

/-!
# Reloading a snapshot

A snapshot that is encoded decodes to itself, in whatever order the fields of its objects stand
(`Snapshot.decode_encode`).  Expressions are read by induction on the depth that their decoder allows for, and every
record field by field.
-/

namespace TagCheck

namespace Decode

open Fields

variable {α : Type}

/-! ### Single values -/

theorem reads_text (s : String) : Reads text (.str s) s := by
  intro w hw
  rw [hw.eq_of_depth_eq_zero rfl]
  rfl

theorem reads_word32 (n : UInt32) : Reads word32 (Encode.word32 n) n := by
  intro w hw
  have hlt : n.toNat < 4294967296 := n.toNat_lt
  rw [hw.eq_of_depth_eq_zero rfl, Encode.word32, word32, if_pos ⟨Int.natCast_nonneg _, hlt⟩, Int.toNat_natCast,
    Nat.toUInt32_eq, UInt32.ofNat_toNat]
  rfl

theorem reads_list {decode : Decode α} {encode : α → Json} (as : List α)
    (h : ∀ a ∈ as, decode.Reads (encode a) a) : Reads (list decode) (Encode.list encode as) as := by
  intro w hw
  obtain ⟨others, rfl, hitems⟩ := hw.of_array
  have hothers : items decode others = .ok as := by
    clear hw
    induction as generalizing others with
    | nil =>
      cases hitems
      rfl
    | cons a as ih =>
      cases hitems with
      | cons hv hrest =>
        have ha := h a List.mem_cons_self _ hv
        have has := ih (fun b hb => h b (List.mem_cons_of_mem _ hb)) _ hrest
        simp only [items, ha, has]
        rfl
  simp only [Json.array, list, hothers]
  rfl

theorem nullable_of_ne_null {decode : Decode α} {v : Json} (h : v ≠ .null) :
    nullable decode v = some <$> decode v := by
  cases v <;> first | rfl | exact absurd rfl h

theorem reads_nullable {decode : Decode α} {encode : α → Json} (o : Option α)
    (h : ∀ a ∈ o, decode.Reads (encode a) a ∧ encode a ≠ .null) :
    Reads (nullable decode) (Encode.nullable encode o) o := by
  intro w hw
  cases o with
  | none =>
    rw [hw.eq_of_depth_eq_zero rfl]
    rfl
  | some a =>
    obtain ⟨hreads, hnull⟩ := h a rfl
    rw [nullable_of_ne_null (hw.ne_null hnull), hreads w hw]
    rfl

theorem reads_text? (o : Option String) : Reads (nullable text) (.text? o) o :=
  reads_nullable o fun s _ => ⟨reads_text s, Json.noConfusion⟩

/-- A choice is read if its table lists it and gives no name to two choices. -/
theorem reads_choice [DecidableEq α] {table : List (String × α)} {a : α}
    (hnames : ∀ entry ∈ table, table.lookup entry.1 = some entry.2) (ha : a ∈ table.map Prod.snd) :
    Reads (choice table) (Encode.choice table a) a := by
  obtain ⟨listed, hlisted, hsnd⟩ := List.mem_map.1 ha
  have hsome : (table.find? fun entry => entry.2 == a).isSome = true :=
    List.find?_isSome.2 ⟨listed, hlisted, beq_iff_eq.2 hsnd⟩
  obtain ⟨entry, hentry⟩ := Option.isSome_iff_exists.1 hsome
  have hlookup := hnames entry (List.mem_of_find?_eq_some hentry)
  have hfound := List.find?_some hentry
  have heq : entry.2 = a := beq_iff_eq.1 hfound
  intro w hw
  rw [Encode.choice, hentry] at hw
  rw [hw.eq_of_depth_eq_zero rfl]
  simp only [Option.map_some, Json.text?, Option.elim_some, choice, chosen, hlookup, heq]
  rfl

/-! ### Expressions -/

theorem formOfFields_append (inner : Bool) (form : Option ExprForm) {fields : List (String × Json)}
    (h : ∀ field ∈ fields, field.1 ≠ "kind" ∧ field.2.readFault? = none) (rest : List (String × Json)) :
    formOfFields inner form (fields ++ rest) = formOfFields inner form rest := by
  induction fields with
  | nil => rfl
  | cons field fields ih =>
    obtain ⟨⟨hkind, hfault⟩, h⟩ := List.forall_mem_cons.1 h
    have hcheck : checkReadable field.2 = .ok () := by simp only [checkReadable, hfault]; rfl
    rw [List.cons_append, formOfFields, if_neg (by simpa using hkind), hcheck]
    exact ih h

/-- The form is found wherever among the fields it is named. -/
theorem formOfFields_eq {name : String} {form : ExprForm} {fields : List (String × Json)} (inner : Bool)
    (hname : chosen ExprForm.table name = .ok form) (hkind : ("kind", .str name) ∈ fields)
    (hkeys : (fields.map Prod.fst).Nodup)
    (hfaults : ∀ field ∈ fields, field.2.readFault? = none) :
    formOfFields inner none fields = .ok (some form) := by
  -- the fields before and after the one that names the form are passed over
  obtain ⟨before, after, rfl⟩ := List.append_of_mem hkind
  rw [List.map_append, List.map_cons, List.nodup_middle, List.nodup_cons] at hkeys
  have hother : ∀ field ∈ before ++ after, field.1 ≠ "kind" ∧ field.2.readFault? = none := by
    intro field hfield
    constructor
    · intro heq
      have hkey := List.mem_map_of_mem (f := Prod.fst) hfield
      rw [heq, List.map_append] at hkey
      exact hkeys.1 hkey
    · apply hfaults
      simp only [List.mem_append, List.mem_cons] at hfield ⊢
      tauto
  have hafter := formOfFields_append inner (some form)
    (fun field hfield => hother field (List.mem_append_right _ hfield)) []
  rw [formOfFields_append inner none fun field hfield => hother field (List.mem_append_left _ hfield)]
  rw [List.append_nil] at hafter
  simp only [formOfFields, exprForm, hname]
  exact hafter

theorem perm_filter_kind {v : Json} {entries moved : List (String × Json)} (hkind : "kind" ∉ entries.map Prod.fst)
    (hmoved : (("kind", v) :: entries).Perm moved) : entries.Perm (moved.filter fun field => field.1 != "kind") := by
  have hentries : entries.filter (fun field => field.1 != "kind") = entries := by
    apply List.filter_eq_self.2
    intro field hfield
    exact bne_iff_ne.2 fun heq => hkind (heq ▸ List.mem_map_of_mem hfield)
  have hfilter := hmoved.filter fun field => field.1 != "kind"
  rw [List.filter_cons_of_neg (by simp), hentries] at hfilter
  exact hfilter

/-- No form has a field twice, or one that is called `kind`. -/
theorem nodup_names_fieldsOfForm (expr : Decode Expr) (form : ExprForm) :
    ("kind" :: (fieldsOfForm expr form).2.names).Nodup := by
  cases form <;> exact of_decide_eq_true rfl

/-- An expression is read if its form is one of the table and the fields of that form are read. -/
theorem reads_form {inner : Bool} {n : Nat} {name : String} {form : ExprForm} {fields : List (String × Json)}
    {e : Expr} (hname : chosen ExprForm.table name = .ok form)
    (hreads : (fieldsOfForm (exprWithin true n) form).2.Reads fields e)
    (hfault : (Json.object (("kind", .str name) :: fields)).readFault? = none) :
    Reads (exprWithin inner (n + 1)) (.object (("kind", .str name) :: fields)) e := by
  intro w hw
  obtain ⟨_, moved, rfl, hentries, hmoved⟩ := hw.of_object
  have hfaults := hw.firstFault_eq_none hfault
  obtain ⟨hkind, hnames⟩ := List.nodup_cons.1 (nodup_names_fieldsOfForm (exprWithin true n) form)
  -- the name of the form is a text, which has no fields to move
  cases hentries with
  | @cons _ v _ entries _ hv hentries =>
  obtain rfl : v = .str name := hv.eq_of_depth_eq_zero rfl
  have hkeys : entries.map Prod.fst = (fieldsOfForm (exprWithin true n) form).2.names := by
    rw [hreads.names_eq, hentries.keys_eq]
  have hnodup : (moved.map Prod.fst).Nodup := by
    rw [← (hmoved.map Prod.fst).nodup_iff, List.map_cons, hkeys]
    exact List.nodup_cons.2 ⟨hkind, hnames⟩
  have hreadable : ∀ field ∈ moved, field.2.readFault? = none := by
    simp only [Json.object, Json.firstFault, Option.or_eq_none_iff] at hfaults
    exact Json.firstFaultOfFields_eq_none_iff.1 hfaults.1
  have hform : formOfFields inner none moved = .ok (some form) :=
    formOfFields_eq inner hname (hmoved.mem_iff.1 List.mem_cons_self) hnodup hreadable
  have hobject := hreads.ofObject hnames hentries (perm_filter_kind (hkeys ▸ hkind) hmoved)
  simp only [Json.object, exprWithin, hform]
  exact hobject

end Decode

namespace Encode

theorem exprs_eq_map (es : List Expr) : exprs es = es.map expr := by
  induction es with
  | nil => rw [exprs, List.map_nil]
  | cons e es ih => rw [exprs, List.map_cons, ih]

theorem expr_callOn (receiver : Option Expr) (method : String) (args : List Expr) :
    expr (.callOn receiver method args) = .object [("kind", .str "call"), ("receiver", nullable expr receiver),
      ("method", .str method), ("args", list expr args)] := by
  cases receiver with
  | none => rw [Expr.callOn, expr, exprs_eq_map]; rfl
  | some r => rw [Expr.callOn, expr, exprs_eq_map]; rfl

theorem expr_ne_null (e : Expr) : expr e ≠ .null := by
  cases e <;> simp [expr, Json.object]

mutual

/-- An encoded expression can be read to its end. -/
theorem readFault?_expr : (e : Expr) → (expr e).readFault? = none
  | .call receiver method args => by
    have hreceiver : (expr receiver).firstFault _ = none := readFault?_expr receiver
    have hargs := firstFaultOfItems_exprs args
    simp [expr, Json.object, Json.array, Json.readFault?, Json.firstFault, Json.firstFaultOfFields, hreceiver, hargs]
  | .send method args => by
    have hargs := firstFaultOfItems_exprs args
    simp [expr, Json.object, Json.array, Json.readFault?, Json.firstFault, Json.firstFaultOfFields, hargs]
  | .literal _ | .nil | .new _ | .const _ | .selfRef | .typed _ | .unknown => by
    simp [expr, Json.object, Json.readFault?, Json.firstFault, Json.firstFaultOfFields]

theorem firstFaultOfItems_exprs : (es : List Expr) →
    Json.firstFaultOfItems (fun stop => some stop.read) (exprs es) = none
  | [] => by rw [exprs, Json.firstFaultOfItems]
  | e :: es => by
    have he : (expr e).firstFault _ = none := readFault?_expr e
    rw [exprs, Json.firstFaultOfItems, he, firstFaultOfItems_exprs es]
    rfl

end

end Encode

namespace Decode

open Fields

theorem reads_plain (e : Expr) : (plain e).Reads [] e where
  names_eq := rfl
  read_eq _ _ _ := rfl

/-- A call is read if the expressions inside it are. -/
theorem reads_callOn {inner : Bool} {n : Nat}
    (ih : ∀ e, (Encode.expr e).depth < n → Reads (exprWithin true n) (Encode.expr e) e) (receiver : Option Expr)
    (method : String) (args : List Expr) (h : (Encode.expr (.callOn receiver method args)).depth < n + 1) :
    Reads (exprWithin inner (n + 1)) (Encode.expr (.callOn receiver method args)) (.callOn receiver method args) := by
  have hfault := Encode.readFault?_expr (.callOn receiver method args)
  rw [Encode.expr_callOn] at h hfault ⊢
  simp only [Json.object, Json.depth, Json.depthOfFields] at h
  have hreceiver : Reads (nullable (exprWithin true n)) (Encode.nullable Encode.expr receiver) receiver := by
    refine reads_nullable receiver fun e he => ⟨ih e ?_, Encode.expr_ne_null e⟩
    obtain rfl : receiver = some e := he
    simp only [Encode.nullable, Option.elim_some] at h
    omega
  have hargs : Reads (list (exprWithin true n)) (Encode.list Encode.expr args) args := by
    refine reads_list args fun e he => ih e ?_
    have hdepth := Json.depth_le_depthOfItems (List.mem_map_of_mem (f := Encode.expr) he)
    simp only [Encode.list, Json.array, Json.depth] at h
    omega
  have hfields := (reads_one "receiver" (some none) hreceiver).map Expr.callOn
    |>.field "method" none (reads_text method)
    |>.field "args" (some []) hargs
  exact reads_form rfl hfields hfault

theorem reads_exprWithin (n : Nat) (inner : Bool) (e : Expr) (h : (Encode.expr e).depth < n) :
    Reads (exprWithin inner n) (Encode.expr e) e := by
  induction n generalizing inner e with
  | zero => exact absurd h (Nat.not_lt_zero _)
  | succ n ih =>
    have hfault := Encode.readFault?_expr e
    cases e with
    | literal typeName =>
      have hfields := (reads_one "type_name" none (reads_text typeName)).map Expr.literal
      rw [Encode.expr] at hfault ⊢
      exact reads_form rfl hfields hfault
    | nil =>
      rw [Encode.expr] at hfault ⊢
      exact reads_form rfl (reads_plain .nil) hfault
    | new className =>
      have hfields := (reads_one "class" none (reads_text className)).map Expr.new
      rw [Encode.expr] at hfault ⊢
      exact reads_form rfl hfields hfault
    | const name =>
      have hfields := (reads_one "name" none (reads_text name)).map Expr.const
      rw [Encode.expr] at hfault ⊢
      exact reads_form rfl hfields hfault
    | selfRef =>
      rw [Encode.expr] at hfault ⊢
      exact reads_form rfl (reads_plain .selfRef) hfault
    | call receiver method args => exact reads_callOn (ih true) (some receiver) method args h
    | send method args => exact reads_callOn (ih true) none method args h
    | typed text =>
      have hfields := (reads_one "annotation" none (reads_text text)).map Expr.typed
      rw [Encode.expr] at hfault ⊢
      exact reads_form rfl hfields hfault
    | unknown =>
      rw [Encode.expr] at hfault ⊢
      exact reads_form rfl (reads_plain .unknown) hfault

theorem reads_expr (e : Expr) : Reads expr (Encode.expr e) e := by
  intro w hw
  -- a rearrangement is as deep as the value
  have hdepth : (Encode.expr e).depth < w.depth + 1 := by
    rw [hw.depth_eq]
    omega
  exact reads_exprWithin (w.depth + 1) false e hdepth w hw

/-! ### Records -/

theorem reads_span (s : Span) : Reads span (Encode.span s) s := by
  have h := (reads_one "start" none (reads_word32 s.start)).map Span.mk
    |>.field "end" none (reads_word32 s.stop)
    |>.field "file" (some 0) (reads_word32 s.file)
  exact h.decode "Span" (by decide)

theorem reads_sourceText (s : SourceText) : Reads sourceText (Encode.sourceText s) s := by
  have h := (reads_one "path" none (reads_text s.path)).map SourceText.mk
    |>.field "text" none (reads_text s.text)
  exact h.decode "SourceText" (by decide)

theorem reads_typeDecl (t : TypeDecl) : Reads typeDecl (Encode.typeDecl t) t := by
  have hkind : Reads (choice TypeKind.table) (Encode.choice TypeKind.table t.kind) t.kind :=
    reads_choice (by decide) (by cases t.kind <;> decide)
  have h := (reads_one "name" none (reads_text t.name)).map TypeDecl.mk
    |>.field "kind" (some .classType) hkind
    |>.field "superclass" (some none) (reads_text? t.superclass)
    |>.field "includes" (some []) (reads_list t.includes fun s _ => reads_text s)
    |>.field "span" (some {}) (reads_span t.span)
  exact h.decode "TypeDecl" (by decide)

theorem reads_paramDecl (p : ParamDecl) : Reads paramDecl (Encode.paramDecl p) p := by
  have hkind : Reads (choice ParamKind.table) (Encode.choice ParamKind.table p.kind) p.kind :=
    reads_choice (by decide) (by cases p.kind <;> decide)
  have h := (reads_one "name" none (reads_text p.name)).map ParamDecl.mk
    |>.field "kind" none hkind
  exact h.decode "ParamDecl" (by decide)

theorem reads_paramTag (t : ParamTag) : Reads paramTag (Encode.paramTag t) t := by
  have h := (reads_one "name" none (reads_text t.name)).map ParamTag.mk
    |>.field "text" none (reads_text t.text)
  exact h.decode "ParamTag" (by decide)

theorem reads_methodDecl (m : MethodDecl) : Reads methodDecl (Encode.methodDecl m) m := by
  have hscope : Reads (choice MethodScope.table) (Encode.choice MethodScope.table m.scope) m.scope :=
    reads_choice (by decide) (by cases m.scope <;> decide)
  have hparams : Reads (nullable (list paramDecl)) (Encode.nullable (Encode.list Encode.paramDecl) m.params) m.params :=
    reads_nullable m.params fun ps _ => ⟨reads_list ps fun p _ => reads_paramDecl p, Json.noConfusion⟩
  have h := (reads_one "owner" (some none) (reads_text? m.owner)).map MethodDecl.mk
    |>.field "name" none (reads_text m.name)
    |>.field "scope" (some .onInstance) hscope
    |>.field "params" (some (some [])) hparams
    |>.field "param_tags" (some []) (reads_list m.paramTags fun t _ => reads_paramTag t)
    |>.field "return_tag" (some none) (reads_text? m.returnTag)
    |>.field "body" (some []) (reads_list m.body fun e _ => reads_expr e)
    |>.field "span" (some {}) (reads_span m.span)
  exact h.decode "MethodDecl" (by decide)

theorem reads_assignment (v : Assignment) : Reads assignment (Encode.assignment v) v := by
  have h := (reads_one "name" none (reads_text v.name)).map Assignment.mk
    |>.field "annotation" none (reads_text v.tag)
    |>.field "value" none (reads_expr v.value)
    |>.field "namespace" (some none) (reads_text? v.within)
    |>.field "span" (some {}) (reads_span v.span)
  exact h.decode "TypedAssignment" (by decide)

theorem reads_keywordArg (k : KeywordArg) : Reads keywordArg (Encode.keywordArg k) k := by
  have h := (reads_one "name" none (reads_text k.name)).map KeywordArg.mk
    |>.field "value" none (reads_expr k.value)
  exact h.decode "KeywordArg" (by decide)

theorem reads_callSite (c : CallSite) : Reads callSite (Encode.callSite c) c := by
  have hreceiver : Reads (nullable expr) (Encode.nullable Encode.expr c.receiver) c.receiver :=
    reads_nullable c.receiver fun e _ => ⟨reads_expr e, Encode.expr_ne_null e⟩
  have h := (reads_one "receiver" (some none) hreceiver).map CallSite.mk
    |>.field "method" none (reads_text c.method)
    |>.field "args" (some []) (reads_list c.args fun e _ => reads_expr e)
    |>.field "kwargs" (some []) (reads_list c.kwargs fun k _ => reads_keywordArg k)
    |>.field "namespace" (some none) (reads_text? c.within)
    |>.field "span" (some {}) (reads_span c.span)
  exact h.decode "CallSite" (by decide)

theorem reads_snapshot (s : Snapshot) : Reads snapshot (Encode.snapshot s) s := by
  have hsource : Reads (nullable sourceText) (Encode.nullable Encode.sourceText s.source) s.source :=
    reads_nullable s.source fun t _ => ⟨reads_sourceText t, Json.noConfusion⟩
  have h := (reads_one "source" (some none) hsource).map Snapshot.mk
    |>.field "types" (some []) (reads_list s.types fun t _ => reads_typeDecl t)
    |>.field "methods" (some []) (reads_list s.methods fun m _ => reads_methodDecl m)
    |>.field "assignments" (some []) (reads_list s.assignments fun v _ => reads_assignment v)
    |>.field "calls" (some []) (reads_list s.calls fun c _ => reads_callSite c)
  exact h.decode "SnapshotFile" (by decide)

end Decode

/-- Every snapshot is read back from its encoding, also when the fields of any object in it stand in another order.
What was loaded from some document and is encoded is therefore loaded the same again. -/
theorem Snapshot.decode_encode (s : Snapshot) :
    Decode.snapshot (Encode.snapshot s) = .ok s ∧
      (∀ v, (Encode.snapshot s).Rearranged v → Decode.snapshot v = .ok s) ∧
        ∀ v, Decode.snapshot v = .ok s → Decode.snapshot (Encode.snapshot s) = Decode.snapshot v := by
  have hreads := Decode.reads_snapshot s
  have hself := hreads (Encode.snapshot s) (.refl _)
  exact ⟨hself, hreads, fun v hv => hself.trans hv.symm⟩

/-- A module and two methods, one of which has an unknown list of parameters and the other an empty one. -/
def relay : Snapshot where
  types := [{ name := "Relay", kind := .moduleType }]
  methods := [
    { owner := some "Relay", name := "pass", params := none, returnTag := some "",
      body := [.call (.send "peer" []) "push" [.nil, .send "last" [.typed "A, B"]]],
      span := ⟨4294967295, 0, 7⟩ },
    { name := "start" }]

/-- A document of `relay` that leaves out what has a default and writes some records as arrays. -/
def relayDocument : Json :=
  .object [
    ("methods", .array [
      .object [
        ("span", .array [.int 4294967295, .int 0, .int 7]),
        ("return_tag", .str ""),
        ("body", .array [.object [
          ("args", .array [.object [("kind", .str "nil")],
            .object [("method", .str "last"), ("args", .array [.array [.str "typed", .str "A, B"]]), ("kind", .int 5)]]),
          ("method", .str "push"),
          ("receiver", .object [("kind", .str "call"), ("method", .str "peer")]),
          ("kind", .str "call")]]),
        ("params", .null),
        ("name", .str "pass"),
        ("owner", .str "Relay")],
      .object [("name", .str "start")]]),
    ("types", .array [.object [("kind", .object [("module", .null)]), ("name", .str "Relay")]])]

theorem decode_encode_relay :
    ∃ fields, Encode.snapshot relay = .object fields ∧ Decode.snapshot (.object fields.reverse) = .ok relay ∧
      Decode.snapshot relayDocument = .ok relay ∧
        Decode.snapshot (Encode.snapshot relay) = Decode.snapshot relayDocument := by
  obtain ⟨-, hmoved, hagain⟩ := relay.decode_encode
  have hdocument : Decode.snapshot relayDocument = .ok relay := by rfl
  exact ⟨_, rfl, hmoved _ (.obj none (.refl _) (List.reverse_perm _).symm), hdocument, hagain _ hdocument⟩

end TagCheck
