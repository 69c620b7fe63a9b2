import Mathlib.Data.List.Nodup
import Mathlib.Data.List.Perm.Basic
import TagCheck.Json.Decoder

/-!
# The order of fields

Two documents that differ in the order of the fields of their objects only (`Json.Rearranged`) say the same.  A decoder
`Reads` a value as `a` if it gives `a` for every rearrangement of the value.  A record is put together from its fields,
and so is the proof that it is read: one lemma for a single field (`Fields.reads_one`), one for two groups of fields side
by side (`Fields.Reads.seq`), and one for the object of all fields (`Fields.Reads.decode`).
-/

namespace TagCheck

namespace Json

/-! ### The order of fields -/

mutual

/-- The second value is the first one with the fields of its objects in another order. -/
inductive Rearranged : Json → Json → Prop
  | refl (v : Json) : Rearranged v v
  | arr {items others : List Json} (stop : Option Stop) (h : RearrangedItems items others) :
      Rearranged (.arr items stop) (.arr others stop)
  | obj {fields entries moved : List (String × Json)} (stop : Option Stop) (h : RearrangedFields fields entries)
      (hmoved : entries.Perm moved) : Rearranged (.obj fields stop) (.obj moved stop)

inductive RearrangedItems : List Json → List Json → Prop
  | nil : RearrangedItems [] []
  | cons {v w : Json} {items others : List Json} (h : Rearranged v w) (hrest : RearrangedItems items others) :
      RearrangedItems (v :: items) (w :: others)

inductive RearrangedFields : List (String × Json) → List (String × Json) → Prop
  | nil : RearrangedFields [] []
  | cons {v w : Json} {fields entries : List (String × Json)} (key : String) (h : Rearranged v w)
      (hrest : RearrangedFields fields entries) : RearrangedFields ((key, v) :: fields) ((key, w) :: entries)

end

theorem RearrangedItems.refl (items : List Json) : RearrangedItems items items := by
  induction items with
  | nil => exact .nil
  | cons v items ih => exact .cons (.refl v) ih

theorem RearrangedFields.refl (fields : List (String × Json)) : RearrangedFields fields fields := by
  induction fields with
  | nil => exact .nil
  | cons field fields ih => exact .cons field.1 (.refl field.2) ih

theorem RearrangedFields.keys_eq {fields entries : List (String × Json)} :
    RearrangedFields fields entries → entries.map Prod.fst = fields.map Prod.fst
  | .nil => rfl
  | .cons key _ hrest => congrArg (key :: ·) hrest.keys_eq

theorem RearrangedFields.exists_entry {fields entries : List (String × Json)} {field : String × Json} :
    RearrangedFields fields entries → field ∈ fields → ∃ v, (field.1, v) ∈ entries ∧ field.2.Rearranged v
  | .nil, h => absurd h List.not_mem_nil
  | .cons key hv hrest, h => by
    rcases List.mem_cons.1 h with rfl | h
    · exact ⟨_, List.mem_cons_self, hv⟩
    · obtain ⟨v, hv, hfield⟩ := hrest.exists_entry h
      exact ⟨v, List.mem_cons_of_mem _ hv, hfield⟩

theorem Rearranged.of_array {items : List Json} {v : Json} (h : (Json.array items).Rearranged v) :
    ∃ others, v = .array others ∧ RearrangedItems items others := by
  cases h with
  | refl => exact ⟨items, rfl, .refl items⟩
  | arr _ h => exact ⟨_, rfl, h⟩

theorem Rearranged.of_object {fields : List (String × Json)} {v : Json} (h : (Json.object fields).Rearranged v) :
    ∃ entries moved, v = .object moved ∧ RearrangedFields fields entries ∧ entries.Perm moved := by
  cases h with
  | refl => exact ⟨fields, fields, rfl, .refl fields, .refl fields⟩
  | obj _ h hmoved => exact ⟨_, _, rfl, h, hmoved⟩

theorem Rearranged.eq_of_depth_eq_zero {v w : Json} (h : v.Rearranged w) (hdepth : v.depth = 0) : w = v := by
  cases h with
  | refl => rfl
  | arr => simp [depth] at hdepth
  | obj => simp [depth] at hdepth

theorem Rearranged.ne_null {v w : Json} (h : v.Rearranged w) (hv : v ≠ .null) : w ≠ .null := by
  rintro rfl
  cases h with
  | refl => exact hv rfl

theorem depthOfFields_eq_of_perm {fields moved : List (String × Json)} (h : fields.Perm moved) :
    depthOfFields fields = depthOfFields moved := by
  induction h with
  | nil => rfl
  | cons field _ ih => simp only [depthOfFields, ih]
  | swap field other fields =>
    simp only [depthOfFields]
    omega
  | trans _ _ ih ih' => exact ih.trans ih'

mutual

theorem Rearranged.depth_eq {v w : Json} : v.Rearranged w → w.depth = v.depth
  | .refl _ => rfl
  | .arr _ h => by simp only [depth, h.depth_eq]
  | .obj _ h hmoved => by simp only [depth, ← depthOfFields_eq_of_perm hmoved, h.depth_eq]

theorem RearrangedItems.depth_eq {items others : List Json} :
    RearrangedItems items others → depthOfItems others = depthOfItems items
  | .nil => rfl
  | .cons h hrest => by simp only [depthOfItems, h.depth_eq, hrest.depth_eq]

theorem RearrangedFields.depth_eq {fields entries : List (String × Json)} :
    RearrangedFields fields entries → depthOfFields entries = depthOfFields fields
  | .nil => rfl
  | .cons _ h hrest => by simp only [depthOfFields, h.depth_eq, hrest.depth_eq]

end

theorem firstFaultOfFields_eq_none_iff {f : Stop → Option Fault} {fields : List (String × Json)} :
    firstFaultOfFields f fields = none ↔ ∀ field ∈ fields, field.2.firstFault f = none := by
  induction fields with
  | nil => simp [firstFaultOfFields]
  | cons field fields ih => simp [firstFaultOfFields, ih]

mutual

theorem Rearranged.firstFault_eq_none {f : Stop → Option Fault} {v w : Json} :
    v.Rearranged w → v.firstFault f = none → w.firstFault f = none
  | .refl _, hv => hv
  | .arr _ h, hv => by
    simp only [firstFault, Option.or_eq_none_iff] at hv ⊢
    exact ⟨h.firstFault_eq_none hv.1, hv.2⟩
  | .obj _ h hmoved, hv => by
    simp only [firstFault, Option.or_eq_none_iff] at hv ⊢
    have hentries := firstFaultOfFields_eq_none_iff.1 (h.firstFault_eq_none hv.1)
    exact ⟨firstFaultOfFields_eq_none_iff.2 fun field hfield => hentries field (hmoved.mem_iff.2 hfield), hv.2⟩

theorem RearrangedItems.firstFault_eq_none {f : Stop → Option Fault} {items others : List Json} :
    RearrangedItems items others → firstFaultOfItems f items = none → firstFaultOfItems f others = none
  | .nil, hitems => hitems
  | .cons h hrest, hitems => by
    simp only [firstFaultOfItems, Option.or_eq_none_iff] at hitems ⊢
    exact ⟨h.firstFault_eq_none hitems.1, hrest.firstFault_eq_none hitems.2⟩

theorem RearrangedFields.firstFault_eq_none {f : Stop → Option Fault} {fields entries : List (String × Json)} :
    RearrangedFields fields entries → firstFaultOfFields f fields = none → firstFaultOfFields f entries = none
  | .nil, hfields => hfields
  | .cons _ h hrest, hfields => by
    simp only [firstFaultOfFields, Option.or_eq_none_iff] at hfields ⊢
    exact ⟨h.firstFault_eq_none hfields.1, hrest.firstFault_eq_none hfields.2⟩

end

theorem depth_le_depthOfItems {items : List Json} {v : Json} (h : v ∈ items) : v.depth ≤ depthOfItems items := by
  induction items with
  | nil => exact absurd h List.not_mem_nil
  | cons w items ih =>
    simp only [depthOfItems]
    rcases List.mem_cons.1 h with rfl | h
    · omega
    · have := ih h
      omega

end Json

/-! ### Reading the fields of a record -/

/-- The decoder reads the value as `a`, in whatever order the fields of its objects stand. -/
def Decode.Reads {α : Type} (decode : Decode α) (v : Json) (a : α) : Prop :=
  ∀ w, v.Rearranged w → decode w = .ok a

/-- The field is written, up to the order inside its value. -/
def Written.Holds (w : Written) (field : String × Json) : Prop :=
  ∃ place v, w.find? field.1 = some (place, v) ∧ field.2.Rearranged v

/-- The fields are those of the reader, and it reads them as `a` wherever they are written. -/
structure Fields.Reads {α : Type} (r : Fields α) (fields : List (String × Json)) (a : α) : Prop where
  names_eq : r.names = fields.map Prod.fst
  read_eq (n : Nat) (w : Written) (h : ∀ field ∈ fields, w.Holds field) : r.read n w = .ok a

theorem Written.exists_find?_eq {fields : List (String × Json)} {key : String} {v : Json}
    (hkeys : (fields.map Prod.fst).Nodup) (h : (key, v) ∈ fields) (count : Option String) :
    ∃ place, Written.find? ⟨fields, count⟩ key = some (place, v) := by
  suffices hgo : ∀ start, ∃ place, find?.go key start fields = some (place, v) from hgo 0
  induction fields with
  | nil => exact absurd h List.not_mem_nil
  | cons field fields ih =>
    intro start
    obtain ⟨hfield, hkeys⟩ := List.nodup_cons.1 hkeys
    rcases List.mem_cons.1 h with rfl | h
    · exact ⟨start, by simp [find?.go]⟩
    · have hne : field.1 ≠ key := by
        intro heq
        exact hfield (heq ▸ List.mem_map_of_mem h)
      obtain ⟨place, hplace⟩ := ih hkeys h (start + 1)
      exact ⟨place, by simp [find?.go, hne, hplace]⟩

namespace Fields

variable {α β : Type}

/-- Known fields, each written once, are no obstacle. -/
theorem surroundings_eq_none {names seen : List String} {fields : List (String × Json)}
    (hnames : ∀ key ∈ fields.map Prod.fst, key ∈ names) (hkeys : (fields.map Prod.fst).Nodup)
    (hseen : ∀ key ∈ fields.map Prod.fst, key ∉ seen) (place : Nat) : surroundings names seen place fields = none := by
  induction fields generalizing seen place with
  | nil => rfl
  | cons field fields ih =>
    obtain ⟨hfield, hkeys⟩ := List.nodup_cons.1 hkeys
    obtain ⟨hname, hnames⟩ := List.forall_mem_cons.1 hnames
    obtain ⟨hnew, hseen⟩ := List.forall_mem_cons.1 hseen
    have hrest : ∀ key ∈ fields.map Prod.fst, key ∉ field.1 :: seen := by
      intro key hkey hmem
      rcases List.mem_cons.1 hmem with rfl | hmem
      · exact hfield hkey
      · exact hseen key hkey hmem
    have hih := ih hnames hkeys hrest (place + 1)
    simp [surroundings, hname, hnew, hih]

theorem Reads.map {r : Fields α} {fields : List (String × Json)} {a : α} (h : r.Reads fields a) (f : α → β) :
    (f <$> r).Reads fields (f a) where
  names_eq := h.names_eq
  read_eq n w hw := by
    have hread := h.read_eq n w hw
    change (r.read n w).map f = .ok (f a)
    rw [hread]
    rfl

theorem Reads.seq {f : Fields (α → β)} {r : Fields α} {fields others : List (String × Json)} {g : α → β} {a : α}
    (hf : f.Reads fields g) (hr : r.Reads others a) : (f <*> r).Reads (fields ++ others) (g a) where
  names_eq := by
    change f.names ++ r.names = _
    rw [hf.names_eq, hr.names_eq, List.map_append]
  read_eq n w hw := by
    have hfread := hf.read_eq n w fun field hfield => hw field (List.mem_append_left _ hfield)
    have hrread := hr.read_eq (n + f.names.length) w fun field hfield => hw field (List.mem_append_right _ hfield)
    change (f.andThen r).read n w = .ok (g a)
    simp only [andThen, hfread, hrread]

theorem reads_one {decode : Decode α} {v : Json} {a : α} (name : String) (default : Option α)
    (h : decode.Reads v a) : (one name decode default).Reads [(name, v)] a where
  names_eq := rfl
  read_eq n w hw := by
    obtain ⟨place, v', hfind, hv⟩ := hw (name, v) List.mem_cons_self
    have hdecode := h v' hv
    simp only [one, hfind, hdecode]
    rfl

/-- One more field after those that are read. -/
theorem Reads.field {f : Fields (α → β)} {fields : List (String × Json)} {g : α → β} {decode : Decode α} {v : Json}
    {a : α} (hf : f.Reads fields g) (name : String) (default : Option α) (h : decode.Reads v a) :
    (f <*> one name decode default).Reads (fields ++ [(name, v)]) (g a) :=
  hf.seq (reads_one name default h)

theorem Reads.ofObject {r : Fields α} {fields entries moved : List (String × Json)} {a : α} (h : r.Reads fields a)
    (hnames : r.names.Nodup) (hentries : Json.RearrangedFields fields entries) (hmoved : entries.Perm moved) :
    r.ofObject moved none = .ok a := by
  have hkeys : (moved.map Prod.fst).Perm r.names := by
    rw [h.names_eq, ← hentries.keys_eq]
    exact (hmoved.map Prod.fst).symm
  have hnodup : (moved.map Prod.fst).Nodup := hkeys.nodup_iff.2 hnames
  have hsurroundings : surroundings r.names [] 0 moved = none :=
    surroundings_eq_none (fun key hkey => hkeys.mem_iff.1 hkey) hnodup (fun _ _ => List.not_mem_nil) 0
  have hread : r.read 0 ⟨moved, none⟩ = .ok a := by
    apply h.read_eq
    intro field hfield
    obtain ⟨v, hmem, hv⟩ := hentries.exists_entry hfield
    obtain ⟨place, hfind⟩ := Written.exists_find?_eq hnodup (hmoved.mem_iff.1 hmem) none
    exact ⟨place, v, hfind, hv⟩
  rw [Fields.ofObject, hread, hsurroundings]
  rfl

/-- A record whose fields are read is read from the object of these fields. -/
theorem Reads.decode {r : Fields α} {fields : List (String × Json)} {a : α} (h : r.Reads fields a) (what : String)
    (hnames : r.names.Nodup) : Decode.Reads (r.decode what) (.object fields) a := by
  intro w hw
  obtain ⟨entries, moved, rfl, hentries, hmoved⟩ := hw.of_object
  exact h.ofObject hnames hentries hmoved

end Fields

end TagCheck
