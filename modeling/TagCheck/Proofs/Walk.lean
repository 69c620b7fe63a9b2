import TagCheck.Proofs.Distinct
import TagCheck.Proofs.Index

/-!
# Walks as a relation

`Visits ix w names w'` says that the walk `w`, joined in turn with walks from `names`, comes to `w'`.  It has the
rules of `walk` and no bound on the depth, and the walk over the mixins of one type and the walks over all types are
both of this form, so that one induction serves for both.  `walk` obeys the rules because every step inwards takes one
more name of the index under way (`visits_foldl_walk`).

What walks leave alone: the names under way, the lineages found before (`Visits.lookup_of_some`), and the front of the
lineage (`Visits.prefix_lineage`).
-/

namespace TagCheck

variable {ix : Index} {p : Progress} {w w' u sub : Walk} {name : String} {names : List String}

/-! ### Single steps -/

namespace Progress

/-- The three answers that need no walk. -/
theorem answer?_cases (h : p.answer? ix name = some sub) :
    (∃ lineage, p.finished.lookup name = some lineage ∧ sub = ⟨lineage, true, p⟩) ∨
    (p.finished.lookup name = none ∧ ix.contains name = false ∧ sub = ⟨[], true, p⟩) ∨
    (p.finished.lookup name = none ∧ ix.contains name = true ∧ name ∈ p.visiting ∧ sub = ⟨[], false, p⟩) := by
  unfold answer? at h
  split at h
  · rename_i lineage hl
    exact Or.inl ⟨lineage, hl, (Option.some.inj h).symm⟩
  · rename_i hl
    split at h
    · rename_i hc
      exact Or.inr (Or.inl ⟨hl, by simpa using hc, (Option.some.inj h).symm⟩)
    · rename_i hc
      split at h
      · rename_i hv
        exact Or.inr (Or.inr ⟨hl, by simpa using hc, by simpa using hv, (Option.some.inj h).symm⟩)
      · simp at h

theorem answer?_eq_none (h : p.answer? ix name = none) :
    p.finished.lookup name = none ∧ ix.contains name = true ∧ name ∉ p.visiting := by
  unfold answer? at h
  split at h
  · simp at h
  · rename_i hl
    split at h
    · simp at h
    · rename_i hc
      split at h
      · simp at h
      · rename_i hv
        exact ⟨hl, by simpa using hc, by simpa using hv⟩

theorem answer?_progress (h : p.answer? ix name = some sub) : sub.progress = p := by
  rcases answer?_cases h with ⟨_, _, rfl⟩ | ⟨_, _, rfl⟩ | ⟨_, _, _, rfl⟩ <;> rfl

end Progress

namespace Walk

theorem visiting_leave {visiting : List String} (h : u.progress.visiting = name :: visiting) :
    (u.leave name).progress.visiting = visiting := by
  simp [leave, h]

/-- The lineages found when a walk ends: its own is new if it is complete or the outermost. -/
theorem lookup_leave {visiting : List String} (h : u.progress.visiting = name :: visiting) (a : String) :
    (u.leave name).progress.finished.lookup a =
      if a = name ∧ (u.complete = true ∨ visiting = []) then some u.lineage else u.progress.finished.lookup a := by
  have hkeep : (u.complete || (u.progress.visiting.erase name).isEmpty) = true ↔
      u.complete = true ∨ visiting = [] := by
    simp [h]
  by_cases hk : u.complete = true ∨ visiting = []
  · by_cases ha : a = name
    · simp [leave, hkeep.2 hk, hk, ha]
    · have hb : (a == name) = false := beq_false_of_ne ha
      simp [leave, hkeep.2 hk, ha, List.lookup_cons, hb]
  · have hk' : (u.complete || (u.progress.visiting.erase name).isEmpty) = false := by
      rw [← Bool.not_eq_true, hkeep]
      exact hk
    simp [leave, hk', hk]

theorem lookup_leave_of_ne {visiting : List String} (h : u.progress.visiting = name :: visiting) {a : String}
    (ha : a ≠ name) : (u.leave name).progress.finished.lookup a = u.progress.finished.lookup a := by
  rw [lookup_leave h, if_neg (fun hc => ha hc.1)]

end Walk

/-! ### The relation -/

/-- Walks from several names in turn, each joined to what came before. -/
inductive Visits (ix : Index) : Walk → List String → Walk → Prop where
  | done (w : Walk) : Visits ix w [] w
  | known {w sub w' : Walk} {name : String} {names : List String}
      (answer : w.progress.answer? ix name = some sub)
      (rest : Visits ix (w.join sub) names w') : Visits ix w (name :: names) w'
  | fresh {w u w' : Walk} {name : String} {names : List String}
      (answer : w.progress.answer? ix name = none)
      (inner : Visits ix (.enter ix w.progress name) (ix.mixinsAlong name) u)
      (rest : Visits ix (w.join (u.leave name)) names w') : Visits ix w (name :: names) w'

namespace Visits

theorem visiting_eq (h : Visits ix w names w') : w'.progress.visiting = w.progress.visiting := by
  induction h with
  | done => rfl
  | known answer _ ih => rw [ih, Walk.join, Progress.answer?_progress answer]
  | fresh _ _ _ ihInner ihRest => rw [ihRest, Walk.join, Walk.visiting_leave ihInner]

theorem of_append {more : List String} (h : Visits ix w (names ++ more) w') :
    ∃ u, Visits ix w names u ∧ Visits ix u more w' := by
  induction names generalizing w with
  | nil => exact ⟨w, .done w, h⟩
  | cons name names ih =>
    cases h with
    | known answer rest =>
      obtain ⟨u, hu, hmore⟩ := ih rest
      exact ⟨u, .known answer hu, hmore⟩
    | fresh answer inner rest =>
      obtain ⟨u, hu, hmore⟩ := ih rest
      exact ⟨u, .fresh answer inner hu, hmore⟩

end Visits

/-- A bound above the number of names that are not yet under way is as good as none. -/
theorem visits_foldl_walk (fuel : Nat) (w : Walk) (names : List String)
    (hf : ix.unseen w.progress.visiting < fuel) :
    Visits ix w names (names.foldl (fun w name => w.join (walk ix fuel w.progress name)) w) := by
  -- the names of an inner walk use up the bound, the names that come after it do not
  induction fuel generalizing w names with
  | zero => omega
  | succ fuel ihFuel =>
    induction names generalizing w with
    | nil => exact .done w
    | cons name names ihNames =>
      rw [List.foldl_cons]
      cases answer : w.progress.answer? ix name with
      | some sub =>
        have hw : walk ix (fuel + 1) w.progress name = sub := by simp [walk, answer]
        rw [hw]
        refine .known answer (ihNames _ ?_)
        rwa [Walk.join, Progress.answer?_progress answer]
      | none =>
        obtain ⟨_, hc, hv⟩ := Progress.answer?_eq_none answer
        have hlt := Index.unseen_cons_lt hc hv
        have inner := ihFuel (.enter ix w.progress name) (ix.mixinsAlong name) (by simp only [Walk.enter]; omega)
        have hw : walk ix (fuel + 1) w.progress name = ((ix.mixinsAlong name).foldl
            (fun w mixin => w.join (walk ix fuel w.progress mixin)) (Walk.enter ix w.progress name)).leave name := by
          simp [walk, answer]
        rw [hw]
        refine .fresh answer inner (ihNames _ ?_)
        rwa [Walk.join, Walk.visiting_leave inner.visiting_eq]

/-- The walks from all the given names, from the beginning. -/
theorem visits_walkAll (ix : Index) (names : List String) :
    ∃ w, Visits ix ⟨[], true, {}⟩ names w ∧ w.progress = walkAll ix names := by
  have hprogress : ∀ (names : List String) (w : Walk),
      (names.foldl (fun w name => w.join (walk ix (ix.types.length + 1) w.progress name)) w).progress =
        names.foldl (fun p name => (walk ix (ix.types.length + 1) p name).progress) w.progress := by
    intro names
    induction names with
    | nil => exact fun _ => rfl
    | cons name names ih => exact fun w => ih _
  have hf : ix.unseen [] < ix.types.length + 1 := Nat.lt_succ_of_le (ix.unseen_le [])
  exact ⟨_, visits_foldl_walk _ ⟨[], true, {}⟩ names hf, hprogress names _⟩

/-! ### What walks leave alone -/

namespace Visits

/-- The lineage of a type that is under way is not found meanwhile. -/
theorem lookup_of_visiting (h : Visits ix w names w') {a : String} (ha : a ∈ w.progress.visiting) :
    w'.progress.finished.lookup a = w.progress.finished.lookup a := by
  induction h with
  | done => rfl
  | known answer _ ih =>
    have hp := Progress.answer?_progress answer
    rw [ih (by simpa [Walk.join, hp] using ha), Walk.join, hp]
  | @fresh w u w' name names answer inner rest ihInner ihRest =>
    have hu := inner.visiting_eq
    have hne : a ≠ name := fun e => (Progress.answer?_eq_none answer).2.2 (e ▸ ha)
    rw [ihRest (by simpa [Walk.join, Walk.visiting_leave hu] using ha), Walk.join, Walk.lookup_leave_of_ne hu hne]
    exact ihInner (List.mem_cons_of_mem _ ha)

/-- A lineage once found stays as it is. -/
theorem lookup_of_some (h : Visits ix w names w') {a : String} {lineage : List String}
    (ha : w.progress.finished.lookup a = some lineage) : w'.progress.finished.lookup a = some lineage := by
  induction h with
  | done => exact ha
  | known answer _ ih =>
    refine ih ?_
    rwa [Walk.join, Progress.answer?_progress answer]
  | fresh answer inner _ ihInner ihRest =>
    have hl := (Progress.answer?_eq_none answer).1
    refine ihRest ?_
    rw [Walk.join, Walk.lookup_leave_of_ne inner.visiting_eq (by rintro rfl; simp [hl] at ha)]
    exact ihInner ha

/-- Only types of the index get a lineage. -/
theorem contains_of_lookup (h : Visits ix w names w') {a : String} (ha : w.progress.finished.lookup a = none)
    (ha' : w'.progress.finished.lookup a ≠ none) : ix.contains a = true := by
  induction h with
  | done => exact absurd ha ha'
  | known answer _ ih => exact ih (by rwa [Walk.join, Progress.answer?_progress answer]) ha'
  | @fresh w u w' name names answer inner rest ihInner ihRest =>
    by_cases hname : a = name
    · exact hname ▸ (Progress.answer?_eq_none answer).2.1
    · by_cases hu : u.progress.finished.lookup a = none
      · exact ihRest (by rwa [Walk.join, Walk.lookup_leave_of_ne inner.visiting_eq hname]) ha'
      · exact ihInner ha hu

theorem prefix_lineage (h : Visits ix w names w') : w.lineage <+: w'.lineage := by
  induction h with
  | done => exact List.prefix_rfl
  | known _ _ ih => exact (prefix_appendNew _ _).trans ih
  | fresh _ _ _ _ ih => exact (prefix_appendNew _ _).trans ih

theorem nodup_lineage (h : Visits ix w names w') (hw : w.lineage.Nodup) : w'.lineage.Nodup := by
  induction h with
  | done => exact hw
  | known _ _ ih => exact ih (nodup_appendNew hw _)
  | fresh _ _ _ _ ih => exact ih (nodup_appendNew hw _)

theorem complete_of_complete (h : Visits ix w names w') (hw : w'.complete = true) : w.complete = true := by
  induction h with
  | done => exact hw
  | known _ _ ih => exact (Bool.and_eq_true_iff.1 (ih hw)).1
  | fresh _ _ _ _ ih => exact (Bool.and_eq_true_iff.1 (ih hw)).1

/-- Where nothing is under way or no walk is cut, every type that is visited ends up with a lineage. -/
theorem finishes (h : Visits ix w names w') (hkept : w'.complete = true ∨ w.progress.visiting = []) {a : String}
    (ha : a ∈ names) (hc : ix.contains a = true) : ∃ lineage, w'.progress.finished.lookup a = some lineage := by
  induction h with
  | done => simp at ha
  | @known w sub w' name names answer rest ih =>
    have hp := Progress.answer?_progress answer
    rcases List.mem_cons.1 ha with rfl | ha
    · rcases Progress.answer?_cases answer with ⟨lineage, hl, _⟩ | ⟨_, hc', _⟩ | ⟨_, _, hm, rfl⟩
      · exact ⟨lineage, rest.lookup_of_some (by rwa [Walk.join, hp])⟩
      · simp [hc] at hc'
      · rcases hkept with hw | hv
        · exact absurd (Bool.and_eq_true_iff.1 (rest.complete_of_complete hw)).2 (by simp)
        · simp [hv] at hm
    · exact ih (by rwa [Walk.join, hp]) ha
  | @fresh w u w' name names answer inner rest _ ihRest =>
    have hu := inner.visiting_eq
    rcases List.mem_cons.1 ha with rfl | ha
    · have hu' : u.complete = true ∨ w.progress.visiting = [] :=
        hkept.imp_left fun hw => (Bool.and_eq_true_iff.1 (rest.complete_of_complete hw)).2
      refine ⟨u.lineage, rest.lookup_of_some ?_⟩
      rw [Walk.join, Walk.lookup_leave hu, if_pos ⟨rfl, hu'⟩]
    · exact ihRest (by rwa [Walk.join, Walk.visiting_leave hu]) ha

end Visits

end TagCheck
