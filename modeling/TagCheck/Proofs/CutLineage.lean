import TagCheck.Proofs.Lineage

/-!
# Lineages by walks that remember nothing

`Index.cutLineage` is a walk without a memory.  It takes the lineages of the types in `early` as given, finds nothing at
a type under way, and walks from every other type anew, as often as it comes there.  A lineage is what this walk finds
if the types whose turn comes earlier are given (`Ancestry.inOrder_lineage_eq_cutLineage`).

What a walk remembers of other types it has found by a walk that was not cut, so that no way leads from there to a type
under way and none leads back (`Settled`).  Walking there again would find the same.
-/

namespace TagCheck

open Relation (ReflTransGen TransGen)

/-! ### The walk without a memory -/

/-- The lineage of `name` as a walk finds it while `visiting` are under way. -/
def Index.cutLineage (ix : Index) (f : String → List String) (early visiting : List String) (name : String) :
    List String :=
  if name ∈ early then f name
  else if _h : ix.contains name = true ∧ name ∉ visiting then
    appendNew (ix.superclassChain name)
      ((ix.mixinsAlong name).flatMap fun mixin => ix.cutLineage f early (name :: visiting) mixin)
  else []
termination_by ix.unseen visiting
decreasing_by exact unseen_cons_lt _h.1 _h.2

variable {ix : Index} {f : String → List String} {early visiting names : List String} {name a b : String}
  {p p' : Progress} {w w' u : Walk}

namespace Index

theorem cutLineage_of_early (h : name ∈ early) : ix.cutLineage f early visiting name = f name := by
  rw [cutLineage, if_pos h]

theorem cutLineage_of_visiting (he : name ∉ early) (hv : name ∈ visiting) :
    ix.cutLineage f early visiting name = [] := by
  rw [cutLineage, if_neg he, dif_neg (fun h => h.2 hv)]

theorem cutLineage_of_not_contains (he : name ∉ early) (hc : ix.contains name = false) :
    ix.cutLineage f early visiting name = [] := by
  rw [cutLineage, if_neg he, dif_neg (by simp [hc])]

theorem cutLineage_of_contains (he : name ∉ early) (hc : ix.contains name = true) (hv : name ∉ visiting) :
    ix.cutLineage f early visiting name =
      appendNew (ix.superclassChain name) ((ix.mixinsAlong name).flatMap (ix.cutLineage f early (name :: visiting))) := by
  rw [cutLineage, if_neg he, dif_pos ⟨hc, hv⟩]

end Index

/-! ### Walks that are not cut -/

/-- `f` gives every type whose lineage has been found that lineage. -/
def Progress.Agrees (p : Progress) (f : String → List String) : Prop :=
  ∀ name lineage, p.finished.lookup name = some lineage → f name = lineage

namespace Visits

theorem agrees (h : Visits ix w names w') (hf : w'.progress.Agrees f) : w.progress.Agrees f :=
  fun name lineage hl => hf name lineage (h.lookup_of_some hl)

/-- Before the end of a walk less is found than after it. -/
theorem agrees_inner (inner : Visits ix (.enter ix p name) (ix.mixinsAlong name) u)
    (hl : p.finished.lookup name = none) (hf : (u.leave name).progress.Agrees f) : u.progress.Agrees f := by
  intro b lineage hb
  have hname : u.progress.finished.lookup name = none :=
    (inner.lookup_of_visiting List.mem_cons_self).trans hl
  have hne : b ≠ name := by
    rintro rfl
    simp [hname] at hb
  exact hf b lineage ((Walk.lookup_leave_of_ne inner.visiting_eq hne).trans hb)

/-- A walk that is not cut adds the lineages that are kept in the end. -/
theorem lineage_of_complete (h : Visits ix w names w') (hf : w'.progress.Agrees f)
    (hunindexed : ∀ a, ix.contains a = false → f a = []) (hw : w'.complete = true) :
    w'.lineage = appendNew w.lineage (names.flatMap f) := by
  induction h with
  | done w => rfl
  | @known w sub w' name names answer rest ih =>
    have hcomplete := (Bool.and_eq_true_iff.1 (rest.complete_of_complete hw)).2
    have hsub : sub.lineage = f name := by
      rcases Progress.answer?_cases answer with ⟨lineage, hl, rfl⟩ | ⟨_, hc, rfl⟩ | ⟨_, _, _, rfl⟩
      · exact (rest.agrees hf name lineage hl).symm
      · exact (hunindexed name hc).symm
      · simp at hcomplete
    rw [ih hf hw, Walk.join, hsub, List.flatMap_cons, appendNew_append]
  | @fresh w u w' name names answer inner rest _ ihRest =>
    have hcomplete : u.complete = true := (Bool.and_eq_true_iff.1 (rest.complete_of_complete hw)).2
    have hkept : f name = u.lineage := by
      apply rest.agrees hf name
      rw [Walk.join, Walk.lookup_leave inner.visiting_eq, if_pos ⟨rfl, Or.inl hcomplete⟩]
    rw [ihRest hf hw, Walk.join, Walk.leave, ← hkept, List.flatMap_cons, appendNew_append]

end Visits

/-- The lineage of `a` has been found by a walk that was not cut, and so have those of all types that `a` leads to
around `early`. -/
inductive Settled (ix : Index) (f : String → List String) (early : List String)
    (finished : List (String × List String)) : String → Prop where
  | intro {a : String} (hl : finished.lookup a ≠ none) (hc : ix.contains a = true)
      (hfa : f a = appendNew (ix.superclassChain a) ((ix.mixinsAlong a).flatMap f))
      (next : ∀ m, ix.BringsAround early a m → Settled ix f early finished m) : Settled ix f early finished a

namespace Settled

variable {finished finished' : List (String × List String)}

theorem mono (h : Settled ix f early finished a) (hle : ∀ b, finished.lookup b ≠ none → finished'.lookup b ≠ none) :
    Settled ix f early finished' a := by
  induction h with
  | intro hl hc hfa _ ih => exact .intro (hle _ hl) hc hfa ih

theorem lookup_ne_none (h : Settled ix f early finished a) (hab : ReflTransGen (ix.BringsAround early) a b) :
    finished.lookup b ≠ none := by
  have hb : Settled ix f early finished b := by
    induction hab with
    | refl => exact h
    | tail _ hstep ih =>
      obtain ⟨_, _, _, next⟩ := ih
      exact next _ hstep
  obtain ⟨hl, _, _, _⟩ := hb
  exact hl

theorem not_transGen (h : Settled ix f early finished a) : ¬ TransGen (ix.BringsAround early) a a := by
  induction h with
  | intro _ _ _ _ ih =>
    intro hloop
    obtain ⟨m, ham, hma⟩ := TransGen.head'_iff.1 hloop
    exact ih m ham (.tail' hma ham)

/-- A walk from such a type finds its lineage again, if no type under way can be reached. -/
theorem cutLineage_eq (h : Settled ix f early finished a) (hunindexed : ∀ b, ix.contains b = false → f b = [])
    (ha : a ∉ early) (hv : ∀ v ∈ visiting, v ∉ early ∧ ¬ ReflTransGen (ix.BringsAround early) a v) :
    ix.cutLineage f early visiting a = f a := by
  induction h generalizing visiting with
  | @intro a hl hc hfa next ih =>
    have hav : a ∉ visiting := fun hm => (hv a hm).2 .refl
    rw [Index.cutLineage_of_contains ha hc hav, hfa]
    congr 1
    apply List.flatMap_congr
    intro m hm
    by_cases hme : m ∈ early
    · exact Index.cutLineage_of_early hme
    · cases hmc : ix.contains m with
      | false => rw [Index.cutLineage_of_not_contains hme hmc, hunindexed m hmc]
      | true =>
        have hstep : ix.BringsAround early a m := ⟨Index.brings_iff.2 ⟨hm, hmc⟩, hme⟩
        apply ih m hstep hme
        intro v hmem
        rcases List.mem_cons.1 hmem with rfl | hmem
        · exact ⟨ha, fun hback => (Settled.intro hl hc hfa next).not_transGen (.head' hstep hback)⟩
        · exact ⟨(hv v hmem).1, fun hreach => (hv v hmem).2 (.head hstep hreach)⟩

end Settled

/-- All types outside `early` whose lineages have been found are settled. -/
def Progress.AllSettled (ix : Index) (f : String → List String) (early : List String) (p : Progress) : Prop :=
  ∀ a, a ∉ early → p.finished.lookup a ≠ none → Settled ix f early p.finished a

/-- The types outside `early` get lineages only from walks that are not cut. -/
theorem Visits.allSettled (h : Visits ix w names w') (hf : w'.progress.Agrees f)
    (hunindexed : ∀ a, ix.contains a = false → f a = [])
    (hnames : w.progress.visiting = [] → ∀ name ∈ names, name ∈ early) (hw : w.progress.AllSettled ix f early) :
    w'.progress.AllSettled ix f early := by
  induction h with
  | done => exact hw
  | known answer rest ih =>
    have hprogress := Progress.answer?_progress answer
    refine ih hf ?_ (by rwa [Walk.join, hprogress])
    rw [Walk.join, hprogress]
    exact fun hv n hn => hnames hv n (List.mem_cons_of_mem _ hn)
  | @fresh w u w' name names answer inner rest ihInner ihRest =>
    obtain ⟨hl, hc, _⟩ := Progress.answer?_eq_none answer
    have hu := inner.visiting_eq
    have hinner := inner.agrees_inner hl (rest.agrees hf)
    have hsettled := ihInner hinner (by simp [Walk.enter]) hw
    have hmono : ∀ b, u.progress.finished.lookup b ≠ none → (u.leave name).progress.finished.lookup b ≠ none := by
      intro b hb
      rw [Walk.lookup_leave hu]
      split
      · simp
      · exact hb
    refine ihRest hf ?_ ?_
    · rw [Walk.join, Walk.visiting_leave hu]
      exact fun hv n hn => hnames hv n (List.mem_cons_of_mem _ hn)
    · intro a ha hla
      have hla' := hla
      rw [Walk.join, Walk.lookup_leave hu] at hla'
      split at hla'
      · rename_i hkept
        obtain ⟨rfl, hkept⟩ := hkept
        -- the outermost walks start from names in `early`
        have hcomplete : u.complete = true := hkept.resolve_right fun hv => ha (hnames hv a List.mem_cons_self)
        have hfa : f a = u.lineage := by
          apply rest.agrees hf a
          rw [Walk.join, Walk.lookup_leave hu, if_pos ⟨rfl, hkept⟩]
        refine .intro hla hc (hfa.trans (inner.lineage_of_complete hinner hunindexed hcomplete)) ?_
        intro m hm
        obtain ⟨hmem, hmc⟩ := Index.brings_iff.1 hm.1
        obtain ⟨lineage, hlm⟩ := inner.finishes (Or.inl hcomplete) hmem hmc
        exact (hsettled m hm.2 (by simp [hlm])).mono hmono
      · exact (hsettled a ha hla').mono hmono

/-! ### Walks and the walk without a memory -/

/-- The types in `early` have their lineages, other types that have theirs are settled, and the types under way are none
of these. -/
structure Progress.Ready (ix : Index) (f : String → List String) (early : List String) (p : Progress) : Prop where
  found : ∀ b ∈ early, ix.contains b = true → p.finished.lookup b ≠ none
  settled : p.AllSettled ix f early
  unfinished : ∀ v ∈ p.visiting, v ∉ early ∧ p.finished.lookup v = none

theorem Progress.Ready.enter (h : p.Ready ix f early) (answer : p.answer? ix name = none) :
    (Walk.enter ix p name).progress.Ready ix f early where
  found := h.found
  settled := h.settled
  unfinished := by
    obtain ⟨hl, hc, _⟩ := Progress.answer?_eq_none answer
    intro v hv
    rcases List.mem_cons.1 hv with rfl | hv
    · exact ⟨fun hm => h.found v hm hc hl, hl⟩
    · exact h.unfinished v hv

theorem Visits.ready (h : Visits ix w names w') (hf : w'.progress.Agrees f)
    (hunindexed : ∀ a, ix.contains a = false → f a = [])
    (hnames : w.progress.visiting = [] → ∀ name ∈ names, name ∈ early) (hw : w.progress.Ready ix f early) :
    w'.progress.Ready ix f early where
  found := by
    intro b hb hc
    obtain ⟨lineage, hl⟩ := Option.ne_none_iff_exists'.1 (hw.found b hb hc)
    simp [h.lookup_of_some hl]
  settled := h.allSettled hf hunindexed hnames hw.settled
  unfinished := by
    intro v hv
    rw [h.visiting_eq] at hv
    rw [h.lookup_of_visiting hv]
    exact hw.unfinished v hv

/-- Walks inside another one find what the walk without a memory finds. -/
theorem Visits.lineage_eq_cutLineage (h : Visits ix w names w') (hf : w'.progress.Agrees f)
    (hunindexed : ∀ a, ix.contains a = false → f a = []) (hv : w.progress.visiting ≠ [])
    (hw : w.progress.Ready ix f early) :
    w'.lineage = appendNew w.lineage (names.flatMap (ix.cutLineage f early w.progress.visiting)) := by
  induction h with
  | done => rfl
  | @known w sub w' name names answer rest ih =>
    have hprogress := Progress.answer?_progress answer
    have hsub : sub.lineage = ix.cutLineage f early w.progress.visiting name := by
      rcases Progress.answer?_cases answer with ⟨lineage, hl, rfl⟩ | ⟨_, hc, rfl⟩ | ⟨_, _, hm, rfl⟩
      · have hfound : lineage = f name := (rest.agrees hf name lineage hl).symm
        by_cases he : name ∈ early
        · rw [Index.cutLineage_of_early he]
          exact hfound
        · have hsettled := hw.settled name he (by simp [hl])
          rw [hsettled.cutLineage_eq hunindexed he]
          · exact hfound
          · intro v hm
            obtain ⟨hve, hvl⟩ := hw.unfinished v hm
            exact ⟨hve, fun hreach => hsettled.lookup_ne_none hreach hvl⟩
      · by_cases he : name ∈ early
        · rw [Index.cutLineage_of_early he, hunindexed name hc]
        · rw [Index.cutLineage_of_not_contains he hc]
      · rw [Index.cutLineage_of_visiting (hw.unfinished name hm).1 hm]
    rw [ih hf (by rwa [Walk.join, hprogress]) (by rwa [Walk.join, hprogress]), Walk.join, hprogress, hsub,
      List.flatMap_cons, appendNew_append]
  | @fresh w u w' name names answer inner rest ihInner ihRest =>
    obtain ⟨hl, hc, hname⟩ := Progress.answer?_eq_none answer
    have hleave : (u.leave name).progress.Agrees f := rest.agrees hf
    have hvisiting : (u.leave name).progress.visiting = w.progress.visiting := Walk.visiting_leave inner.visiting_eq
    have he : name ∉ early := fun hm => hw.found name hm hc hl
    have hready : (u.leave name).progress.Ready ix f early :=
      (Visits.fresh answer inner (.done _)).ready hleave hunindexed (fun h => absurd h hv) hw
    have hlineage : u.lineage = ix.cutLineage f early w.progress.visiting name := by
      rw [Index.cutLineage_of_contains he hc hname]
      exact ihInner (inner.agrees_inner hl hleave) (by simp [Walk.enter]) (hw.enter answer)
    rw [ihRest hf (by rwa [Walk.join, hvisiting]) hready, Walk.join, hvisiting, Walk.leave, hlineage,
      List.flatMap_cons, appendNew_append]

namespace Ancestry

theorem lineage_of_not_contains {ix : Index} {names : List String} {name : String}
    (hc : ix.contains name = false) : (inOrder ix names).lineage name = [] := by
  obtain ⟨w, hw, hprogress⟩ := visits_walkAll ix names
  cases hl : w.progress.finished.lookup name with
  | none => simp [lineage, inOrder, ← hprogress, hl]
  | some lineage =>
    have := hw.contains_of_lookup rfl (a := name) (by simp [hl])
    simp [hc] at this

/-- A lineage is what the walk without a memory finds from the lineages of the types whose turn comes earlier. -/
theorem inOrder_lineage_eq_cutLineage {ix : Index} {early later : List String} {name : String}
    (hc : ix.contains name = true) (hname : name ∉ early) :
    (inOrder ix (early ++ name :: later)).lineage name =
      ix.cutLineage (inOrder ix (early ++ name :: later)).lineage early [] name := by
  obtain ⟨w, hw, hprogress⟩ := visits_walkAll ix (early ++ name :: later)
  have hf : w.progress.Agrees (inOrder ix (early ++ name :: later)).lineage := by
    intro a lineage ha
    rw [hprogress] at ha
    simp [Ancestry.lineage, inOrder, ha]
  have hunindexed : ∀ a, ix.contains a = false → (inOrder ix (early ++ name :: later)).lineage a = [] :=
    fun a ha => lineage_of_not_contains ha
  obtain ⟨v, hearly, hlater⟩ := hw.of_append
  have hv : v.progress.visiting = [] := hearly.visiting_eq
  have hready : v.progress.Ready ix (inOrder ix (early ++ name :: later)).lineage early := by
    refine ⟨?_, ?_, by simp [hv]⟩
    · intro b hb hbc
      obtain ⟨lineage, hl⟩ := hearly.finishes (Or.inr rfl) hb hbc
      simp [hl]
    · exact hearly.allSettled (hlater.agrees hf) hunindexed (fun _ _ hn => hn) (by simp [Progress.AllSettled])
  cases hlater with
  | known answer rest =>
    -- another walk has come here before and was not cut
    rcases Progress.answer?_cases answer with ⟨lineage, hl, _⟩ | ⟨_, hc', _⟩ | ⟨_, _, hm, _⟩
    · have hsettled := hready.settled name hname (by simp [hl])
      exact (hsettled.cutLineage_eq hunindexed hname (by simp)).symm
    · simp [hc] at hc'
    · simp [hv] at hm
  | @fresh _ u _ _ _ answer inner rest =>
    have hl := (Progress.answer?_eq_none answer).1
    have hkept : (inOrder ix (early ++ name :: later)).lineage name = u.lineage := by
      apply rest.agrees hf name
      rw [Walk.join, Walk.lookup_leave inner.visiting_eq, if_pos ⟨rfl, Or.inr hv⟩]
    have hlineage := inner.lineage_eq_cutLineage (inner.agrees_inner hl (rest.agrees hf)) hunindexed
      (by simp [Walk.enter]) (hready.enter answer)
    rw [hkept, hlineage, Index.cutLineage_of_contains hname hc List.not_mem_nil]
    simp only [Walk.enter, hv]

end Ancestry

end TagCheck
