import TagCheck.Proofs.Lineage
import TagCheck.Proofs.Names

/-!
# Two readings of a return tag

The return tag of a method is read in two places: where its body is checked, and where the type of a call to it is
inferred.  Both find the same text, the method's own or that of the nearest ancestor which writes one.  The check reads
the text as the writer does, inference reads it as the owner of the method does.  So the two readings of an inherited
tag agree exactly when each of its names means the same to both (`documentedReturn_eq_checked_iff`).
-/

namespace TagCheck

/-- What a name of a tag stands for where the tag is read inside the given type: `self` is that type. -/
def Ancestry.reading (a : Ancestry) : Option String → String → String
  | none, name => (a.scope none).fullName name
  | some around, name => (a.scope (some around)).fullName (if name == "self" then around else name)

/-- Reading a tag gives a meaning to each of its names and leaves the rest as it is. -/
theorem eq_mapNames_reading {a : Ancestry} {within : Option String} {builtins : List String} {t t' : DocType}
    (h : Scope.resolve ⟨a.index, within, builtins⟩ (within.elim t fun around => t.replaceSelf around) = .resolved t') :
    t' = t.mapNames (a.reading within) := by
  rw [(Scope.resolve_eq_resolved_iff.1 h).2]
  cases within with
  | none => rfl
  | some around => exact t.mapNames_mapNames _ _

theorem Task.resolution_eq_resolved {t : Task} {key : TagKey} {type : DocType} (h : t.resolution key = .resolved type) :
    type = (DocType.parse key.text).mapNames (t.ancestry.reading key.within) :=
  eq_mapNames_reading h

/-- The text that inference reads is the text that the check reads. -/
theorem Task.returnTag?_text (t : Task) (m : MethodDecl) :
    m.returnTag?.or ((m.owner.bind fun owner =>
        t.ancestry.nearestTag? owner m.name m.scope .returned true).map Prod.snd) =
      (t.returnTag? m).map Prod.fst := by
  have htag : m.tag? .returned = m.returnTag? := rfl
  rw [Task.returnTag?, Task.tagInEffect?, htag]
  cases m.returnTag? with
  | some text => rfl
  | none =>
    cases m.owner with
    | none => rfl
    | some owner => cases h : t.ancestry.nearestTag? owner m.name m.scope .returned true <;> simp [h]

theorem Task.documentedReturn_eq_known {t : Task} {n : Nat} {m : MethodDecl} {text : String} {writer : Option String}
    {type : DocType} (hm : t.ancestry.index.methods[n]? = some m) (htag : t.returnTag? m = some (text, writer))
    (h : t.ancestry.documentedReturn n = .known type) :
    type = (DocType.parse text).mapNames (t.ancestry.reading m.owner) := by
  unfold Ancestry.documentedReturn at h
  simp only [hm, t.returnTag?_text, htag, Option.map_some] at h
  split at h
  next type' hres =>
    have htype : type' = type := by
      unfold Inferred.ofType at h
      split at h
      · cases h
      · exact Inferred.known.inj h
    rw [← htype]
    exact eq_mapNames_reading hres
  next => cases h

/-- Callers of a method are told the type that its return tag has for the owner of the method, and its body is checked
against the type that the tag has for the writer of the tag.  They are the same type exactly when each name in the tag
means the same to both, in particular when the method writes the tag itself. -/
theorem documentedReturn_eq_checked_iff (s : Snapshot) (settings : Settings) {n : Nat} {m : MethodDecl} {text : String}
    {inheritedFrom : Option String} {told checked : DocType} (hm : s.methods[n]? = some m)
    (htold : (Program.ofSnapshot s).ancestry.documentedReturn n = .known told)
    (htag : Task.returnTag? ⟨.ofSnapshot s, settings⟩ m = some (text, inheritedFrom))
    (hchecked : Task.resolution ⟨.ofSnapshot s, settings⟩ ⟨.method n, inheritedFrom.or m.owner, text⟩ =
      .resolved checked) :
    told = (DocType.parse text).mapNames ((Program.ofSnapshot s).ancestry.reading m.owner) ∧
      checked =
        (DocType.parse text).mapNames ((Program.ofSnapshot s).ancestry.reading (inheritedFrom.or m.owner)) ∧
      (told = checked ↔ ∀ name ∈ (DocType.parse text).names,
        (Program.ofSnapshot s).ancestry.reading m.owner name =
          (Program.ofSnapshot s).ancestry.reading (inheritedFrom.or m.owner) name) ∧
      (inheritedFrom = none → told = checked) := by
  have htold := Task.documentedReturn_eq_known (t := ⟨.ofSnapshot s, settings⟩) hm htag htold
  have hchecked := Task.resolution_eq_resolved hchecked
  refine ⟨htold, hchecked, ?_, ?_⟩
  · rw [htold, hchecked]
    exact DocType.mapNames_eq_iff _
  · rintro rfl
    rw [htold, hchecked]
    rfl

/-- A type that inherits its return tags from a type of another namespace, where each of the two namespaces has a type
`Item` of its own. -/
def lending : Snapshot where
  types := [
    { name := "A::Base" },
    { name := "A::Item" },
    { name := "B::Sub", superclass := some "A::Base" },
    { name := "B::Item" }
  ]
  methods := [
    { owner := some "A::Base", name := "item", returnTag := some "Item", body := [.new "A::Item"] },
    { owner := some "A::Base", name := "items", returnTag := some "Array<A::Item>, nil" },
    { owner := some "B::Sub", name := "item", body := [.new "A::Item"] },
    { owner := some "B::Sub", name := "items" }
  ]

/-- The names of `Array<A::Item>, nil` mean the same in both namespaces. -/
theorem documentedReturn_eq_checked_iff_lending :
    (Program.ofSnapshot lending).ancestry.documentedReturn 3 = .known (.parse "Array<A::Item>, nil") ∧
      Task.resolution ⟨.ofSnapshot lending, {}⟩ ⟨.method 3, some "A::Base", "Array<A::Item>, nil"⟩ =
        .resolved (.parse "Array<A::Item>, nil") ∧
      (∀ name ∈ (DocType.parse "Array<A::Item>, nil").names,
        (Program.ofSnapshot lending).ancestry.reading (some "B::Sub") name =
          (Program.ofSnapshot lending).ancestry.reading (some "A::Base") name) := by
  have htold : (Program.ofSnapshot lending).ancestry.documentedReturn 3 = .known (.parse "Array<A::Item>, nil") := by
    rw [Program.ofSnapshot_eq_inOrder]
    decide +kernel
  have htag : Task.returnTag? ⟨.ofSnapshot lending, {}⟩ { owner := some "B::Sub", name := "items" } =
      some ("Array<A::Item>, nil", some "A::Base") := by
    rw [Program.ofSnapshot_eq_inOrder]
    decide +kernel
  have hchecked : Task.resolution ⟨.ofSnapshot lending, {}⟩ ⟨.method 3, some "A::Base", "Array<A::Item>, nil"⟩ =
      .resolved (.parse "Array<A::Item>, nil") := by
    rw [Program.ofSnapshot_eq_inOrder]
    decide +kernel
  have hspec := documentedReturn_eq_checked_iff lending {} (n := 3) rfl htold htag hchecked
  exact ⟨htold, hchecked, hspec.2.2.1.1 rfl⟩

/-- Callers of `B::Sub#item` are told of a `B::Item`, but its body has to return an `A::Item`. -/
theorem lending_told_ne_checked :
    lending.methods[2]? = some { owner := some "B::Sub", name := "item", body := [.new "A::Item"] } ∧
      (Program.ofSnapshot lending).ancestry.documentedReturn 2 = .known (.named "B::Item") ∧
      Task.returnTag? ⟨.ofSnapshot lending, {}⟩ { owner := some "B::Sub", name := "item", body := [.new "A::Item"] } =
        some ("Item", some "A::Base") ∧
      Task.resolution ⟨.ofSnapshot lending, {}⟩ ⟨.method 2, some "A::Base", "Item"⟩ = .resolved (.named "A::Item") ∧
      DocType.named "B::Item" ≠ DocType.named "A::Item" := by
  rw [Program.ofSnapshot_eq_inOrder]
  refine ⟨rfl, ?_, ?_, ?_, ?_⟩ <;> decide +kernel

end TagCheck
