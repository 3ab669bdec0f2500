import JsonReference.Proofs.RefChain.Transparent

namespace JsonReference

namespace Tree

theorem locate?_canonical (loadingRef r : Reference) (document : Json) :
    (make loadingRef document .canonical).locate? r =
      if loadingRef.contains r then r.pointer?.filter fun p => (p.get? document).isSome
      else none := by
  have hentries : IdEntry.locate? [] r = none := by
    cases hp : r.pointer? <;> simp [IdEntry.locate?, IdEntry.longest, hp]
  simp only [locate?, make, Index.build, Index.locate?, Index.target?, Index.entries, hentries]
  by_cases hcontains : loadingRef.contains r
  · simp only [hcontains, if_true]
    cases r.pointer? with
    | none => rfl
    | some p => cases hnode : p.get? document <;> simp [hnode, Option.filter]
  · simp [hcontains]

end Tree

namespace RefChain

open Loader

variable {l : Loader} {c : RefChain} {target : Reference} {held : Tree} {p : Pointer}

/-- The loader has the target's document under the very name that the target gives it. -/
def Named (l : Loader) (target : Reference) : Prop :=
  (l.config.base.resolve target.toLocator).locator = target.locator

instance : Decidable (Named l target) := inferInstanceAs (Decidable (_ = _))

theorem named_of_no_base (h : l.config.base.resolution = .empty) : Named l target := by
  simp only [Named, Reference.resolve, h]
  rfl

theorem named_iff_of_absolute (h : l.config.base.resolution = .hierarchical)
    (ha : target.uri.isAbsolute) :
    Named l target ↔ Uri.removeDotSegments target.uri.path = target.uri.path := by
  have hscheme : target.uri.scheme.isSome := ha
  simp [Named, Reference.resolve, h, Uri.resolve, Reference.toLocator, Reference.locator,
    Uri.withoutFragment, Uri.withFragment, hscheme, Uri.text, Uri.specificPart]

theorem named_of_archive {stem : Text} {entry : Uri}
    (h : l.config.base.resolution = .archive stem entry) (ha : target.uri.isAbsolute) :
    Named l target := by
  have hscheme : target.toLocator.uri.isAbsolute := ha
  simp only [Named, Reference.resolve, h, Reference.resolveEntry, hscheme, if_true]
  rfl

theorem not_named_of_relative (hc : l.config.Sound) (ht : target.uri.Obtained)
    (hload : (l.getRef target.toLocator).1 = .ok held)
    (hrelative : ∀ s rest, target.locator = s ++ ':' :: rest → ¬ Uri.isScheme s) :
    ¬ Named l target := by
  intro hnamed
  have habsolute := (getRef_ok hload).1
  have hlocator := isLocator_requested hc (r := target.toLocator) (ht.withFragment none) habsolute
  obtain ⟨s, -, hscheme, htext, -⟩ := hlocator.locator_eq
  exact hrelative s _ (hnamed.symm.trans htext) hscheme

theorem locate?_of_getRef (hcanonical : l.config.dereferencing = .canonical)
    (hload : (l.getRef target.toLocator).1 = .ok held) (hp : target.pointer? = some p)
    (hnode : (p.get? held.document).isSome) :
    held.locate? target = if Named l target then some p else none := by
  obtain ⟨-, document, -, rfl⟩ := getRef_ok hload
  rw [hcanonical, Tree.locate?_canonical, hp]
  have hcontains : (l.config.base.resolve target.toLocator).toLocator.contains target ↔
      Named l target := beq_iff_eq
  simp only [hcontains]
  split
  · exact Option.filter_some_eq_some.mpr hnode
  · rfl

/-- A hop to a node of another document, which loads, gets there if the loader has the document
under the name that the target gives it, and else the node is said not to be there. So all such hops
get there if there is no base, and with one those do not that name a document without a scheme. -/
theorem follow_of_loaded (hcanonical : l.config.dereferencing = .canonical)
    (ht : target? c.tree = .ok (some target)) (houtside : c.tree.containsRef target = false)
    (hload : (l.getRef target.toLocator).1 = .ok held) (hp : target.pointer? = some p)
    (hnode : (p.get? held.document).isSome) :
    ((land l c.tree target).1 = .ok (held, p) ↔ Named l target) ∧
    (∀ maxDepth left, follow maxDepth (left + 1) l c =
      let l' := (l.getRef target.toLocator).2
      if Named l target then
        match c.arrive target (l'.documentKey held, p) held with
        | .error e => (.error e, l')
        | .ok c' => follow maxDepth left l' c'
      else (.error (.unresolvable target c.tree.location), l')) ∧
    (l.config.base.resolution = .empty → Named l target) ∧
    (l.config.Built → c.tree.Obtained →
      (∀ s rest, target.locator = s ++ ':' :: rest → ¬ Uri.isScheme s) → ¬ Named l target) ∧
    (l.config.base.resolution = .hierarchical → target.uri.isAbsolute →
      (Named l target ↔ Uri.removeDotSegments target.uri.path = target.uri.path)) ∧
    (∀ stem entry, l.config.base.resolution = .archive stem entry → target.uri.isAbsolute →
      Named l target) := by
  have hlocate := locate?_of_getRef hcanonical hload hp hnode
  have hholder : holder l c.tree target = (.ok held, (l.getRef target.toLocator).2) := by
    rw [holder_eq, houtside, hload]
    rfl
  have hland : land l c.tree target =
      (if Named l target then .ok (held, p) else .error (.unresolvable target c.tree.location),
        (l.getRef target.toLocator).2) := by
    rw [land_eq, hholder]
    simp only [Except.bind, place, hlocate]
    by_cases hnamed : Named l target <;> simp only [hnamed, if_true, if_false]
  refine ⟨?_, ?_, named_of_no_base, ?_, named_iff_of_absolute, ?_⟩
  · rw [hland]
    by_cases hnamed : Named l target <;> simp [hnamed]
  · intro maxDepth left
    rw [follow_succ maxDepth left l c ht, hop_eq, hland]
    by_cases hnamed : Named l target
    · cases harrive : c.arrive target
          ((l.getRef target.toLocator).2.documentKey held, p) held <;>
        simp only [hnamed, if_true, Except.bind, harrive]
    · simp only [hnamed, if_false, Except.bind]
  · intro hc hobtained
    exact not_named_of_relative hc.sound (target?_obtained hobtained ht) hload
  · intro stem entry
    exact named_of_archive

def beside : Reference :=
  ⟨⟨some "http".toList, some "h".toList, "/d".toList, none, none⟩, .pointer .root⟩

def based : Config :=
  { Config.bare with
    base := ⟨⟨some "http".toList, some "h".toList, "/".toList, none, none⟩, .pointer .root⟩
    preloaded := [(beside, .object [("x".toList, .bool true)])] }

def sought : Reference :=
  ⟨⟨none, none, "d".toList, none, some "/x".toList⟩, .pointer ⟨["x".toList]⟩⟩

def opened : Tree := .make beside (.object [("x".toList, .bool true)]) .canonical

theorem follow_of_loaded_based :
    let l := Loader.make based
    let t := l.load (.object [("$ref".toList, .string "d#/x".toList)])
    ∃ target held p, target? t = .ok (some target) ∧ t.containsRef target = false ∧
      (l.getRef target.toLocator).1 = .ok held ∧ target.pointer? = some p ∧
      (p.get? held.document).isSome ∧ (land l t target).1 ≠ .ok (held, p) ∧
      ∀ maxDepth, (resolve l (maxDepth + 1) t).1 = .error (.unresolvable target t.location) := by
  intro l t
  have ht : target? t = .ok (some sought) := rfl
  have houtside : t.containsRef sought = false := by decide +kernel
  have hload : (l.getRef sought.toLocator).1 = .ok opened := rfl
  have hnode : ((⟨["x".toList]⟩ : Pointer).get? opened.document).isSome := rfl
  obtain ⟨hland, hfollow, -⟩ :=
    follow_of_loaded (c := start t) rfl ht houtside hload rfl hnode
  have hnamed : ¬ Named l sought := by decide +kernel
  refine ⟨sought, opened, _, ht, houtside, hload, rfl, hnode, fun h => hnamed (hland.mp h), ?_⟩
  intro maxDepth
  have hstep := hfollow (maxDepth + 1) maxDepth
  simp only [hnamed, if_false] at hstep
  exact congrArg Prod.fst hstep

end RefChain
end JsonReference
