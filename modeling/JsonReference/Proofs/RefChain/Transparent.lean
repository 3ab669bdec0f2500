import JsonReference.Proofs.Loader.Transparent
import JsonReference.RefSite

namespace JsonReference

open Loader

namespace RefChain

variable {l : Loader} {t : Tree} {target : Reference} {c : RefChain}

theorem holder_eq (l : Loader) (t : Tree) (target : Reference) :
    holder l t target =
      if t.containsRef target then (.ok t, l)
      else ((l.getRef target.toLocator).1.mapError .load, (l.getRef target.toLocator).2) := by
  rw [holder]
  split
  · rfl
  · rcases l.getRef target.toLocator with ⟨_ | _, _⟩ <;> rfl

def place (t : Tree) (target : Reference) (held : Tree) : Except ChainError (Tree × Pointer) :=
  match held.locate? target with
  | some p => .ok (held, p)
  | none => .error (.unresolvable target t.location)

theorem land_eq (l : Loader) (t : Tree) (target : Reference) :
    land l t target =
      ((holder l t target).1.bind (place t target), (holder l t target).2) := by
  rw [land]
  rcases holder l t target with ⟨_ | held, l'⟩
  · rfl
  · simp only [Except.bind, place]
    cases held.locate? target <;> rfl

theorem hop_eq (l : Loader) (c : RefChain) (target : Reference) :
    hop l c target =
      ((land l c.tree target).1.bind fun landed =>
        c.arrive target ((land l c.tree target).2.documentKey landed.1, landed.2) landed.1,
        (land l c.tree target).2) := by
  rw [hop]
  rcases land l c.tree target with ⟨_ | ⟨held, p⟩, l'⟩ <;> rfl

theorem transparent_holder (ht : target.uri.Obtained) : Transparent fun l => holder l t target := by
  simp only [holder_eq]
  split
  · exact .const _
  · exact (transparent_getRef (ht.withFragment none)).map _

theorem transparent_land (ht : target.uri.Obtained) : Transparent fun l => land l t target := by
  simp only [land_eq]
  exact (transparent_holder ht).map fun held => held.bind (place t target)

theorem transparent_hop (ht : target.uri.Obtained) : Transparent fun l => hop l c target := by
  simp only [hop_eq]
  refine (transparent_land ht).bind (g := fun landed l =>
    (landed.bind fun landed => c.arrive target (l.documentKey landed.1, landed.2) landed.1, l)) ?_
  intro l _
  refine .read fun l l' h => ?_
  simp only [h.documentKey_eq]

theorem target?_obtained (h : t.Obtained) (ht : target? t = .ok (some target)) :
    target.uri.Obtained := by
  rw [target?] at ht
  split at ht
  · simp at ht
  · split at ht
    · next hp =>
      cases ht
      exact h.resolve (Reference.obtained_of_parse hp)
    · simp at ht

theorem obtained_holder (hl : l.Sound) (h : t.Obtained) (ht : target.uri.Obtained) {held : Tree}
    (hh : (holder l t target).1 = .ok held) : held.Obtained := by
  rw [holder_eq] at hh
  split at hh
  · cases hh
    exact h
  · exact obtained_getRef hl.config (ht.withFragment none) (Except.mapError_ok_iff.mp hh)

theorem land_ok {t' : Tree} {p : Pointer} (hland : (land l t target).1 = .ok (t', p)) :
    (holder l t target).1 = .ok t' ∧ t'.locate? target = some p := by
  rw [land_eq] at hland
  obtain ⟨held, hh, hplace⟩ := Except.bind_ok_iff.mp hland
  rw [place] at hplace
  split at hplace
  · next hp =>
    cases hplace
    exact ⟨hh, hp⟩
  · simp at hplace

theorem land_error {e : ChainError} (h : (land l t target).1 = .error e) :
    (∃ e', e = .load e') ∨ e = .unresolvable target t.location := by
  rw [land_eq] at h
  rcases Except.bind_error_iff.mp h with hholder | ⟨held, -, hplace⟩
  · rw [holder_eq] at hholder
    split at hholder
    · cases hholder
    · obtain ⟨e', -, rfl⟩ := Except.mapError_error_iff.mp hholder
      exact .inl ⟨e', rfl⟩
  · rw [place] at hplace
    split at hplace <;> cases hplace
    exact .inr rfl

theorem hop_ok {c' : RefChain} (hhop : (hop l c target).1 = .ok c') :
    ∃ t p, (land l c.tree target).1 = .ok (t, p) ∧
      c.arrive target ((land l c.tree target).2.documentKey t, p) t = .ok c' := by
  rw [hop_eq] at hhop
  obtain ⟨⟨t, p⟩, hland, harrive⟩ := Except.bind_ok_iff.mp hhop
  exact ⟨t, p, hland, harrive⟩

theorem arrive_ok {node : DocumentKey × Pointer} {c' : RefChain}
    (h : c.arrive target node t = .ok c') :
    node ∉ c.visited ∧ c' = ⟨t.jumpTo node.2, c.references ++ [target], node :: c.visited⟩ := by
  rw [arrive] at h
  split at h
  · simp at h
  · next hnode =>
    cases h
    exact ⟨hnode, rfl⟩

theorem obtained_hop (hl : l.Sound) (h : c.tree.Obtained) (ht : target.uri.Obtained)
    {c' : RefChain} (hhop : (hop l c target).1 = .ok c') : c'.tree.Obtained := by
  obtain ⟨t, p, hland, harrive⟩ := hop_ok hhop
  rw [(arrive_ok harrive).2]
  exact (obtained_holder hl h ht (land_ok hland).1).jumpTo p

theorem follow_succ (maxDepth left : Nat) (l : Loader) (c : RefChain)
    (ht : target? c.tree = .ok (some target)) :
    follow maxDepth (left + 1) l c =
      match (hop l c target).1 with
      | .error e => (.error e, (hop l c target).2)
      | .ok c' => follow maxDepth left (hop l c target).2 c' := by
  rw [follow]
  simp only [ht]
  rcases hop l c target with ⟨_ | _, _⟩ <;> rfl

theorem transparent_follow (maxDepth left : Nat) (h : c.tree.Obtained) :
    Transparent fun l => follow maxDepth left l c := by
  induction left generalizing c with
  | zero =>
      simp only [follow]
      split <;> exact .const _
  | succ left ih =>
      cases ht : target? c.tree with
      | error e =>
          simp only [follow, ht]
          exact .const _
      | ok next =>
          cases next with
          | none =>
              simp only [follow, ht]
              exact .const _
          | some target =>
              have hr := target?_obtained h ht
              simp only [follow_succ maxDepth left _ c ht]
              refine (transparent_hop hr).bind (g := fun result l =>
                match result with
                | .error e => (.error e, l)
                | .ok c' => follow maxDepth left l c') fun l hl => ?_
              split
              · exact .const _
              · next c' hc' => exact ih (obtained_hop hl h hr hc')

theorem transparent_resolve (maxDepth : Nat) (h : t.Obtained) :
    Transparent fun l => resolve l maxDepth t := transparent_follow maxDepth maxDepth h

end RefChain

namespace RefCheck

variable {t : Tree}

theorem transparent_atSite (maxDepth : Nat) (h : t.Obtained) (site : RefSite) :
    Transparent fun l => atSite l maxDepth t site :=
  (RefChain.transparent_resolve maxDepth (h.fork.jumpTo site.pointer)).map fun outcome =>
    RefCheck.mk site (outcome.map fun c : RefChain => c.tree.location)

theorem transparent_atSites (maxDepth : Nat) (h : t.Obtained) (sites : List RefSite) :
    Transparent fun l => atSites l maxDepth t sites := by
  induction sites with
  | nil => exact .const _
  | cons site rest ih =>
      exact (transparent_atSite maxDepth h site).bind
        (g := fun check l =>
          (check :: (atSites l maxDepth t rest).1, (atSites l maxDepth t rest).2))
        fun _ _ => ih.map _

theorem transparent_all (maxDepth : Nat) (h : t.Obtained) :
    Transparent fun l => all l maxDepth t := transparent_atSites maxDepth h _

theorem all_eq {l l' : Loader} (hl : l.Agree l') (maxDepth : Nat) (h : t.Obtained) :
    (all l maxDepth t).1 = (RefSite.all t.document).map fun site =>
      ⟨site, (RefChain.resolve l' maxDepth (t.fork.jumpTo site.pointer)).1.map
        fun c => c.tree.location⟩ := by
  rw [all]
  induction RefSite.all t.document generalizing l with
  | nil => rfl
  | cons site rest ih =>
      have hsite := transparent_atSite maxDepth h site
      exact congrArg₂ List.cons (hsite.answer l l' hl)
        (ih ((hsite.agree l hl.left).symm.trans hl))

end RefCheck
end JsonReference
