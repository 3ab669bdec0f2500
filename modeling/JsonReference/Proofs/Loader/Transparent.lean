import JsonReference.Proofs.Loader.Supply
import JsonReference.Proofs.Tree.Walk
import JsonReference.RefChain

namespace JsonReference

namespace Tree

structure Obtained (t : Tree) : Prop where
  loadingRef : t.loadingRef.uri.Obtained
  scope : t.scope.uri.Obtained

theorem obtained_enter {scope : Reference} (h : scope.uri.Obtained) (node : Json) :
    (Scope.enter scope node).uri.Obtained := by
  rw [Scope.enter]
  split
  · next id hid => exact Reference.obtained_resolve h (Reference.obtained_of_nodeId? hid)
  · exact h

theorem obtained_foldl {r : Reference} (h : r.uri.Obtained) {ids : List Reference}
    (hids : ∀ id ∈ ids, id.uri.Obtained) : (ids.foldl Reference.resolve r).uri.Obtained := by
  induction ids generalizing r with
  | nil => exact h
  | cons id rest ih =>
      rw [List.forall_mem_cons] at hids
      exact ih (Reference.obtained_resolve h hids.1) hids.2

theorem InScope.obtained {t origin : Tree} (h : t.InScope origin)
    (ho : origin.loadingRef.uri.Obtained) : t.Obtained := by
  refine ⟨h.loadingRef_eq ▸ ho, ?_⟩
  rw [h.scope_eq]
  refine obtained_foldl ho fun id hid => ?_
  obtain ⟨path, -, hpath⟩ := List.mem_filterMap.mp hid
  obtain ⟨node, -, hnode⟩ := Option.bind_eq_some_iff.mp hpath
  exact Reference.obtained_of_nodeId? hnode

namespace Obtained

variable {t : Tree}

theorem make {loadingRef : Reference} (h : loadingRef.uri.Obtained) (document : Json)
    (dereferencing : Dereferencing) : (Tree.make loadingRef document dereferencing).Obtained :=
  ⟨h, obtained_enter h document⟩

theorem step (h : t.Obtained) (token : Text) : (t.step token).Obtained := by
  refine ⟨h.loadingRef, ?_⟩
  simp only [Tree.step, Scope.enter?]
  split
  · exact obtained_enter h.scope _
  · exact h.scope

theorem descend (h : t.Obtained) (p : Pointer) : (t.descend p).Obtained := by
  rw [Tree.descend]
  induction p.tokens generalizing t with
  | nil => exact h
  | cons token rest ih => exact ih (h.step token)

theorem jumpTo (h : t.Obtained) (p : Pointer) : (t.jumpTo p).Obtained :=
  descend (t := t.save.toRoot) ⟨h.loadingRef, obtained_enter h.loadingRef _⟩ p

theorem fork (h : t.Obtained) : t.fork.Obtained := ⟨h.loadingRef, h.scope⟩

theorem resolve (h : t.Obtained) {r : Reference} (hr : r.uri.Obtained) :
    (t.resolve r).uri.Obtained := Reference.obtained_resolve h.scope hr

end Obtained

end Tree

namespace Loader

/-- What does not depend on the cache but for what is pinned in it, and leaves that as it is. -/
structure Transparent {α : Type} (f : Loader → α × Loader) : Prop where
  agree : ∀ l : Loader, l.Sound → l.Agree (f l).2
  answer : ∀ l l' : Loader, l.Agree l' → (f l).1 = (f l').1

namespace Transparent

variable {α β : Type} {f : Loader → α × Loader} {g : α → Loader → β × Loader}

theorem agree_both (hf : Transparent f) {l l' : Loader} (h : l.Agree l') :
    (f l).2.Agree (f l').2 :=
  (hf.agree l h.left).symm.trans (h.trans (hf.agree l' h.right))

theorem read {φ : Loader → α} (h : ∀ l l' : Loader, l.Agree l' → φ l = φ l') :
    Transparent fun l => (φ l, l) := ⟨fun _ hl => .refl hl, h⟩

theorem const (a : α) : Transparent fun l => (a, l) := read fun _ _ _ => rfl

theorem bind (hf : Transparent f) (hg : ∀ l : Loader, l.Sound → Transparent (g (f l).1)) :
    Transparent fun l => g (f l).1 (f l).2 where
  agree l h := (hf.agree l h).trans ((hg l h).agree _ (hf.agree l h).right)
  answer l l' h := by
    have hg' := (hg l h.left).answer _ _ (hf.agree_both h)
    rwa [hf.answer l l' h] at hg' ⊢

theorem map (hf : Transparent f) (φ : α → β) : Transparent fun l => (φ (f l).1, (f l).2) :=
  hf.bind (g := fun a l => (φ a, l)) fun _ _ => .const _

end Transparent

theorem transparent_getRef {r : Reference} (hr : r.uri.Obtained) :
    Transparent fun l => l.getRef r where
  agree l h := (getRef_spec h hr).2
  answer l l' h := by
    rw [(getRef_spec h.left hr).1, (getRef_spec h.right hr).1, h.give_eq r]

theorem get_of_parse {uri : Text} {r : Reference} (h : Reference.parse uri = .ok r) (l : Loader) :
    l.get uri = l.getRef r := by
  simp only [get, h]

theorem get_of_parse_error {uri : Text} {e : UriError} (h : Reference.parse uri = .error e) :
    ∃ e' : LoadError, ∀ l : Loader, l.get uri = (.error e', l) := by
  cases e <;> exact ⟨_, fun l => by simp only [get, h]; rfl⟩

theorem transparent_get (uri : Text) : Transparent fun l => l.get uri := by
  cases hp : Reference.parse uri with
  | ok r =>
      simp only [get_of_parse hp]
      exact transparent_getRef (Reference.obtained_of_parse hp)
  | error e =>
      obtain ⟨e', h⟩ := get_of_parse_error hp
      simp only [h]
      exact .const _

theorem transparent_load (document : Json) : Transparent fun l => (l.load document, l) :=
  .read fun _ _ h => h.congr (f := fun c => Tree.make .empty document c.dereferencing) fun _ => rfl

section GetRef

variable {l : Loader} {r : Reference} {t : Tree}

theorem obtained_getRef (hc : l.config.Sound) (hr : r.uri.Obtained) (h : (l.getRef r).1 = .ok t) :
    t.Obtained := by
  obtain ⟨-, document, -, rfl⟩ := getRef_ok h
  exact .make (.withFragment none (Reference.obtained_resolve hc.base hr)) _ _

theorem inScope_getRef (h : (l.getRef r).1 = .ok t) :
    t.InScope (.make t.loadingRef t.document l.config.dereferencing) := by
  obtain ⟨-, document, -, rfl⟩ := getRef_ok h
  exact .make _ _ _

theorem supply_getRef (hl : l.Sound) (hr : r.uri.Obtained) (h : (l.getRef r).1 = .ok t) :
    t.loadingRef.isAbsolute ∧ l.supply t.loadingRef = .ok t.document := by
  obtain ⟨ha, document, hd, rfl⟩ := getRef_ok h
  constructor
  · exact Bool.and_eq_true_iff.mpr ⟨(Bool.and_eq_true_iff.mp ha).1, rfl⟩
  · rwa [document_fst hl (isLocator_requested hl.config hr ha)] at hd

end GetRef

theorem Agree.documentKey_eq {l l' : Loader} (h : l.Agree l') (t : Tree) :
    l.documentKey t = l'.documentKey t := by
  unfold documentKey cacheKey
  rw [h.congr (f := fun c => (c.redirect t.loadingRef.toLocator).locator) fun _ => rfl]

end Loader

end JsonReference
