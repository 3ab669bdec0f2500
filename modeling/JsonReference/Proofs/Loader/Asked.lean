import JsonReference.Proofs.Loader.Operations
import Mathlib.Logic.Relation

namespace JsonReference

namespace Loader

variable {l l' : Loader}

def Asked : Loader → Loader → Prop :=
  Relation.ReflTransGen fun l l' => ∃ requested : Reference, l' = (l.document requested).2

theorem asked_getRef (l : Loader) (r : Reference) : l.Asked (l.getRef r).2 := by
  rw [getRef_eq]
  simp only
  split
  · exact .refl
  · exact .single ⟨_, rfl⟩

theorem asked_get (l : Loader) (uri : Text) : l.Asked (l.get uri).2 := by
  cases hp : Reference.parse uri with
  | ok r =>
      rw [get_of_parse hp]
      exact asked_getRef l r
  | error e =>
      obtain ⟨e', hget⟩ := get_of_parse_error hp
      rw [hget]
      exact .refl

end Loader

namespace RefChain

open Loader

theorem asked_holder (l : Loader) (t : Tree) (target : Reference) :
    l.Asked (holder l t target).2 := by
  rw [holder_eq]
  split
  · exact .refl
  · exact asked_getRef l _

theorem asked_hop (l : Loader) (c : RefChain) (target : Reference) :
    l.Asked (hop l c target).2 := by
  rw [hop_eq, land_eq]
  exact asked_holder l c.tree target

theorem asked_follow (maxDepth left : Nat) (l : Loader) (c : RefChain) :
    l.Asked (follow maxDepth left l c).2 := by
  induction left generalizing l c with
  | zero =>
      rw [follow]
      split <;> exact .refl
  | succ left ih =>
      cases ht : target? c.tree with
      | error e =>
          simp only [follow, ht]
          exact .refl
      | ok next =>
          cases next with
          | none =>
              simp only [follow, ht]
              exact .refl
          | some target =>
              rw [follow_succ maxDepth left l c ht]
              have hhop := asked_hop l c target
              split
              · exact hhop
              · next c' _ => exact hhop.trans (ih _ c')

theorem asked_resolve (l : Loader) (maxDepth : Nat) (t : Tree) :
    l.Asked (resolve l maxDepth t).2 := asked_follow maxDepth maxDepth l (start t)

end RefChain

namespace RefCheck

theorem asked_atSites (l : Loader) (maxDepth : Nat) (t : Tree) (sites : List RefSite) :
    l.Asked (atSites l maxDepth t sites).2 := by
  induction sites generalizing l with
  | nil => exact .refl
  | cons site rest ih =>
      exact (RefChain.asked_resolve l maxDepth (t.fork.jumpTo site.pointer)).trans (ih _)

end RefCheck

namespace Loader

/-- What stays true of a loader whatever is done with it. -/
structure Kept (P : Loader → Prop) : Prop where
  document : ∀ (l : Loader) (requested : Reference), P l → P (l.document requested).2
  pin : ∀ (l : Loader) (key : Text) (document : Json), P l →
    P { l with cache := (l.cache.pin key document).2 }
  clear : ∀ l : Loader, P l → P l.clear

namespace Kept

variable {P : Loader → Prop}

theorem asked (hP : Kept P) (h : P l) (ha : l.Asked l') : P l' := by
  induction ha with
  | refl => exact h
  | tail _ hstep ih =>
      obtain ⟨requested, rfl⟩ := hstep
      exact hP.document _ requested ih

theorem addBundle (hP : Kept P) (h : P l) (documents : List (Reference × Json)) :
    P (l.addBundle documents).2 := by
  induction documents generalizing l with
  | nil => exact h
  | cons first rest ih =>
      obtain ⟨r, document⟩ := first
      rw [Loader.addBundle]
      split
      · exact ih (hP.pin l _ document h)
      · exact h

end Kept

end Loader

namespace Operation

variable {l : Loader} {op : Operation}

theorem asked_perform (l : Loader) (hb : op.isBundle = false) (hc : op ≠ .clear) :
    l.Asked (op.perform l).2 := by
  cases op with
  | get uri => exact Loader.asked_get l uri
  | getRef r => exact Loader.asked_getRef l r
  | load document => exact .refl
  | addBundle documents => cases hb
  | clear => exact absurd rfl hc
  | resolve maxDepth t => exact RefChain.asked_resolve l maxDepth t
  | checkRefs maxDepth t => exact RefCheck.asked_atSites l maxDepth t _

end Operation

namespace Loader.Kept

variable {P : Loader → Prop} {l : Loader}

theorem perform (hP : Kept P) (h : P l) (op : Operation) : P (op.perform l).2 := by
  cases op with
  | addBundle documents => exact hP.addBundle h documents
  | clear => exact hP.clear l h
  | get | getRef | load | resolve | checkRefs =>
      exact hP.asked h (Operation.asked_perform l rfl nofun)

theorem run (hP : Kept P) (h : P l) (ops : List Operation) : P (Operation.run ops l).2 := by
  induction ops generalizing l with
  | nil => exact h
  | cons op rest ih => exact ih (hP.perform h op)

end Loader.Kept

end JsonReference
