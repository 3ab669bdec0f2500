import JsonReference.Tree
import Mathlib.Data.List.Infix

namespace JsonReference

namespace Scope

/-- The ids of the nodes from the root down to `p`, of those that exist. -/
def ids (document : Json) (p : Pointer) : List Reference :=
  p.tokens.inits.filterMap fun path => (Pointer.walk path document).bind Json.nodeId?

def composed (loadingRef : Reference) (document : Json) (p : Pointer) : Reference :=
  (ids document p).foldl Reference.resolve loadingRef

theorem enter?_eq_foldl (scope : Reference) (node : Option Json) :
    enter? scope node = (node.bind Json.nodeId?).toList.foldl Reference.resolve scope := by
  cases node with
  | none => rfl
  | some node => cases h : node.nodeId? <;> simp [enter?, enter, h]

theorem composed_root (loadingRef : Reference) (document : Json) :
    composed loadingRef document .root = enter loadingRef document := by
  cases h : document.nodeId? <;>
    simp [composed, ids, Pointer.root, Pointer.walk, enter, h]

theorem composed_append (loadingRef : Reference) (document : Json) (p : Pointer) (token : Text) :
    composed loadingRef document (p.append token) =
      enter? (composed loadingRef document p) ((p.append token).get? document) := by
  have h : ids document (p.append token) =
      ids document p ++ (((p.append token).get? document).bind Json.nodeId?).toList := by
    simp only [ids, Pointer.append, List.inits_append, List.filterMap_append, Pointer.get?]
    cases h : (Pointer.walk (p.tokens ++ [token]) document).bind Json.nodeId? <;> simp [h]
  rw [composed, h, List.foldl_append, enter?_eq_foldl]
  rfl

end Scope

namespace Tree

theorem get?_of_locate? {t : Tree} {r : Reference} {p : Pointer} (h : t.locate? r = some p) :
    (p.get? t.document).isSome := by
  obtain ⟨q, -, hq⟩ := Option.bind_eq_some_iff.mp h
  obtain ⟨x, hx, hp⟩ := Option.bind_eq_some_iff.mp hq
  cases hp
  simp [hx]

/-- The tree is of the same document as `origin`, and its cursor and all its saved positions have
the scope of their place in it. -/
structure InScope (t origin : Tree) : Prop where
  loadingRef_eq : t.loadingRef = origin.loadingRef
  document_eq : t.document = origin.document
  index_eq : t.index = origin.index
  scope_eq : t.scope = Scope.composed origin.loadingRef origin.document t.pointer
  stack_eq : ∀ f ∈ t.stack, f.scope = Scope.composed origin.loadingRef origin.document f.pointer

namespace InScope

variable {t origin : Tree}

theorem make (loadingRef : Reference) (document : Json) (dereferencing : Dereferencing) :
    let origin := Tree.make loadingRef document dereferencing
    origin.InScope origin :=
  ⟨rfl, rfl, rfl, (Scope.composed_root loadingRef document).symm, by simp [Tree.make]⟩

theorem step (h : t.InScope origin) (token : Text) : (t.step token).InScope origin := by
  refine ⟨h.loadingRef_eq, h.document_eq, h.index_eq, ?_, h.stack_eq⟩
  rw [Tree.step, Scope.composed_append, ← h.scope_eq, ← h.document_eq]
  rfl

theorem descend (h : t.InScope origin) (p : Pointer) : (t.descend p).InScope origin := by
  rw [Tree.descend]
  induction p.tokens generalizing t with
  | nil => exact h
  | cons token rest ih => exact ih (h.step token)

theorem save (h : t.InScope origin) : t.save.InScope origin := by
  refine ⟨h.loadingRef_eq, h.document_eq, h.index_eq, h.scope_eq, ?_⟩
  intro f hf
  rcases List.mem_cons.mp hf with rfl | hf
  · exact h.scope_eq
  · exact h.stack_eq f hf

theorem toRoot (h : t.InScope origin) : t.toRoot.InScope origin := by
  refine ⟨h.loadingRef_eq, h.document_eq, h.index_eq, ?_, h.stack_eq⟩
  rw [Tree.toRoot, Scope.composed_root, ← h.loadingRef_eq, ← h.document_eq]
  rfl

theorem push (h : t.InScope origin) (p : Pointer) : (t.push p).InScope origin := h.save.descend p

theorem jumpTo (h : t.InScope origin) (p : Pointer) : (t.jumpTo p).InScope origin :=
  h.save.toRoot.descend p

theorem pop (h : t.InScope origin) {t' : Tree} (hp : t.pop? = some t') : t'.InScope origin := by
  cases hs : t.stack with
  | nil => simp [pop?, hs] at hp
  | cons f rest =>
      have hstack := h.stack_eq
      rw [hs] at hstack
      simp only [pop?, hs, Option.some.injEq] at hp
      subst hp
      exact ⟨h.loadingRef_eq, h.document_eq, h.index_eq, hstack f List.mem_cons_self,
        fun g hg => hstack g (List.mem_cons_of_mem f hg)⟩

theorem fork (h : t.InScope origin) : t.fork.InScope origin :=
  ⟨h.loadingRef_eq, h.document_eq, h.index_eq, h.scope_eq, by simp [Tree.fork]⟩

theorem self {loadingRef : Reference} {document : Json} {dereferencing : Dereferencing}
    (h : t.InScope (.make loadingRef document dereferencing)) :
    t.InScope (.make t.loadingRef t.document dereferencing) := by
  rwa [h.loadingRef_eq, h.document_eq]

end InScope

theorem descend_source (t : Tree) (p : Pointer) :
    (t.descend p).loadingRef = t.loadingRef ∧ (t.descend p).document = t.document := by
  rw [descend]
  induction p.tokens generalizing t with
  | nil => exact ⟨rfl, rfl⟩
  | cons token rest ih => exact ih (t.step token)

@[simp]
theorem jumpTo_loadingRef (t : Tree) (p : Pointer) : (t.jumpTo p).loadingRef = t.loadingRef :=
  (descend_source _ p).1

@[simp]
theorem jumpTo_document (t : Tree) (p : Pointer) : (t.jumpTo p).document = t.document :=
  (descend_source _ p).2

theorem descend_pointer (t : Tree) (p : Pointer) : (t.descend p).pointer = t.pointer.join p := by
  obtain ⟨tokens⟩ := p
  induction tokens generalizing t with
  | nil => simp [descend, Pointer.join]
  | cons token rest ih =>
      have h : (t.descend ⟨token :: rest⟩).pointer = ((t.step token).descend ⟨rest⟩).pointer := rfl
      rw [h, ih]
      simp [step, Pointer.join, Pointer.append]

@[simp]
theorem jumpTo_pointer (t : Tree) (p : Pointer) : (t.jumpTo p).pointer = p :=
  descend_pointer _ p

end Tree

inductive Move where
  | push (relative : Pointer)
  | pushToken (token : Text)
  | pushIndex (index : Nat)
  | jumpTo (absolute : Pointer)
  | pop
  | fork
  | switch (place : Nat)
deriving DecidableEq, Repr

structure Walk where
  trees : List Tree
  active : Nat

namespace Walk

def start (t : Tree) : Walk := ⟨[t], 0⟩

def replace (w : Walk) (t : Tree) : Walk := { w with trees := w.trees.set w.active t }

def act (w : Walk) (t : Tree) : Move → Walk
  | .push relative => w.replace (t.push relative)
  | .pushToken token => w.replace (t.pushToken token)
  | .pushIndex index => w.replace (t.pushIndex index)
  | .jumpTo absolute => w.replace (t.jumpTo absolute)
  | .pop =>
      match t.pop? with
      | some t => w.replace t
      | none => w
  | .fork => ⟨w.trees ++ [t.fork], w.trees.length⟩
  | .switch place => if place < w.trees.length then { w with active := place } else w

def move (w : Walk) (m : Move) : Walk :=
  match w.trees[w.active]? with
  | some t => w.act t m
  | none => w

def run (w : Walk) (moves : List Move) : Walk := moves.foldl move w

def InScope (origin : Tree) (w : Walk) : Prop := ∀ t ∈ w.trees, t.InScope origin

namespace InScope

variable {origin : Tree} {w : Walk}

theorem start {t : Tree} (h : t.InScope origin) : (Walk.start t).InScope origin := by
  simpa [Walk.InScope, Walk.start] using h

theorem replace (h : w.InScope origin) {t : Tree} (ht : t.InScope origin) :
    (w.replace t).InScope origin := by
  intro u hu
  rcases List.mem_or_eq_of_mem_set hu with hu | rfl
  · exact h u hu
  · exact ht

theorem act (h : w.InScope origin) {t : Tree} (ht : t.InScope origin) (m : Move) :
    (w.act t m).InScope origin := by
  cases m with
  | push p => exact h.replace (ht.push p)
  | pushToken token => exact h.replace (ht.push ⟨[token]⟩)
  | pushIndex index => exact h.replace (ht.push (Pointer.root.appendIndex index))
  | jumpTo p => exact h.replace (ht.jumpTo p)
  | pop =>
      simp only [Walk.act]
      split
      · next hp => exact h.replace (ht.pop hp)
      · exact h
  | fork =>
      intro u hu
      rcases List.mem_append.mp hu with hu | hu
      · exact h u hu
      · rw [List.mem_singleton.mp hu]
        exact ht.fork
  | switch place =>
      simp only [Walk.act]
      split <;> exact h

theorem move (h : w.InScope origin) (m : Move) : (w.move m).InScope origin := by
  rw [Walk.move]
  split
  · next ht => exact h.act (h _ (List.mem_of_getElem? ht)) m
  · exact h

theorem run (h : w.InScope origin) (moves : List Move) : (w.run moves).InScope origin := by
  rw [Walk.run]
  induction moves generalizing w with
  | nil => exact h
  | cons m rest ih => exact ih (h.move m)

end InScope

/-- The scope depends on the document, the reference it was obtained under and the place alone, at
the cursor of every tree of a walk and at every position saved in it. -/
theorem scope_eq_composed (loadingRef : Reference) (document : Json)
    (dereferencing : Dereferencing) (moves : List Move) :
    ∀ t ∈ ((start (.make loadingRef document dereferencing)).run moves).trees,
      t.loadingRef = loadingRef ∧ t.document = document ∧
      t.scope = Scope.composed loadingRef document t.pointer ∧
      ∀ f ∈ t.stack, f.scope = Scope.composed loadingRef document f.pointer := by
  intro t ht
  have h := (InScope.start (.make loadingRef document dereferencing)).run moves t ht
  exact ⟨h.loadingRef_eq, h.document_eq, h.scope_eq, h.stack_eq⟩

def nested : Json :=
  .object [
    ("b".toList, .object [
      ("c".toList, .array [.object [("id".toList, .string "c.json".toList)]]),
      ("id".toList, .string "b/".toList)]),
    ("id".toList, .string "http://x/a/".toList)]

def forked : List Move :=
  [.push ⟨["b".toList]⟩, .fork, .pushToken "c".toList, .pushIndex 0,
    .switch 0, .jumpTo ⟨["b".toList, "z".toList]⟩, .pop]

theorem scope_eq_composed_forked :
    ∃ t ∈ ((start (.make .empty nested .canonical)).run forked).trees,
      t.scope.text = "http://x/a/b/c.json".toList ∧
      t.scope = Scope.composed .empty nested t.pointer := by
  have h : (((start (.make .empty nested .canonical)).run forked).trees[1]?.map
      (·.scope.text)) = some "http://x/a/b/c.json".toList := by decide +kernel
  obtain ⟨t, ht, htext⟩ := Option.map_eq_some_iff.mp h
  have hmem := List.mem_of_getElem? ht
  exact ⟨t, hmem, htext, (scope_eq_composed .empty nested .canonical forked t hmem).2.2.1⟩

end Walk
end JsonReference
