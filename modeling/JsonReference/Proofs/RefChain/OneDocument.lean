import JsonReference.Proofs.Json.Paths
import JsonReference.Proofs.RefChain.Route

namespace JsonReference

namespace Tree

variable {t u : Tree}

theorem descend_index (t : Tree) (p : Pointer) : (t.descend p).index = t.index := by
  rw [descend]
  induction p.tokens generalizing t with
  | nil => rfl
  | cons token rest ih => exact ih (t.step token)

theorem fork_descend (t : Tree) (p : Pointer) : (t.descend p).fork = t.fork.descend p := by
  rw [descend, descend]
  induction p.tokens generalizing t with
  | nil => rfl
  | cons token rest ih => exact ih (t.step token)

structure Beside (t u : Tree) : Prop where
  loadingRef_eq : t.loadingRef = u.loadingRef
  document_eq : t.document = u.document
  index_eq : t.index = u.index

theorem beside_jumpTo (t : Tree) (p : Pointer) : (t.jumpTo p).Beside t :=
  ⟨jumpTo_loadingRef t p, jumpTo_document t p, descend_index _ p⟩

theorem Beside.of_fork_eq (h : t.fork = u.fork) : t.Beside u :=
  ⟨congrArg (·.loadingRef) h, congrArg (·.document) h, congrArg (·.index) h⟩

theorem Beside.trans {v : Tree} (h : t.Beside u) (h' : u.Beside v) : t.Beside v :=
  ⟨h.loadingRef_eq.trans h'.loadingRef_eq, h.document_eq.trans h'.document_eq,
    h.index_eq.trans h'.index_eq⟩

theorem Beside.containsRef_eq (h : t.Beside u) (r : Reference) :
    t.containsRef r = u.containsRef r := by
  simp only [containsRef, h.loadingRef_eq, h.index_eq]

theorem Beside.fork_jumpTo (h : t.Beside u) (p : Pointer) : (t.jumpTo p).fork = (u.jumpTo p).fork := by
  have hroot : t.save.toRoot.fork = u.save.toRoot.fork := by
    simp only [fork, toRoot, save, rootScope, h.loadingRef_eq, h.document_eq, h.index_eq]
  rw [jumpTo, jumpTo, fork_descend, fork_descend, hroot]

end Tree

namespace RefChain

variable {l : Loader} {t : Tree} {r : Reference} {maxDepth : Nat} {s s' e a b : Tree × Loader}
  {route : List (Reference × (Tree × Loader))}

theorem Cites.of_fork_eq {u : Tree} (h : Cites t r) (hfork : t.fork = u.fork) : Cites u r := by
  change Cites u.fork r
  rw [← hfork]
  exact h

theorem Leads.of_fork_eq (h : Leads s r s') (hfork : s.1.fork = a.1.fork) (hl : s.2 = a.2) :
    ∃ b, Leads a r b ∧ s'.1.fork = b.1.fork ∧ s'.2 = b.2 := by
  have hcontains : s.1.fork.containsRef r = a.1.fork.containsRef r := by rw [hfork]
  have hlocate : s.1.fork.locate? r = a.1.fork.locate? r := by rw [hfork]
  cases h with
  | @within p hc hin hp =>
      exact ⟨_, .within (hc.of_fork_eq hfork) (hcontains.symm.trans hin) (hlocate.symm.trans hp),
        (Tree.Beside.of_fork_eq hfork).fork_jumpTo p, hl⟩
  | away hc hout hget hp =>
      exact ⟨_, .away (hc.of_fork_eq hfork) (hcontains.symm.trans hout) (hl ▸ hget) hp, rfl, rfl⟩

theorem hops_of_fork_eq (hfork : a.1.fork = b.1.fork) (hl : a.2 = b.2) {n : Nat}
    (h : (hops n a).isSome) : (hops n b).isSome := by
  induction n generalizing a b with
  | zero => rfl
  | succ n ih =>
      obtain ⟨e, he⟩ := Option.isSome_iff_exists.mp h
      obtain ⟨a', ha', hrest⟩ := Option.bind_eq_some_iff.mp he
      obtain ⟨r, hleads⟩ := next?_eq_some_iff.mp ha'
      obtain ⟨b', hleads', hfork', hl'⟩ := hleads.of_fork_eq hfork hl
      rw [hops, next?_eq_some_iff.mpr ⟨r, hleads'⟩]
      exact ih hfork' hl' (Option.isSome_iff_exists.mpr ⟨e, hrest⟩)

/-- All references met on the way are ones that the tree may hold. -/
def Contained (t : Tree) (s : Tree × Loader) : Prop :=
  ∀ route e r, Route s route e → Cites e.1 r → t.containsRef r

/-- At a node of the document of `t`, where only a jump from `t` itself would lead. -/
structure Landed (t : Tree) (l : Loader) (s : Tree × Loader) : Prop where
  loader_eq : s.2 = l
  node : (s.1.pointer.get? t.document).isSome
  fork_eq : s.1.fork = (t.jumpTo s.1.pointer).fork

theorem Landed.beside (h : Landed t l s) : s.1.Beside t :=
  (Tree.Beside.of_fork_eq h.fork_eq).trans (Tree.beside_jumpTo t _)

theorem Landed.node_eq (h : Landed t l s) : RefChain.node s = (l.documentKey t, s.1.pointer) := by
  have hbeside := h.beside
  simp only [RefChain.node, Loader.documentKey, h.loader_eq, hbeside.loadingRef_eq,
    hbeside.document_eq]

theorem Leads.jump (h : Leads s r s') (hr : s.1.containsRef r) :
    ∃ p, s.1.locate? r = some p ∧ s' = (s.1.jumpTo p, s.2) := by
  cases h with
  | within _ _ hlocate => exact ⟨_, hlocate, rfl⟩
  | away _ hout => simp [hr] at hout

theorem Leads.landed (h : Leads s r s') (hs : s.1.Beside t) (hl : s.2 = l) (hr : t.containsRef r) :
    Landed t l s' := by
  obtain ⟨p, hlocate, rfl⟩ := h.jump (by rwa [hs.containsRef_eq])
  have hnode := Tree.get?_of_locate? hlocate
  rw [hs.document_eq] at hnode
  exact ⟨hl, by simpa using hnode, by simpa using hs.fork_jumpTo p⟩

theorem contained_of_nodes (hstart : ∀ r, Cites t r → t.containsRef r)
    (hnodes : ∀ p, (p.get? t.document).isSome → ∀ r, Cites (t.jumpTo p) r → t.containsRef r) :
    Contained t (t, l) := by
  have hroute {s e : Tree × Loader} {route : List (Reference × (Tree × Loader))}
      (h : Route s route e) (hs : s.1.Beside t) (hl : s.2 = l)
      (hcited : ∀ r, Cites s.1 r → t.containsRef r) : ∀ r, Cites e.1 r → t.containsRef r := by
    induction h with
    | here => exact hcited
    | hop hleads _ ih =>
        have hlanded := hleads.landed hs hl (hcited _ (leads_iff.mp hleads).1)
        exact ih hlanded.beside hlanded.loader_eq fun r hr =>
          hnodes _ hlanded.node r (hr.of_fork_eq hlanded.fork_eq)
  exact fun route e r h => hroute h ⟨rfl, rfl, rfl⟩ rfl hstart r

theorem Route.landed (h : Route s route e) (hs : s.1.Beside t) (hl : s.2 = l)
    (hc : Contained t s) : e.1.Beside t ∧ e.2 = l ∧ ∀ hop ∈ route, Landed t l hop.2 := by
  induction h with
  | here => exact ⟨hs, hl, by simp⟩
  | @hop s s' e r rest hleads hroute ih =>
      have hfirst := hleads.landed hs hl (hc [] s r (.here s) (leads_iff.mp hleads).1)
      obtain ⟨he, hle, hrest⟩ := ih hfirst.beside hfirst.loader_eq fun route e r' hroute' =>
        hc _ e r' (.hop hleads hroute')
      exact ⟨he, hle, List.forall_mem_cons.mpr ⟨hfirst, hrest⟩⟩

theorem Route.hops_of_getElem? (h : Route s route e) {i : Nat} {hop : Reference × (Tree × Loader)}
    (hi : route[i]? = some hop) : hops (i + 1) s = some hop.2 := by
  induction h generalizing i with
  | here => simp at hi
  | @hop s s' e r rest hleads hroute ih =>
      rw [hops, next?_eq_some_iff.mpr ⟨r, hleads⟩]
      cases i with
      | zero =>
          obtain rfl : (r, s') = hop := by simpa using hi
          rfl
      | succ i => exact ih (by simpa using hi)

theorem length_le_count (h : ∀ hop ∈ route, Landed t l hop.2)
    (hnodup : (route.map (node ·.2)).Nodup) : route.length ≤ t.document.count := by
  have hnodes : route.map (node ·.2) =
      (route.map (·.2.1.pointer)).map fun p => (l.documentKey t, p) := by
    rw [List.map_map]
    exact List.map_congr_left fun hop hhop => (h hop hhop).node_eq
  rw [hnodes] at hnodup
  rw [← List.length_map (·.2.1.pointer)]
  apply Json.length_le_count (hnodup.of_map _)
  intro p hp
  obtain ⟨hop, hhop, rfl⟩ := List.mem_map.mp hp
  exact (h hop hhop).node

theorem endless_of_met (hroute : Route (t, l) route e) (h : ∀ hop ∈ route, Landed t l hop.2)
    (hleads : Leads e r s') (hs' : Landed t l s') (hmet : node s' ∈ route.map (node ·.2)) (n : Nat) :
    (hops n (t, l)).isSome := by
  obtain ⟨hop, hhop, hnode⟩ := List.mem_map.mp hmet
  -- The hop with index `i` led to the node that one more hop than all of the route leads to.
  obtain ⟨i, hi⟩ := List.getElem?_of_mem hhop
  obtain ⟨hlt, -⟩ := List.getElem?_eq_some_iff.mp hi
  have hlast : hops (route.length + 1) (t, l) = some s' := by
    rw [hops_add, hroute.hops_eq, Option.bind_some, hops, next?_eq_some_iff.mpr ⟨r, hleads⟩]
    rfl
  have hpointer : hop.2.1.pointer = s'.1.pointer := congrArg Prod.snd hnode
  have hfork : hop.2.1.fork = s'.1.fork := by
    rw [(h hop hhop).fork_eq, hs'.fork_eq, hpointer]
  have hloader : hop.2.2 = s'.2 := (h hop hhop).loader_eq.trans hs'.loader_eq.symm
  exact endless_of_repeat (by omega) (hroute.hops_of_getElem? hi) hlast
    (fun m => hops_of_fork_eq hfork hloader) n

inductive Ending (t : Tree) : Except ChainError Tree → Prop
  | node : t.node?.bind Json.refText? = none → Ending t (.ok t)
  | invalid {raw : Text} {error : UriError} : t.node?.bind Json.refText? = some raw →
      Reference.parse raw = .error error → Ending t (.error (.invalidRef raw t.pointer error))
  | unresolvable {r : Reference} : Cites t r → t.containsRef r → t.locate? r = none →
      Ending t (.error (.unresolvable r t.location))

theorem Ending.next?_eq_none {result : Except ChainError Tree} (h : Ending s.1 result) :
    next? s = none := by
  rw [Option.eq_none_iff_forall_ne_some]
  intro s' hs'
  obtain ⟨r, hleads⟩ := next?_eq_some_iff.mp hs'
  have hcites := (leads_iff.mp hleads).1
  obtain ⟨raw, other, hraw, hparse, -⟩ := (leads_iff.mp hleads).1
  cases h with
  | node hnone => simp [hnone] at hraw
  | invalid hraw' herror =>
      rw [hraw', Option.some.injEq] at hraw
      simp [hraw, hparse] at herror
  | @unresolvable r' hcites' hin hlocate =>
      have hsame := (target?_of_cites hcites).symm.trans (target?_of_cites hcites')
      obtain rfl : r = r' := by simpa using hsame
      cases hleads with
      | within _ _ hp => simp [hp] at hlocate
      | away _ hout => simp [hin] at hout

theorem Ending.error_cases {e : ChainError} (h : Ending t (.error e)) :
    (∃ raw error, e = .invalidRef raw t.pointer error) ∨ ∃ r, e = .unresolvable r t.location := by
  cases h with
  | invalid => exact .inl ⟨_, _, rfl⟩
  | unresolvable => exact .inr ⟨_, rfl⟩

theorem not_endless {result : Except ChainError Tree} (hroute : Route s route e)
    (h : Ending e.1 result) : ¬ ∀ n, (hops n s).isSome := by
  intro hendless
  have hnext := hendless (route.length + 1)
  rw [hops_add, hroute.hops_eq, Option.bind_some, hops, h.next?_eq_none] at hnext
  cases hnext

theorem resolve_contained (hc : Contained t (t, l)) (hcount : t.document.count < maxDepth) :
    (∃ chain, (resolve l maxDepth t).1 = .error (.loop chain) ∧ ∀ n, (hops n (t, l)).isSome) ∨
    ∃ route e result, Route (t, l) route e ∧ Ending e.1 result ∧
      (resolve l maxDepth t).1.map (fun c => (c.references, c.tree)) =
        result.map fun last => (route.map (·.1), last) := by
  obtain ⟨route, e, hroute, -, hnodup, hstop⟩ :=
    follow_stops maxDepth maxDepth l (start t) List.nodup_nil
  obtain ⟨hbeside, hl, hlanded⟩ := hroute.landed ⟨rfl, rfl, rfl⟩ rfl hc
  have hlength : route.length ≤ t.document.count :=
    length_le_count hlanded (by simpa [after, start] using hnodup)
  obtain ⟨left, hleft⟩ : ∃ left, maxDepth - route.length = left + 1 :=
    ⟨maxDepth - route.length - 1, by omega⟩
  rw [hleft] at hstop
  rw [resolve]
  generalize follow maxDepth maxDepth l (start t) = told at hstop ⊢
  cases hstop with
  | done hraw => exact .inr ⟨route, e, _, hroute, .node hraw, by simp [after, start, Except.map]⟩
  | invalid hraw hparse => exact .inr ⟨route, e, _, hroute, .invalid hraw hparse, rfl⟩
  | @lost _ r error l' hcites hland =>
      have hin : e.1.containsRef r := by
        rw [hbeside.containsRef_eq]
        exact hc route e r hroute hcites
      simp only [after, land, holder, hin, if_true] at hland
      split at hland
      · simp at hland
      · next hlocate =>
        simp only [Prod.mk.injEq, Except.error.injEq] at hland
        obtain ⟨rfl, rfl⟩ := hland
        exact .inr ⟨route, e, _, hroute, .unresolvable hcites hin hlocate, rfl⟩
  | @loop _ r s' hleads hmet =>
      have hs' := hleads.landed hbeside hl (hc route e r hroute (leads_iff.mp hleads).1)
      have hmet' : node s' ∈ route.map (node ·.2) := by simpa [after, start] using hmet
      exact .inl ⟨_, rfl, endless_of_met hroute hlanded hleads hs' hmet'⟩

/-- If all references met on the way from a tree are ones that it may hold, and more hops are
allowed than there are nodes in its document, then the chain is never cut short. It is told to loop
just if the hops go on for good, and else comes to what they come to. -/
theorem loop_iff_endless (hc : Contained t (t, l)) (hcount : t.document.count < maxDepth) :
    (∀ bound r, (resolve l maxDepth t).1 ≠ .error (.depthExceeded bound r)) ∧
    ((∃ chain, (resolve l maxDepth t).1 = .error (.loop chain)) ↔ ∀ n, (hops n (t, l)).isSome) ∧
    ((¬ ∀ n, (hops n (t, l)).isSome) → ∃ route e result, Route (t, l) route e ∧
      Ending e.1 result ∧ (resolve l maxDepth t).1.map (fun c => (c.references, c.tree)) =
        result.map fun last => (route.map (·.1), last)) := by
  rcases resolve_contained hc hcount with
    ⟨chain, hloop, hendless⟩ | ⟨route, e, result, hroute, hending, hresult⟩
  · refine ⟨?_, ⟨fun _ => hendless, fun _ => ⟨chain, hloop⟩⟩, fun h => absurd hendless h⟩
    intro bound r h
    rw [hloop] at h
    cases h
  · have hnot := not_endless hroute hending
    have herror {error : ChainError} (h : (resolve l maxDepth t).1 = .error error) :
        (∃ raw fault, error = .invalidRef raw e.1.pointer fault) ∨
          ∃ r, error = .unresolvable r e.1.location := by
      rw [Except.map_error_iff.mpr h] at hresult
      have hsame := Except.map_error_iff.mp hresult.symm
      exact (hsame ▸ hending).error_cases
    refine ⟨?_, ⟨?_, fun h => absurd h hnot⟩, fun _ => ⟨route, e, result, hroute, hending, hresult⟩⟩
    · intro bound r h
      rcases herror h with ⟨_, _, he⟩ | ⟨_, he⟩ <;> cases he
    · rintro ⟨chain, h⟩
      rcases herror h with ⟨_, _, he⟩ | ⟨_, he⟩ <;> cases he

def crossed : Json :=
  .object [("a".toList, .object [("$ref".toList, .string "i/#/c".toList)]),
    ("b".toList, .object [
      ("c".toList, .object [("$ref".toList, .string "../#/a".toList)]),
      ("id".toList, .string "i/".toList)])]

theorem loop_iff_endless_crossed :
    let loadingRef : Reference :=
      ⟨⟨some "http".toList, some "x".toList, "/".toList, none, none⟩, .pointer .root⟩
    let t := (Tree.make loadingRef crossed .inline).jumpTo ⟨["a".toList]⟩
    let l := Loader.make .bare
    Contained t (t, l) ∧ t.document.count < defaultMaxDepth ∧
      (∃ chain, (resolve l defaultMaxDepth t).1 = .error (.loop chain)) ∧
      ∀ n, (hops n (t, l)).isSome := by
  intro loadingRef t l
  have hall : ∀ path ∈ crossed.paths,
      ((target? (t.jumpTo ⟨path⟩)).toOption.bind id).all t.containsRef := by decide +kernel
  have hcited {s : Tree} {r : Reference} (h : ((target? s).toOption.bind id).all t.containsRef)
      (hcites : Cites s r) : t.containsRef r := by
    rw [target?_of_cites hcites] at h
    exact h
  have hc : Contained t (t, l) := by
    apply contained_of_nodes fun r => hcited (by decide +kernel)
    exact fun p hnode r => hcited (hall p.tokens (Json.mem_paths_of_walk hnode))
  have hcount : t.document.count < defaultMaxDepth := by decide +kernel
  have hloop : (loop? (resolve l defaultMaxDepth t).1).isSome := by decide +kernel
  obtain ⟨chain, hchain⟩ := Option.isSome_iff_exists.mp hloop
  obtain ⟨-, hiff, -⟩ := loop_iff_endless hc hcount
  exact ⟨hc, hcount, ⟨chain, loop?_some hchain⟩, hiff.mp ⟨chain, loop?_some hchain⟩⟩

end RefChain
end JsonReference
