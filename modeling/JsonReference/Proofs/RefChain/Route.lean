import JsonReference.Proofs.RefChain.Loops
import Mathlib.Data.List.Nodup

namespace JsonReference.RefChain

variable {l : Loader} {t : Tree} {c : RefChain} {r : Reference} {maxDepth left : Nat}
  {s s' e : Tree × Loader} {route rest : List (Reference × (Tree × Loader))}

def Cites (t : Tree) (r : Reference) : Prop :=
  ∃ raw other, t.node?.bind Json.refText? = some raw ∧ Reference.parse raw = .ok other ∧
    t.resolve other = r

/-- A hop leads to where the reference is in the same tree, if that may hold it, or else in the one
that the loader gives for its locator. -/
inductive Leads (s : Tree × Loader) (r : Reference) : Tree × Loader → Prop
  | within {p : Pointer} : Cites s.1 r → s.1.containsRef r = true → s.1.locate? r = some p →
      Leads s r (s.1.jumpTo p, s.2)
  | away {t : Tree} {l : Loader} {p : Pointer} : Cites s.1 r → s.1.containsRef r = false →
      s.2.getRef r.toLocator = (.ok t, l) → t.locate? r = some p → Leads s r (t.jumpTo p, l)

inductive Route : Tree × Loader → List (Reference × (Tree × Loader)) → Tree × Loader → Prop
  | here (s : Tree × Loader) : Route s [] s
  | hop {s s' e : Tree × Loader} {r : Reference} {rest : List (Reference × (Tree × Loader))} :
      Leads s r s' → Route s' rest e → Route s ((r, s') :: rest) e

theorem target?_cases (t : Tree) :
    (t.node?.bind Json.refText? = none ∧ target? t = .ok none) ∨
    (∃ raw error, t.node?.bind Json.refText? = some raw ∧ Reference.parse raw = .error error ∧
      target? t = .error (.invalidRef raw t.pointer error)) ∨
    ∃ r, Cites t r ∧ target? t = .ok (some r) := by
  rw [target?]
  cases hraw : t.node?.bind Json.refText? with
  | none => exact .inl ⟨rfl, rfl⟩
  | some raw =>
      right
      cases hparse : Reference.parse raw with
      | error error => exact .inl ⟨raw, error, rfl, hparse, by simp [hparse]⟩
      | ok other => exact .inr ⟨_, ⟨raw, other, hraw, hparse, rfl⟩, by simp [hparse]⟩

theorem target?_of_cites (h : Cites t r) : target? t = .ok (some r) := by
  obtain ⟨raw, other, hraw, hparse, rfl⟩ := h
  simp [target?, hraw, hparse]

theorem target?_of_no_refText (h : t.node?.bind Json.refText? = none) : target? t = .ok none := by
  simp [target?, h]

theorem leads_iff : Leads s r s' ↔
    Cites s.1 r ∧ ∃ t p, land s.2 s.1 r = (.ok (t, p), s'.2) ∧ s'.1 = t.jumpTo p := by
  constructor
  · rintro (⟨hcites, hcontains, hlocate⟩ | ⟨hcites, hcontains, hget, hlocate⟩)
    · exact ⟨hcites, _, _, by simp [land, holder, hcontains, hlocate], rfl⟩
    · exact ⟨hcites, _, _, by simp [land, holder, hcontains, hget, hlocate], rfl⟩
  · rintro ⟨hcites, t, p, hland, htree⟩
    obtain ⟨t', l'⟩ := s'
    obtain rfl : t' = t.jumpTo p := htree
    rw [land] at hland
    split at hland
    · simp at hland
    · next held l hholder =>
      split at hland
      · next pointer hlocate =>
        simp only [Prod.mk.injEq, Except.ok.injEq] at hland
        obtain ⟨⟨rfl, rfl⟩, rfl⟩ := hland
        rw [holder] at hholder
        split at hholder
        · next hcontains =>
          cases hholder
          exact .within hcites hcontains hlocate
        · next hcontains =>
          split at hholder
          · next hget =>
            cases hholder
            exact .away hcites (by simpa using hcontains) hget hlocate
          · simp at hholder
      · simp at hland

theorem leads_of_land (h : Cites s.1 r) {p : Pointer} (hland : land s.2 s.1 r = (.ok (t, p), l)) :
    Leads s r (t.jumpTo p, l) := leads_iff.mpr ⟨h, t, p, hland, rfl⟩

theorem next?_eq_some_iff : next? s = some s' ↔ ∃ r, Leads s r s' := by
  constructor
  · intro h
    obtain ⟨r, t, p, ht, hland, rfl⟩ := next?_some h
    rcases target?_cases s.1 with ⟨-, h'⟩ | ⟨_, _, -, -, h'⟩ | ⟨r', hcites, h'⟩ <;> rw [ht] at h'
    · cases h'
    · cases h'
    · cases h'
      exact ⟨r, leads_of_land hcites (Prod.ext hland rfl)⟩
  · rintro ⟨r, h⟩
    obtain ⟨hcites, t, p, hland, htree⟩ := leads_iff.mp h
    rw [next?_eq (target?_of_cites hcites), hland]
    exact congrArg some (Prod.ext htree.symm rfl)

theorem hop_of_leads (h : Leads (c.tree, l) r s') :
    hop l c r =
      if node s' ∈ c.visited then (.error (.loop (c.references ++ [r])), s'.2)
      else (.ok ⟨s'.1, c.references ++ [r], node s' :: c.visited⟩, s'.2) := by
  obtain ⟨-, t, p, hland, htree⟩ := leads_iff.mp h
  obtain ⟨t', l'⟩ := s'
  obtain rfl : t' = t.jumpTo p := htree
  rw [hop, hland, node_jumpTo]
  simp only [arrive]
  split <;> rfl

theorem Leads.node?_isSome (h : Leads s r s') : s'.1.node?.isSome := by
  cases h with
  | within _ _ hlocate => simpa [Tree.node?, Tree.nodeAt?] using Tree.get?_of_locate? hlocate
  | away _ _ _ hlocate => simpa [Tree.node?, Tree.nodeAt?] using Tree.get?_of_locate? hlocate

def after (c : RefChain) (route : List (Reference × (Tree × Loader))) (t : Tree) : RefChain :=
  ⟨t, c.references ++ route.map (·.1), (route.map (node ·.2)).reverse ++ c.visited⟩

@[simp]
theorem after_nil (c : RefChain) : c.after [] c.tree = c := by simp [after]

theorem after_cons (c : RefChain) (r : Reference) (s' : Tree × Loader)
    (route : List (Reference × (Tree × Loader))) (t : Tree) :
    c.after ((r, s') :: route) t =
      after ⟨s'.1, c.references ++ [r], node s' :: c.visited⟩ route t := by
  simp [after]

theorem Route.node?_isSome (h : Route s route e) (hne : route ≠ []) : e.1.node?.isSome := by
  induction h with
  | here => exact absurd rfl hne
  | @hop s s' e r rest hleads hroute ih =>
      cases rest with
      | nil =>
          cases hroute
          exact hleads.node?_isSome
      | cons => exact ih (by simp)

theorem Route.hops_eq (h : Route s route e) : hops route.length s = some e := by
  induction h with
  | here => rfl
  | hop hleads hroute ih =>
      rw [List.length_cons, hops, next?_eq_some_iff.mpr ⟨_, hleads⟩]
      exact ih

theorem follow_route (h : Route s route e) (hc : s = (c.tree, l))
    (hnodup : (c.after route e.1).visited.Nodup) (hlength : route.length ≤ left) :
    follow maxDepth left l c =
      follow maxDepth (left - route.length) e.2 (c.after route e.1) := by
  induction h generalizing c l left with
  | here =>
      subst hc
      rw [after_nil]
      rfl
  | @hop s s' e r rest hleads hroute ih =>
      subst hc
      obtain ⟨left, rfl⟩ : ∃ n, left = n + 1 := ⟨left - 1, by simp at hlength; omega⟩
      rw [after_cons] at hnodup ⊢
      have hfresh : node s' ∉ c.visited := by
        rw [after] at hnodup
        exact (List.nodup_cons.mp hnodup.of_append_right).1
      have hcites := (leads_iff.mp hleads).1
      rw [follow_succ maxDepth left l c (target?_of_cites hcites), hop_of_leads hleads,
        if_neg hfresh]
      simp only [List.length_cons, Nat.add_sub_add_right]
      exact ih rfl hnodup (by simpa using hlength)

/-- What is told of a chain that goes no further, with `left` hops to spare. -/
inductive Stop (maxDepth : Nat) (l : Loader) (c : RefChain) :
    Nat → Except ChainError RefChain × Loader → Prop
  | done {left : Nat} : c.tree.node?.bind Json.refText? = none → Stop maxDepth l c left (.ok c, l)
  | invalid {left : Nat} {raw : Text} {error : UriError} :
      c.tree.node?.bind Json.refText? = some raw → Reference.parse raw = .error error →
      Stop maxDepth l c left (.error (.invalidRef raw c.tree.pointer error), l)
  | exhausted {r : Reference} : Cites c.tree r →
      Stop maxDepth l c 0 (.error (.depthExceeded maxDepth r), l)
  | lost {left : Nat} {r : Reference} {e : ChainError} {l' : Loader} : Cites c.tree r →
      land l c.tree r = (.error e, l') → Stop maxDepth l c (left + 1) (.error e, l')
  | loop {left : Nat} {r : Reference} {s' : Tree × Loader} : Leads (c.tree, l) r s' →
      node s' ∈ c.visited →
      Stop maxDepth l c (left + 1) (.error (.loop (c.references ++ [r])), s'.2)

/-- Every chain is followed along a route on which no node is met twice, up to where it stops. -/
theorem follow_stops (maxDepth left : Nat) (l : Loader) (c : RefChain) (h : c.visited.Nodup) :
    ∃ route e, Route (c.tree, l) route e ∧ route.length ≤ left ∧
      (c.after route e.1).visited.Nodup ∧
      Stop maxDepth e.2 (c.after route e.1) (left - route.length) (follow maxDepth left l c) := by
  -- A hop that is made adds a node not met before, so the nodes visited stay different ones.
  induction left generalizing l c with
  | zero =>
      refine ⟨[], (c.tree, l), .here _, Nat.le_refl 0, by simpa using h, ?_⟩
      rw [after_nil, follow]
      rcases target?_cases c.tree with ⟨hraw, ht⟩ | ⟨raw, error, hraw, hparse, ht⟩ | ⟨r, hr, ht⟩
      · simpa only [ht] using .done hraw
      · simpa only [ht] using .invalid hraw hparse
      · simpa only [ht] using .exhausted hr
  | succ left ih =>
      have stay (hstop : Stop maxDepth l c (left + 1) (follow maxDepth (left + 1) l c)) :
          ∃ route e, Route (c.tree, l) route e ∧ route.length ≤ left + 1 ∧
            (c.after route e.1).visited.Nodup ∧
            Stop maxDepth e.2 (c.after route e.1) (left + 1 - route.length)
              (follow maxDepth (left + 1) l c) :=
        ⟨[], (c.tree, l), .here _, Nat.zero_le _, by simpa using h, by simpa using hstop⟩
      rcases target?_cases c.tree with ⟨hraw, ht⟩ | ⟨raw, error, hraw, hparse, ht⟩ | ⟨r, hr, ht⟩
      · apply stay
        rw [follow]
        simpa only [ht] using .done hraw
      · apply stay
        rw [follow]
        simpa only [ht] using .invalid hraw hparse
      · cases hland : land l c.tree r with
        | mk result l' =>
          cases result with
          | error e =>
              apply stay
              rw [follow_succ maxDepth left l c ht, hop, hland]
              exact .lost hr hland
          | ok landed =>
              obtain ⟨t, p⟩ := landed
              have hleads := leads_of_land (s := (c.tree, l)) hr hland
              by_cases hmet : node (t.jumpTo p, l') ∈ c.visited
              · apply stay
                rw [follow_succ maxDepth left l c ht, hop_of_leads hleads, if_pos hmet]
                exact .loop hleads hmet
              · obtain ⟨route, e, hroute, hlength, hnodup, hstop⟩ :=
                  ih l' ⟨t.jumpTo p, c.references ++ [r], node (t.jumpTo p, l') :: c.visited⟩
                    (List.nodup_cons.mpr ⟨hmet, h⟩)
                rw [follow_succ maxDepth left l c ht, hop_of_leads hleads, if_neg hmet]
                refine ⟨(r, (t.jumpTo p, l')) :: route, e, .hop hleads hroute, ?_, ?_, ?_⟩
                · simpa using hlength
                · rwa [after_cons]
                · rw [after_cons, List.length_cons, Nat.add_sub_add_right]
                  exact hstop

theorem node?_isSome_of_resolve (hnode : t.node?.isSome) (h : (resolve l maxDepth t).1 = .ok c) :
    c.tree.node?.isSome := by
  obtain ⟨route, e, hroute, -, -, hstop⟩ :=
    follow_stops maxDepth maxDepth l (start t) List.nodup_nil
  rw [resolve] at h
  generalize maxDepth - route.length = left at hstop
  generalize follow maxDepth maxDepth l (start t) = result at h hstop
  cases hstop with
  | done =>
      cases h
      cases hroute with
      | here => exact hnode
      | hop hleads hroute => exact (Route.hop hleads hroute).node?_isSome (by simp)
  | _ => cases h

/-- A chain is followed to its end just if there is a route from the cursor to a node that is no
reference, of no more than `maxDepth` hops and with no node on it twice. The references of the chain
are those of the route, and there are none just if the node at the cursor is no reference. -/
theorem resolve_ok_iff {c : RefChain} {l l' : Loader} {t : Tree} {maxDepth : Nat} :
    resolve l maxDepth t = (.ok c, l') ↔
      ∃ route, Route (t, l) route (c.tree, l') ∧ c.references = route.map (·.1) ∧
        c.visited = (route.map (node ·.2)).reverse ∧ route.length ≤ maxDepth ∧
        (route.map (node ·.2)).Nodup ∧ c.tree.node?.bind Json.refText? = none ∧
        (c.references = [] ↔ t.node?.bind Json.refText? = none) ∧
        (c.references ≠ [] → c.tree.node?.isSome) := by
  constructor
  · intro h
    obtain ⟨route, e, hroute, hlength, hnodup, hstop⟩ :=
      follow_stops maxDepth maxDepth l (start t) List.nodup_nil
    rw [resolve] at h
    rw [h] at hstop
    generalize maxDepth - route.length = left at hstop
    cases hstop with
    | done hraw =>
      refine ⟨route, hroute, by simp [after, start], by simp [after, start], hlength, ?_, hraw, ?_,
        ?_⟩
      · simpa [after, start] using hnodup
      · cases hroute with
        | here => simpa [after, start] using hraw
        | hop hleads _ =>
            obtain ⟨raw, -, hsome, -⟩ := (leads_iff.mp hleads).1
            change t.node?.bind Json.refText? = some raw at hsome
            rw [hsome]
            simp [after, start]
      · intro hne
        exact hroute.node?_isSome (by simpa [after, start] using hne)
  · rintro ⟨route, hroute, hreferences, hvisited, hlength, hnodup, hraw, -⟩
    have hafter : (start t).after route c.tree = c := by
      simp [after, start, ← hreferences, ← hvisited]
    rw [resolve, follow_route (c := start t) hroute rfl (by simpa [after, start] using hnodup) hlength,
      hafter]
    cases maxDepth - route.length <;> simp [follow, target?_of_no_refText hraw]

end JsonReference.RefChain
