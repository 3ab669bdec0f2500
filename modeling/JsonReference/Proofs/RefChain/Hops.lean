import JsonReference.Proofs.Loader.Operations
import JsonReference.Proofs.Tree.Walk

namespace JsonReference.RefChain

open Loader

def next? (s : Tree × Loader) : Option (Tree × Loader) :=
  match target? s.1 with
  | .ok (some target) =>
      match land s.2 s.1 target with
      | (.ok (t, p), l) => some (t.jumpTo p, l)
      | _ => none
  | _ => none

def hops : Nat → Tree × Loader → Option (Tree × Loader)
  | 0, s => some s
  | n + 1, s => (next? s).bind (hops n)

variable {s s' a b : Tree × Loader}

theorem hops_add (m n : Nat) (s : Tree × Loader) : hops (m + n) s = (hops m s).bind (hops n) := by
  induction m generalizing s with
  | zero => simp [hops]
  | succ m ih =>
      rw [Nat.add_right_comm, hops, hops, Option.bind_assoc]
      exact congrArg _ (funext ih)

theorem next?_eq {target : Reference} (ht : target? s.1 = .ok (some target)) :
    next? s = (land s.2 s.1 target).1.toOption.map fun landed =>
      (landed.1.jumpTo landed.2, (land s.2 s.1 target).2) := by
  rw [next?]
  simp only [ht]
  rcases land s.2 s.1 target with ⟨_ | _, _⟩ <;> rfl

theorem next?_some (h : next? s = some s') :
    ∃ target t p, target? s.1 = .ok (some target) ∧ (land s.2 s.1 target).1 = .ok (t, p) ∧
      s' = (t.jumpTo p, (land s.2 s.1 target).2) := by
  cases ht : target? s.1 with
  | error e => simp [next?, ht] at h
  | ok result =>
      cases result with
      | none => simp [next?, ht] at h
      | some target =>
          rw [next?_eq ht] at h
          obtain ⟨⟨t, p⟩, hland, rfl⟩ := Option.map_eq_some_iff.mp h
          exact ⟨target, t, p, rfl, Except.toOption_some_iff.mp hland, rfl⟩

/-- Both trees are at one place of one document, and the loaders agree. -/
structure Like (s s' : Tree × Loader) : Prop where
  origin : ∃ o : Tree, s.1.InScope o ∧ s'.1.InScope o
  pointer_eq : s.1.pointer = s'.1.pointer
  obtained : s.1.Obtained
  agree : s.2.Agree s'.2

namespace Like

theorem fork_eq (h : Like s s') : s.1.fork = s'.1.fork := by
  obtain ⟨o, h₁, h₂⟩ := h.origin
  have hscope := h₁.scope_eq
  rw [h.pointer_eq, ← h₂.scope_eq] at hscope
  simp only [Tree.fork, h₁.loadingRef_eq, h₁.document_eq, h₁.index_eq, h₂.loadingRef_eq,
    h₂.document_eq, h₂.index_eq, h.pointer_eq, hscope]

theorem congr {α : Type} (h : Like s s') {f : Tree → α} (hf : ∀ t : Tree, f t = f t.fork) :
    f s.1 = f s'.1 := by
  rw [hf s.1, hf s'.1, h.fork_eq]

theorem land (h : Like s s') {target : Reference} (hr : target.uri.Obtained) :
    (∃ e e', (land s.2 s.1 target).1 = .error e ∧ (land s'.2 s'.1 target).1 = .error e') ∨
    ∃ t t' o p, (land s.2 s.1 target).1 = .ok (t, p) ∧ (land s'.2 s'.1 target).1 = .ok (t', p) ∧
      t.InScope o ∧ t'.InScope o := by
  have hcontains := h.congr (f := (·.containsRef target)) fun _ => rfl
  simp only [land_eq, holder_eq, ← hcontains]
  cases hc : s.1.containsRef target with
  | true =>
      have hlocate := h.congr (f := (·.locate? target)) fun _ => rfl
      simp only [if_true, Except.bind, place, ← hlocate]
      cases s.1.locate? target with
      | none => exact .inl ⟨_, _, rfl, rfl⟩
      | some p =>
          obtain ⟨o, h₁, h₂⟩ := h.origin
          exact .inr ⟨s.1, s'.1, o, p, rfl, rfl, h₁, h₂⟩
  | false =>
      have hr' : target.toLocator.uri.Obtained := hr.withFragment none
      have hanswer := (transparent_getRef hr').answer _ _ h.agree
      simp only [Bool.false_eq_true, if_false, ← hanswer]
      cases hg : (s.2.getRef target.toLocator).1 with
      | error e => exact .inl ⟨_, _, rfl, rfl⟩
      | ok t =>
          simp only [Except.mapError, Except.bind, place]
          cases t.locate? target with
          | none => exact .inl ⟨_, _, rfl, rfl⟩
          | some p =>
              have ht := inScope_getRef hg
              exact .inr ⟨t, t, _, p, rfl, rfl, ht, ht⟩

theorem next (h : Like s s') : Option.Rel Like (next? s) (next? s') := by
  have htarget := h.congr (f := target?) fun _ => rfl
  cases ht : target? s.1 with
  | error e =>
      simp only [next?, ← htarget, ht]
      exact .none
  | ok result =>
      cases result with
      | none =>
          simp only [next?, ← htarget, ht]
          exact .none
      | some target =>
          have hr := target?_obtained h.obtained ht
          rw [next?_eq ht, next?_eq (htarget ▸ ht)]
          rcases h.land hr with ⟨e, e', he, he'⟩ | ⟨t, t', o, p, hok, hok', hin, hin'⟩
          · rw [he, he']
            exact .none
          · rw [hok, hok']
            have hheld := obtained_holder h.agree.left h.obtained hr (land_ok hok).1
            have hleft := (transparent_land (t := s.1) hr).agree s.2 h.agree.left
            have hright := (transparent_land (t := s'.1) hr).agree s'.2 h.agree.right
            exact .some ⟨⟨o, hin.jumpTo p, hin'.jumpTo p⟩, by simp, hheld.jumpTo p,
              hleft.symm.trans (h.agree.trans hright)⟩

theorem hops (h : Like s s') (n : Nat) : Option.Rel Like (hops n s) (hops n s') := by
  induction n generalizing s s' with
  | zero => exact .some h
  | succ n ih =>
      have hnext := h.next
      rw [RefChain.hops, RefChain.hops]
      generalize next? s = r at hnext
      generalize next? s' = r' at hnext
      cases hnext with
      | none => exact .none
      | some hu => exact ih hu

end Like

/-- What comes to where it can go on as far as from a place before goes on for good. -/
theorem endless_of_repeat {j k : Nat} (hjk : j < k) (hj : hops j s = some a)
    (hk : hops k s = some b) (h : ∀ m, (hops m a).isSome → (hops m b).isSome) (n : Nat) :
    (hops n s).isSome := by
  -- what `k + m` hops lead to is had like what the fewer `j + m` lead to
  induction n using Nat.strong_induction_on with
  | _ n ih =>
      by_cases hn : n ≤ k
      · obtain ⟨m, rfl⟩ := Nat.exists_eq_add_of_le hn
        rw [hops_add] at hk
        obtain ⟨u, hu, -⟩ := Option.bind_eq_some_iff.mp hk
        simp [hu]
      · obtain ⟨m, rfl⟩ := Nat.exists_eq_add_of_le (Nat.le_of_not_le hn)
        have hearlier := ih (j + m) (by omega)
        rw [hops_add, hj, Option.bind_some] at hearlier
        rw [hops_add, hk, Option.bind_some]
        exact h m hearlier

theorem endless_of_return {j k : Nat} (hjk : j < k) (hj : hops j s = some a)
    (hk : hops k s = some b) (h : Like a b) (n : Nat) : (hops n s).isSome := by
  refine endless_of_repeat hjk hj hk (fun m ha => ?_) n
  have hlike := h.hops m
  generalize hops m a = r at hlike ha
  generalize hops m b = r' at hlike
  cases hlike with
  | none => cases ha
  | some => rfl

end JsonReference.RefChain
