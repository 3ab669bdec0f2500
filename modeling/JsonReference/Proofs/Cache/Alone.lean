import JsonReference.Cache.Callers

namespace JsonReference.Cache.Callers

variable {s t : Callers} {key : Text} {filled : Option Json}

def moves? (s : Callers) (moves : List (Nat × Option Json)) : Option Callers :=
  moves.foldlM (fun s m => s.move? m.1 m.2) s

theorem Reachable.moves {cache : Cache} {keys : List Text} (h : Reachable cache keys s)
    {moves : List (Nat × Option Json)} (hmoves : s.moves? moves = some t) :
    Reachable cache keys t := by
  induction moves generalizing s with
  | nil => exact Option.some.inj hmoves ▸ h
  | cons m rest ih =>
      obtain ⟨next, hnext, hrest⟩ := Option.bind_eq_some_iff.mp hmoves
      exact ih (h.move m.1 m.2 hnext) hrest

def Alone (filled : Option Json) (s t : Callers) : Prop :=
  ∃ n, s.moves? (List.replicate n (0, filled)) = some t

namespace Alone

variable {u : Callers}

theorem trans (h : s.Alone filled t) (h' : t.Alone filled u) : s.Alone filled u := by
  obtain ⟨n, hn⟩ := h
  obtain ⟨m, hm⟩ := h'
  refine ⟨n + m, ?_⟩
  rw [moves?] at hn hm ⊢
  rw [← List.replicate_append_replicate, List.foldlM_append, hn]
  exact hm

theorem of_move (h : s.move? 0 filled = some t) : s.Alone filled t := ⟨1, by simpa [moves?] using h⟩

end Alone

def lone (key : Text) (cache : Cache) (gates : Table Text Gate) (made : Nat) (stage : Stage) :
    Callers :=
  ⟨cache, gates, made, [⟨key, stage⟩]⟩

variable {cache cache' : Cache} {document : Json}

theorem alone_found (hget : cache.get key = (some document, cache')) :
    (start cache [key]).Alone filled (lone key cache' [] 0 (.finished (some document))) := by
  refine .of_move ?_
  simp [start, move?, look, hget, advance, lone]

theorem alone_entered (hget : cache.get key = (none, cache')) :
    (start cache [key]).Alone filled (lone key cache' [(key, 0)] 1 (.entered 0)) := by
  have hlooking : (start cache [key]).Alone filled (lone key cache' [] 0 .missed) := by
    refine .of_move ?_
    simp [start, move?, look, hget, advance, lone]
  exact (hlooking.trans (.of_move rfl)).trans (.of_move rfl)

theorem alone_finished (cache : Cache) (result : Option Json) :
    (lone key cache [(key, 0)] 1 (.leaving 0 result)).Alone filled
      (lone key cache [] 1 (.finished result)) := by
  have hleaving : (lone key cache [(key, 0)] 1 (.leaving 0 result)).Alone filled
      (lone key cache [(key, 0)] 1 (.outside 0 result)) := .of_move rfl
  have houtside : (lone key cache [(key, 0)] 1 (.outside 0 result)).Alone filled
      (lone key cache [] 1 (.parting 0 result)) := by
    -- The call and the table have hold of the gate, and nobody else.
    refine .of_move ?_
    simp [lone, move?, removeGate, holds, advance, Table.find?, Table.drop, Stage.gate?]
  exact (hleaving.trans houtside).trans (.of_move rfl)

/-- Where nobody else calls, a call does to the cache what `getOrFill` does and brings back what it
brings back, and there are no gates left. -/
theorem alone_getOrFill {ε : Type} (c : Cache) (key : Text) (fill : Unit → Except ε Json) :
    ∃ made, (start c [key]).Alone (fill ()).toOption
      (lone key (c.getOrFill key fill).cache [] made
        (.finished (c.getOrFill key fill).result.toOption)) := by
  rw [getOrFill]
  split
  · next document c' hget => exact ⟨0, alone_found hget⟩
  · next c' hget =>
    refine ⟨1, (alone_entered hget).trans ?_⟩
    split
    · next document c'' hagain =>
      have hentered : (lone key c' [(key, 0)] 1 (.entered 0)).Alone (fill ()).toOption
          (lone key c'' [(key, 0)] 1 (.leaving 0 (some document))) := by
        refine .of_move ?_
        simp [lone, move?, look, hagain, advance]
      exact hentered.trans (alone_finished c'' (some document))
    · next c'' hagain =>
      have hready : (lone key c' [(key, 0)] 1 (.entered 0)).Alone (fill ()).toOption
          (lone key c'' [(key, 0)] 1 (.ready 0)) := by
        refine .of_move ?_
        simp [lone, move?, look, hagain, advance]
      have hfilling : (lone key c'' [(key, 0)] 1 (.ready 0)).Alone (fill ()).toOption
          (lone key c'' [(key, 0)] 1 (.filling 0)) := .of_move rfl
      refine (hready.trans hfilling).trans ?_
      cases fill () with
      | ok document =>
          have hstoring : (lone key c'' [(key, 0)] 1 (.filling 0)).Alone (some document)
              (lone key c'' [(key, 0)] 1 (.storing 0 document)) := .of_move rfl
          exact (hstoring.trans (.of_move rfl)).trans (alone_finished _ (some document))
      | error e =>
          have hleaving : (lone key c'' [(key, 0)] 1 (.filling 0)).Alone none
              (lone key c'' [(key, 0)] 1 (.leaving 0 none)) := .of_move rfl
          exact hleaving.trans (alone_finished c'' none)

end JsonReference.Cache.Callers
