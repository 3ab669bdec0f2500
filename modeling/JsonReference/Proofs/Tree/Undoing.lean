import JsonReference.Proofs.Tree.Walk

namespace JsonReference

namespace Move

def goes : Move → Bool
  | .push _ | .pushToken _ | .pushIndex _ | .jumpTo _ => true
  | .pop | .fork | .switch _ => false

def isOwn (m : Move) : Bool := m.goes || m = .pop

def went (moves : List Move) : Nat := moves.countP goes

def popped (moves : List Move) : Nat := moves.count .pop

/-- Moves of one tree. At no point were more of them undone than made, and in the end all were. -/
structure Balanced (moves : List Move) : Prop where
  own : ∀ m ∈ moves, m.isOwn
  popped_le : ∀ front, front <+: moves → popped front ≤ went front
  popped_eq : popped moves = went moves

/-- Every move of a tree was undone, and so were those that it had made before, `saved` of them. -/
structure Spent (saved : Nat) (moves : List Move) : Prop where
  all_le : saved + went moves ≤ popped moves
  went_le : ∀ back, back <:+ moves → went back ≤ popped back

/-- The number of moves that can still be undone. A pop where there is none left is passed over. -/
def left (saved : Nat) (moves : List Move) : Nat :=
  moves.foldl (fun n m => if m.goes then n + 1 else n - 1) saved

variable {m : Move} {moves : List Move} {saved : Nat}

theorem own_cases (h : m.isOwn) : m.goes = true ∨ m = .pop := by
  rwa [isOwn, Bool.or_eq_true, decide_eq_true_iff] at h

theorem own_or (m : Move) : m.isOwn ∨ m = .fork ∨ ∃ place, m = .switch place := by
  cases m with
  | push | pushToken | pushIndex | jumpTo | pop => exact .inl rfl
  | fork => exact .inr (.inl rfl)
  | switch place => exact .inr (.inr ⟨place, rfl⟩)

@[simp]
theorem went_nil : went [] = 0 := rfl

@[simp]
theorem popped_nil : popped [] = 0 := rfl

theorem went_cons_of_goes (h : m.goes) : went (m :: moves) = went moves + 1 :=
  List.countP_cons_of_pos h

theorem popped_cons_of_goes (h : m.goes) : popped (m :: moves) = popped moves := by
  refine List.count_cons_of_ne ?_
  rintro rfl
  cases h

@[simp]
theorem went_cons_pop : went (.pop :: moves) = went moves :=
  List.countP_cons_of_neg (by simp [goes])

@[simp]
theorem popped_cons_pop : popped (.pop :: moves) = popped moves + 1 := List.count_cons_self

theorem spent_nil_iff : Spent saved [] ↔ saved = 0 := by
  constructor
  · intro h
    simpa using h.all_le
  · rintro rfl
    exact ⟨by simp, fun back hback => by simp [List.suffix_nil.mp hback]⟩

theorem spent_cons_iff : Spent saved (m :: moves) ↔
    saved + went (m :: moves) ≤ popped (m :: moves) ∧
      ∀ back, back <:+ moves → went back ≤ popped back := by
  constructor
  · intro h
    exact ⟨h.all_le, fun back hback => h.went_le back (hback.trans (List.suffix_cons m moves))⟩
  · rintro ⟨hall, hrest⟩
    refine ⟨hall, fun back hback => ?_⟩
    rcases List.suffix_cons_iff.mp hback with rfl | hback
    · exact Nat.le_trans (Nat.le_add_left _ _) hall
    · exact hrest back hback

theorem spent_cons_iff_of_goes (h : m.goes) :
    Spent saved (m :: moves) ↔ Spent (saved + 1) moves := by
  rw [spent_cons_iff, went_cons_of_goes h, popped_cons_of_goes h,
    Nat.add_comm (went moves), ← Nat.add_assoc]
  exact ⟨fun ⟨hall, hrest⟩ => ⟨hall, hrest⟩, fun hspent => ⟨hspent.all_le, hspent.went_le⟩⟩

theorem spent_cons_pop_iff : Spent saved (.pop :: moves) ↔ Spent (saved - 1) moves := by
  rw [spent_cons_iff, went_cons_pop, popped_cons_pop]
  constructor
  · rintro ⟨hall, hrest⟩
    have := hrest moves List.suffix_rfl
    exact ⟨by omega, hrest⟩
  · intro hspent
    have := hspent.all_le
    exact ⟨by omega, hspent.went_le⟩

theorem left_eq_zero_iff (h : ∀ m ∈ moves, m.isOwn) : left saved moves = 0 ↔ Spent saved moves := by
  induction moves generalizing saved with
  | nil => rw [spent_nil_iff, left, List.foldl_nil]
  | cons m rest ih =>
      rw [List.forall_mem_cons] at h
      rcases own_cases h.1 with hgoes | rfl
      · rw [spent_cons_iff_of_goes hgoes, ← ih h.2, left, List.foldl_cons, if_pos hgoes, left]
      · rw [spent_cons_pop_iff, ← ih h.2, left, List.foldl_cons, if_neg (by simp [goes]), left]

end Move

namespace Tree

variable {t u : Tree} {m : Move} {moves : List Move}

def after (t : Tree) : Move → Tree
  | .push relative => t.push relative
  | .pushToken token => t.pushToken token
  | .pushIndex index => t.pushIndex index
  | .jumpTo absolute => t.jumpTo absolute
  | .pop => t.pop?.getD t
  | .fork | .switch _ => t

def undo? : Nat → Tree → Option Tree
  | 0, t => some t
  | n + 1, t => t.pop?.bind (undo? n)

theorem descend_eq (t : Tree) (p : Pointer) :
    ∃ pointer scope, t.descend p = { t with pointer, scope } := by
  rw [descend]
  induction p.tokens generalizing t with
  | nil => exact ⟨t.pointer, t.scope, rfl⟩
  | cons token rest ih =>
      obtain ⟨pointer, scope, h⟩ := ih (t.step token)
      exact ⟨pointer, scope, h⟩

theorem pop?_descend_save (t : Tree) (p : Pointer) : (t.save.descend p).pop? = some t := by
  obtain ⟨pointer, scope, h⟩ := descend_eq t.save p
  rw [h]
  rfl

theorem pop?_after (hm : m.goes) : (t.after m).pop? = some t := by
  cases m with
  | push relative => exact pop?_descend_save t relative
  | pushToken token => exact pop?_descend_save t ⟨[token]⟩
  | pushIndex index => exact pop?_descend_save t (Pointer.root.appendIndex index)
  | jumpTo absolute =>
      obtain ⟨pointer, scope, h⟩ := descend_eq t.save.toRoot absolute
      rw [after, jumpTo, h]
      rfl
  | pop | fork | switch => cases hm

theorem pop?_eq_none_iff : t.pop? = none ↔ t.depth = 0 := by
  rw [pop?, depth, List.length_eq_zero_iff]
  cases t.stack <;> simp

theorem depth_of_pop? (h : t.pop? = some u) : t.depth = u.depth + 1 := by
  rw [pop?] at h
  split at h
  · cases h
  · next hstack =>
    cases h
    rw [depth, hstack]
    rfl

theorem depth_after (h : m.isOwn) :
    (t.after m).depth = if m.goes then t.depth + 1 else t.depth - 1 := by
  rcases Move.own_cases h with hgoes | rfl
  · rw [if_pos hgoes, depth_of_pop? (pop?_after hgoes)]
  · rw [if_neg (by simp [Move.goes]), after]
    cases hpop : t.pop? with
    | none => simp [pop?_eq_none_iff.mp hpop]
    | some u => simp [depth_of_pop? hpop]

theorem depth_foldl_after (h : ∀ m ∈ moves, m.isOwn) :
    (moves.foldl after t).depth = Move.left t.depth moves := by
  rw [Move.left]
  induction moves generalizing t with
  | nil => rfl
  | cons m rest ih =>
      rw [List.forall_mem_cons] at h
      rw [List.foldl_cons, List.foldl_cons, ih h.2, depth_after h.1]

theorem undo?_foldl_after (h : ∀ m ∈ moves, m.isOwn) {n : Nat} (hundo : undo? n u = some t)
    (hfront : ∀ front, front <+: moves → Move.popped front ≤ n + Move.went front) :
    undo? (n + Move.went moves - Move.popped moves) (moves.foldl after u) = some t := by
  induction moves generalizing n u with
  | nil => exact hundo
  | cons m rest ih =>
      rw [List.forall_mem_cons] at h
      rcases Move.own_cases h.1 with hgoes | rfl
      · have hnext : undo? (n + 1) (u.after m) = some t := by
          rw [undo?, pop?_after hgoes]
          exact hundo
        have hrest := ih h.2 hnext fun front hp => by
          have := hfront (m :: front) (List.cons_prefix_cons.mpr ⟨rfl, hp⟩)
          rw [Move.went_cons_of_goes hgoes, Move.popped_cons_of_goes hgoes] at this
          omega
        rwa [Move.went_cons_of_goes hgoes, Move.popped_cons_of_goes hgoes, List.foldl_cons,
          show n + (Move.went rest + 1) = n + 1 + Move.went rest by omega]
      · cases n with
        | zero =>
            have := hfront [.pop] (List.cons_prefix_cons.mpr ⟨rfl, List.nil_prefix⟩)
            simp at this
        | succ n =>
            obtain ⟨v, hpop, hundo⟩ := Option.bind_eq_some_iff.mp hundo
            have hrest := ih (n := n) h.2 (u := u.after .pop) (by simpa [after, hpop] using hundo)
              fun front hp => by
                have := hfront (.pop :: front) (List.cons_prefix_cons.mpr ⟨rfl, hp⟩)
                rw [Move.went_cons_pop, Move.popped_cons_pop] at this
                omega
            rwa [Move.went_cons_pop, Move.popped_cons_pop, List.foldl_cons,
              show n + 1 + Move.went rest - (Move.popped rest + 1) =
                n + Move.went rest - Move.popped rest by omega]

theorem foldl_after_of_balanced (h : Move.Balanced moves) : moves.foldl after t = t := by
  have hundo := undo?_foldl_after (u := t) (n := 0) h.own rfl fun front hp => by
    simpa using h.popped_le front hp
  rw [Nat.zero_add, h.popped_eq, Nat.sub_self] at hundo
  exact Option.some.inj hundo

end Tree

namespace Walk

variable {w : Walk} {t u : Tree} {m : Move} {moves : List Move} {place : Nat}

/-- The moves of the tree at a place, from when it is there. -/
def log (w : Walk) (place : Nat) : List Move → List Move
  | [] => []
  | m :: rest =>
      if w.active = place ∧ m.isOwn then m :: (w.move m).log place rest
      else (w.move m).log place rest

theorem isOwn_of_mem_log (h : m ∈ w.log place moves) : m.isOwn := by
  induction moves generalizing w with
  | nil => cases h
  | cons first rest ih =>
      rw [log] at h
      split at h
      · next hown =>
        rcases List.mem_cons.mp h with rfl | h
        · exact hown.2
        · exact ih h
      · exact ih h

theorem replace_self (h : w.trees[w.active]? = some t) : w.replace t = w := by
  obtain ⟨hlt, rfl⟩ := List.getElem?_eq_some_iff.mp h
  rw [replace, List.set_getElem_self]

theorem act_of_own (ht : w.trees[w.active]? = some t) (hm : m.isOwn) :
    w.act t m = w.replace (t.after m) := by
  rcases Move.own_cases hm with hgoes | rfl
  · cases m with
    | push | pushToken | pushIndex | jumpTo => rfl
    | pop | fork | switch => cases hgoes
  · rw [act, Tree.after]
    cases t.pop? with
    | none => exact (replace_self ht).symm
    | some u => rfl

theorem move_of_own (ht : w.trees[w.active]? = some t) (hm : m.isOwn) :
    w.move m = w.replace (t.after m) := by
  rw [move, ht]
  exact act_of_own ht hm

theorem move_of_no_tree (h : w.trees[w.active]? = none) : w.move m = w := by
  rw [move, h]

theorem move_pop (ht : w.trees[w.active]? = some t) (hpop : t.pop? = none) : w.move .pop = w := by
  rw [move_of_own ht rfl, Tree.after, hpop]
  exact replace_self ht

theorem trees_move_switch (w : Walk) (next : Nat) : (w.move (.switch next)).trees = w.trees := by
  rw [move]
  split
  · simp only [act]
    split <;> rfl
  · rfl

theorem run_of_own (ht : w.trees[w.active]? = some t) (h : ∀ m ∈ moves, m.isOwn) :
    w.run moves = w.replace (moves.foldl Tree.after t) := by
  induction moves generalizing w t with
  | nil => exact (replace_self ht).symm
  | cons m rest ih =>
      rw [List.forall_mem_cons] at h
      have hlt := (List.getElem?_eq_some_iff.mp ht).1
      have hnext : (w.replace (t.after m)).trees[(w.replace (t.after m)).active]? =
          some (t.after m) := List.getElem?_set_self hlt
      rw [run, List.foldl_cons, move_of_own ht h.1, ← run, ih hnext h.2, List.foldl_cons]
      simp [replace]

theorem run_of_balanced (h : Move.Balanced moves) : w.run moves = w := by
  cases ht : w.trees[w.active]? with
  | none =>
      rw [run]
      exact List.foldl_fixed' (fun m => move_of_no_tree ht) moves
  | some t => rw [run_of_own ht h.own, Tree.foldl_after_of_balanced h, replace_self ht]

theorem trees_move (hu : w.trees[place]? = some u) : (w.move m).trees[place]? =
    some (if w.active = place ∧ m.isOwn then u.after m else u) := by
  have hlt := (List.getElem?_eq_some_iff.mp hu).1
  cases ht : w.trees[w.active]? with
  | none =>
      have hne : w.active ≠ place := by
        rintro rfl
        cases ht.symm.trans hu
      rw [move_of_no_tree ht, hu, if_neg fun h => hne h.1]
  | some t =>
      rcases m.own_or with hm | rfl | ⟨next, rfl⟩
      · rw [move_of_own ht hm, replace, List.getElem?_set]
        by_cases hplace : w.active = place
        · subst hplace
          obtain rfl := Option.some.inj (ht.symm.trans hu)
          simp [hm, hlt]
        · simp [hplace, hu]
      · rw [move, ht, if_neg (by simp [Move.isOwn, Move.goes])]
        exact (List.getElem?_append_left hlt).trans hu
      · rw [trees_move_switch, hu, if_neg (by simp [Move.isOwn, Move.goes])]

theorem trees_run (hu : w.trees[place]? = some u) :
    (w.run moves).trees[place]? = some ((w.log place moves).foldl Tree.after u) := by
  induction moves generalizing w u with
  | nil => exact hu
  | cons m rest ih =>
      rw [run, List.foldl_cons, ← run, ih (trees_move hu), log]
      split <;> rfl

theorem depth_run (hu : w.trees[place]? = some u) (ht : (w.run moves).trees[place]? = some t) :
    t.depth = Move.left u.depth (w.log place moves) := by
  rw [trees_run hu] at ht
  rw [← Option.some.inj ht, Tree.depth_foldl_after fun m => isOwn_of_mem_log]

theorem active_lt_move (h : w.active < w.trees.length) :
    (w.move m).active < (w.move m).trees.length := by
  obtain ⟨t, ht⟩ : ∃ t, w.trees[w.active]? = some t := ⟨_, List.getElem?_eq_getElem h⟩
  rcases m.own_or with hm | rfl | ⟨next, rfl⟩
  · rw [move_of_own ht hm]
    simpa [replace] using h
  · simp [move, ht, act]
  · rw [move, ht]
    simp only [act]
    split
    · assumption
    · exact h

theorem depth_of_forked (hu : w.trees[place]? = none) (ht : (w.move m).trees[place]? = some t) :
    t.depth = 0 := by
  have hle := List.getElem?_eq_none_iff.mp hu
  cases hactive : w.trees[w.active]? with
  | none =>
      rw [move_of_no_tree hactive] at ht
      cases hu.symm.trans ht
  | some v =>
      rcases m.own_or with hm | rfl | ⟨next, rfl⟩
      · have hlt := (List.getElem?_eq_some_iff.mp ht).1
        rw [move_of_own hactive hm, replace, List.length_set] at hlt
        omega
      · rw [move, hactive] at ht
        simp only [act] at ht
        rw [List.getElem?_append_right hle] at ht
        rw [List.mem_singleton.mp (List.mem_of_getElem? ht)]
        rfl
      · rw [trees_move_switch] at ht
        cases hu.symm.trans ht

theorem depth_run_of_forked (hactive : w.active < w.trees.length) (hu : w.trees[place]? = none)
    (ht : (w.run moves).trees[place]? = some t) : t.depth = Move.left 0 (w.log place moves) := by
  induction moves generalizing w with
  | nil => cases hu.symm.trans ht
  | cons m rest ih =>
      have hle := List.getElem?_eq_none_iff.mp hu
      have hlog : w.log place (m :: rest) = (w.move m).log place rest := by
        rw [log, if_neg (by omega)]
      rw [run, List.foldl_cons, ← run] at ht
      rw [hlog]
      cases hnext : (w.move m).trees[place]? with
      | none => exact ih (active_lt_move hactive) hnext ht
      | some u => rw [depth_run hnext ht, depth_of_forked hu hnext]

def saved (t : Tree) (place : Nat) : Nat := if place = 0 then t.depth else 0

theorem depth_run_start (hu : ((start t).run moves).trees[place]? = some u) :
    u.depth = Move.left (saved t place) ((start t).log place moves) := by
  rw [saved]
  split
  · next hplace => exact depth_run (by rw [hplace]; rfl) hu
  · next hplace =>
    refine depth_run_of_forked Nat.one_pos ?_ hu
    exact List.getElem?_eq_none_iff.mpr (Nat.one_le_iff_ne_zero.mpr hplace)

/-- Moves that are all undone, whatever moves and pops there are in between, leave everything as it
was. In any walk a pop fails exactly if the tree has no move left to undo, and changes nothing. -/
theorem moves_undone (t : Tree) (moves : List Move) :
    let w := (start t).run moves
    (Move.Balanced moves → w = start t) ∧
    ∀ place u, w.trees[place]? = some u →
      (u.pop? = none ↔ Move.Spent (saved t place) ((start t).log place moves)) ∧
      (w.active = place → u.pop? = none → w.move .pop = w) := by
  refine ⟨run_of_balanced, ?_⟩
  intro place u hu
  refine ⟨?_, ?_⟩
  · rw [Tree.pop?_eq_none_iff, depth_run_start hu, Move.left_eq_zero_iff]
    exact fun m => isOwn_of_mem_log
  · rintro rfl hpop
    exact move_pop hu hpop

def roundabout : List Move :=
  [.pushToken "c".toList, .pushIndex 0, .jumpTo ⟨["z".toList, "z".toList]⟩, .push ⟨["b".toList]⟩,
    .pop, .pop, .jumpTo .root, .pop, .pop, .pop]

theorem moves_undone_roundabout :
    let t := (Tree.make .empty nested .canonical).push ⟨["b".toList]⟩
    let moves : List Move := [.pushIndex 0, .fork, .pop, .pushIndex 1, .pop]
    let w := (start t).run moves
    Move.Balanced roundabout ∧ (start t).run roundabout = start t ∧
    Move.Spent (saved t 1) ((start t).log 1 moves) ∧
    (w.trees.map fun u => u.pop?.isSome) = [true, false] ∧ w.move .pop = w := by
  intro t moves w
  have hbalanced : Move.Balanced roundabout := by
    refine ⟨by decide, ?_, by decide⟩
    simp only [← List.mem_inits]
    decide
  have hlog : (start t).log 1 moves = [.pop, .pushIndex 1, .pop] := by decide +kernel
  have hspent : Move.Spent (saved t 1) ((start t).log 1 moves) := by
    rw [hlog]
    refine ⟨by decide, ?_⟩
    simp only [← List.mem_tails]
    decide
  have hpops : (w.trees.map fun u => u.pop?.isSome) = [true, false] := by decide +kernel
  obtain ⟨u, hu⟩ : ∃ u, w.trees[1]? = some u := ⟨_, rfl⟩
  have hfork := (moves_undone t moves).2 1 u hu
  exact ⟨hbalanced, (moves_undone t roundabout).1 hbalanced, hspent, hpops,
    hfork.2 (by decide +kernel) (hfork.1.mpr hspent)⟩

end Walk
end JsonReference
