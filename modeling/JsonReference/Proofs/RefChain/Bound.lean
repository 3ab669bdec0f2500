import JsonReference.Proofs.RefChain.Route

namespace JsonReference.RefChain

open Operation

variable {l : Loader} {c : RefChain} {t : Tree} {maxDepth left m m' : Nat}
  {result : Except ChainError RefChain × Loader}

def exceeded : Except ChainError RefChain → Bool
  | .error (.depthExceeded ..) => true
  | _ => false

theorem Stop.follow_eq (h : Stop maxDepth l c left result) :
    follow maxDepth left l c = result := by
  cases h with
  | done hraw => cases left <;> simp only [follow, target?_of_no_refText hraw]
  | invalid hraw hparse => cases left <;> simp only [follow, target?, hraw, hparse]
  | exhausted hcites => simp only [follow, target?_of_cites hcites]
  | lost hcites hland => rw [follow_succ _ _ l c (target?_of_cites hcites), hop, hland]
  | loop hleads hmet =>
      have hcites := (leads_iff.mp hleads).1
      rw [follow_succ _ _ l c (target?_of_cites hcites), hop_of_leads hleads, if_pos hmet]

/-- A chain is stopped by its bound, or it would stop in the same way with more hops to spare. -/
theorem Stop.of_le (h : Stop m l c left result) (m' : Nat) {left' : Nat} (hle : left ≤ left') :
    exceeded result.1 = true ∨ exceeded result.1 = false ∧ Stop m' l c left' result := by
  cases h with
  | done hraw => exact .inr ⟨rfl, .done hraw⟩
  | invalid hraw hparse => exact .inr ⟨rfl, .invalid hraw hparse⟩
  | exhausted => exact .inl rfl
  | lost hcites hland =>
      obtain ⟨left', rfl⟩ := Nat.exists_eq_add_of_le' (Nat.le_of_add_left_le hle)
      refine .inr ⟨?_, .lost hcites hland⟩
      rcases land_error (congrArg Prod.fst hland) with ⟨e, rfl⟩ | rfl <;> rfl
  | loop hleads hmet =>
      obtain ⟨left', rfl⟩ := Nat.exists_eq_add_of_le' (Nat.le_of_add_left_le hle)
      exact .inr ⟨rfl, .loop hleads hmet⟩

theorem resolve_of_le (l : Loader) (t : Tree) (hle : m ≤ m') :
    exceeded (resolve l m t).1 = true ∨
    exceeded (resolve l m t).1 = false ∧ resolve l m' t = resolve l m t := by
  obtain ⟨route, e, hroute, hlength, hnodup, hstop⟩ :=
    follow_stops m m l (start t) List.nodup_nil
  refine (hstop.of_le m' (Nat.sub_le_sub_right hle route.length)).imp_right ?_
  rintro ⟨hwithin, hraised⟩
  refine ⟨hwithin, ?_⟩
  calc resolve l m' t
      = follow m' (m' - route.length) e.2 ((start t).after route e.1) :=
        follow_route hroute rfl hnodup (hlength.trans hle)
    _ = resolve l m t := hraised.follow_eq

/-- Whatever was asked of two loaders of one configuration into which the same bundles were put: what
comes of a chain within a bound comes of it under every larger one as well, and if the larger one is
exceeded, so is the smaller. -/
theorem resolve_raised {config : Config} (hc : config.Built) (hd : config.ByLocator) (k k' : Nat)
    {ops ops' : List Operation} (ho : ∀ op ∈ ops, op.Obtained) (ho' : ∀ op ∈ ops', op.Obtained)
    (hbundles : ops.filter isBundle = ops'.filter isBundle) (ht : t.Obtained) (hle : m ≤ m') :
    let l := (run ops (.make (config.setCacheSize k))).2
    let l' := (run ops' (.make (config.setCacheSize k'))).2
    (exceeded (resolve l m t).1 = false → (resolve l' m' t).1 = (resolve l m t).1) ∧
    (exceeded (resolve l' m' t).1 = true → exceeded (resolve l m t).1 = true) := by
  intro l l'
  have hanswer : (resolve l m' t).1 = (resolve l' m' t).1 :=
    (transparent_resolve m' ht).answer l l' (agree_of_bundles hc hd k k' ho ho' hbundles)
  rw [← hanswer]
  rcases resolve_of_le l t hle with hexceeded | ⟨hwithin, hsame⟩
  · exact ⟨fun hwithin => absurd hwithin (by simp [hexceeded]), fun _ => hexceeded⟩
  · exact ⟨fun _ => congrArg Prod.fst hsame, fun hexceeded => hsame ▸ hexceeded⟩

theorem resolve_raised_outside :
    ∃ l l' chain, l = Loader.make (filed.setCacheSize 8) ∧
      l' = (run visits (.make (filed.setCacheSize 0))).2 ∧
      (resolve l 2 outside).1 = .error (.loop chain) ∧
      (resolve l' defaultMaxDepth outside).1 = .error (.loop chain) ∧
      exceeded (resolve l' 1 outside).1 = true ∧ exceeded (resolve l 0 outside).1 = true := by
  have ht : outside.Obtained := .make .empty _ _
  have ho : ∀ op ∈ visits, op.Obtained := by simp [visits, Operation.Obtained, ht]
  have hnone : ∀ op ∈ ([] : List Operation), op.Obtained := by simp
  have hloop : (loop? (resolve (.make (filed.setCacheSize 8)) 2 outside).1).isSome := by
    decide +kernel
  have hone : exceeded (resolve (run visits (.make (filed.setCacheSize 0))).2 1 outside).1 = true := by
    decide +kernel
  obtain ⟨chain, hchain⟩ := Option.isSome_iff_exists.mp hloop
  have htwo := loop?_some hchain
  obtain ⟨-, hzero⟩ :=
    resolve_raised built_filed byLocator_filed 8 0 hnone ho rfl ht (Nat.zero_le 1)
  obtain ⟨hraised, -⟩ :=
    resolve_raised built_filed byLocator_filed 8 0 hnone ho rfl ht (show 2 ≤ defaultMaxDepth by decide)
  exact ⟨_, _, chain, rfl, rfl, htwo, (hraised (congrArg exceeded htwo)).trans htwo, hone, hzero hone⟩

end JsonReference.RefChain
