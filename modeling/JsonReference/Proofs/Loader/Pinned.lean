import JsonReference.Proofs.Loader.Asked

namespace JsonReference

namespace Loader

variable {l l' l'' : Loader}

/-- A loader at a later time: it has the same configuration, what was pinned still is or something
else is in its place, and no request was made for what was pinned. -/
structure Later (l l' : Loader) : Prop where
  config_eq : l'.config = l.config
  pinned : ∀ key, (l.cache.pinned.find? key).isSome → (l'.cache.pinned.find? key).isSome
  requests : ∃ made, l'.requests = made ++ l.requests ∧
    ∀ q ∈ made, l.cache.pinned.find? q.locator = none

namespace Later

theorem refl (l : Loader) : l.Later l := ⟨rfl, fun _ h => h, [], rfl, by simp⟩

theorem trans (h : l.Later l') (h' : l'.Later l'') : l.Later l'' := by
  obtain ⟨made, hmade, hunpinned⟩ := h.requests
  obtain ⟨made', hmade', hunpinned'⟩ := h'.requests
  refine ⟨h'.config_eq.trans h.config_eq, fun key hp => h'.pinned key (h.pinned key hp),
    made' ++ made, by rw [hmade', hmade, List.append_assoc], ?_⟩
  intro q hq
  rcases List.mem_append.mp hq with hq | hq
  -- What was pinned at first was so when this request was made.
  · by_contra hp
    have hstill := h.pinned q.locator (Option.isSome_iff_ne_none.mpr hp)
    simp [hunpinned' q hq] at hstill
  · exact hunpinned q hq

end Later

theorem later_document (l : Loader) (requested : Reference) : l.Later (l.document requested).2 := by
  refine ⟨rfl, fun key hp => ?_, _, rfl, ?_⟩
  · rw [document]
    exact (Cache.getOrFill_pinned _ _ _).symm ▸ hp
  · intro q hq
    split at hq
    · next hran =>
      obtain ⟨d, -, rfl⟩ := Option.map_eq_some_iff.mp (Option.mem_toList.mp hq)
      exact Cache.find?_pinned_of_ran hran
    · simp at hq

theorem later_pin (l : Loader) (key : Text) (document : Json) :
    l.Later { l with cache := (l.cache.pin key document).2 } := by
  refine ⟨rfl, fun k hk => ?_, [], rfl, by simp⟩
  rw [Cache.pin_pinned, Table.find?_put]
  split
  · rfl
  · exact hk

theorem kept_later (l : Loader) : Kept l.Later where
  document l' requested h := h.trans (later_document l' requested)
  pin l' key document h := h.trans (later_pin l' key document)
  clear _ h := h.trans ⟨rfl, fun _ hk => hk, [], rfl, by simp⟩

theorem Asked.pinned_eq (h : l.Asked l') : l'.cache.pinned = l.cache.pinned := by
  induction h with
  | refl => rfl
  | tail _ hstep ih =>
      obtain ⟨requested, rfl⟩ := hstep
      exact (Cache.getOrFill_pinned _ _ _).trans ih

theorem getRef_of_pinned {r : Reference} {document : Json}
    (ha : (l.config.base.resolve r).isAbsolute)
    (hp : l.cache.pinned.find? (l.cacheKey (l.config.base.resolve r)) = some document) :
    l.getRef r =
      (.ok (.make (l.config.base.resolve r).toLocator document l.config.dereferencing), l) := by
  have hget : l.cache.get (l.cacheKey (l.config.base.resolve r)) = (some document, l.cache) := by
    simp only [Cache.get, hp]
  rw [getRef_of_absolute ha, document_of_get hget]
  rfl

/-- What a bundle pins: its documents before the first with a name that is not absolute. -/
def pinnable (documents : List (Reference × Json)) : List (Reference × Json) :=
  documents.takeWhile (·.1.isAbsolute)

theorem addBundle_fst (l : Loader) (documents : List (Reference × Json)) :
    (l.addBundle documents).1 =
      match documents.find? (!·.1.isAbsolute) with
      | some d => .error (.notAbsolute d.1.text)
      | none => .ok () := by
  induction documents generalizing l with
  | nil => rfl
  | cons d rest ih =>
      cases ha : d.1.isAbsolute with
      | true =>
          rw [addBundle, if_pos ha, ih, List.find?_cons_of_neg (by simp [ha])]
      | false =>
          rw [addBundle, if_neg (by simp [ha]), List.find?_cons_of_pos (by simp [ha])]

theorem addBundle_pinnable (l : Loader) (documents : List (Reference × Json)) :
    (l.addBundle documents).2 = (l.addBundle (pinnable documents)).2 := by
  induction documents generalizing l with
  | nil => rfl
  | cons d rest ih =>
      cases ha : d.1.isAbsolute with
      | true =>
          rw [pinnable,
            List.takeWhile_cons_of_pos (p := fun d : Reference × Json => d.1.isAbsolute) ha,
            addBundle, addBundle, if_pos ha, if_pos ha]
          exact ih _
      | false =>
          rw [pinnable, List.takeWhile_cons_of_neg (by simp [ha]), addBundle, addBundle,
            if_neg (by simp [ha])]

theorem pinned_addBundle (l : Loader) (documents : List (Reference × Json)) :
    (l.addBundle documents).2.cache.pinned = (pinnable documents).foldl
      (fun pinned d => pinned.put (l.config.redirect d.1).locator d.2) l.cache.pinned := by
  induction documents generalizing l with
  | nil => rfl
  | cons d rest ih =>
      cases ha : d.1.isAbsolute with
      | true =>
          rw [addBundle, if_pos ha, ih, pinnable, pinnable,
            List.takeWhile_cons_of_pos (p := fun d : Reference × Json => d.1.isAbsolute) ha]
          rfl
      | false =>
          rw [addBundle, if_neg (by simp [ha]), pinnable, List.takeWhile_cons_of_neg (by simp [ha])]
          rfl

end Loader

namespace Operation

variable {l : Loader}

def pins : Operation → List (Reference × Json)
  | .addBundle documents => Loader.pinnable documents
  | _ => []

def lastPinned? (config : Config) (ops : List Operation) (key : Text) : Option Json :=
  ((config.preloaded ++ ops.flatMap pins).reverse.find? fun d =>
    (config.redirect d.1).locator = key).map (·.2)

theorem pinned_perform (op : Operation) (l : Loader) :
    (op.perform l).2.cache.pinned = op.pins.foldl
      (fun pinned d => pinned.put (l.config.redirect d.1).locator d.2) l.cache.pinned := by
  cases op with
  | addBundle documents => exact l.pinned_addBundle documents
  | clear => rfl
  | get | getRef | load | resolve | checkRefs =>
      exact Loader.Asked.pinned_eq (by exact asked_perform l rfl nofun)

theorem pinned_run (ops : List Operation) (l : Loader) :
    (run ops l).2.cache.pinned = (ops.flatMap pins).foldl
      (fun pinned d => pinned.put (l.config.redirect d.1).locator d.2) l.cache.pinned := by
  induction ops generalizing l with
  | nil => rfl
  | cons op rest ih =>
      have hconfig : (op.perform l).2.config = l.config :=
        ((Loader.kept_later l).perform (.refl l) op).config_eq
      rw [run, ih, hconfig, pinned_perform, List.flatMap_cons, List.foldl_append]

theorem find?_pinned_run (config : Config) (ops : List Operation) (key : Text) :
    (run ops (.make config)).2.cache.pinned.find? key = lastPinned? config ops key := by
  rw [pinned_run, Loader.pinned_make]
  exact (congrArg (Table.find? key) List.foldl_append.symm).trans
    ((Table.find?_foldl_put _ _ _ _ _).trans Option.or_none)

/-- What is pinned after a history is what was pinned last under each key. A reference to it gets
that document, and leaves the loader as it is; and no downloader is asked for it in any history that
comes after. A bundle that fails pins its documents before the first with a name that is not
absolute, and no others. -/
theorem pinned_served (config : Config) (ops : List Operation) :
    let l := (run ops (.make config)).2
    (∀ key, l.cache.pinned.find? key = lastPinned? config ops key) ∧
    (∀ (r : Reference) (document : Json), (config.base.resolve r).isAbsolute →
      lastPinned? config ops (l.cacheKey (config.base.resolve r)) = some document →
      l.getRef r =
        (.ok (.make (config.base.resolve r).toLocator document config.dereferencing), l)) ∧
    (∀ (uri : Text) (r : Reference), Reference.parse uri = .ok r → l.get uri = l.getRef r) ∧
    (∀ later, ∃ made, (run later l).2.requests = made ++ l.requests ∧
      ∀ q ∈ made, lastPinned? config ops q.locator = none) ∧
    ∀ documents, (l.addBundle documents).2 = (l.addBundle (Loader.pinnable documents)).2 ∧
      (l.addBundle documents).1 =
        match documents.find? (!·.1.isAbsolute) with
        | some d => .error (.notAbsolute d.1.text)
        | none => .ok () := by
  intro l
  have hpinned := find?_pinned_run config ops
  have hconfig : l.config = config :=
    ((Loader.kept_later (.make config)).run (.refl _) ops).config_eq
  refine ⟨hpinned, ?_, ?_, ?_, ?_⟩
  · intro r document ha hlast
    have hserved := @Loader.getRef_of_pinned l r document
    rw [hconfig] at hserved
    exact hserved ha ((hpinned _).trans hlast)
  · intro uri r hparse
    exact Loader.get_of_parse hparse l
  · intro later
    obtain ⟨made, hmade, hunpinned⟩ := ((Loader.kept_later l).run (.refl l) later).requests
    exact ⟨made, hmade, fun q hq => (hpinned q.locator).symm.trans (hunpinned q hq)⟩
  · intro documents
    exact ⟨l.addBundle_pinnable documents, l.addBundle_fst documents⟩

def redirected : Config :=
  { Config.bare with
    cacheSize := 0
    schemaRedirects := [("urn:a".toList, .ofOpaque "urn".toList "d".toList)] }

def preloaded : Config :=
  { redirected with preloaded := [(.ofOpaque "urn".toList "d".toList, .bool false)] }

theorem pinned_served_bundled :
    ∃ redirected config a b d relative,
      (Config.bare.setCacheSize 0).addSchemaRedirect "urn:a".toList "urn:d".toList =
        .ok redirected ∧
      redirected.preloadAt "urn:d".toList (.bool false) = .ok config ∧
      Reference.parse "urn:a".toList = .ok a ∧ Reference.parse "urn:b".toList = .ok b ∧
      Reference.parse "urn:d".toList = .ok d ∧ Reference.parse "r".toList = .ok relative ∧
      let ops := [.addBundle [(a, .bool true), (relative, .null), (b, .null)], .getRef b, .clear]
      let l := (run ops (.make config)).2
      l.get "urn:d".toList = (.ok (.make d (.bool true) .standard), l) ∧
      lastPinned? config ops b.locator = none := by
  have hd : Reference.parse "urn:d".toList = .ok (.ofOpaque "urn".toList "d".toList) := by rfl
  refine ⟨redirected, preloaded, .ofOpaque "urn".toList "a".toList,
    .ofOpaque "urn".toList "b".toList, _, .ofPath "r".toList,
    by rfl, by rfl, by rfl, by rfl, hd, by rfl, ?_⟩
  intro ops l
  obtain ⟨-, hserved, hget, -⟩ := pinned_served preloaded ops
  refine ⟨?_, by decide +kernel⟩
  rw [hget _ _ hd]
  refine hserved _ (.bool true) rfl ?_
  have hpinned : (preloaded.preloaded ++ ops.flatMap pins).reverse =
      [(.ofOpaque "urn".toList "a".toList, .bool true),
        (.ofOpaque "urn".toList "d".toList, .bool false)] := by rfl
  rw [lastPinned?, hpinned, List.find?_cons_of_pos (by decide +kernel)]
  rfl

end Operation

end JsonReference
