import JsonReference.Proofs.Cache.Recency
import JsonReference.Proofs.Loader.Asked

namespace JsonReference

namespace Config

variable {c : Config} {a b r r' : Reference}

def RedirectsTo (c : Config) (a b : Reference) : Prop :=
  ∃ target, c.schemaRedirects.find? a.locator = some target ∧ target.locator = b.locator

def rewritten (c : Config) (locator : Text) : Text :=
  match (substitute? locator c.pathRules).map Reference.parse with
  | some (.ok changed) => changed.locator
  | _ => locator

theorem locator_redirect (c : Config) (r : Reference) :
    (c.redirect r).locator = c.rewritten (c.schemaTarget r).locator := by
  rw [redirect, rewritten]
  cases substitute? (c.schemaTarget r).locator c.pathRules with
  | none => rfl
  | some text =>
      simp only [Option.map_some]
      cases Reference.parse text <;> rfl

theorem locator_schemaTarget (c : Config) (r : Reference) :
    (c.schemaTarget r).locator =
      ((c.schemaRedirects.find? r.locator).map Reference.locator).getD r.locator := by
  rw [schemaTarget]
  cases c.schemaRedirects.find? r.locator <;> rfl

def AsksFor (c : Config) (locators : List Text) (r : Reference) : Prop :=
  (c.base.resolve r).isAbsolute ∧ (c.base.resolve r).locator ∈ locators

end Config

namespace Loader

variable {l : Loader} {a b r r' : Reference} {config : Config}

theorem cacheKey_eq (l : Loader) (r : Reference) :
    l.cacheKey r = l.config.rewritten (l.config.schemaTarget r).locator :=
  l.config.locator_redirect r.toLocator

theorem cacheKey_congr (h : r.locator = r'.locator) : l.cacheKey r = l.cacheKey r' := by
  rw [cacheKey_eq, cacheKey_eq, Config.locator_schemaTarget, Config.locator_schemaTarget, h]

theorem cacheKey_of_redirectsTo (h : l.config.RedirectsTo a b) :
    l.cacheKey a = l.config.rewritten b.locator := by
  obtain ⟨target, hfind, htarget⟩ := h
  rw [cacheKey_eq, Config.locator_schemaTarget, hfind, ← htarget]
  rfl

theorem cacheKey_of_unredirected (h : l.config.schemaRedirects.find? b.locator = none) :
    l.cacheKey b = l.config.rewritten b.locator := by
  rw [cacheKey_eq, Config.locator_schemaTarget, h]
  rfl

theorem documentKey_of_absolute {t : Tree} (h : t.loadingRef.uri.isAbsolute) :
    l.documentKey t = .located (l.cacheKey t.loadingRef) := by
  obtain ⟨scheme, hscheme⟩ := Option.isSome_iff_exists.mp h
  have hlocator : t.loadingRef.locator.isEmpty = false := by
    rw [Reference.locator, Uri.text, show t.loadingRef.uri.withoutFragment.scheme = some scheme from
      hscheme]
    simp
  rw [documentKey, hlocator]
  rfl

/-- What it keeps whatever is done with it: the configuration, and a cache in good order. -/
structure Steady (config : Config) (l : Loader) : Prop where
  config_eq : l.config = config
  sound : l.cache.Sound
  capacity_eq : l.cache.capacity = config.cacheSize

theorem kept_steady (config : Config) : Kept (Steady config) where
  document _ _ h := ⟨h.config_eq, h.sound.getOrFill _ _,
    (Cache.getOrFill_capacity _ _ _).trans h.capacity_eq⟩
  pin _ key document h := ⟨h.config_eq, h.sound.pin key document, h.capacity_eq⟩
  clear _ h := ⟨h.config_eq, h.sound.clear, h.capacity_eq⟩

theorem steady_make (config : Config) : (make config).Steady config := by
  have hcache : (make config).cache.Sound ∧ (make config).cache.capacity = config.cacheSize :=
    List.foldlRecOn (motive := fun c : Cache => c.Sound ∧ c.capacity = config.cacheSize)
      config.preloaded _ ⟨.empty _, rfl⟩ fun _ h d _ => ⟨h.1.pin _ d.2, h.2⟩
  exact ⟨rfl, hcache.1, hcache.2⟩

theorem getRef_again (h : l.Steady config) {t : Tree} (ht : (l.getRef r).1 = .ok t)
    (ha : (config.base.resolve r').isAbsolute)
    (hkey : l.cacheKey (config.base.resolve r) = l.cacheKey (config.base.resolve r'))
    (hroom : config.cacheSize ≠ 0 ∨
      (l.cache.pinned.find? (l.cacheKey (config.base.resolve r))).isSome) :
    ∃ t', ((l.getRef r).2.getRef r').1 = .ok t' ∧ t'.document = t.document ∧
      ((l.getRef r).2.getRef r').2.requests = (l.getRef r).2.requests := by
  obtain rfl := h.config_eq
  obtain ⟨ha', document, hd, rfl⟩ := getRef_ok ht
  rw [← h.capacity_eq] at hroom
  have hconfig : (l.getRef r).2.config = l.config := by
    rw [getRef_of_absolute ha']
    rfl
  have hheld : ((l.getRef r).2.cache.get ((l.getRef r).2.cacheKey (l.config.base.resolve r'))).1 =
      some document := by
    rw [getRef_of_absolute ha']
    exact hkey ▸ h.sound.get_getOrFill hroom hd
  obtain ⟨cache, hget⟩ : ∃ cache, (l.getRef r).2.cache.get
      ((l.getRef r).2.cacheKey (l.config.base.resolve r')) = (some document, cache) :=
    ⟨_, Prod.ext hheld rfl⟩
  rw [getRef_of_absolute (l := (l.getRef r).2) (by rwa [hconfig]), hconfig, document_of_get hget]
  exact ⟨_, rfl, rfl, rfl⟩

end Loader

namespace Operation

/-- The source of a redirect goes by the key of its target just if the path rules make the same of
that and of what it is redirected to itself, and so if it is redirected to nothing. By one key they
are the same document for chains, and what one of them gives is given for the other without a
request, where the cache has room for it or it is pinned. -/
theorem shared_iff_of_redirect {config : Config} {a b : Reference} (h : config.RedirectsTo a b)
    (ops : List Operation) :
    let l := (run ops (.make config)).2
    (l.cacheKey a = l.cacheKey b ↔
      config.rewritten b.locator = config.rewritten (config.schemaTarget b).locator) ∧
    (config.schemaRedirects.find? b.locator = none → l.cacheKey a = l.cacheKey b) ∧
    (∀ t t' : Tree, t.loadingRef.uri.isAbsolute → t'.loadingRef.uri.isAbsolute →
      t.loadingRef.locator = a.locator → t'.loadingRef.locator = b.locator →
      (l.documentKey t = l.documentKey t' ↔ l.cacheKey a = l.cacheKey b)) ∧
    (l.cacheKey a = l.cacheKey b →
      config.cacheSize ≠ 0 ∨ (l.cache.pinned.find? (l.cacheKey a)).isSome →
      ∀ (r r' : Reference) (t : Tree), config.AsksFor [a.locator, b.locator] r →
        config.AsksFor [a.locator, b.locator] r' → (l.getRef r).1 = .ok t →
        ∃ t', ((l.getRef r).2.getRef r').1 = .ok t' ∧ t'.document = t.document ∧
          ((l.getRef r).2.getRef r').2.requests = (l.getRef r).2.requests) := by
  intro l
  have hl : l.Steady config := (Loader.kept_steady config).run (Loader.steady_make config) ops
  have hconfig := hl.config_eq
  have hredirect : l.config.RedirectsTo a b := hconfig.symm ▸ h
  have ha := Loader.cacheKey_of_redirectsTo hredirect
  refine ⟨?_, ?_, ?_, ?_⟩
  · rw [ha, Loader.cacheKey_eq, hconfig]
  · intro hnone
    rw [ha, Loader.cacheKey_of_unredirected (hconfig.symm ▸ hnone)]
  · intro t t' ht ht' hlocator hlocator'
    rw [Loader.documentKey_of_absolute ht, Loader.documentKey_of_absolute ht',
      Loader.cacheKey_congr hlocator, Loader.cacheKey_congr hlocator', DocumentKey.located.injEq]
  · intro hkey hroom r r' t hr hr' ht
    -- Both names give this one key, so the cache does not tell which of them is asked for.
    have hshared (r : Reference) (hr : config.AsksFor [a.locator, b.locator] r) :
        l.cacheKey (config.base.resolve r) = l.cacheKey a := by
      rcases List.mem_pair.mp hr.2 with hlocator | hlocator
      · exact Loader.cacheKey_congr hlocator
      · exact (Loader.cacheKey_congr hlocator).trans hkey.symm
    apply Loader.getRef_again hl ht hr'.1
    · rw [hshared r hr, hshared r' hr']
    · rwa [hshared r hr]

def outer : Reference := .ofOpaque "urn".toList "a".toList

def inner : Reference := .ofOpaque "urn".toList "b".toList

def located : Reference :=
  ⟨⟨some "file".toList, some [], "/d".toList, none, none⟩, .pointer .root⟩

def redirectedOnce : Config := { filed with schemaRedirects := [("urn:b".toList, located)] }

def redirectedTwice : Config :=
  { filed with schemaRedirects := [("urn:b".toList, located), ("urn:a".toList, inner)] }

theorem shared_iff_of_redirect_chained :
    ∃ first config a b c, filed.addSchemaRedirect "urn:b".toList "file:///d".toList = .ok first ∧
      first.addSchemaRedirect "urn:a".toList "urn:b".toList = .ok config ∧
      Reference.parse "urn:a".toList = .ok a ∧ Reference.parse "urn:b".toList = .ok b ∧
      Reference.parse "file:///d".toList = .ok c ∧
      let l := (run [.getRef a, .clear] (.make config)).2
      config.RedirectsTo a b ∧ l.cacheKey a ≠ l.cacheKey b ∧
      config.RedirectsTo b c ∧ ∃ t t', (l.getRef b).1 = .ok t ∧
        ((l.getRef b).2.getRef c).1 = .ok t' ∧ t'.document = t.document ∧
        ((l.getRef b).2.getRef c).2.requests.length = 1 := by
  have hfirst : filed.addSchemaRedirect "urn:b".toList "file:///d".toList = .ok redirectedOnce := by
    rfl
  have hsecond : redirectedOnce.addSchemaRedirect "urn:a".toList "urn:b".toList =
      .ok redirectedTwice := by rfl
  refine ⟨redirectedOnce, redirectedTwice, outer, inner, located, hfirst, hsecond, by rfl, by rfl,
    by rfl, ?_⟩
  intro l
  have hab : redirectedTwice.RedirectsTo outer inner := ⟨inner, rfl, rfl⟩
  have hbc : redirectedTwice.RedirectsTo inner located := ⟨located, rfl, rfl⟩
  obtain ⟨hchained, -⟩ := shared_iff_of_redirect hab [.getRef outer, .clear]
  obtain ⟨-, hunredirected, -, hshared⟩ := shared_iff_of_redirect hbc [.getRef outer, .clear]
  have hdifferent : l.cacheKey outer ≠ l.cacheKey inner :=
    fun hkey => absurd (hchained.mp hkey) (by decide +kernel)
  refine ⟨hab, hdifferent, hbc, ?_⟩
  have hasks (r : Reference) (ha : r.isAbsolute)
      (hr : r.locator ∈ [inner.locator, located.locator]) :
      redirectedTwice.AsksFor [inner.locator, located.locator] r := ⟨ha, hr⟩
  have hok : (l.getRef inner).1.isOk = true := by decide +kernel
  cases ht : (l.getRef inner).1 with
  | error e =>
      rw [ht] at hok
      cases hok
  | ok t =>
      obtain ⟨t', ht', hdocument, hrequests⟩ := hshared (hunredirected rfl) (.inl (by decide)) inner
        located t (hasks inner rfl (by simp)) (hasks located rfl (by simp)) ht
      refine ⟨t, t', rfl, ht', hdocument, ?_⟩
      rw [hrequests]
      decide +kernel

end Operation

end JsonReference
