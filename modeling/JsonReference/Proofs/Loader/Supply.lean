import JsonReference.Loader
import JsonReference.Proofs.Cache.Entries
import JsonReference.Proofs.Config.Redirect

namespace JsonReference

def Downloader.ByLocator (d : Downloader) : Prop :=
  ∀ r r' : Reference, r.IsLocator → r'.IsLocator → r.locator = r'.locator → d.fetch r = d.fetch r'

def Config.ByLocator (c : Config) : Prop := ∀ row ∈ c.downloaders, row.2.ByLocator

namespace Downloader

theorem byLocator_file (files : FileReader) : (file files).ByLocator := by
  intro r r' h h' he
  obtain ⟨hscheme, hpart⟩ := h.parts_eq h' he
  have htext : r.text = r'.text := by rw [h.text_eq, h'.text_eq, he]
  simp only [file, fetchFile, fileLocation, hscheme, hpart, htext]

theorem byLocator_http (http : Http) : (Downloader.http http).ByLocator := fun _ _ _ _ _ => rfl

end Downloader

namespace Loader

variable {l l' l'' : Loader}

theorem fetch_congr {config : Config} (hd : config.ByLocator) {r r' : Reference}
    (h : r.IsLocator) (h' : r'.IsLocator) (he : r.locator = r'.locator) :
    fetch config r = fetch config r' := by
  have hscheme := (h.parts_eq h' he).1
  have htext : r.text = r'.text := by rw [h.text_eq, h'.text_eq, he]
  unfold fetch
  rw [hscheme]
  simp only
  split
  · rw [htext]
  · next d hf =>
    have hfetch : d.fetch r = d.fetch r' := hd _ (Table.mem_of_find? hf) r r' h h' he
    simp only [fetchFrom, readDocument, hfetch, htext]

def supply (l : Loader) (requested : Reference) : Except LoadError Json :=
  let target := l.config.redirect requested
  Cache.supply l.cache.pinned target.locator fun _ => fetch l.config target

/-- The tree that a loader with nothing in its cache but what is pinned gives for a reference. -/
def give (l : Loader) (r : Reference) : Except LoadError Tree :=
  let requested := l.config.base.resolve r
  if !requested.isAbsolute then .error (.notAbsolute requested.text)
  else
    (l.supply requested.toLocator).map fun document =>
      .make requested.toLocator document l.config.dereferencing

/-- Every entry of the cache is what a fetch gives for its key. -/
structure Sound (l : Loader) : Prop where
  config : l.config.Sound
  byLocator : l.config.ByLocator
  entries : l.cache.Keeps fun key document =>
    ∀ target : Reference, target.IsLocator → target.locator = key →
      fetch l.config target = .ok document

/-- The two loaders may differ in the size of their caches, in the entries and in the requests that
they have made, but in nothing else. -/
structure Agree (l l' : Loader) : Prop where
  left : l.Sound
  right : l'.Sound
  config_eq : l.config.setCacheSize 0 = l'.config.setCacheSize 0
  pinned_eq : l.cache.pinned = l'.cache.pinned

namespace Agree

theorem refl (h : l.Sound) : l.Agree l := ⟨h, h, rfl, rfl⟩

theorem symm (h : l.Agree l') : l'.Agree l := ⟨h.right, h.left, h.config_eq.symm, h.pinned_eq.symm⟩

theorem trans (h : l.Agree l') (h' : l'.Agree l'') : l.Agree l'' :=
  ⟨h.left, h'.right, h.config_eq.trans h'.config_eq, h.pinned_eq.trans h'.pinned_eq⟩

theorem congr {α : Type} (h : l.Agree l') {f : Config → α}
    (hf : ∀ c : Config, f c = f (c.setCacheSize 0)) : f l.config = f l'.config := by
  rw [hf l.config, hf l'.config, h.config_eq]

theorem supply_eq (h : l.Agree l') (r : Reference) : l.supply r = l'.supply r := by
  rw [supply, supply, h.pinned_eq]
  exact h.congr (f := fun c =>
    Cache.supply l'.cache.pinned (c.redirect r).locator fun _ => fetch c (c.redirect r))
    fun _ => rfl

theorem give_eq (h : l.Agree l') (r : Reference) : l.give r = l'.give r := by
  have hbase : l.config.base = l'.config.base := h.congr fun _ => rfl
  have hdereferencing : l.config.dereferencing = l'.config.dereferencing := h.congr fun _ => rfl
  simp only [give, h.supply_eq, hbase, hdereferencing]

end Agree

theorem document_of_get {r : Reference} {document : Json} {cache : Cache}
    (h : l.cache.get (l.cacheKey r) = (some document, cache)) :
    l.document r.toLocator = (.ok document, { l with cache }) := by
  rw [Loader.document, show (l.config.redirect r.toLocator).locator = l.cacheKey r from rfl,
    Cache.getOrFill_of_some (congrArg Prod.fst h), h]
  rfl

section Document

variable {requested : Reference}

theorem document_fst (h : l.Sound) (hr : requested.IsLocator) :
    (l.document requested).1 = l.supply requested :=
  Cache.getOrFill_result fun row hrow hk =>
    h.entries row hrow _ (Config.isLocator_redirect h.config hr) hk.symm

theorem Sound.document (h : l.Sound) (hr : requested.IsLocator) :
    (l.document requested).2.Sound := by
  refine ⟨h.config, h.byLocator, h.entries.getOrFill ?_⟩
  intro d hd target htarget hlocator
  rw [← hd]
  exact fetch_congr h.byLocator htarget (Config.isLocator_redirect h.config hr) hlocator

theorem agree_document (h : l.Sound) (hr : requested.IsLocator) :
    l.Agree (l.document requested).2 :=
  ⟨h, h.document hr, rfl, (Cache.getOrFill_pinned _ _ _).symm⟩

end Document

theorem isLocator_requested {config : Config} (hc : config.Sound) {r : Reference}
    (hr : r.uri.Obtained) (ha : (config.base.resolve r).isAbsolute) :
    (config.base.resolve r).toLocator.IsLocator :=
  Reference.isLocator_toLocator (Reference.obtained_resolve hc.base hr)
    (Bool.and_eq_true_iff.mp ha).1

theorem getRef_eq (l : Loader) (r : Reference) :
    l.getRef r =
      let requested := l.config.base.resolve r
      if !requested.isAbsolute then (.error (.notAbsolute requested.text), l)
      else
        ((l.document requested.toLocator).1.map fun document =>
          .make requested.toLocator document l.config.dereferencing,
          (l.document requested.toLocator).2) := by
  rw [getRef]
  simp only
  split
  · rfl
  · have hconfig : (l.document (l.config.base.resolve r).toLocator).2.config = l.config := rfl
    rcases hd : l.document (l.config.base.resolve r).toLocator with ⟨_ | document, l'⟩
    · rfl
    · rw [hd] at hconfig
      change l'.config = l.config at hconfig
      simp only [Except.map, hconfig]

theorem getRef_of_absolute {r : Reference} (h : (l.config.base.resolve r).isAbsolute) :
    l.getRef r =
      ((l.document (l.config.base.resolve r).toLocator).1.map fun document =>
        .make (l.config.base.resolve r).toLocator document l.config.dereferencing,
        (l.document (l.config.base.resolve r).toLocator).2) := by
  rw [getRef_eq]
  simp only [h, Bool.not_true, Bool.false_eq_true, if_false]

theorem getRef_ok {r : Reference} {t : Tree} (h : (l.getRef r).1 = .ok t) :
    let requested := l.config.base.resolve r
    requested.isAbsolute ∧ ∃ document, (l.document requested.toLocator).1 = .ok document ∧
      t = .make requested.toLocator document l.config.dereferencing := by
  rw [getRef_eq] at h
  simp only at h ⊢
  split at h
  · simp at h
  · next ha =>
    obtain ⟨document, hd, rfl⟩ := Except.map_ok_iff.mp h
    exact ⟨by simpa using ha, document, hd, rfl⟩

theorem getRef_spec (h : l.Sound) {r : Reference} (hr : r.uri.Obtained) :
    (l.getRef r).1 = l.give r ∧ l.Agree (l.getRef r).2 := by
  rw [getRef_eq, give]
  simp only
  split
  · exact ⟨rfl, .refl h⟩
  · next ha =>
    have hl := isLocator_requested h.config hr (by simpa using ha)
    exact ⟨by rw [document_fst h hl], agree_document h hl⟩

end Loader
end JsonReference
