import JsonReference.Proofs.Reference.Locator
import JsonReference.Proofs.Table
import JsonReference.Config

namespace JsonReference

namespace Text

theorem eq_append_of_dropFront? {front t back : Text} (h : dropFront? front t = some back) :
    t = front ++ back := by
  induction front generalizing t with
  | nil => exact Option.some.inj h
  | cons x front ih =>
      cases t with
      | nil => simp [dropFront?] at h
      | cons y t =>
          rw [dropFront?] at h
          split at h
          · next hxy => rw [hxy, ih h, List.cons_append]
          · simp at h

theorem dropFront?_append (front t : Text) : dropFront? front (front ++ t) = some t := by
  induction front with
  | nil => rfl
  | cons x front ih => rwa [List.cons_append, dropFront?, if_pos rfl]

end Text

namespace Config

/-- The configurations that can be made: from an empty or the standard one, by any settings. -/
inductive Built : Config → Prop
  | bare : Built .bare
  | standard (files : FileReader) : Built (.standard files)
  | register {c c' : Config} (scheme : Text) (downloader : Downloader) :
      Built c → c.register scheme downloader = .ok c' → Built c'
  | unregister {c : Config} (scheme : Text) : Built c → Built (c.unregister scheme)
  | addSchemaRedirect {c c' : Config} (source target : Text) :
      Built c → c.addSchemaRedirect source target = .ok c' → Built c'
  | addPathRedirect {c c' : Config} (source target : Text) :
      Built c → c.addPathRedirect source target = .ok c' → Built c'
  | setBase {c c' : Config} (uri : Text) : Built c → c.setBase uri = .ok c' → Built c'
  | setDereferencing {c : Config} (dereferencing : Dereferencing) :
      Built c → Built (c.setDereferencing dereferencing)
  | setCacheSize {c : Config} (cacheSize : Nat) : Built c → Built (c.setCacheSize cacheSize)
  | preloadAt {c c' : Config} (uri : Text) (document : Json) :
      Built c → c.preloadAt uri document = .ok c' → Built c'
  | preload {c c' : Config} (document : Json) :
      Built c → c.preload document = .ok c' → Built c'

/-- The base is a URI that can be had, redirects lead to locators, and the targets of path rules
begin with a scheme and hold no `#`. -/
structure Sound (c : Config) : Prop where
  base : c.base.uri.Obtained
  redirects : ∀ row ∈ c.schemaRedirects, row.2.IsLocator
  rules : ∀ rule ∈ c.pathRules, ∃ scheme rest,
    Uri.isScheme scheme ∧ '#' ∉ rest ∧ rule.target = scheme ++ ':' :: rest

theorem absolute_ok_iff {text : Text} {r : Reference} :
    absolute text = .ok r ↔ Reference.parse text = .ok r ∧ r.isAbsolute := by
  rw [absolute]
  split
  · next hp => simp [hp]
  · next read hp =>
    split
    · next ha =>
      simp only [hp, Except.ok.injEq]
      exact ⟨fun h => ⟨h, h ▸ ha⟩, And.left⟩
    · next ha =>
      simp only [hp, reduceCtorEq, Except.ok.injEq, false_iff, not_and]
      exact fun h => h ▸ ha

theorem absolute_ok {text : Text} {r : Reference} (h : absolute text = .ok r) :
    r.uri.Obtained ∧ r.isAbsolute := by
  obtain ⟨hp, ha⟩ := absolute_ok_iff.mp h
  exact ⟨Reference.obtained_of_parse hp, ha⟩

theorem isLocator_of_absolute {text : Text} {r : Reference} (h : absolute text = .ok r) :
    r.toLocator.IsLocator := by
  obtain ⟨ho, ha⟩ := absolute_ok h
  exact Reference.isLocator_toLocator ho (Bool.and_eq_true_iff.mp ha).1

theorem isLocator_of_directory {text path : Text} (h : directory text = .ok path) :
    ∃ r : Reference, r.IsLocator ∧ r.locator = path := by
  rw [directory] at h
  obtain ⟨r, ha, h⟩ := Except.bind_ok_iff.mp h
  split at h
  · cases h
    exact ⟨r.toLocator, isLocator_of_absolute ha, rfl⟩
  · simp at h

theorem perm_insertRule (rule : PathRule) (rules : List PathRule) :
    (insertRule rule rules).Perm (rule :: rules) := by
  induction rules with
  | nil => exact .refl _
  | cons first rest ih =>
      rw [insertRule]
      split
      · exact .refl _
      · exact (ih.cons first).trans (.swap rule first rest)

theorem mem_insertRule {rule r : PathRule} {rules : List PathRule} (h : r ∈ insertRule rule rules) :
    r = rule ∨ r ∈ rules :=
  List.mem_cons.mp ((perm_insertRule rule rules).mem_iff.mp h)

namespace Sound

variable {c : Config}

theorem bare : Sound .bare := ⟨.empty, by simp [Config.bare], by simp [Config.bare]⟩

theorem standard (files : FileReader) : Sound (.standard files) := by
  refine ⟨.empty, ?_, by simp [Config.standard]⟩
  have hpath : ∀ schema ∈ BundledSchema.all, '#' ∉ schema.path := by decide +kernel
  intro row hrow
  obtain ⟨schema, hschema, hredirect⟩ := List.mem_filterMap.mp hrow
  rw [bundledRedirect?] at hredirect
  split at hredirect
  · next htarget =>
    cases hredirect
    have hscheme : Uri.isScheme "resource".toList := by decide +kernel
    exact Reference.isLocator_of_parse hscheme (hpath schema hschema) htarget
  · simp at hredirect

theorem addSchemaRedirect (h : c.Sound) {source target : Text} {c' : Config}
    (hc : c.addSchemaRedirect source target = .ok c') : c'.Sound := by
  rw [Config.addSchemaRedirect] at hc
  obtain ⟨s, -, hc⟩ := Except.bind_ok_iff.mp hc
  obtain ⟨t, ht, hc⟩ := Except.bind_ok_iff.mp hc
  split at hc
  · simp at hc
  · cases hc
    refine ⟨h.base, ?_, h.rules⟩
    intro row hrow
    rcases Table.mem_put hrow with rfl | hrow
    · exact isLocator_of_absolute ht
    · exact h.redirects row hrow

theorem addPathRedirect (h : c.Sound) {source target : Text} {c' : Config}
    (hc : c.addPathRedirect source target = .ok c') : c'.Sound := by
  rw [Config.addPathRedirect] at hc
  obtain ⟨s, -, hc⟩ := Except.bind_ok_iff.mp hc
  obtain ⟨t, ht, hc⟩ := Except.bind_ok_iff.mp hc
  split at hc
  · simp at hc
  · cases hc
    refine ⟨h.base, h.redirects, ?_⟩
    intro rule hrule
    rcases mem_insertRule hrule with rfl | hrule
    · obtain ⟨r, hr, hlocator⟩ := isLocator_of_directory ht
      obtain ⟨scheme, -, hscheme, htext, hhash⟩ := hr.locator_eq
      exact ⟨scheme, _, hscheme, hhash, hlocator ▸ htext⟩
    · exact h.rules rule (List.mem_filter.mp hrule).1

theorem setBase (h : c.Sound) {uri : Text} {c' : Config} (hc : c.setBase uri = .ok c') :
    c'.Sound := by
  rw [Config.setBase] at hc
  obtain ⟨r, hb, hc⟩ := Except.bind_ok_iff.mp hc
  cases hc
  exact ⟨(absolute_ok hb).1, h.redirects, h.rules⟩

theorem preloadAt (h : c.Sound) {uri : Text} {document : Json} {c' : Config}
    (hc : c.preloadAt uri document = .ok c') : c'.Sound := by
  rw [Config.preloadAt] at hc
  obtain ⟨r, -, hc⟩ := Except.bind_ok_iff.mp hc
  cases hc
  exact ⟨h.base, h.redirects, h.rules⟩

theorem preload (h : c.Sound) {document : Json} {c' : Config}
    (hc : c.preload document = .ok c') : c'.Sound := by
  rw [Config.preload] at hc
  split at hc
  · exact h.preloadAt hc
  · simp at hc

end Sound

theorem Built.sound {c : Config} (h : c.Built) : c.Sound := by
  induction h with
  | bare => exact .bare
  | standard files => exact .standard files
  | register _ _ _ hc h =>
      rw [Config.register] at hc
      split at hc
      · cases hc
        exact ⟨h.base, h.redirects, h.rules⟩
      · simp at hc
  | unregister _ _ h | setDereferencing _ _ h | setCacheSize _ _ h =>
      exact ⟨h.base, h.redirects, h.rules⟩
  | addSchemaRedirect _ _ _ hc h => exact h.addSchemaRedirect hc
  | addPathRedirect _ _ _ hc h => exact h.addPathRedirect hc
  | setBase _ _ hc h => exact h.setBase hc
  | preloadAt _ _ _ hc h => exact h.preloadAt hc
  | preload _ _ hc h => exact h.preload hc

theorem substitute?_eq_append {locator text : Text} {rules : List PathRule}
    (h : substitute? locator rules = some text) :
    ∃ rule ∈ rules, ∃ back, locator = rule.source ++ back ∧ text = rule.target ++ back := by
  induction rules with
  | nil => simp [substitute?] at h
  | cons rule rest ih =>
      rw [substitute?] at h
      split at h
      · next back hback =>
        exact ⟨rule, List.mem_cons_self, back, Text.eq_append_of_dropFront? hback,
          (Option.some.inj h).symm⟩
      · obtain ⟨r, hr, hrest⟩ := ih h
        exact ⟨r, List.mem_cons_of_mem rule hr, hrest⟩

theorem isLocator_schemaTarget {c : Config} (h : c.Sound) {r : Reference} (hr : r.IsLocator) :
    (c.schemaTarget r).IsLocator := by
  rw [schemaTarget]
  cases hf : c.schemaRedirects.find? r.locator with
  | none => exact hr.bare.symm ▸ hr
  | some target => exact h.redirects _ (Table.mem_of_find? hf)

theorem isLocator_redirect {c : Config} (h : c.Sound) {r : Reference} (hr : r.IsLocator) :
    (c.redirect r).IsLocator := by
  have ht := isLocator_schemaTarget h hr
  simp only [redirect]
  split
  · exact ht
  · next text htext =>
    split
    · next changed hchanged =>
      obtain ⟨rule, hrule, back, hsource, rfl⟩ := substitute?_eq_append htext
      obtain ⟨scheme, rest, hscheme, hrest, htarget⟩ := h.rules rule hrule
      rw [htarget, List.append_assoc] at hchanged
      apply Reference.isLocator_of_parse hscheme _ hchanged
      intro hx
      rcases List.mem_append.mp hx with hx | hx
      · exact hrest hx
      · apply ht.hash_not_mem_locator
        rw [hsource]
        exact List.mem_append_right _ hx
    · exact ht

end Config
end JsonReference
