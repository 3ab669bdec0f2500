import JsonReference.Proofs.Config.Redirect
import JsonReference.Proofs.Reference.Printed

namespace JsonReference

def NamesLocator (t : Text) : Prop :=
  ∃ r, Reference.parse t = .ok r ∧ r.isAbsolute ∧ r.locator = t

def NamesDirectory (t : Text) : Prop := NamesLocator t ∧ t.getLast? = some '/'

theorem Reference.namesLocator {text : Text} {r : Reference} (h : parse text = .ok r)
    (ha : r.isAbsolute) : NamesLocator r.locator := by
  obtain ⟨read, hread, hsame, -, habsolute⟩ := (Printable.of_parse h).toLocator.reads_back
  have hlocator : read.locator = r.locator := by
    simp only [same, Bool.and_eq_true, beq_iff_eq] at hsame
    exact hsame.1
  have hlocators : r.toLocator.isAbsolute := by
    rw [isAbsolute, Bool.and_eq_true] at ha
    exact Bool.and_eq_true_iff.mpr ⟨ha.1, rfl⟩
  exact ⟨read, hread, habsolute.trans hlocators, hlocator⟩

namespace Config

variable {c c' : Config} {scheme source target uri : Text} {rule : PathRule}
  {rules : List PathRule}

theorem namesLocator_of_absolute {text : Text} {r : Reference} (h : absolute text = .ok r) :
    NamesLocator r.locator := by
  obtain ⟨hp, ha⟩ := absolute_ok_iff.mp h
  exact Reference.namesLocator hp ha

theorem namesDirectory_of_directory {text path : Text} (h : directory text = .ok path) :
    NamesDirectory path := by
  rw [directory] at h
  obtain ⟨r, ha, h⟩ := Except.bind_ok_iff.mp h
  split at h
  · next hlast =>
    cases h
    exact ⟨namesLocator_of_absolute ha, hlast⟩
  · simp at h

def LongestFirst (rules : List PathRule) : Prop :=
  rules.Pairwise fun a b => Text.size b.source ≤ Text.size a.source

theorem LongestFirst.insertRule (h : LongestFirst rules) (rule : PathRule) :
    LongestFirst (insertRule rule rules) := by
  induction rules with
  | nil => exact List.pairwise_singleton _ rule
  | cons first rest ih =>
      obtain ⟨hfirst, hrest⟩ := List.pairwise_cons.mp h
      rw [Config.insertRule]
      split
      · next hshorter =>
        refine List.pairwise_cons.mpr ⟨?_, h⟩
        intro r hr
        rcases List.mem_cons.mp hr with rfl | hr
        · exact hshorter.le
        · exact (hfirst r hr).trans hshorter.le
      · next hlonger =>
        refine List.pairwise_cons.mpr ⟨?_, ih hrest⟩
        intro r hr
        rcases mem_insertRule hr with rfl | hr
        · exact Nat.le_of_not_lt hlonger
        · exact hfirst r hr

/-- Every name in the tables is in the form in which it is printed, a redirect leads to another one,
and of rules and documents there is one of a name. -/
structure WellFormed (c : Config) : Prop where
  schemes : ∀ row ∈ c.downloaders, Uri.isScheme row.1 ∧ Text.lower row.1 = row.1
  base : c.base = .empty ∨ c.base.isAbsolute
  redirects : ∀ row ∈ c.schemaRedirects,
    NamesLocator row.1 ∧ row.2.isAbsolute ∧ row.2.locator ≠ row.1
  rules : ∀ rule ∈ c.pathRules,
    NamesDirectory rule.source ∧ NamesDirectory rule.target ∧ rule.source ≠ rule.target
  sources : (c.pathRules.map (·.source)).Nodup
  longestFirst : LongestFirst c.pathRules
  preloaded : ∀ row ∈ c.preloaded, row.1.isAbsolute
  preloadedOnce : (c.preloaded.map (·.1.locator)).Nodup

namespace WellFormed

theorem bare : WellFormed .bare where
  schemes := by simp [Config.bare]
  base := .inl rfl
  redirects := by simp [Config.bare]
  rules := by simp [Config.bare]
  sources := by simp [Config.bare]
  longestFirst := .nil
  preloaded := by simp [Config.bare]
  preloadedOnce := by simp [Config.bare]

theorem standard (files : FileReader) : WellFormed (.standard files) where
  schemes := by
    intro row hrow
    have hschemes : ∀ scheme ∈ ["file", "http", "https", "resource"].map String.toList,
        Uri.isScheme scheme ∧ Text.lower scheme = scheme := by decide +kernel
    exact hschemes row.1 (List.mem_map_of_mem (f := Prod.fst) hrow)
  base := .inl rfl
  redirects := by
    have hrows : ∀ row ∈ BundledSchema.all.filterMap bundledRedirect?,
        ((Reference.parse row.1).toOption.any fun r => r.isAbsolute && r.locator == row.1) ∧
          row.2.isAbsolute ∧ row.2.locator ≠ row.1 := by decide +kernel
    intro row hrow
    obtain ⟨hsource, htarget⟩ := hrows row hrow
    obtain ⟨r, hr, hlocator⟩ := (Option.any_eq_true _ _).mp hsource
    rw [Bool.and_eq_true, beq_iff_eq] at hlocator
    exact ⟨⟨r, Except.toOption_some_iff.mp hr, hlocator⟩, htarget⟩
  rules := by simp [Config.standard]
  sources := by simp [Config.standard]
  longestFirst := .nil
  preloaded := by simp [Config.standard]
  preloadedOnce := by simp [Config.standard]

theorem register (h : c.WellFormed) {downloader : Downloader}
    (hc : c.register scheme downloader = .ok c') : c'.WellFormed := by
  rw [Config.register] at hc
  split at hc
  · next hscheme =>
    cases hc
    refine { h with schemes := fun row hrow => ?_ }
    rcases Table.mem_put hrow with rfl | hrow
    · exact ⟨Uri.isScheme_lower hscheme, Uri.lower_lower scheme⟩
    · exact h.schemes row hrow
  · simp at hc

theorem unregister (h : c.WellFormed) (scheme : Text) : (c.unregister scheme).WellFormed :=
  { h with schemes := fun row hrow => h.schemes row (Table.drop_subset _ _ hrow) }

theorem addSchemaRedirect (h : c.WellFormed) (hc : c.addSchemaRedirect source target = .ok c') :
    c'.WellFormed := by
  rw [Config.addSchemaRedirect] at hc
  obtain ⟨s, hs, hc⟩ := Except.bind_ok_iff.mp hc
  obtain ⟨t, ht, hc⟩ := Except.bind_ok_iff.mp hc
  split at hc
  · simp at hc
  · next hother =>
    cases hc
    refine { h with redirects := fun row hrow => ?_ }
    rcases Table.mem_put hrow with rfl | hrow
    · refine ⟨namesLocator_of_absolute hs, ?_, ?_⟩
      · exact Bool.and_eq_true_iff.mpr ⟨(isLocator_of_absolute ht).absolute, rfl⟩
      · rw [Reference.contains, beq_iff_eq] at hother
        exact Ne.symm hother
    · exact h.redirects row hrow

theorem addPathRedirect (h : c.WellFormed) (hc : c.addPathRedirect source target = .ok c') :
    c'.WellFormed := by
  rw [Config.addPathRedirect] at hc
  obtain ⟨s, hs, hc⟩ := Except.bind_ok_iff.mp hc
  obtain ⟨t, ht, hc⟩ := Except.bind_ok_iff.mp hc
  split at hc
  · simp at hc
  · next hother =>
    cases hc
    have hkept : (c.pathRules.filter (·.source ≠ s)).Sublist c.pathRules := List.filter_sublist
    refine { h with
      rules := fun rule hrule => ?_, sources := ?_
      longestFirst := .insertRule (h.longestFirst.sublist hkept) _ }
    · rcases mem_insertRule hrule with rfl | hrule
      · exact ⟨namesDirectory_of_directory hs, namesDirectory_of_directory ht, hother⟩
      · exact h.rules rule (hkept.subset hrule)
    · rw [((perm_insertRule _ _).map _).nodup_iff, List.map_cons, List.nodup_cons]
      exact ⟨by simp, h.sources.sublist (hkept.map _)⟩

theorem setBase (h : c.WellFormed) (hc : c.setBase uri = .ok c') : c'.WellFormed := by
  rw [Config.setBase] at hc
  obtain ⟨r, hr, hc⟩ := Except.bind_ok_iff.mp hc
  cases hc
  exact { h with base := .inr (absolute_ok_iff.mp hr).2 }

theorem preloadAt (h : c.WellFormed) {document : Json} (hc : c.preloadAt uri document = .ok c') :
    c'.WellFormed := by
  rw [Config.preloadAt] at hc
  obtain ⟨r, hr, hc⟩ := Except.bind_ok_iff.mp hc
  cases hc
  have hkept : (c.preloaded.filter (!·.1.contains r)).Sublist c.preloaded := List.filter_sublist
  refine { h with preloaded := fun row hrow => ?_, preloadedOnce := ?_ }
  · rcases List.mem_append.mp hrow with hrow | hrow
    · exact h.preloaded row (hkept.subset hrow)
    · rw [List.mem_singleton.mp hrow]
      exact (absolute_ok_iff.mp hr).2
  · rw [List.map_append, List.nodup_append]
    refine ⟨h.preloadedOnce.sublist (hkept.map _), by simp, ?_⟩
    rintro _ hmem _ hr rfl
    obtain ⟨row, hrow, rfl⟩ := List.mem_map.mp hmem
    have hother : row.1.contains r = false := by simpa using (List.mem_filter.mp hrow).2
    rw [List.map_singleton, List.mem_singleton] at hr
    simp [Reference.contains, hr] at hother

theorem preload (h : c.WellFormed) {document : Json} (hc : c.preload document = .ok c') :
    c'.WellFormed := by
  rw [Config.preload] at hc
  split at hc
  · exact h.preloadAt hc
  · simp at hc

end WellFormed

theorem Built.wellFormed (h : c.Built) : c.WellFormed := by
  induction h with
  | bare => exact .bare
  | standard files => exact .standard files
  | register _ _ _ hc h => exact h.register hc
  | unregister scheme _ h => exact h.unregister scheme
  | setDereferencing _ _ h | setCacheSize _ _ h => exact { h with }
  | addSchemaRedirect _ _ _ hc h => exact h.addSchemaRedirect hc
  | addPathRedirect _ _ _ hc h => exact h.addPathRedirect hc
  | setBase _ _ hc h => exact h.setBase hc
  | preloadAt _ _ _ hc h => exact h.preloadAt hc
  | preload _ _ hc h => exact h.preload hc

end Config
end JsonReference
