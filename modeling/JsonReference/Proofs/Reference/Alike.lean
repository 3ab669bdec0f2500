import JsonReference.Proofs.Reference.Archive
import JsonReference.Proofs.Reference.Printed
import JsonReference.Proofs.Uri.Alike

namespace JsonReference.Reference

variable {r r' a a' b b' : Reference}

theorem reread_eq_of_locator_eq (h : r.Printable) (h' : r'.Printable)
    (hlocator : r.locator = r'.locator) :
    r.uri.withoutFragment.reread = r'.uri.withoutFragment.reread := by
  have hparse : parse r.locator = .ok ⟨r.uri.withoutFragment.reread, .pointer .root⟩ :=
    h.toLocator.parse_text
  have hparse' : parse r'.locator = .ok ⟨r'.uri.withoutFragment.reread, .pointer .root⟩ :=
    h'.toLocator.parse_text
  rw [hlocator, hparse', Except.ok.injEq] at hparse
  exact (congrArg Reference.uri hparse).symm

theorem withoutFragment_reread_self {input : Text} (h : parse input = .ok r)
    (hscheme : r.uri.scheme = none) : r.uri.withoutFragment.reread = r.uri.withoutFragment := by
  obtain ⟨uri, hparse, hof⟩ := ofUri_of_parse h
  obtain rfl := (uri_of_ofUri hof).1
  have hread := (Uri.Settled.of_parse hparse).parse_text_eq_self_iff.mp
    (Uri.parse_text_of_parse hparse hscheme)
  exact Uri.reread_eq_self_iff.mpr fun ha => (hread ha).1

theorem resolution_eq_of_locator_eq (h : r.Printable) (h' : r'.Printable)
    (hlocator : r.locator = r'.locator) :
    r.resolution = r'.resolution ∧ r.uri.isAbsolute = r'.uri.isAbsolute := by
  have hread := reread_eq_of_locator_eq h h' hlocator
  have hscheme : r.uri.withoutFragment.scheme = r'.uri.withoutFragment.scheme := by
    rw [← Uri.scheme_reread, hread, Uri.scheme_reread]
  have hpart : r.uri.withoutFragment.specificPart = r'.uri.withoutFragment.specificPart := by
    rw [← Uri.specificPart_reread, hread, Uri.specificPart_reread]
  exact ⟨classify_eq hscheme hpart, congrArg Option.isSome hscheme⟩

theorem locator_resolve (h : a.resolution = .hierarchical) (b : Reference) :
    (a.resolve b).locator = (a.uri.withoutFragment.resolve b.uri.withoutFragment).text := by
  rw [resolve, h, ← Uri.withoutFragment_resolve]
  rfl

theorem authority_of_archive {stem : Text} {entry : Uri} (h : r.resolution = .archive stem entry) :
    r.uri.authority = none := by
  have hrooted := (Uri.isOpaque_iff.mp (resolution_archive h).1).2
  rw [Uri.isRooted_specificPart_iff, not_or, Option.not_isSome_iff_eq_none] at hrooted
  exact hrooted.1

theorem authority_of_empty (h : r.resolution = .empty) : r.uri.authority = none :=
  congrArg Uri.authority (resolution_empty h)

variable {input input' : Text}

theorem locator_resolve_congr {text : Text} (ha : parse text = .ok a) (hb : parse input = .ok b)
    (hb' : parse input' = .ok b') (hlocator : b.locator = b'.locator) :
    (a.resolve b).locator = (a.resolve b').locator := by
  have hr := Printable.of_parse hb
  have hr' := Printable.of_parse hb'
  have hread := reread_eq_of_locator_eq hr hr' hlocator
  obtain ⟨-, habsolute⟩ := resolution_eq_of_locator_eq hr hr' hlocator
  have hself (hscheme : b.uri.scheme = none) :
      b.uri.withoutFragment = b'.uri.withoutFragment := by
    have hscheme' : b'.uri.scheme = none := by
      simpa [Uri.isAbsolute, hscheme] using habsolute
    rw [← withoutFragment_reread_self hb hscheme, hread, withoutFragment_reread_self hb' hscheme']
  cases hresolution : a.resolution with
  | empty => rwa [resolve, resolve, hresolution]
  | hierarchical =>
      rw [locator_resolve hresolution, locator_resolve hresolution]
      exact Uri.text_resolve_congr hr.toLocator.settled hr'.toLocator.settled hread hself _
  | archive stem entry =>
      by_cases hscheme : b.uri.scheme = none
      · by_cases hentry : entry.scheme = none
        · obtain ⟨uri, hparse, hof⟩ := ofUri_of_parse ha
          obtain rfl := (uri_of_ofUri hof).1
          have hscheme' : b'.uri.scheme = none := by
            simpa [Uri.isAbsolute, hscheme] using habsolute
          obtain ⟨-, -, heq⟩ := resolve_archive_of_relative hparse hresolution hentry hscheme
            hr.settled.plain hr.settled.sound
          obtain ⟨-, -, heq'⟩ := resolve_archive_of_relative hparse hresolution hentry hscheme'
            hr'.settled.plain hr'.settled.sound
          have hpart (u : Uri) : u.specificPart = u.withoutFragment.specificPart := rfl
          rw [heq, heq', hpart, hpart (entry.resolve b'.uri), Uri.withoutFragment_resolve,
            Uri.withoutFragment_resolve, hself hscheme]
        · have hinside : entry.isAbsolute := Option.isSome_iff_ne_none.mpr hentry
          rwa [resolve_archive_of_absolute hresolution hinside,
            resolve_archive_of_absolute hresolution hinside]
      · have hb : b.uri.isAbsolute := Option.isSome_iff_ne_none.mpr hscheme
        simp only [resolve, hresolution, resolveEntry, hb, habsolute ▸ hb, if_true, hlocator]

/-- The base may be replaced by one that is printed alike, unless only one of them has an authority
and what is resolved leads up to that. -/
theorem locator_resolve_base_iff (ha : a.Printable) (ha' : a'.Printable)
    (hlocator : a.locator = a'.locator) (b : Reference) :
    (a.resolve b).locator = (a'.resolve b).locator ↔
      a.uri.authority.isSome = a'.uri.authority.isSome ∨ b.uri.scheme.isSome ∨
        b.uri.authority.isSome ∨ b.uri.path = [] ∨
        Uri.StaysBelow a.uri.reread.path b.uri.path := by
  have hread := reread_eq_of_locator_eq ha ha' hlocator
  obtain ⟨hresolutions, -⟩ := resolution_eq_of_locator_eq ha ha' hlocator
  cases hresolution : a.resolution with
  | empty =>
      have hresolution' := hresolutions ▸ hresolution
      simp [resolve, hresolution, hresolution', authority_of_empty]
  | archive stem entry =>
      have hresolution' := hresolutions ▸ hresolution
      simp [resolve, hresolution, hresolution', authority_of_archive hresolution,
        authority_of_archive hresolution']
  | hierarchical =>
      have hresolution' := hresolutions ▸ hresolution
      have hsettled : a.uri.withoutFragment.Settled := ha.toLocator.settled
      have hsettled' : a'.uri.withoutFragment.Settled := ha'.toLocator.settled
      rw [locator_resolve hresolution, locator_resolve hresolution',
        Uri.text_resolve_base_iff hsettled hsettled' hread, ← Uri.withoutFragment_reread]
      rfl

/-- References that are the same are so for their kind, for whether they are absolute, and for what
they contain, and they resolve the same references to the same ones. Only where one of two bases has
an authority and the other has it in its path, a reference with a path of its own comes to the same
just if it is a relative path that does not lead up over the path behind the authority. -/
theorem resolve_congr_iff {textA textA' textB textB' : Text} (ha : parse textA = .ok a)
    (ha' : parse textA' = .ok a') (hb : parse textB = .ok b) (hb' : parse textB' = .ok b')
    (haa : a.same a') (hbb : b.same b') :
    a.kind = a'.kind ∧ a.isAbsolute = a'.isAbsolute ∧ a.contains b = a'.contains b' ∧
    ((a.resolve b).same (a'.resolve b') ↔
      a.uri.authority.isSome = a'.uri.authority.isSome ∨ b.uri.scheme.isSome ∨
        b.uri.authority.isSome ∨ b.uri.path = [] ∨
        Uri.StaysBelow a.uri.reread.path b.uri.path) := by
  simp only [same, Bool.and_eq_true, beq_iff_eq] at haa hbb ⊢
  have hr := Printable.of_parse ha
  have hr' := Printable.of_parse ha'
  obtain ⟨hresolution, habsolute⟩ := resolution_eq_of_locator_eq hr hr' haa.1
  refine ⟨by rw [kind, kind, hresolution], by rw [isAbsolute, isAbsolute, habsolute, haa.2],
    by rw [contains, contains, haa.1, hbb.1], ?_⟩
  rw [← locator_resolve_congr ha' hb hb' hbb.1, locator_resolve_base_iff hr hr' haa.1,
    fragment_resolve, fragment_resolve]
  exact and_iff_left hbb.2

def flat : Reference := .ofOpaque "a".toList "//x/y/z".toList

def ruled : Reference :=
  ⟨⟨some "a".toList, some "x".toList, "/y/z".toList, none, none⟩, .pointer .root⟩

def sibling (fragment : Text) : Reference :=
  ⟨⟨none, none, "../w".toList, none, some fragment⟩, .name "a".toList⟩

theorem resolve_congr_iff_below :
    ∃ a a' b b', parse "a:/.//x/y/z".toList = .ok a ∧ parse "A://x/y/z".toList = .ok a' ∧
      parse "../w#%61".toList = .ok b ∧ parse "../w#a".toList = .ok b' ∧ a.same a' ∧ b.same b' ∧
      a.uri.authority.isSome ≠ a'.uri.authority.isSome ∧ a.kind = a'.kind ∧
      (a.resolve b).same (a'.resolve b') ∧ (a.resolve b).text = "a://x/w#%61".toList := by
  have ha : parse "a:/.//x/y/z".toList = .ok flat := by rfl
  have ha' : parse "A://x/y/z".toList = .ok ruled := by rfl
  have hb : parse "../w#%61".toList = .ok (sibling "%61".toList) := by rfl
  have hb' : parse "../w#a".toList = .ok (sibling "a".toList) := by rfl
  have haa : flat.same ruled := by decide
  have hbb : (sibling "%61".toList).same (sibling "a".toList) := by decide
  obtain ⟨hkind, -, -, hsame⟩ := resolve_congr_iff ha ha' hb hb' haa hbb
  exact ⟨flat, ruled, _, _, ha, ha', hb, hb', haa, hbb, by decide, hkind,
    hsame.mpr (by decide +kernel), by decide +kernel⟩

theorem resolve_not_congr :
    ∃ a a' b, parse "a:/.//x".toList = .ok a ∧ parse "a://x".toList = .ok a' ∧
      parse "y".toList = .ok b ∧ a.same a' ∧ ¬ (a.resolve b).same (a'.resolve b) ∧
      (a.resolve b).text = "a://y".toList ∧ (a'.resolve b).text = "a://x/y".toList := by
  exact ⟨.ofOpaque "a".toList "//x".toList,
    ⟨⟨some "a".toList, some "x".toList, [], none, none⟩, .pointer .root⟩, .ofPath "y".toList,
    rfl, rfl, rfl, by decide, by decide +kernel, by decide +kernel, by decide +kernel⟩

end JsonReference.Reference
