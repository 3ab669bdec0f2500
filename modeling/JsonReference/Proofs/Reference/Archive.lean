import JsonReference.Proofs.Reference.Locator
import JsonReference.Proofs.Uri.Printed

namespace JsonReference

namespace Uri

theorem resolve_withoutFragment_empty {reference : Uri} (h : reference.withoutFragment = .empty)
    (base : Uri) : base.resolve reference = base.withFragment reference.fragment := by
  obtain ⟨scheme, authority, path, query, fragment⟩ := reference
  cases h
  rfl

theorem specificPart_eq_iff {u : Uri} {path : Text} :
    { u with path }.specificPart = u.specificPart ↔ path = u.path := by
  simp [specificPart]

theorem normalPath_eq_iff {authority : Option Text} {path : Text}
    (h : authority.isSome → path = [] ∨ isRooted path) :
    normalPath none authority path = path ↔ authority = none ∨ DotFree path := by
  cases authority with
  | none => simp [normalPath]
  | some a =>
      rcases h rfl with rfl | hrooted
      · have hempty : DotFree [] := by decide
        rw [normalPath_of_not_rooted (by simp [isRooted])]
        simp [hempty]
      · rw [normalPath_of_rooted (.inr rfl) hrooted, removeDotSegments_eq_self_iff]
        simp

theorem specificPart_of_parse_iff {t : Text} {u : Uri} (h : parse t = .ok u) (hhash : '#' ∉ t)
    (hscheme : u.scheme = none) :
    u.specificPart = t ↔ u.authority = none ∨ DotFree (split none t).path := by
  obtain ⟨scheme, rest, hsplit, rfl⟩ := parse_eq_assemble h
  obtain rfl : scheme = none := hscheme
  rcases splitScheme_cases hsplit with ⟨-, rfl⟩ | ⟨_, -, hsome, -⟩
  · have htext : (split none rest).specificPart = rest := by
      rw [split_specificPart, Text.cut_of_not_mem hhash]
    have hpart := @specificPart_eq_iff (split none rest)
      (normalPath none (split none rest).authority (split none rest).path)
    rw [htext] at hpart
    rw [assemble_eq_split, hpart, normalPath_eq_iff split_path]
  · simp at hsome

end Uri

namespace Reference

variable {input : Text} {base other : Reference}

theorem locator_of_scheme {r : Reference} {scheme : Text} (h : r.uri.scheme = some scheme) :
    r.locator = scheme ++ ':' :: r.uri.specificPart := by
  rw [locator, Uri.text_of_scheme (u := r.uri.withoutFragment) h]
  exact congrArg (scheme ++ ':' :: ·) (List.append_nil _)

theorem resolution_archive {r : Reference} {stem : Text} {entry : Uri}
    (h : r.resolution = .archive stem entry) :
    r.uri.isOpaque ∧ ∃ scheme front back, r.uri.scheme = some scheme ∧
      r.uri.specificPart = front ++ '!' :: back ∧ '!' ∉ back ∧
      stem = scheme ++ ':' :: (front ++ ['!']) ∧ Uri.parse back = .ok entry := by
  rw [resolution, classify] at h
  split at h
  · split at h <;> simp at h
  · split at h
    · simp at h
    · next hkind =>
      rw [Bool.not_eq_true, Bool.not_eq_false'] at hkind
      change (r.uri.isOpaque : Prop) at hkind
      refine ⟨hkind, ?_⟩
      have hscheme : r.uri.scheme.isSome := by
        rw [Uri.isOpaque, Bool.and_eq_true, Bool.and_eq_true] at hkind
        exact hkind.1.1
      obtain ⟨scheme, hscheme⟩ := Option.isSome_iff_exists.mp hscheme
      split at h
      · next found hfound =>
        cases h
        rw [archive?] at hfound
        split at hfound
        · simp at hfound
        · next front back hcut =>
          obtain ⟨before, rfl, hpart, hback⟩ := Text.cutLast?_some hcut
          split at hfound
          · next hparse =>
            cases hfound
            have hstem : r.uri.withoutFragment.scheme.getD [] = scheme := by
              simp [Uri.withoutFragment, Uri.withFragment, hscheme]
            exact ⟨scheme, before, back, hscheme, hpart, hback, by rw [hstem], hparse⟩
          · simp at hfound
      · simp at h

theorem resolve_archive_of_absolute {stem : Text} {entry : Uri}
    (h : base.resolution = .archive stem entry) (ha : entry.isAbsolute) (other : Reference) :
    base.resolve other = other := by
  have hresolved : (entry.resolve other.uri).isAbsolute := by
    rw [Uri.isAbsolute, Uri.scheme_resolve, Option.isSome_or, Bool.or_eq_true]
    exact .inr ha
  rw [resolve, h]
  simp only [resolveEntry, hresolved, if_true, ite_self]

/-- A relative reference stays in the archive if the path inside is relative too. -/
theorem resolve_archive_of_relative (hbase : Uri.parse input = .ok base.uri) {stem : Text}
    {entry : Uri} (h : base.resolution = .archive stem entry) (hentry : entry.scheme = none)
    (hother : other.uri.scheme = none) (hplain : other.uri.Plain) (hsound : other.uri.Sound) :
    (∃ text, Uri.parse text = .ok (base.resolve other).uri) ∧
      (base.resolve other).uri.isOpaque ∧
      (base.resolve other).locator = stem ++ (entry.resolve other.uri).specificPart := by
  obtain ⟨hkind, scheme, front, back, hscheme, hpart, -, rfl, hback⟩ := resolution_archive h
  have hbase' := Uri.Obtained.plain (.parse hbase)
  have hresolved : (entry.resolve other.uri).scheme = none := by
    rw [Uri.scheme_resolve, hother, hentry, Option.or_none]
  have hrooted : ¬ Uri.isRooted (front ++ '!' :: (entry.resolve other.uri).specificPart) := by
    have hroot := (Uri.isOpaque_iff.mp hkind).2
    rw [hpart] at hroot
    cases front with
    | nil => simp [Uri.isRooted]
    | cons c front => simpa [Uri.isRooted] using hroot
  have hlegal : Uri.Legal (front ++ '!' :: (entry.resolve other.uri).specificPart) := by
    have hlegal := (Uri.sound_of_parse hbase).specificPart
    rw [hpart] at hlegal
    exact (Uri.Legal.of_append_cons (by decide) hlegal).1.append
      (.cons (by decide) ((Uri.sound_of_parse hback).resolve hsound).specificPart)
  have hhash : '#' ∉ front ++ '!' :: (entry.resolve other.uri).specificPart := by
    have hfront := hbase'.hash_not_mem_specificPart
    have hentry := ((Uri.Obtained.plain (.parse hback)).resolve hplain).hash_not_mem_specificPart
    rw [hpart] at hfront
    simp_all
  obtain ⟨u, hu, huscheme, hupart⟩ :=
    Uri.parse_opaque (hbase'.scheme scheme hscheme) hlegal hhash hrooted hsound.fragment
  rw [Uri.lower_scheme_of_parse hbase hscheme] at huscheme
  have hread : Uri.parse ((scheme ++ ':' :: (front ++ ['!'])) ++ (entry.resolve other.uri).text) =
      .ok u := by
    rw [← hu, Uri.text_of_no_scheme hresolved, Uri.fragment_resolve]
    simp
  have hself : base.resolve other = ⟨u, other.fragment⟩ := by
    have hrelative : (entry.resolve other.uri).isAbsolute = false := by
      simp [Uri.isAbsolute, hresolved]
    rw [resolve, h]
    simp only [resolveEntry, Uri.isAbsolute, hother, hresolved, hread, Option.isSome_none,
      Bool.false_eq_true, if_false]
  rw [hself]
  refine ⟨⟨_, hu⟩, Uri.isOpaque_iff.mpr ⟨by simp [huscheme], by rwa [hupart]⟩, ?_⟩
  rw [locator_of_scheme huscheme, hupart]
  simp

theorem locator_resolve_archive (hbase : parse input = .ok base) {stem : Text} {entry : Uri}
    (h : base.resolution = .archive stem entry) (hrelative : entry.scheme = none)
    (hother : other.uri.withoutFragment = .empty) (hsound : other.uri.Sound) :
    (base.resolve other).locator = stem ++ entry.specificPart := by
  obtain ⟨uri, hparse, hof⟩ := ofUri_of_parse hbase
  obtain rfl := (uri_of_ofUri hof).1
  have hplain : other.uri.Plain := by
    obtain ⟨⟨scheme, authority, path, query, fragment⟩, _⟩ := other
    cases hother
    exact ⟨by simp, by simp, by simp, by simp⟩
  have hlocator := (resolve_archive_of_relative hparse h hrelative
    (congrArg Uri.scheme hother) hplain hsound).2.2
  rwa [Uri.resolve_withoutFragment_empty hother] at hlocator

theorem fragment_resolve (base other : Reference) :
    (base.resolve other).fragment = other.fragment := by
  rw [resolve]
  split
  · rfl
  · rfl
  · rw [resolveEntry]
    split
    · rfl
    · simp only
      split
      · rfl
      · split <;> rfl

theorem resolution_empty {r : Reference} (h : r.resolution = .empty) :
    r.uri.withoutFragment = .empty := by
  rw [resolution, classify] at h
  split at h
  · next hscheme =>
    split at h
    · next hblank =>
      obtain ⟨⟨scheme, authority, path, query, fragment⟩, _⟩ := r
      simp_all [Uri.isAbsolute, Uri.withoutFragment, Uri.withFragment, Uri.empty]
    · simp at h
  · split at h
    · simp at h
    · split at h <;> simp at h

theorem kind_eq_archive_iff {r : Reference} :
    r.kind = .archive ↔ ∃ stem entry, r.resolution = .archive stem entry := by
  rw [kind]
  cases r.resolution <;> simp

theorem contains_resolve_of_not_archive (h : base.kind ≠ .archive)
    (hother : other.uri.withoutFragment = .empty) : base.contains (base.resolve other) := by
  rw [contains, beq_iff_eq, resolve]
  split
  · next hempty => rw [locator, locator, hother, resolution_empty hempty]
  · rw [Uri.resolve_withoutFragment_empty hother]
    rfl
  · next hentry => exact absurd (kind_eq_archive_iff.mpr ⟨_, _, hentry⟩) h

/-- A reference with nothing but a fragment stays in the document that it is resolved in. Of an
archive this is so just if the path inside is relative, and has no dot segments behind an authority;
if the path is not relative, the reference is left as it is. -/
theorem resolve_fragmentOnly {input input' : Text} {base other : Reference}
    (hbase : parse input = .ok base) (hother : parse input' = .ok other)
    (honly : other.uri.withoutFragment = .empty) :
    (base.resolve other).fragment = other.fragment ∧
    (base.kind ≠ .archive → base.contains (base.resolve other)) ∧
    ∀ stem entry, base.resolution = .archive stem entry →
      ∃ back, base.locator = stem ++ back ∧ stem.getLast? = some '!' ∧ '!' ∉ back ∧
        Uri.parse back = .ok entry ∧ (entry.isAbsolute → base.resolve other = other) ∧
        (base.contains (base.resolve other) ↔
          entry.scheme = none ∧
            (entry.authority = none ∨ Uri.DotFree (Uri.split none back).path)) := by
  refine ⟨fragment_resolve base other, fun h => contains_resolve_of_not_archive h honly, ?_⟩
  intro stem entry h
  obtain ⟨-, scheme, front, back, hscheme, hpart, hback, rfl, hentry⟩ := resolution_archive h
  have hlocator : base.locator = (scheme ++ ':' :: (front ++ ['!'])) ++ back := by
    rw [locator_of_scheme hscheme, hpart]
    simp
  have hlast : (scheme ++ ':' :: (front ++ ['!'])).getLast? = some '!' := by
    rw [← List.cons_append, ← List.append_assoc, List.getLast?_concat]
  refine ⟨back, hlocator, hlast, hback, hentry,
    fun ha => resolve_archive_of_absolute h ha other, ?_⟩
  cases hrelative : entry.scheme with
  | some s =>
      have hself := resolve_archive_of_absolute h (by simp [Uri.isAbsolute, hrelative]) other
      have hempty : other.locator = [] := by
        rw [locator, honly]
        rfl
      simp [contains, hself, hempty, hlocator]
  | none =>
      obtain ⟨uri, hparse, hof⟩ := ofUri_of_parse hother
      obtain rfl := (uri_of_ofUri hof).1
      have hhash : '#' ∉ back := by
        have hplain := (obtained_of_parse hbase).plain.hash_not_mem_specificPart
        rw [hpart] at hplain
        simp_all
      have hresolved := locator_resolve_archive hbase h hrelative honly (Uri.sound_of_parse hparse)
      rw [contains, hresolved, hlocator, beq_iff_eq, List.append_cancel_left_eq, eq_comm,
        Uri.specificPart_of_parse_iff hentry hhash hrelative]
      simp

def archived : Reference :=
  ⟨⟨some "jar".toList, none, "file:/lib.jar!/schemas/../b.json".toList, some "v".toList, none⟩,
    .pointer .root⟩

def definitions : Reference :=
  ⟨⟨none, none, [], none, some "/definitions".toList⟩, .pointer ⟨["definitions".toList]⟩⟩

def label : Reference := ⟨⟨none, none, [], none, some "x".toList⟩, .name "x".toList⟩

theorem resolve_fragmentOnly_archived :
    ∃ base other, parse "jar:file:/lib.jar!/schemas/../b.json?v".toList = .ok base ∧
      parse "#/definitions".toList = .ok other ∧ other.uri.withoutFragment = .empty ∧
      base.contains (base.resolve other) ∧ (base.resolve other).fragment = other.fragment := by
  have hbase : parse "jar:file:/lib.jar!/schemas/../b.json?v".toList = .ok archived := rfl
  have hother : parse "#/definitions".toList = .ok definitions := rfl
  obtain ⟨hfragment, -, harchive⟩ := resolve_fragmentOnly hbase hother rfl
  obtain ⟨back, -, -, -, -, -, hcontains⟩ := harchive _ _ rfl
  exact ⟨archived, definitions, hbase, hother, rfl, hcontains.mpr ⟨rfl, .inl rfl⟩, hfragment⟩

/-- What is inside of an archive may be no path at all, and then the document is left; or it may be
one behind an authority, and then it loses its dot segments. -/
theorem not_contains_resolve_archive :
    (∃ base other, parse "a:b!c:d".toList = .ok base ∧ parse "#x".toList = .ok other ∧
      other.uri.withoutFragment = .empty ∧ base.contains (base.resolve other) = false ∧
      (base.resolve other).text = "#x".toList) ∧
    ∃ base other, parse "a:b!//h/x/../y".toList = .ok base ∧ parse "#x".toList = .ok other ∧
      other.uri.withoutFragment = .empty ∧ base.contains (base.resolve other) = false ∧
      (base.resolve other).text = "a:b!//h/y#x".toList := by
  exact ⟨⟨.ofOpaque "a".toList "b!c:d".toList, label, rfl, rfl, rfl, rfl, rfl⟩,
    .ofOpaque "a".toList "b!//h/x/../y".toList, label, rfl, rfl, rfl, rfl, rfl⟩

end Reference
end JsonReference
