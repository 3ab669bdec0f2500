import JsonReference.Proofs.Reference.Archive
import Mathlib.Tactic.IntervalCases

namespace JsonReference

namespace Uri

variable {c : Char} {t : Text} {entry : Uri}

theorem isRooted_specificPart_of_parse (h : parse t = .ok entry) (hrooted : isRooted t) :
    isRooted entry.specificPart := by
  obtain ⟨rest, rfl⟩ := eq_cons_of_isRooted hrooted
  obtain ⟨scheme, back, hsplit, rfl⟩ := parse_eq_assemble h
  rw [splitScheme_of_not_beginsScheme (not_beginsScheme_of_rooted hrooted)] at hsplit
  cases hsplit
  have hparts : isRooted (split none ('/' :: rest)).specificPart := by
    rw [split_specificPart]
    rfl
  rw [isRooted_specificPart_iff] at hparts ⊢
  exact hparts.imp_right fun hpath => isRooted_normalPath hpath _ _

theorem not_mem_specificPart_of_parse (hc : c ≠ '/') (hc' : c ≠ '?') (h : parse t = .ok entry)
    (hscheme : entry.scheme = none) (hmem : c ∉ t) : c ∉ entry.specificPart := by
  obtain ⟨scheme, rest, hsplit, rfl⟩ := parse_eq_assemble h
  obtain rfl : scheme = none := hscheme
  have hrest : c ∉ rest := fun hx => hmem ((splitScheme_sound hsplit).2 hx)
  have hparts : (split none rest).Throughout (c ∉ ·) := by
    rw [← not_mem_specificPart_iff hc hc', split_specificPart]
    exact fun hx => hrest (Text.cut_fst_subset '#' rest hx)
  rw [not_mem_specificPart_iff hc hc', assemble_eq_split]
  exact ⟨hparts.authority, not_mem_normalPath hc hparts.path _ _, hparts.query⟩

theorem isRooted_specificPart_resolve {base reference : Uri} (h : isRooted base.specificPart)
    (hscheme : reference.scheme = none) : isRooted (base.resolve reference).specificPart := by
  rw [isRooted_specificPart_iff] at h ⊢
  have hresolved := resolved base reference
  generalize base.resolve reference = u at hresolved
  cases hresolved with
  | absolute habsolute => simp [hscheme] at habsolute
  | remote _ hauthority => exact .inl hauthority
  | same => exact h
  | rooted _ _ hrooted => exact .inr (isRooted_removeDotSegments hrooted)
  | merged => exact h.imp_right fun hpath => isRooted_removeDotSegments (isRooted_merge (.inl hpath))

end Uri

namespace Reference

variable {input : Text} {stem stem' back : Text} {r base other : Reference}
  {others : List Reference}

def Relative (r : Reference) : Prop := (∃ input, parse input = .ok r) ∧ r.uri.scheme = none

/-- What is behind the last `!` of the locator does not begin with a scheme. -/
def Enterable (r : Reference) : Prop :=
  ∃ stem back, Text.cutLast? '!' r.locator = some (stem, back) ∧ ¬ Uri.BeginsScheme back

def resolveAll (base : Reference) (others : List Reference) : Reference := others.foldl resolve base

structure Inside (stem : Text) (r : Reference) : Prop where
  parsed : ∃ text, Uri.parse text = .ok r.uri
  isOpaque : r.uri.isOpaque
  within : stem <+: r.locator

theorem resolution_of_cutLast? (hparse : Uri.parse input = .ok r.uri) (hkind : r.uri.isOpaque)
    (hcut : Text.cutLast? '!' r.locator = some (stem, back)) (hback : ¬ Uri.BeginsScheme back) :
    ∃ entry, r.resolution = .archive stem entry ∧ Uri.parse back = .ok entry ∧
      entry.scheme = none := by
  have hplain := Uri.Obtained.plain (.parse hparse)
  obtain ⟨scheme, hscheme⟩ := Option.isSome_iff_exists.mp (Uri.isOpaque_iff.mp hkind).1
  obtain ⟨before, rfl, hlocator, hbang⟩ := Text.cutLast?_some hcut
  rw [locator_of_scheme hscheme] at hlocator
  -- The scheme has no `!`, so that the cut is behind its colon.
  obtain ⟨front, rfl, hpart⟩ : ∃ front, before = scheme ++ ':' :: front ∧
      r.uri.specificPart = front ++ '!' :: back := by
    have hnone : '!' ∉ scheme := fun hc =>
      absurd (Uri.isSchemeChar_of_mem (hplain.scheme scheme hscheme) hc) (by decide)
    rcases List.append_eq_append_iff.mp hlocator with ⟨rest, rfl, hrest⟩ | ⟨rest, rfl, hrest⟩
    · cases rest with
      | nil => simp at hrest
      | cons c front =>
          obtain ⟨rfl, hfront⟩ := List.cons.inj hrest
          exact ⟨front, rfl, hfront⟩
    · cases rest with
      | nil => simp at hrest
      | cons c rest =>
          obtain ⟨rfl, -⟩ := List.cons.inj hrest
          simp at hnone
  have hlegal := (Uri.sound_of_parse hparse).specificPart
  have hhash := hplain.hash_not_mem_specificPart
  rw [hpart] at hlegal hhash
  obtain ⟨entry, hentry, hrelative⟩ :=
    Uri.parse_relative (Uri.Legal.of_append_cons (by decide) hlegal).2 (by simp_all) hback
  refine ⟨entry, ?_, hentry, hrelative⟩
  have hkind' : r.uri.withoutFragment.isOpaque = true := hkind
  have hpart' : r.uri.withoutFragment.specificPart = front ++ '!' :: back := hpart
  have hscheme' : r.uri.withoutFragment.scheme = some scheme := hscheme
  rw [resolution, classify]
  simp [Uri.isAbsolute, hkind', hscheme', archive?, hpart', Text.cutLast?_append_cons hbang,
    hentry]

theorem enterable_of_resolution {entry : Uri} (h : r.resolution = .archive stem entry)
    (hentry : entry.scheme = none) : r.Enterable := by
  obtain ⟨-, scheme, front, back, hscheme, hpart, hback, -, hparse⟩ := resolution_archive h
  have hcut := Text.cutLast?_append_cons hback (scheme ++ ':' :: front)
  rw [List.append_assoc, List.cons_append, ← hpart, ← locator_of_scheme hscheme] at hcut
  exact ⟨_, back, hcut, Uri.not_beginsScheme_of_parse hparse hentry⟩

namespace Relative

theorem plain (h : other.Relative) : other.uri.Plain := by
  obtain ⟨⟨input, hparse⟩, -⟩ := h
  exact (obtained_of_parse hparse).plain

theorem sound (h : other.Relative) : other.uri.Sound := by
  obtain ⟨⟨input, hparse⟩, -⟩ := h
  obtain ⟨uri, hparse, hof⟩ := ofUri_of_parse hparse
  exact (uri_of_ofUri hof).1 ▸ Uri.sound_of_parse hparse

theorem locator_eq (h : other.Relative) : other.locator = other.uri.specificPart := by
  rw [locator, Uri.text_of_no_scheme (u := other.uri.withoutFragment) h.2]
  exact List.append_nil _

end Relative

namespace Inside

theorem of_archive (hparse : parse input = .ok base) (hkind : base.kind = .archive)
    (hcut : Text.cutLast? '!' base.locator = some (stem, back)) : base.Inside stem := by
  obtain ⟨uri, huri, hof⟩ := ofUri_of_parse hparse
  obtain rfl := (uri_of_ofUri hof).1
  obtain ⟨_, _, hresolution⟩ := kind_eq_archive_iff.mp hkind
  refine ⟨⟨input, huri⟩, (resolution_archive hresolution).1, ?_⟩
  rw [Text.cutLast?_eq_append hcut]
  exact List.prefix_append stem back

theorem step (h : r.Inside stem) (hlast : stem.getLast? = some '!')
    (hcut : Text.cutLast? '!' r.locator = some (stem', back)) (hback : ¬ Uri.BeginsScheme back)
    (hother : other.Relative) :
    (r.resolve other).Inside stem ∧ ∃ entry, Uri.parse back = .ok entry ∧ entry.scheme = none ∧
      (r.resolve other).locator = stem' ++ (entry.resolve other.uri).specificPart := by
  obtain ⟨input, hparse⟩ := h.parsed
  obtain ⟨entry, hresolution, hentry, hrelative⟩ :=
    resolution_of_cutLast? hparse h.isOpaque hcut hback
  obtain ⟨hparsed, hkind, hlocator⟩ := resolve_archive_of_relative hparse hresolution hrelative
    hother.2 hother.plain hother.sound
  refine ⟨⟨hparsed, hkind, ?_⟩, entry, hentry, hrelative, hlocator⟩
  rw [hlocator]
  exact (Text.prefix_of_cutLast? hcut h.within hlast).trans (List.prefix_append _ _)

theorem resolveAll (h : base.Inside stem) (hlast : stem.getLast? = some '!')
    (hothers : ∀ other ∈ others, other.Relative)
    (henter : ∀ n < others.length, (base.resolveAll (others.take n)).Enterable) :
    (base.resolveAll others).Inside stem := by
  induction others generalizing base with
  | nil => exact h
  | cons other rest ih =>
      obtain ⟨hother, hrest⟩ := List.forall_mem_cons.mp hothers
      obtain ⟨stem', back, hcut, hback⟩ := henter 0 (by simp)
      exact ih (h.step hlast hcut hback hother).1 hrest fun n hn => henter (n + 1) (by simpa)

end Inside

structure RootedIn (stem : Text) (r : Reference) : Prop extends r.Inside stem where
  rooted : ∃ back, r.locator = stem ++ back ∧ '!' ∉ back ∧ Uri.isRooted back

structure ColonFreeIn (stem : Text) (r : Reference) : Prop extends r.Inside stem where
  colonFree : ∃ back, r.locator = stem ++ back ∧ ':' ∉ back

theorem RootedIn.step (h : r.RootedIn stem) (hlast : stem.getLast? = some '!')
    (hother : other.Relative) (hbang : '!' ∉ other.locator) :
    (r.resolve other).RootedIn stem := by
  obtain ⟨back, hr, hback, hrooted⟩ := h.rooted
  have hcut : Text.cutLast? '!' r.locator = some (stem, back) := by
    obtain ⟨front, rfl⟩ := List.getLast?_eq_some_iff.mp hlast
    rw [hr, List.append_assoc]
    exact Text.cutLast?_append_cons hback front
  obtain ⟨hinside, entry, hentry, hrelative, hlocator⟩ :=
    h.toInside.step hlast hcut (Uri.not_beginsScheme_of_rooted hrooted) hother
  rw [hother.locator_eq] at hbang
  refine ⟨hinside, _, hlocator, ?_, ?_⟩
  · apply Uri.not_mem_specificPart_resolve (by decide) (by decide) _ hbang
    exact Uri.not_mem_specificPart_of_parse (by decide) (by decide) hentry hrelative hback
  · apply Uri.isRooted_specificPart_resolve _ hother.2
    exact Uri.isRooted_specificPart_of_parse hentry hrooted

theorem ColonFreeIn.step (h : r.ColonFreeIn stem) (hlast : stem.getLast? = some '!')
    (hother : other.Relative) (hcolon : ':' ∉ other.locator) :
    (r.resolve other).ColonFreeIn stem := by
  obtain ⟨back, hr, hback⟩ := h.colonFree
  -- References before may have brought another `!`, and then the cut is behind that one.
  obtain ⟨mid, rest, hcut, rfl⟩ := Text.cutLast?_append hlast back
  rw [List.mem_append, not_or] at hback
  obtain ⟨hinside, entry, hentry, hrelative, hlocator⟩ :=
    h.toInside.step hlast (hr ▸ hcut) (Uri.not_beginsScheme_of_not_mem hback.2) hother
  rw [hother.locator_eq] at hcolon
  refine ⟨hinside, _, hlocator.trans (List.append_assoc ..), ?_⟩
  rw [List.mem_append, not_or]
  refine ⟨hback.1, ?_⟩
  apply Uri.not_mem_specificPart_resolve (by decide) (by decide) _ hcolon
  exact Uri.not_mem_specificPart_of_parse (by decide) (by decide) hentry hrelative hback.2

theorem RootedIn.resolveAll (h : base.RootedIn stem) (hlast : stem.getLast? = some '!')
    (hothers : ∀ other ∈ others, other.Relative ∧ '!' ∉ other.locator) :
    (base.resolveAll others).RootedIn stem :=
  List.foldlRecOn others resolve h fun _ hr other ho =>
    hr.step hlast (hothers other ho).1 (hothers other ho).2

theorem ColonFreeIn.resolveAll (h : base.ColonFreeIn stem) (hlast : stem.getLast? = some '!')
    (hothers : ∀ other ∈ others, other.Relative ∧ ':' ∉ other.locator) :
    (base.resolveAll others).ColonFreeIn stem :=
  List.foldlRecOn others resolve h fun _ hr other ho =>
    hr.step hlast (hothers other ho).1 (hothers other ho).2

theorem Inside.confined (h : r.Inside stem) : r.uri.isAbsolute ∧ stem <+: r.locator :=
  ⟨(Uri.isOpaque_iff.mp h.isOpaque).1, h.within⟩

/-- Relative references that are resolved one after another do not leave an archive for as long as
all results are enterable. From one that is an archive but not enterable, the next reference comes
back as it is. None leaves it if the path inside is rooted and no reference has a `!`, or if there
are no colons. -/
theorem resolveAll_archive (hparse : parse input = .ok base) (hkind : base.kind = .archive)
    (hcut : Text.cutLast? '!' base.locator = some (stem, back))
    (hothers : ∀ other ∈ others, other.Relative) :
    let result n := base.resolveAll (others.take n)
    (∀ n, (∀ m < n, (result m).Enterable) →
      (result n).uri.isAbsolute ∧ stem <+: (result n).locator) ∧
    (∀ n other, (result n).kind = .archive → ¬ (result n).Enterable → others[n]? = some other →
      result (n + 1) = other) ∧
    (Uri.isRooted back ∧ (∀ other ∈ others, '!' ∉ other.locator) ∨
        ':' ∉ back ∧ (∀ other ∈ others, ':' ∉ other.locator) →
      ∀ n, (result n).uri.isAbsolute ∧ stem <+: (result n).locator) := by
  intro result
  obtain ⟨front, rfl, hlocator, hback⟩ := Text.cutLast?_some hcut
  have hlast : (front ++ ['!']).getLast? = some '!' := List.getLast?_concat
  have hbase := Inside.of_archive hparse hkind hcut
  rw [List.append_cons] at hlocator
  have htake {n : Nat} {other : Reference} (h : other ∈ others.take n) : other ∈ others :=
    List.mem_of_mem_take h
  refine ⟨?_, ?_, ?_⟩
  · intro n henter
    apply (hbase.resolveAll hlast (fun other ho => hothers other (htake ho)) _).confined
    intro m hm
    rw [List.length_take, lt_min_iff] at hm
    rw [List.take_take, min_eq_left hm.1.le]
    exact henter m hm.1
  · intro n other hkind hnot hn
    obtain ⟨stem', entry, hresolution⟩ := kind_eq_archive_iff.mp hkind
    -- An archive with a relative path inside would be enterable.
    have habsolute : entry.isAbsolute := by
      rw [Uri.isAbsolute, Option.isSome_iff_ne_none]
      exact fun hentry => hnot (enterable_of_resolution hresolution hentry)
    have hstep : result (n + 1) = (result n).resolve other := by
      simp only [result, Reference.resolveAll]
      rw [List.take_add_one, hn, List.foldl_append]
      rfl
    rw [hstep]
    exact resolve_archive_of_absolute hresolution habsolute other
  · rintro (⟨hrooted, hbang⟩ | ⟨hcolonFree, hcolon⟩) n
    · exact (RootedIn.resolveAll ⟨hbase, back, hlocator, hback, hrooted⟩ hlast
        fun other ho => ⟨hothers other (htake ho), hbang other (htake ho)⟩).confined
    · exact (ColonFreeIn.resolveAll ⟨hbase, back, hlocator, hcolonFree⟩ hlast
        fun other ho => ⟨hothers other (htake ho), hcolon other (htake ho)⟩).confined

def packed : Reference := .ofOpaque "jar".toList "file:/lib.jar!/schemas/a.json".toList

def inward : Reference := .ofPath "../in.jar!/x:y".toList

def upward : Reference := .ofPath "../../../z".toList

theorem resolveAll_archive_inner :
    ∃ base first second,
      parse "jar:file:/lib.jar!/schemas/a.json".toList = .ok base ∧ base.kind = .archive ∧
      parse "../in.jar!/x:y".toList = .ok first ∧ parse "../../../z".toList = .ok second ∧
      (base.resolveAll [first, second]).uri.isAbsolute ∧
      "jar:file:/lib.jar!".toList <+: (base.resolveAll [first, second]).locator ∧
      (base.resolveAll [first, second]).locator = "jar:file:/lib.jar!/in.jar!/z".toList := by
  have hothers : ∀ other ∈ [inward, upward], other.Relative := by
    intro other hother
    rcases List.mem_pair.mp hother with rfl | rfl
    · exact ⟨⟨_, show parse "../in.jar!/x:y".toList = .ok inward from rfl⟩, rfl⟩
    · exact ⟨⟨_, show parse "../../../z".toList = .ok upward from rfl⟩, rfl⟩
  have hbase : parse "jar:file:/lib.jar!/schemas/a.json".toList = .ok packed := rfl
  have hkind : packed.kind = .archive := rfl
  obtain ⟨hconfined, -⟩ := resolveAll_archive hbase hkind rfl hothers
  have hafter : Text.cutLast? '!' (packed.resolve inward).locator =
      some ("jar:file:/lib.jar!/in.jar!".toList, "/x:y".toList) := by decide +kernel
  obtain ⟨habsolute, hprefix⟩ := hconfined 2 fun m hm => by
    interval_cases m
    · exact ⟨_, _, rfl, by decide⟩
    · exact ⟨_, _, hafter, by decide⟩
  exact ⟨packed, inward, upward, hbase, hkind, rfl, rfl, habsolute, hprefix, by decide +kernel⟩

/-- A relative reference comes back without a scheme from an archive with a URI inside, and from one
with a path inside if a reference before it begins like a URI once its dot segment is gone. Where
that begins like none that is legal, a rooted reference is resolved along the whole. -/
theorem resolveAll_leaves_archive :
    (∃ base other, parse "a:b!c:d".toList = .ok base ∧ base.kind = .archive ∧
      parse "x".toList = .ok other ∧ other.uri.scheme = none ∧
      (base.resolve other).uri.isAbsolute = false) ∧
    (∃ base first second, parse "a:b!d".toList = .ok base ∧ base.kind = .archive ∧
      parse "./x:y".toList = .ok first ∧ first.uri.scheme = none ∧
      parse "z".toList = .ok second ∧ second.uri.scheme = none ∧
      (base.resolve first).text = "a:b!x:y".toList ∧
      (base.resolveAll [first, second]).uri.isAbsolute = false) ∧
    ∃ base first second, parse "a:b!d".toList = .ok base ∧ base.kind = .archive ∧
      parse "./x!1:z".toList = .ok first ∧ first.uri.scheme = none ∧
      parse "/z".toList = .ok second ∧ second.uri.scheme = none ∧
      (base.resolve first).text = "a:b!x!1:z".toList ∧
      ¬ "a:b!".toList <+: (base.resolveAll [first, second]).locator := by
  refine ⟨⟨.ofOpaque "a".toList "b!c:d".toList, .ofPath "x".toList, rfl, rfl, rfl, rfl, ?_⟩,
    ⟨.ofOpaque "a".toList "b!d".toList, .ofPath "./x:y".toList, .ofPath "z".toList, rfl, rfl, rfl,
      rfl, rfl, rfl, ?_, ?_⟩,
    ⟨.ofOpaque "a".toList "b!d".toList, .ofPath "./x!1:z".toList, .ofPath "/z".toList, rfl, rfl,
      rfl, rfl, rfl, rfl, ?_, ?_⟩⟩ <;> decide +kernel

end Reference
end JsonReference
