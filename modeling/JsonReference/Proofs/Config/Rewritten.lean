import JsonReference.Proofs.Config.WellFormed
import JsonReference.Proofs.Uri.Extended
import Mathlib.Data.List.Infix
import Mathlib.Data.List.Nodup

namespace JsonReference

namespace Text

variable {a b t : Text}

theorem size_eq_zero_iff : size t = 0 ↔ t = [] := by
  cases t with
  | nil => simp [size]
  | cons x t =>
      have hpos := Char.utf8Size_pos x
      simp only [size, List.foldr_cons, reduceCtorEq, iff_false]
      omega

theorem prefix_of_prefix_of_size_le (ha : a <+: t) (hb : b <+: t) (h : size a ≤ size b) :
    a <+: b := by
  rcases List.prefix_or_prefix_of_prefix ha hb with hab | ⟨rest, rfl⟩
  · exact hab
  · rw [size_append] at h
    have hrest : rest = [] := size_eq_zero_iff.mp (by omega)
    rw [hrest, List.append_nil]

end Text

theorem NamesDirectory.exists_directory {t : Text} (h : NamesDirectory t) :
    ∃ u : Uri, Uri.parse t = .ok u ∧ u.Directory ∧ u.text = t := by
  obtain ⟨⟨r, hr, ha, hlocator⟩, hlast⟩ := h
  obtain ⟨uri, hparse, hof⟩ := Reference.ofUri_of_parse hr
  obtain rfl := (Reference.uri_of_ofUri hof).1
  have habsolute := (Bool.and_eq_true_iff.mp ha).1
  obtain ⟨scheme, hscheme, hvalid, htext, hhash⟩ :=
    (Reference.isLocator_toLocator (Reference.obtained_of_parse hr) habsolute).locator_eq
  have hshape : t = scheme ++ ':' :: r.uri.specificPart := hlocator.symm.trans htext
  have hbare : r.IsLocator := Reference.isLocator_of_parse hvalid hhash (hshape ▸ hr)
  have htext : r.uri.text = t := hbare.text_eq.trans hlocator
  have hread := (Reference.Printable.of_parse hr).settled.parse_text (.inl habsolute)
  rw [htext, hparse] at hread
  refine ⟨r.uri, hparse, ⟨hbare.settled, habsolute, hbare.fragment, (Except.ok.inj hread).symm, ?_⟩,
    htext⟩
  rw [hshape, List.getLast?_append_of_ne_nil _ (by simp)] at hlast
  cases hpart : r.uri.specificPart with
  | nil => simp [hpart] at hlast
  | cons c rest => rwa [hpart, List.getLast?_cons_cons] at hlast

theorem Reference.locator_assemble {scheme : Option Text} {s : Text} (hscheme : scheme = some s)
    (t : Text) (fragment : Fragment) :
    Reference.locator ⟨Uri.assemble scheme t, fragment⟩ =
      s ++ ':' :: (Uri.assemble scheme t).specificPart := by
  have hassembled : (Uri.assemble scheme t).withoutFragment.scheme = some s := hscheme
  rw [Reference.locator, Uri.text_of_scheme hassembled]
  exact congrArg (s ++ ':' :: ·) (List.append_nil _)

namespace Uri.Directory

variable {u : Uri} {back : Text}

theorem parse_reference (h : u.Directory) (hlegal : Legal back) (hhash : '#' ∉ back) :
    Reference.parse (u.text ++ back) =
      .ok ⟨assemble u.scheme (u.specificPart ++ back), .pointer .root⟩ := by
  have hfragment : (assemble u.scheme (u.specificPart ++ back)).fragment = none :=
    Text.cut_snd_eq_none (h.hash_not_mem hhash)
  have hread : Reference.ofUri (assemble u.scheme (u.specificPart ++ back)) =
      .ok ⟨assemble u.scheme (u.specificPart ++ back), .pointer .root⟩ := by
    rw [Reference.ofUri, hfragment]
  rw [Reference.parse, h.parse_append hlegal hhash]
  exact hread

theorem parts_of_append (h : u.Directory) {r : Reference} (hr : r.IsLocator)
    (hback : r.locator = u.text ++ back) :
    r.uri.scheme = u.scheme ∧ r.uri.specificPart = u.specificPart ++ back := by
  obtain ⟨scheme, hscheme⟩ := Option.isSome_iff_exists.mp h.scheme
  obtain ⟨scheme', hscheme', hvalid, hlocator, -⟩ := hr.locator_eq
  rw [hlocator, h.text_eq hscheme, List.append_assoc, List.cons_append] at hback
  obtain ⟨rfl, hpart⟩ := Text.append_cons_inj (Reference.IsLocator.colon_not_mem hvalid)
    (Reference.IsLocator.colon_not_mem (h.settled.plain.scheme scheme hscheme)) hback
  exact ⟨hscheme'.trans hscheme.symm, hpart⟩

end Uri.Directory

/-- The source is a directory in a hierarchy, and more than its root: what stands behind it goes on
with its path. -/
def PathRule.Hierarchical (rule : PathRule) : Prop :=
  ∃ u, Uri.parse rule.source = .ok u ∧ Uri.isRooted u.path ∧ u.query = none ∧
    u.specificPart ≠ ['/']

namespace Config

variable {c : Config} {r : Reference} {rule : PathRule} {rules : List PathRule}
  {locator back text : Text}

theorem substitute?_cases (h : LongestFirst rules) (locator : Text) :
    (substitute? locator rules = none ∧ ∀ rule ∈ rules, ¬ rule.source <+: locator) ∨
    ∃ rule ∈ rules, ∃ back, locator = rule.source ++ back ∧
      (∀ other ∈ rules, other.source <+: locator → other.source <+: rule.source) ∧
      substitute? locator rules = some (rule.target ++ back) := by
  induction rules with
  | nil => exact .inl ⟨rfl, by simp⟩
  | cons first rest ih =>
      obtain ⟨hfirst, hrest⟩ := List.pairwise_cons.mp h
      rw [substitute?]
      cases hdrop : Text.dropFront? first.source locator with
      | some back =>
          have hback := Text.eq_append_of_dropFront? hdrop
          refine .inr ⟨first, List.mem_cons_self, back, hback, ?_, rfl⟩
          refine List.forall_mem_cons.mpr ⟨fun _ => List.prefix_rfl, fun other hother hfits => ?_⟩
          exact Text.prefix_of_prefix_of_size_le hfits ⟨back, hback.symm⟩ (hfirst other hother)
      | none =>
          have hunfit : ¬ first.source <+: locator := by
            rintro ⟨back, rfl⟩
            simp [Text.dropFront?_append] at hdrop
          rcases ih hrest with ⟨hnone, hall⟩ | ⟨rule, hrule, back, hback, hlongest, hsome⟩
          · exact .inl ⟨hnone, List.forall_mem_cons.mpr ⟨hunfit, hall⟩⟩
          · refine .inr ⟨rule, List.mem_cons_of_mem first hrule, back, hback, ?_, hsome⟩
            exact List.forall_mem_cons.mpr ⟨fun hfits => absurd hfits hunfit, hlongest⟩

theorem substitute?_of_longest (hsorted : LongestFirst rules)
    (hsources : (rules.map (·.source)).Nodup) (hrule : rule ∈ rules)
    (hback : locator = rule.source ++ back)
    (hlongest : ∀ other ∈ rules, other.source <+: locator →
      Text.size other.source ≤ Text.size rule.source) :
    substitute? locator rules = some (rule.target ++ back) := by
  have hfits : rule.source <+: locator := ⟨back, hback.symm⟩
  rcases substitute?_cases hsorted locator with
    ⟨-, hnone⟩ | ⟨first, hfirst, left, hleft, hbegins, hsome⟩
  · exact absurd hfits (hnone rule hrule)
  · have hfirstfits : first.source <+: locator := ⟨left, hleft.symm⟩
    have hsame : first.source = rule.source :=
      (Text.prefix_of_prefix_of_size_le hfirstfits hfits
        (hlongest first hfirst hfirstfits)).eq_of_length_le (hbegins rule hrule hfits).length_le
    obtain rfl : first = rule := List.inj_on_of_nodup_map hsources hfirst hrule hsame
    rw [hback, List.append_cancel_left_eq] at hleft
    rw [hsome, hleft]

theorem redirect_of_substitute {changed : Reference}
    (h : substitute? (c.schemaTarget r).locator c.pathRules = some text)
    (hparse : Reference.parse text = .ok changed) : c.redirect r = changed := by
  simp only [redirect, h, hparse]

theorem parse_rewritten (h : c.WellFormed) (hr : r.IsLocator) (hrule : rule ∈ c.pathRules)
    (hback : r.locator = rule.source ++ back) :
    ∃ u : Uri, u.Directory ∧ u.text = rule.target ∧ Reference.parse (rule.target ++ back) =
      .ok ⟨Uri.assemble u.scheme (u.specificPart ++ back), .pointer .root⟩ := by
  obtain ⟨hsource, htarget, -⟩ := h.rules rule hrule
  obtain ⟨u, -, hu, htext⟩ := htarget.exists_directory
  obtain ⟨hlegal, hhash⟩ := hr.back hsource.2 hback
  exact ⟨u, hu, htext, htext ▸ hu.parse_reference hlegal hhash⟩

/-- What the path rules make of a locator is always read. -/
theorem parse_substitute? (h : c.WellFormed) (hr : (c.schemaTarget r).IsLocator)
    (ht : substitute? (c.schemaTarget r).locator c.pathRules = some text) :
    Reference.parse text = .ok (c.redirect r) := by
  obtain ⟨rule, hrule, back, hback, rfl⟩ := substitute?_eq_append ht
  obtain ⟨u, -, -, hparse⟩ := parse_rewritten h hr hrule hback
  rw [hparse, redirect_of_substitute ht hparse]

theorem dotFree_back (h : c.WellFormed) (hr : r.IsLocator) (hrule : rule ∈ c.pathRules)
    (hback : r.locator = rule.source ++ back) (hsource : rule.Hierarchical) :
    Uri.DotFree (Text.cut '?' back).1 := by
  obtain ⟨w, hw, hrooted, hquery, hroot⟩ := hsource
  obtain ⟨u, hparse, hu, htext⟩ := (h.rules rule hrule).1.exists_directory
  obtain rfl : u = w := by simpa [hw] using hparse.symm
  obtain ⟨hscheme, hpart⟩ := hu.parts_of_append hr (htext ▸ hback)
  exact hu.dotFree_back hrooted hquery hroot hr.settled hscheme hr.fragment hpart

/-- The rule with the longest source puts its target in place of that, and the text is read, which
takes the dot segments out of a rooted path. What is read begins with the target as long as the dot
segments behind the source do not lead up over it. Behind a hierarchical source there are none. -/
theorem redirect_rewritten (hc : c.Built) (ho : r.uri.Obtained) (ha : r.uri.isAbsolute)
    (hrule : rule ∈ c.pathRules) (hback : (c.schemaTarget r).locator = rule.source ++ back)
    (hlongest : ∀ other ∈ c.pathRules, other.source <+: (c.schemaTarget r).locator →
      Text.size other.source ≤ Text.size rule.source) :
    Reference.parse (rule.target ++ back) = .ok (c.redirect r) ∧
    ((c.redirect r).locator = rule.target ++ back ↔
      (Uri.isRooted (Uri.writtenPath (rule.target ++ back)) →
        Uri.DotFree (Uri.writtenPath (rule.target ++ back)))) ∧
    (Uri.climbs 0 (Text.segments '/' (Text.cut '?' back).1) = false →
      rule.target <+: (c.redirect r).locator) ∧
    (rule.Hierarchical → (c.redirect r).locator = rule.target ++ back) := by
  have h := hc.wellFormed
  have hr : (c.schemaTarget r.toLocator).IsLocator :=
    isLocator_schemaTarget hc.sound (Reference.isLocator_toLocator ho ha)
  have hsubstitute := substitute?_of_longest h.longestFirst h.sources hrule hback hlongest
  obtain ⟨u, hu, htext, hread⟩ := parse_rewritten h hr hrule hback
  obtain ⟨-, hhash⟩ := hr.back (h.rules rule hrule).1.2 hback
  obtain ⟨scheme, hscheme⟩ := Option.isSome_iff_exists.mp hu.scheme
  have hlocator : (c.redirect r).locator =
      scheme ++ ':' :: (Uri.assemble u.scheme (u.specificPart ++ back)).specificPart := by
    rw [redirect_of_substitute hsubstitute hread, Reference.locator_assemble hscheme]
  have htarget : rule.target = scheme ++ ':' :: u.specificPart := htext ▸ hu.text_eq hscheme
  have hiff : (c.redirect r).locator = rule.target ++ back ↔
      (Uri.isRooted (Uri.writtenPath (rule.target ++ back)) →
        Uri.DotFree (Uri.writtenPath (rule.target ++ back))) := by
    rw [← htext, hu.writtenPath_append,
      ← Uri.specificPart_assemble_eq_iff hu.scheme (hu.hash_not_mem hhash), htext, hlocator, htarget]
    simp
  refine ⟨redirect_of_substitute hsubstitute hread ▸ hread, hiff, fun hclimbs => ?_, fun hsource => ?_⟩
  · rw [hlocator, htarget, List.prefix_append_right_inj, List.cons_prefix_cons]
    exact ⟨rfl, hu.prefix_assemble hhash hclimbs⟩
  · rw [hiff, ← htext, hu.writtenPath_append]
    exact hu.dotFree_split hhash (dotFree_back h hr hrule hback hsource)

def mapping : PathRule := ⟨"urn:a/".toList, "http://x/d/".toList⟩

def mapped : Config := { Config.bare with pathRules := [mapping] }

theorem built_mapped : mapped.Built :=
  .addPathRedirect "urn:a/".toList "http://x/d/".toList .bare rfl

def staying : Reference :=
  ⟨⟨some "urn".toList, none, "a/b/../c".toList, some "q".toList, none⟩, .pointer .root⟩

def leaving : Reference := .ofOpaque "urn".toList "a/../b".toList

theorem redirect_rewritten_above :
    ∃ stays leaves, Reference.parse "urn:a/b/../c?q".toList = .ok stays ∧
      Reference.parse "urn:a/../b".toList = .ok leaves ∧ mapped.Built ∧
      "http://x/d/".toList <+: (mapped.redirect stays).locator ∧
      (mapped.redirect stays).locator = "http://x/d/c?q".toList ∧
      (mapped.redirect leaves).locator ≠ "http://x/d/../b".toList ∧
      (mapped.redirect leaves).locator = "http://x/b".toList := by
  have hstays : Reference.parse "urn:a/b/../c?q".toList = .ok staying := by rfl
  have hleaves : Reference.parse "urn:a/../b".toList = .ok leaving := by rfl
  have hlongest (t : Text) : ∀ other ∈ mapped.pathRules, other.source <+: t →
      Text.size other.source ≤ Text.size mapping.source := by
    intro other hother _
    rw [List.mem_singleton.mp hother]
  have hback : (mapped.schemaTarget staying).locator = mapping.source ++ "b/../c?q".toList := by rfl
  have hback' : (mapped.schemaTarget leaving).locator = mapping.source ++ "../b".toList := by rfl
  obtain ⟨-, -, hunder, -⟩ := redirect_rewritten built_mapped (Reference.obtained_of_parse hstays)
    rfl (List.mem_singleton_self mapping) hback (hlongest _)
  obtain ⟨-, hiff, -, -⟩ := redirect_rewritten built_mapped (Reference.obtained_of_parse hleaves)
    rfl (List.mem_singleton_self mapping) hback' (hlongest _)
  exact ⟨staying, leaving, hstays, hleaves, built_mapped, hunder (by decide +kernel),
    by decide +kernel, fun heq => absurd (hiff.mp heq) (by decide +kernel), by decide +kernel⟩

end Config

end JsonReference
