import JsonReference.Proofs.Uri.Climbs
import JsonReference.Proofs.Uri.Printed
import Mathlib.Data.List.Infix

namespace JsonReference.Uri

open Text (led)

variable {u v base reference : Uri} {a : Text} {segments : List Text}

/-- The URI with its authority told as the beginning of its path. -/
def flat (u : Uri) : Uri :=
  { u with authority := none, path := '/' :: '/' :: (u.authority.getD [] ++ u.path) }

theorem text_flat (h : u.authority.isSome) : u.flat.text = u.text := by
  obtain ⟨a, ha⟩ := Option.isSome_iff_exists.mp h
  simp [flat, text, specificPart, ha]

theorem reread_cases (u : Uri) :
    u.reread = u ∨ u.authority = none ∧ u.reread.authority.isSome ∧ u = u.reread.flat := by
  rw [reread]
  split
  · exact .inl rfl
  · next ha =>
    rw [Option.not_isSome_iff_eq_none] at ha
    rcases splitAuthority_cases u.path with hsplit | ⟨a, path, hsplit, hpath, -⟩
    · left
      rw [hsplit, ← ha]
    · right
      refine ⟨ha, by rw [hsplit]; rfl, ?_⟩
      rw [hsplit, flat, Option.getD_some, ← hpath, ← ha]

theorem eq_or_flat_of_reread_eq (h : u.reread = v.reread) :
    u = v ∨ u.authority.isSome ∧ v = u.flat ∨ v.authority.isSome ∧ u = v.flat := by
  rcases reread_cases u with hu | ⟨-, hu, hflat⟩ <;>
    rcases reread_cases v with hv | ⟨-, hv, hflat'⟩
  · exact .inl (hu.symm.trans (h.trans hv))
  · rw [← h, hu] at hv hflat'
    exact .inr (.inl ⟨hv, hflat'⟩)
  · rw [h, hv] at hu hflat
    exact .inr (.inr ⟨hu, hflat⟩)
  · exact .inl (hflat.trans (h ▸ hflat'.symm))

theorem resolve_path (hscheme : reference.scheme = none) (hauthority : reference.authority = none)
    (hpath : reference.path ≠ []) (base : Uri) :
    base.resolve reference =
      ⟨base.scheme, base.authority,
        removeDotSegments
          (if isRooted reference.path then reference.path else base.merge reference.path),
        reference.query, reference.fragment⟩ := by
  simp only [resolve, hscheme, hauthority, List.isEmpty_iff, hpath, Option.isSome_none,
    Bool.false_eq_true, if_false]
  split <;> rfl

theorem merge_led (hpath : base.path = led '/' segments) (hslash : ∀ s ∈ segments, '/' ∉ s)
    (h : base.authority.isSome ∨ segments ≠ []) (relative : Text) :
    base.merge relative = led '/' (segments.dropLast ++ Text.segments '/' relative) := by
  rw [Text.led_append, Text.led_segments, merge]
  rcases List.eq_nil_or_concat' segments with rfl | ⟨front, last, rfl⟩
  · have hauthority := h.resolve_right (by simp)
    rw [if_pos (by simp [hauthority, hpath, led])]
    rfl
  · have hlast : '/' ∉ last := hslash last (by simp)
    have hfront : led '/' (front ++ [last]) = led '/' front ++ '/' :: last := by simp [led]
    rw [if_neg (by simp [hpath, led]), hpath, hfront, Text.cutLast?_append_cons hlast]
    simp

/-- A relative path that does not lead up over the root of another. -/
def StaysBelow (path relative : Text) : Prop :=
  isRooted path ∧ ¬ isRooted relative ∧
    climbs (path.count '/' - 1) (Text.segments '/' relative) = false

instance {path relative : Text} : Decidable (StaysBelow path relative) :=
  inferInstanceAs (Decidable (_ ∧ _ ∧ _))

theorem collapse_flat_iff (h : ∀ s ∈ a :: segments, ¬ IsDot s) (behind : List Text) :
    collapse [] (([] :: a :: segments).dropLast ++ behind) =
        [] :: a :: collapse [] (segments.dropLast ++ behind) ↔
      segments ≠ [] ∧ climbs (segments.length - 1) behind = false := by
  obtain ⟨ha, hsegments⟩ := List.forall_mem_cons.mp h
  rcases List.eq_nil_or_concat' segments with rfl | ⟨front, last, rfl⟩
  · -- The authority is the last segment, and so is dropped like a file.
    have hle := length_collapse_append_le [] [[]] behind
    simp only [List.dropLast, List.cons_append, List.nil_append, collapse_cons not_isDot_nil,
      ne_eq, not_true_eq_false, false_and, iff_false]
    intro heq
    simp only [List.nil_append, heq, List.length_cons, List.length_nil] at hle
    omega
  · have hfront : ∀ s ∈ front, ¬ IsDot s := fun s hs => hsegments s (List.mem_append_left _ hs)
    have hall : ∀ s ∈ [] :: a :: front, ¬ IsDot s := by
      simpa [not_isDot_nil, ha] using hfront
    have hdrop : ([] :: a :: (front ++ [last])).dropLast = [] :: a :: front := by
      rw [← List.cons_append, ← List.cons_append, List.dropLast_concat]
    have hreverse : ([] :: a :: front).reverse = front.reverse ++ [a, []] := by simp
    have hiff := @collapse_append_iff front.reverse [a, []] behind (by simp)
    rw [hdrop, List.dropLast_concat, collapse_append_of_dotFree hall,
      collapse_append_of_dotFree hfront, List.append_nil, List.append_nil, hreverse]
    simpa using hiff

theorem removeDotSegments_merge_flat_iff (hu : u.Settled) (hflat : u.flat.Settled)
    (ha : u.authority = some a) (relative : Text) :
    removeDotSegments (u.flat.merge relative) =
        '/' :: '/' :: (a ++ removeDotSegments (u.merge relative)) ↔
      isRooted u.path ∧ climbs (u.path.count '/' - 1) (Text.segments '/' relative) = false := by
  obtain ⟨segments, hsegments, hslash⟩ := exists_led (hu.rooted (by rw [ha]; rfl))
  have hled (segments : List Text) :
      '/' :: '/' :: (a ++ led '/' segments) = led '/' ([] :: a :: segments) := rfl
  have hpath : u.flat.path = led '/' ([] :: a :: segments) := by
    rw [← hled, ← hsegments, flat, ha, Option.getD_some]
  have hslash' : ∀ s ∈ [] :: a :: segments, '/' ∉ s := by
    simpa [(hu.authority a ha).1] using hslash
  have hdots : ∀ s ∈ a :: segments, ¬ IsDot s := by
    have hdotFree := hflat.dotFree rfl (.inr (.inr (List.prefix_append ['/', '/'] _)))
    rw [hpath, dotFree_led hslash', List.forall_mem_cons] at hdotFree
    exact hdotFree.2
  have hroot : isRooted u.path ↔ segments ≠ [] := by
    rw [hsegments]
    cases segments <;> simp [led, isRooted]
  have hmerged {front : List Text} (hfront : ∀ s ∈ front, '/' ∉ s) :
      ∀ s ∈ front.dropLast ++ Text.segments '/' relative, '/' ∉ s := by
    intro s hs
    rcases List.mem_append.mp hs with hs | hs
    · exact hfront s (List.mem_of_mem_dropLast hs)
    · exact Text.not_mem_of_mem_segments hs
  have hne (front : List Text) : front ++ Text.segments '/' relative ≠ [] := by
    simp [Text.segments_ne_nil]
  have hkept : ∀ s ∈ [] :: a :: collapse [] (segments.dropLast ++ Text.segments '/' relative),
      '/' ∉ s := by
    simpa [(hu.authority a ha).1] using not_mem_of_mem_collapse (hmerged hslash)
  rw [merge_led hsegments hslash (.inl (by rw [ha]; rfl)), merge_led hpath hslash' (.inr (by simp)),
    removeDotSegments_led (hne _) (hmerged hslash), removeDotSegments_led (hne _) (hmerged hslash'),
    hled, Text.led_inj (not_mem_of_mem_collapse (hmerged hslash')) hkept,
    collapse_flat_iff hdots, hroot, hsegments, Text.count_led hslash]

theorem text_resolve_flat_iff (hu : u.Settled) (hflat : u.flat.Settled) (h : u.authority.isSome)
    (reference : Uri) :
    (u.flat.resolve reference).text = (u.resolve reference).text ↔
      reference.scheme.isSome ∨ reference.authority.isSome ∨ reference.path = [] ∨
        StaysBelow u.path reference.path := by
  by_cases hscheme : reference.scheme.isSome
  · simp [resolve, hscheme]
  by_cases hauthority : reference.authority.isSome
  · simp [resolve, hscheme, hauthority, flat]
  by_cases hpath : reference.path = []
  · have hsame : u.flat.resolve reference = (u.resolve reference).flat := by
      simp [resolve, hscheme, hauthority, hpath, flat]
    have hresolved : (u.resolve reference).authority.isSome := by
      simpa [resolve, hscheme, hauthority, hpath] using h
    simp [hsame, text_flat hresolved, hpath]
  rw [Option.not_isSome_iff_eq_none] at hscheme hauthority
  obtain ⟨a, ha⟩ := Option.isSome_iff_exists.mp h
  have htext (path path' : Text) (query fragment : Option Text) :
      text ⟨u.scheme, none, path, query, fragment⟩ = text ⟨u.scheme, some a, path', query, fragment⟩ ↔
        path = '/' :: '/' :: (a ++ path') := by
    simp only [text, specificPart, List.append_assoc, List.cons_append, List.nil_append,
      List.append_cancel_left_eq]
    rw [← List.append_assoc a path', ← List.cons_append, ← List.cons_append,
      List.append_cancel_right_eq]
  have hfront : u.flat.scheme = u.scheme ∧ u.flat.authority = none := ⟨rfl, rfl⟩
  rw [resolve_path hscheme hauthority hpath, resolve_path hscheme hauthority hpath, ha, hfront.1,
    hfront.2, htext, StaysBelow]
  by_cases hrooted : isRooted reference.path
  · -- Both paths are the reference's own, but only one has the authority before it.
    have hne : removeDotSegments reference.path ≠
        '/' :: '/' :: (a ++ removeDotSegments reference.path) := by
      intro heq
      have hlength := congrArg List.length heq
      simp only [List.length_cons, List.length_append] at hlength
      omega
    simp [hrooted, hscheme, hauthority, hpath, hne]
  · rw [if_neg hrooted, if_neg hrooted, removeDotSegments_merge_flat_iff hu hflat ha]
    simp [hrooted, hscheme, hauthority, hpath]

theorem text_resolve_base_iff (hu : u.Settled) (hv : v.Settled) (hread : u.reread = v.reread)
    (reference : Uri) :
    (u.resolve reference).text = (v.resolve reference).text ↔
      u.authority.isSome = v.authority.isSome ∨ reference.scheme.isSome ∨
        reference.authority.isSome ∨ reference.path = [] ∨
        StaysBelow u.reread.path reference.path := by
  rcases eq_or_flat_of_reread_eq hread with rfl | ⟨h, rfl⟩ | ⟨h, rfl⟩
  · simp
  · have hself : u.reread = u :=
      reread_eq_self_iff.mpr fun ha => absurd ha (Option.isSome_iff_ne_none.mp h)
    rw [eq_comm, text_resolve_flat_iff hu hv h, hself]
    simp [h, flat]
  · have hself : v.reread = v :=
      reread_eq_self_iff.mpr fun ha => absurd ha (Option.isSome_iff_ne_none.mp h)
    rw [text_resolve_flat_iff hv hu h, hread, hself]
    simp [h, flat]

theorem Settled.dotFree_of_rooted (h : u.Settled) (hscheme : u.scheme.isSome)
    (hrooted : isRooted u.specificPart) : DotFree u.path := by
  rcases isRooted_specificPart_iff.mp hrooted with ha | hpath
  · rcases h.rooted ha with hempty | hpath
    · rw [hempty]
      decide
    · exact h.dotFree hpath (.inl hscheme)
  · exact h.dotFree hpath (.inl hscheme)

theorem text_resolve_of_flat (hv : v.Settled) (hflat : v.flat.Settled) (h : v.authority.isSome)
    (hscheme : v.scheme.isSome) (base : Uri) :
    (base.resolve v.flat).text = (base.resolve v).text := by
  have hdots := hv.dotFree_of_rooted hscheme (isRooted_specificPart_iff.mpr (.inl h))
  have hdots' := hflat.dotFree_of_rooted hscheme (isRooted_specificPart_iff.mpr (.inr rfl))
  have hscheme' : v.flat.scheme.isSome := hscheme
  rw [resolve, if_pos hscheme', resolve, if_pos hscheme, removeDotSegments_of_dotFree hdots,
    removeDotSegments_of_dotFree hdots']
  exact text_flat h

theorem text_resolve_congr (hu : u.Settled) (hv : v.Settled) (hread : u.reread = v.reread)
    (hself : u.scheme = none → u = v) (base : Uri) :
    (base.resolve u).text = (base.resolve v).text := by
  by_cases hscheme : u.scheme.isSome
  · rcases eq_or_flat_of_reread_eq hread with rfl | ⟨h, rfl⟩ | ⟨h, rfl⟩
    · rfl
    · exact (text_resolve_of_flat hu hv h hscheme base).symm
    · exact text_resolve_of_flat hv hu h hscheme base
  · rw [hself (by simpa using hscheme)]

end JsonReference.Uri
