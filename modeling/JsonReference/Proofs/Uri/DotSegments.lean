import JsonReference.Proofs.Uri.Parts

namespace JsonReference.Uri

variable {path : Text} {kept segments : List Text} {s : Text}

def IsDot (segment : Text) : Prop := segment = ['.'] ∨ segment = ['.', '.']

instance : Decidable (IsDot s) := inferInstanceAs (Decidable (_ ∨ _))

def DotFree (path : Text) : Prop := ∀ s ∈ Text.segments '/' path, ¬ IsDot s

instance : Decidable (DotFree path) := inferInstanceAs (Decidable (∀ s ∈ _, ¬ IsDot s))

theorem collapse_dot_cons (kept segments : List Text) :
    collapse kept (['.'] :: segments) =
      if segments.isEmpty then ([] :: kept).reverse else collapse kept segments := by
  rw [collapse, if_pos rfl]

theorem collapse_dots_cons (kept segments : List Text) :
    collapse kept (['.', '.'] :: segments) =
      if segments.isEmpty then ([] :: kept.tail).reverse else collapse kept.tail segments := by
  rw [collapse, if_neg (by simp), if_pos rfl]

theorem collapse_cons (h : ¬ IsDot s) (kept segments : List Text) :
    collapse kept (s :: segments) = collapse (s :: kept) segments := by
  rw [IsDot, not_or] at h
  rw [collapse, if_neg h.1, if_neg h.2]

theorem collapse_ne_nil (h : kept ≠ [] ∨ segments ≠ []) : collapse kept segments ≠ [] := by
  fun_induction collapse kept segments <;> simp_all

theorem collapse_of_dotFree (h : ∀ s ∈ segments, ¬ IsDot s) :
    collapse kept segments = kept.reverse ++ segments := by
  induction segments generalizing kept with
  | nil => simp [collapse]
  | cons s rest ih =>
      rw [collapse_cons (h s List.mem_cons_self),
        ih fun u hu => h u (List.mem_cons_of_mem s hu)]
      simp

theorem not_isDot_nil : ¬ IsDot [] := by simp [IsDot]

theorem not_isDot_of_mem_collapse (hkept : ∀ s ∈ kept, ¬ IsDot s) (h : s ∈ collapse kept segments) :
    ¬ IsDot s := by
  induction segments generalizing kept with
  | nil => exact hkept s (List.mem_reverse.mp h)
  | cons u rest ih =>
      have hlast {kept : List Text} (hkept : ∀ s ∈ kept, ¬ IsDot s)
          (h : s ∈ ([] :: kept).reverse) : ¬ IsDot s := by
        rcases List.mem_cons.mp (List.mem_reverse.mp h) with rfl | h
        · exact not_isDot_nil
        · exact hkept s h
      have htail : ∀ s ∈ kept.tail, ¬ IsDot s := fun s hs => hkept s (List.mem_of_mem_tail hs)
      by_cases hu : IsDot u
      · rcases hu with rfl | rfl
        · rw [collapse_dot_cons] at h
          split at h
          · exact hlast hkept h
          · exact ih hkept h
        · rw [collapse_dots_cons] at h
          split at h
          · exact hlast htail h
          · exact ih htail h
      · rw [collapse_cons hu] at h
        apply ih _ h
        intro v hv
        rcases List.mem_cons.mp hv with rfl | hv
        · exact hu
        · exact hkept v hv

def collapsed (t : Text) : Text := Text.join ['/'] (collapse [] (Text.segments '/' t))

theorem removeDotSegments_cons (rest : Text) :
    removeDotSegments ('/' :: rest) = '/' :: collapsed rest := rfl

theorem removeDotSegments_of_not_rooted (h : ¬ isRooted path) :
    removeDotSegments path = collapsed path := by
  unfold removeDotSegments
  split
  · simp [isRooted] at h
  · rfl

theorem eq_cons_of_isRooted (h : isRooted path) : ∃ rest, path = '/' :: rest := by
  cases path with
  | nil => simp [isRooted] at h
  | cons c rest => exact ⟨rest, by simpa [isRooted] using h⟩

theorem isRooted_removeDotSegments (h : isRooted path) : isRooted (removeDotSegments path) := by
  obtain ⟨rest, rfl⟩ := eq_cons_of_isRooted h
  rfl

theorem isRooted_normalPath (h : isRooted path) (scheme authority : Option Text) :
    isRooted (normalPath scheme authority path) := by
  rw [normalPath]
  split
  · exact isRooted_removeDotSegments h
  · exact h

theorem isRooted_merge {base : Uri} {relative : Text}
    (h : isRooted base.path ∨ base.authority.isSome ∧ base.path = []) :
    isRooted (base.merge relative) := by
  rw [Uri.merge]
  split
  · rfl
  · next hnot =>
    obtain ⟨rest, hpath⟩ := eq_cons_of_isRooted (h.resolve_right (by simpa using hnot))
    split
    · next front back hcut =>
      obtain ⟨before, rfl, hslash, -⟩ := Text.cutLast?_some hcut
      rw [hpath] at hslash
      cases before with
      | nil => rfl
      | cons c before =>
          rw [← (List.cons.inj hslash).1]
          rfl
    · next hcut =>
      refine absurd (Text.cutLast?_eq_none_iff.mp hcut) ?_
      simp [hpath]

theorem segments_collapsed (t : Text) :
    Text.segments '/' (collapsed t) = collapse [] (Text.segments '/' t) := by
  apply Text.segments_join (collapse_ne_nil (.inr (Text.segments_ne_nil '/' t)))
  intro s hs
  rcases mem_collapse hs with rfl | hs | hs
  · simp
  · simp at hs
  · exact Text.not_mem_of_mem_segments hs

theorem dotFree_collapsed (t : Text) : DotFree (collapsed t) := by
  intro s hs
  rw [segments_collapsed] at hs
  exact not_isDot_of_mem_collapse (by simp) hs

theorem collapsed_of_dotFree {t : Text} (h : DotFree t) : collapsed t = t := by
  rw [collapsed, collapse_of_dotFree h]
  exact Text.join_segments '/' t

theorem segments_cons (rest : Text) : Text.segments '/' ('/' :: rest) = [] :: Text.segments '/' rest :=
  Text.segments_append_cons (s := []) (by simp) rest

theorem dotFree_cons (rest : Text) : DotFree ('/' :: rest) ↔ DotFree rest := by
  simp [DotFree, segments_cons, not_isDot_nil]

theorem dotFree_removeDotSegments (path : Text) : DotFree (removeDotSegments path) := by
  by_cases h : isRooted path
  · obtain ⟨rest, rfl⟩ := eq_cons_of_isRooted h
    rw [removeDotSegments_cons, dotFree_cons]
    exact dotFree_collapsed rest
  · rw [removeDotSegments_of_not_rooted h]
    exact dotFree_collapsed path

theorem removeDotSegments_of_dotFree (h : DotFree path) : removeDotSegments path = path := by
  by_cases hrooted : isRooted path
  · obtain ⟨rest, rfl⟩ := eq_cons_of_isRooted hrooted
    rw [removeDotSegments_cons, collapsed_of_dotFree ((dotFree_cons rest).mp h)]
  · rw [removeDotSegments_of_not_rooted hrooted, collapsed_of_dotFree h]

theorem removeDotSegments_eq_self_iff : removeDotSegments path = path ↔ DotFree path :=
  ⟨fun h => h ▸ dotFree_removeDotSegments path, removeDotSegments_of_dotFree⟩

theorem normalPath_of_rooted {scheme authority : Option Text}
    (h : scheme.isSome ∨ authority.isSome) (hrooted : isRooted path) :
    normalPath scheme authority path = removeDotSegments path := by
  rw [normalPath, if_pos (by simpa [hrooted] using h)]

theorem normalPath_of_not_rooted {scheme authority : Option Text} (h : ¬ isRooted path) :
    normalPath scheme authority path = path := by
  rw [normalPath, if_neg (by simp [h])]

theorem assemble_of_not_rooted {scheme : Option Text} {rest : Text}
    (h : ¬ isRooted (Text.cut '#' rest).1) : assemble scheme rest = split scheme rest := by
  have hpath : ¬ isRooted (split scheme rest).path := by
    intro hrooted
    apply h
    have hpart := Text.cut_eq_append '?' (Text.cut '#' rest).1
    rcases splitAuthority_cases (Text.cut '?' (Text.cut '#' rest).1).1 with
      hsplit | ⟨authority, path, -, hfront, -⟩
    · obtain ⟨back, hback⟩ := eq_cons_of_isRooted hrooted
      simp only [split, hsplit] at hback
      rw [← hpart, hback]
      rfl
    · rw [← hpart, hfront]
      rfl
  rw [assemble_eq_split, normalPath_of_not_rooted hpath]

/-- A scheme leaves dot segments only in a path that is neither rooted nor behind an authority. -/
theorem dotFree_of_parse {input : Text} {u : Uri} (h : parse input = .ok u)
    (hscheme : u.scheme.isSome) (hkind : u.isOpaque = false) : DotFree u.path := by
  obtain ⟨scheme, rest, -, rfl⟩ := parse_eq_assemble h
  have hpath := @split_path scheme rest
  rw [assemble_eq_split] at hscheme hkind ⊢
  rw [split_scheme] at hscheme
  simp only [isOpaque, split_scheme, hscheme] at hkind
  generalize (split scheme rest).authority = authority at *
  generalize (split scheme rest).path = path at *
  by_cases hrooted : isRooted path
  · simp only [normalPath_of_rooted (.inl hscheme) hrooted]
    exact dotFree_removeDotSegments path
  · simp only [normalPath_of_not_rooted hrooted] at hkind ⊢
    have hauthority : authority.isSome := by
      simpa [hrooted, Option.isSome_iff_ne_none] using hkind
    rw [(hpath hauthority).resolve_right hrooted]
    decide

end JsonReference.Uri
