import JsonReference.Proofs.Except
import JsonReference.Uri.Resolve
import Mathlib.Data.List.Basic

namespace JsonReference

namespace Text

theorem not_mem_cut_fst (c : Char) (t : Text) : c ∉ (cut c t).1 := by
  induction t with
  | nil => simp [cut]
  | cons x r ih =>
      by_cases hx : x = c
      · simp [cut, hx]
      · simpa [cut, hx, Ne.symm hx] using ih

theorem cut_fst_subset (c : Char) (t : Text) : (cut c t).1 ⊆ t := by
  induction t with
  | nil => simp [cut]
  | cons x r ih =>
      by_cases hx : x = c
      · simp [cut, hx]
      · simpa [cut, hx] using List.cons_subset_cons x ih

theorem cut_snd_subset {c : Char} {t back : Text} (h : (cut c t).2 = some back) : back ⊆ t := by
  induction t with
  | nil => simp [cut] at h
  | cons x r ih =>
      by_cases hx : x = c
      · simp only [cut, hx, if_true, Option.some.injEq] at h
        exact h ▸ List.subset_cons_self x r
      · simp only [cut, hx, if_false] at h
        exact List.subset_cons_of_subset x (ih h)

theorem cut_snd_eq_none {c : Char} {t : Text} (h : c ∉ t) : (cut c t).2 = none := by
  induction t with
  | nil => rfl
  | cons x r ih =>
      simp only [List.mem_cons, not_or] at h
      simp [cut, Ne.symm h.1, ih h.2]

theorem mem_of_mem_segments {c x : Char} {t s : Text} (hs : s ∈ segments c t) (hx : x ∈ s) :
    x ∈ t := by
  induction t generalizing s with
  | nil => simp_all [segments]
  | cons y r ih =>
      rw [segments] at hs
      split at hs
      · rcases List.mem_cons.mp hs with rfl | hs
        · simp at hx
        · exact List.mem_cons_of_mem y (ih hs hx)
      · split at hs
        · rw [List.mem_singleton.mp hs] at hx
          exact List.mem_cons.mpr (.inl (List.mem_singleton.mp hx))
        · next first rest hsegments =>
          rcases List.mem_cons.mp hs with rfl | hs
          · rcases List.mem_cons.mp hx with rfl | hx
            · exact List.mem_cons_self
            · exact List.mem_cons_of_mem y (ih (hsegments ▸ List.mem_cons_self) hx)
          · exact List.mem_cons_of_mem y (ih (hsegments ▸ List.mem_cons_of_mem first hs) hx)

theorem mem_join {sep : Text} {x : Char} {ts : List Text} (h : x ∈ join sep ts) :
    x ∈ sep ∨ ∃ t ∈ ts, x ∈ t := by
  induction ts with
  | nil => simp [join] at h
  | cons t rest ih =>
      cases rest with
      | nil => exact .inr ⟨t, List.mem_cons_self, by simpa [join] using h⟩
      | cons u rest =>
          simp only [join, List.mem_append] at h
          rcases h with (h | h) | h
          · exact .inr ⟨t, List.mem_cons_self, h⟩
          · exact .inl h
          · rcases ih h with h | ⟨v, hv, hx⟩
            · exact .inl h
            · exact .inr ⟨v, List.mem_cons_of_mem t hv, hx⟩

theorem cutLast?_eq_append {c : Char} {t front back : Text}
    (h : cutLast? c t = some (front, back)) :
    t = front ++ back := by
  induction t generalizing front with
  | nil => simp [cutLast?] at h
  | cons x r ih =>
      rw [cutLast?] at h
      split at h
      · next f b hr =>
        simp only [Option.some.injEq, Prod.mk.injEq] at h
        obtain ⟨rfl, rfl⟩ := h
        rw [ih hr, List.cons_append]
      · split at h
        · next hx =>
          simp only [Option.some.injEq, Prod.mk.injEq] at h
          obtain ⟨rfl, rfl⟩ := h
          rw [hx, List.singleton_append]
        · simp at h

end Text

namespace Uri

theorem mem_collapse {kept segments : List Text} {s : Text} (h : s ∈ collapse kept segments) :
    s = [] ∨ s ∈ kept ∨ s ∈ segments := by
  fun_induction collapse kept segments with
  | case1 kept => exact .inr (.inl (List.mem_reverse.mp h))
  | case2 kept =>
      rcases List.mem_cons.mp (List.mem_reverse.mp h) with rfl | h
      · exact .inl rfl
      · exact .inr (.inl h)
  | case3 kept rest _ ih => exact (ih h).imp_right (Or.imp_right (List.mem_cons_of_mem _))
  | case4 kept =>
      rcases List.mem_cons.mp (List.mem_reverse.mp h) with rfl | h
      · exact .inl rfl
      · exact .inr (.inl (List.mem_of_mem_tail h))
  | case5 kept rest _ _ ih =>
      exact (ih h).imp_right (Or.imp List.mem_of_mem_tail (List.mem_cons_of_mem _))
  | case6 kept segment rest _ _ ih =>
      rcases ih h with rfl | h | h
      · exact .inl rfl
      · rcases List.mem_cons.mp h with rfl | h
        · exact .inr (.inr List.mem_cons_self)
        · exact .inr (.inl h)
      · exact .inr (.inr (List.mem_cons_of_mem segment h))

theorem mem_removeDotSegments {path : Text} {x : Char} (h : x ∈ removeDotSegments path) :
    x = '/' ∨ x ∈ path := by
  have collapsed (rest : Text) (hx : x ∈ Text.join ['/'] (collapse [] (Text.segments '/' rest))) :
      x = '/' ∨ x ∈ rest := by
    rcases Text.mem_join hx with hx | ⟨s, hs, hx⟩
    · exact .inl (List.mem_singleton.mp hx)
    · rcases mem_collapse hs with rfl | hs | hs
      · simp at hx
      · simp at hs
      · exact .inr (Text.mem_of_mem_segments hs hx)
  unfold removeDotSegments at h
  split at h
  · rcases List.mem_cons.mp h with rfl | h
    · exact .inl rfl
    · rcases collapsed _ h with h | h
      · exact .inl h
      · exact .inr (List.mem_cons_of_mem _ h)
  · exact collapsed path h

theorem mem_merge {base : Uri} {relative : Text} {x : Char} (h : x ∈ base.merge relative) :
    x = '/' ∨ x ∈ base.path ∨ x ∈ relative := by
  rw [merge] at h
  split at h
  · rcases List.mem_cons.mp h with h | h
    · exact .inl h
    · exact .inr (.inr h)
  · split at h
    · next directory back hcut =>
      rcases List.mem_append.mp h with h | h
      · exact .inr (.inl (Text.cutLast?_eq_append hcut ▸ List.mem_append_left back h))
      · exact .inr (.inr h)
    · exact .inr (.inr h)

theorem isUpper_iff {c : Char} : c.isUpper ↔ 'A'.toNat ≤ c.toNat ∧ c.toNat ≤ 'Z'.toNat :=
  decide_eq_true_iff

theorem isLower_iff {c : Char} : c.isLower ↔ 'a'.toNat ≤ c.toNat ∧ c.toNat ≤ 'z'.toNat :=
  Bool.and_eq_true_iff.trans (and_congr decide_eq_true_iff decide_eq_true_iff)

theorem toLower_of_not_isUpper {c : Char} (h : ¬ c.isUpper) : c.toLower = c :=
  dif_neg fun hupper => h (decide_eq_true hupper)

theorem toNat_toLower {c : Char} (h : c.isUpper) : c.toLower.toNat = c.toNat + 32 := by
  have hval : c.toLower.val = c.val + 32 := congrArg Char.val (dif_pos (of_decide_eq_true h))
  have hle := (isUpper_iff.mp h).2
  rw [Char.toNat, hval, UInt32.toNat_add]
  simp at hle ⊢
  omega

theorem isLower_toLower {c : Char} (h : c.isUpper) : c.toLower.isLower := by
  have hupper := isUpper_iff.mp h
  rw [isLower_iff, toNat_toLower h]
  simp at hupper ⊢
  omega

theorem toLower_toLower (c : Char) : c.toLower.toLower = c.toLower := by
  by_cases hc : c.isUpper
  · refine toLower_of_not_isUpper fun hagain => ?_
    have hupper := isUpper_iff.mp hc
    have hlower := (isUpper_iff.mp hagain).2
    rw [toNat_toLower hc] at hlower
    simp at hupper hlower
    omega
  · rw [toLower_of_not_isUpper hc, toLower_of_not_isUpper hc]

theorem isAlpha_iff {c : Char} : c.isAlpha ↔ c.isUpper ∨ c.isLower := Bool.or_eq_true_iff

theorem isAlpha_toLower {c : Char} (h : c.isAlpha) : c.toLower.isAlpha := by
  by_cases hc : c.isUpper
  · exact isAlpha_iff.mpr (.inr (isLower_toLower hc))
  · rwa [toLower_of_not_isUpper hc]

theorem isSchemeChar_toLower {c : Char} (h : isSchemeChar c) : isSchemeChar c.toLower := by
  by_cases hc : c.isUpper
  · have halpha := isAlpha_toLower (isAlpha_iff.mpr (.inl hc))
    simp [isSchemeChar, Char.isAlphanum, halpha]
  · rwa [toLower_of_not_isUpper hc]

theorem isScheme_lower {s : Text} (h : isScheme s) : isScheme (Text.lower s) := by
  cases s with
  | nil => exact h
  | cons c rest =>
      simp only [isScheme, Text.lower, List.map_cons, Bool.and_eq_true, List.all_eq_true,
        List.mem_map] at h ⊢
      refine ⟨isAlpha_toLower h.1, ?_⟩
      rintro _ ⟨x, hx, rfl⟩
      exact isSchemeChar_toLower (h.2 x hx)

theorem endsScheme_eq_false {c : Char} (h : isSchemeChar c) : endsScheme c = false := by
  cases he : endsScheme c with
  | false => rfl
  | true =>
      simp only [endsScheme, Bool.or_eq_true, beq_iff_eq] at he
      rcases he with ((rfl | rfl) | rfl) | rfl <;> revert h <;> decide

theorem isSchemeChar_of_mem {s : Text} (h : isScheme s) {c : Char} (hc : c ∈ s) :
    isSchemeChar c := by
  cases s with
  | nil => simp at hc
  | cons x rest =>
      simp only [isScheme, Bool.and_eq_true, List.all_eq_true] at h
      rcases List.mem_cons.mp hc with rfl | hc
      · simp [isSchemeChar, Char.isAlphanum, h.1]
      · exact h.2 c hc

theorem isScheme_of_checkScheme {s : Text} (h : checkScheme s = .ok ()) : isScheme s := by
  rw [checkScheme] at h
  split at h
  · assumption
  · simp at h

theorem splitScheme_sound {input rest : Text} {scheme : Option Text}
    (h : splitScheme input = .ok (scheme, rest)) :
    (∀ s, scheme = some s → isScheme s) ∧ rest ⊆ input := by
  rw [splitScheme] at h
  split at h
  · next back hdrop =>
    cases htake : input.takeWhile (!endsScheme ·) with
    | nil => simp [htake] at h
    | cons c front =>
        simp only [htake] at h
        obtain ⟨_, hc, hrest⟩ := Except.bind_ok_iff.mp h
        cases hrest
        constructor
        · rintro s ⟨rfl⟩
          exact isScheme_lower (isScheme_of_checkScheme hc)
        · intro x hx
          apply (List.dropWhile_sublist (!endsScheme ·)).subset
          rw [hdrop]
          exact List.mem_cons_of_mem ':' hx
  · simp only [Except.ok.injEq, Prod.mk.injEq] at h
    obtain ⟨rfl, rfl⟩ := h
    exact ⟨by simp, List.Subset.refl input⟩

theorem splitScheme_append {s : Text} (h : isScheme s) (rest : Text) :
    splitScheme (s ++ ':' :: rest) = .ok (some (Text.lower s), rest) := by
  have hs : ∀ c ∈ s, (!endsScheme c) = true := fun c hc => by
    rw [endsScheme_eq_false (isSchemeChar_of_mem h hc)]
    rfl
  have hdrop : (s ++ ':' :: rest).dropWhile (!endsScheme ·) = ':' :: rest := by
    rw [List.dropWhile_append_of_pos hs]
    rfl
  have htake : (s ++ ':' :: rest).takeWhile (!endsScheme ·) = s := by
    rw [List.takeWhile_append_of_pos hs]
    simp [endsScheme]
  cases s with
  | nil => simp [isScheme] at h
  | cons c s =>
      rw [splitScheme]
      rw [hdrop, htake]
      simp [checkScheme, h, bind, Except.bind, pure, Except.pure]

structure Plain (u : Uri) : Prop where
  scheme : ∀ s, u.scheme = some s → isScheme s
  authority : ∀ a, u.authority = some a → '#' ∉ a
  path : '#' ∉ u.path
  query : ∀ q, u.query = some q → '#' ∉ q

inductive Resolved (base reference : Uri) : Uri → Prop
  | absolute : reference.scheme.isSome →
      Resolved base reference { reference with path := removeDotSegments reference.path }
  | remote : reference.scheme = none → reference.authority.isSome →
      Resolved base reference
        { reference with
          scheme := base.scheme
          path := removeDotSegments reference.path }
  | same : reference.scheme = none → reference.authority = none → reference.path = [] →
      Resolved base reference
        { base with
          query := reference.query.or base.query
          fragment := reference.fragment }
  | rooted : reference.scheme = none → reference.authority = none → isRooted reference.path →
      Resolved base reference
        { reference with
          scheme := base.scheme
          authority := base.authority
          path := removeDotSegments reference.path }
  | merged : reference.scheme = none → reference.authority = none → ¬ isRooted reference.path →
      Resolved base reference
        { reference with
          scheme := base.scheme
          authority := base.authority
          path := removeDotSegments (base.merge reference.path) }

theorem resolved (base reference : Uri) : Resolved base reference (base.resolve reference) := by
  rw [resolve]
  by_cases hscheme : reference.scheme.isSome
  · rw [if_pos hscheme]
    exact .absolute hscheme
  rw [if_neg hscheme]
  rw [Option.not_isSome_iff_eq_none] at hscheme
  by_cases hauthority : reference.authority.isSome
  · rw [if_pos hauthority]
    exact .remote hscheme hauthority
  rw [if_neg hauthority]
  rw [Option.not_isSome_iff_eq_none] at hauthority
  by_cases hempty : reference.path.isEmpty
  · rw [if_pos hempty]
    exact .same hscheme hauthority (List.isEmpty_iff.mp hempty)
  rw [if_neg hempty]
  by_cases hrooted : isRooted reference.path
  · rw [if_pos hrooted]
    exact .rooted hscheme hauthority hrooted
  · rw [if_neg hrooted]
    exact .merged hscheme hauthority hrooted

structure Throughout (P : Text → Prop) (u : Uri) : Prop where
  authority : ∀ a, u.authority = some a → P a
  path : P u.path
  query : ∀ q, u.query = some q → P q

theorem Throughout.resolve {P : Text → Prop} (hdots : ∀ t, P t → P (removeDotSegments t))
    (hmerge : ∀ base relative, P base.path → P relative → P (merge base relative))
    {base reference : Uri} (hb : base.Throughout P) (hr : reference.Throughout P) :
    (base.resolve reference).Throughout P := by
  have hresolved := resolved base reference
  generalize base.resolve reference = u at hresolved
  cases hresolved with
  | absolute | remote => exact ⟨hr.authority, hdots _ hr.path, hr.query⟩
  | same =>
      refine ⟨hb.authority, hb.path, fun q hq => ?_⟩
      rcases Option.or_eq_some_iff.mp hq with hq | ⟨-, hq⟩
      · exact hr.query q hq
      · exact hb.query q hq
  | rooted => exact ⟨hb.authority, hdots _ hr.path, hr.query⟩
  | merged => exact ⟨hb.authority, hdots _ (hmerge base reference.path hb.path hr.path), hr.query⟩

section Characters

variable {c : Char} {u base reference : Uri}

theorem not_mem_removeDotSegments (hc : c ≠ '/') {path : Text} (h : c ∉ path) :
    c ∉ removeDotSegments path := by
  intro hx
  rcases mem_removeDotSegments hx with hslash | hx
  · exact hc hslash
  · exact h hx

theorem not_mem_normalPath (hc : c ≠ '/') {path : Text} (h : c ∉ path)
    (scheme authority : Option Text) : c ∉ normalPath scheme authority path := by
  rw [normalPath]
  split
  · exact not_mem_removeDotSegments hc h
  · exact h

theorem not_mem_specificPart_iff (hc : c ≠ '/') (hc' : c ≠ '?') :
    c ∉ u.specificPart ↔ u.Throughout (c ∉ ·) := by
  have hparts : u.Throughout (c ∉ ·) ↔ (∀ a, u.authority = some a → c ∉ a) ∧ c ∉ u.path ∧
      ∀ q, u.query = some q → c ∉ q :=
    ⟨fun h => ⟨h.authority, h.path, h.query⟩, fun h => ⟨h.1, h.2.1, h.2.2⟩⟩
  rw [hparts, specificPart]
  cases u.authority <;> cases u.query <;> simp [hc, hc']

theorem not_mem_specificPart_resolve (hc : c ≠ '/') (hc' : c ≠ '?') (hb : c ∉ base.specificPart)
    (hr : c ∉ reference.specificPart) : c ∉ (base.resolve reference).specificPart := by
  rw [not_mem_specificPart_iff hc hc'] at hb hr ⊢
  apply Throughout.resolve _ _ hb hr
  · exact fun _ => not_mem_removeDotSegments hc
  · intro base relative hpath hrelative hx
    rcases mem_merge hx with hslash | hx | hx
    · exact hc hslash
    · exact hpath hx
    · exact hrelative hx

end Characters

theorem scheme_resolve (base reference : Uri) :
    (base.resolve reference).scheme = reference.scheme.or base.scheme := by
  rw [resolve]
  cases reference.scheme <;> simp

theorem fragment_resolve (base reference : Uri) :
    (base.resolve reference).fragment = reference.fragment := by
  rw [resolve]
  split <;> rfl

namespace Plain

theorem throughout {u : Uri} (h : u.Plain) : u.Throughout ('#' ∉ ·) :=
  ⟨h.authority, h.path, h.query⟩

theorem hash_not_mem_specificPart {u : Uri} (h : u.Plain) : '#' ∉ u.specificPart :=
  (not_mem_specificPart_iff (by decide) (by decide)).mpr h.throughout

theorem assemble {scheme : Option Text} (hs : ∀ s, scheme = some s → isScheme s) (rest : Text) :
    (assemble scheme rest).Plain := by
  have hfront : '#' ∉ (Text.cut '?' (Text.cut '#' rest).1).1 := by
    intro hx
    exact Text.not_mem_cut_fst '#' rest (Text.cut_fst_subset _ _ hx)
  refine ⟨hs, ?_, ?_, ?_⟩
  · intro a ha
    simp only [Uri.assemble, splitAuthority] at ha
    split at ha
    · next back hsplit =>
      simp only [Option.some.injEq] at ha
      subst ha
      intro hx
      apply hfront
      rw [hsplit]
      apply List.mem_cons_of_mem
      apply List.mem_cons_of_mem
      exact (List.takeWhile_sublist _).subset hx
    · simp at ha
  · have hpath : '#' ∉ (splitAuthority (Text.cut '?' (Text.cut '#' rest).1).1).2 := by
      unfold splitAuthority
      split
      · next back hsplit =>
        intro hx
        apply hfront
        rw [hsplit]
        apply List.mem_cons_of_mem
        apply List.mem_cons_of_mem
        exact (List.dropWhile_sublist _).subset hx
      · exact hfront
    exact not_mem_normalPath (by decide) hpath _ _
  · intro q hq hx
    exact Text.not_mem_cut_fst '#' rest (Text.cut_snd_subset hq hx)

theorem resolve {base reference : Uri} (hb : base.Plain) (hr : reference.Plain) :
    (base.resolve reference).Plain := by
  have hparts : (base.resolve reference).Throughout ('#' ∉ ·) := by
    rw [← not_mem_specificPart_iff (by decide) (by decide)]
    exact not_mem_specificPart_resolve (by decide) (by decide) hb.hash_not_mem_specificPart
      hr.hash_not_mem_specificPart
  refine ⟨?_, hparts.authority, hparts.path, hparts.query⟩
  intro s hs
  rw [scheme_resolve] at hs
  cases hscheme : reference.scheme with
  | none => exact hb.scheme s (by simpa [hscheme] using hs)
  | some s' => exact hr.scheme s (by simpa [hscheme] using hs)

end Plain

theorem parse_eq_assemble {input : Text} {u : Uri} (h : parse input = .ok u) :
    ∃ scheme rest, splitScheme input = .ok (scheme, rest) ∧ u = assemble scheme rest := by
  rw [parse] at h
  split at h
  · simp at h
  · obtain ⟨⟨scheme, rest⟩, hs, hassemble⟩ := Except.bind_ok_iff.mp h
    exact ⟨scheme, rest, hs, (Except.ok.inj hassemble).symm⟩

/-- The URIs that can be had: by parsing, by resolution and by a change of the fragment. -/
inductive Obtained : Uri → Prop
  | parse {input : Text} {u : Uri} : Uri.parse input = .ok u → Obtained u
  | resolve {base reference : Uri} : Obtained base → Obtained reference →
      Obtained (base.resolve reference)
  | withFragment {u : Uri} (fragment : Option Text) : Obtained u →
      Obtained (u.withFragment fragment)

namespace Obtained

theorem empty : Obtained .empty := .parse (show Uri.parse [] = .ok .empty from rfl)

theorem plain {u : Uri} (h : u.Obtained) : u.Plain := by
  induction h with
  | parse h =>
      obtain ⟨scheme, rest, hs, rfl⟩ := parse_eq_assemble h
      exact .assemble (splitScheme_sound hs).1 rest
  | resolve _ _ hb hr => exact hb.resolve hr
  | withFragment _ _ h => exact ⟨h.scheme, h.authority, h.path, h.query⟩

end Obtained

end Uri
end JsonReference
