import JsonReference.Proofs.Uri.DotSegments

namespace JsonReference.Uri

/-- Every percent sign begins an escape of two digits, and no other character is an illegal one. -/
inductive Legal : Text → Prop
  | nil : Legal []
  | escape {a b : Char} {rest : Text} : Text.isHexDigit a → Text.isHexDigit b → Legal rest →
      Legal ('%' :: a :: b :: rest)
  | char {c : Char} {rest : Text} : c ≠ '%' → isIllegal c = false → Legal rest → Legal (c :: rest)

def IsDelimiter (c : Char) : Prop := c ≠ '%' ∧ Text.isHexDigit c = false ∧ isIllegal c = false

instance {c : Char} : Decidable (IsDelimiter c) := inferInstanceAs (Decidable (_ ∧ _ ∧ _))

namespace Legal

variable {c : Char} {s t : Text} {ss : List Text}

theorem append (hs : Legal s) (ht : Legal t) : Legal (s ++ t) := by
  induction hs with
  | nil => exact ht
  | escape ha hb _ ih => exact .escape ha hb ih
  | char hc hlegal _ ih => exact .char hc hlegal ih

theorem cons (hc : IsDelimiter c) (ht : Legal t) : Legal (c :: t) := .char hc.1 hc.2.2 ht

/-- No escape goes over a delimiter, so the texts at both sides are legal ones. -/
theorem of_append_cons (hc : IsDelimiter c) (h : Legal (s ++ c :: t)) : Legal s ∧ Legal t := by
  obtain ⟨hpercent, hdigit, -⟩ := hc
  generalize htext : s ++ c :: t = text at h
  induction h generalizing s with
  | nil => simp at htext
  | escape ha hb hrest ih =>
      rcases s with _ | ⟨x, _ | ⟨y, _ | ⟨z, s⟩⟩⟩
      · exact absurd (List.cons.inj htext).1 hpercent
      · simp_all
      · simp_all
      · simp only [List.cons_append, List.cons.injEq] at htext
        obtain ⟨rfl, rfl, rfl, htext⟩ := htext
        obtain ⟨hs, ht⟩ := ih htext
        exact ⟨.escape ha hb hs, ht⟩
  | char hx hlegal hrest ih =>
      cases s with
      | nil =>
          obtain ⟨-, rfl⟩ := List.cons.inj htext
          exact ⟨.nil, hrest⟩
      | cons y s =>
          simp only [List.cons_append, List.cons.injEq] at htext
          obtain ⟨rfl, htext⟩ := htext
          obtain ⟨hs, ht⟩ := ih htext
          exact ⟨.char hx hlegal hs, ht⟩

theorem cut (hc : IsDelimiter c) (h : Legal t) :
    Legal (Text.cut c t).1 ∧ ∀ back, (Text.cut c t).2 = some back → Legal back := by
  have ht := Text.cut_eq_append c t
  cases hback : (Text.cut c t).2 with
  | none =>
      rw [hback, Text.marked, List.append_nil] at ht
      rw [ht]
      exact ⟨h, by simp⟩
  | some back =>
      rw [hback] at ht
      rw [← ht] at h
      obtain ⟨hfront, hlegal⟩ := of_append_cons hc h
      exact ⟨hfront, by simpa using hlegal⟩

theorem join_iff : Legal (Text.join ['/'] ss) ↔ ∀ s ∈ ss, Legal s := by
  induction ss with
  | nil => simp [Text.join, nil]
  | cons s rest ih =>
      cases rest with
      | nil => simp [Text.join]
      | cons u rest =>
          have hjoin : Text.join ['/'] (s :: u :: rest) = s ++ '/' :: Text.join ['/'] (u :: rest) := by
            simp [Text.join]
          have hslash : IsDelimiter '/' := by decide
          rw [hjoin, List.forall_mem_cons, ← ih]
          refine ⟨of_append_cons hslash, ?_⟩
          rintro ⟨hs, hrest⟩
          exact hs.append (.cons hslash hrest)

theorem collapsed (h : Legal t) : Legal (collapsed t) := by
  rw [← Text.join_segments '/' t, join_iff] at h
  rw [Uri.collapsed, join_iff]
  intro s hs
  rcases mem_collapse hs with rfl | hs | hs
  · exact .nil
  · simp at hs
  · exact h s hs

theorem removeDotSegments {path : Text} (h : Legal path) : Legal (removeDotSegments path) := by
  by_cases hrooted : isRooted path
  · obtain ⟨rest, rfl⟩ := eq_cons_of_isRooted hrooted
    rw [removeDotSegments_cons]
    exact .cons (by decide) (of_append_cons (s := []) (by decide) h).2.collapsed
  · rw [removeDotSegments_of_not_rooted hrooted]
    exact h.collapsed

theorem merge {base : Uri} {relative : Text} (hb : Legal base.path) (hr : Legal relative) :
    Legal (base.merge relative) := by
  have hslash : IsDelimiter '/' := by decide
  rw [Uri.merge]
  split
  · exact .cons hslash hr
  · split
    · next hcut =>
      obtain ⟨before, rfl, hpath, -⟩ := Text.cutLast?_some hcut
      rw [hpath] at hb
      exact ((of_append_cons hslash hb).1.append (.cons hslash .nil)).append hr
    · exact hr

theorem normalPath {path : Text} (h : Legal path) (scheme authority : Option Text) :
    Legal (normalPath scheme authority path) := by
  rw [Uri.normalPath]
  split
  · exact h.removeDotSegments
  · exact h

end Legal

theorem legal_escape_iff {a b : Char} {rest : Text} :
    Legal ('%' :: a :: b :: rest) ↔ Text.isHexDigit a ∧ Text.isHexDigit b ∧ Legal rest := by
  constructor
  · intro h
    cases h with
    | escape ha hb h => exact ⟨ha, hb, h⟩
    | char hc => exact absurd rfl hc
  · rintro ⟨ha, hb, h⟩
    exact .escape ha hb h

theorem legal_cons_iff {c : Char} {rest : Text} (hc : c ≠ '%') :
    Legal (c :: rest) ↔ isIllegal c = false ∧ Legal rest := by
  constructor
  · intro h
    cases h with
    | escape => exact absurd rfl hc
    | char _ hlegal h => exact ⟨hlegal, h⟩
  · rintro ⟨hlegal, h⟩
    exact .char hc hlegal h

theorem hash_ne_of_isHexDigit {c : Char} (h : Text.isHexDigit c) : c ≠ '#' := by
  rintro rfl
  exact absurd h (by decide)

theorem flaw?_eq_none_iff (offset : Nat) (hash : Bool) (t : Text) :
    flaw? offset hash t = none ↔ Legal t ∧ t.count '#' + hash.toNat ≤ 1 := by
  have hlegal : isIllegal '#' = false := by decide
  fun_induction flaw? offset hash t with
  | case1 offset hash => cases hash <;> simp [Legal.nil]
  | case2 offset hash a b rest hdigits ih =>
      obtain ⟨ha, hb⟩ := Bool.and_eq_true_iff.mp hdigits
      simp [ih, legal_escape_iff, ha, hb, hash_ne_of_isHexDigit ha, hash_ne_of_isHexDigit hb]
  | case3 offset hash a b rest hdigits =>
      rw [Bool.and_eq_true] at hdigits
      simp only [reduceCtorEq, legal_escape_iff, false_iff, not_and]
      exact fun ⟨ha, hb, _⟩ => absurd ⟨ha, hb⟩ hdigits
  | case4 offset hash rest hshort =>
      simp only [reduceCtorEq, false_iff, not_and]
      intro h
      cases h with
      | escape => exact absurd rfl (hshort _ _ _)
      | char hc => exact absurd rfl hc
  | case5 offset hash c rest hc hillegal => simp [legal_cons_iff hc, hillegal]
  | case6 offset rest hc => simp
  | case7 offset hash rest hhash hc _ ih =>
      simp [ih, legal_cons_iff hc, hlegal, hhash]
  | case8 offset hash c rest hc hillegal hne ih => simp [ih, legal_cons_iff hc, hillegal, hne]

theorem Legal.marked {c : Char} {t : Option Text} (hc : IsDelimiter c)
    (h : ∀ s, t = some s → Legal s) : Legal (Text.marked c t) := by
  cases t with
  | none => exact .nil
  | some s => exact .cons hc (h s rfl)

structure Sound (u : Uri) : Prop where
  authority : ∀ a, u.authority = some a → Legal a
  path : Legal u.path
  query : ∀ q, u.query = some q → Legal q
  fragment : ∀ f, u.fragment = some f → Legal f ∧ '#' ∉ f

theorem Sound.specificPart {u : Uri} (h : u.Sound) : Legal u.specificPart := by
  have hslash : IsDelimiter '/' := by decide
  have hquery : Legal (Text.marked '?' u.query) := .marked (by decide) h.query
  cases ha : u.authority with
  | none =>
      rw [specificPart_of_no_authority ha]
      exact h.path.append hquery
  | some a =>
      rw [specificPart_of_authority ha]
      exact .cons hslash (.cons hslash (((h.authority a ha).append h.path).append hquery))

theorem Sound.throughout {u : Uri} (h : u.Sound) : u.Throughout Legal :=
  ⟨h.authority, h.path, h.query⟩

theorem Sound.resolve {base reference : Uri} (hb : base.Sound) (hr : reference.Sound) :
    (base.resolve reference).Sound := by
  obtain ⟨hauthority, hpath, hquery⟩ := Throughout.resolve (P := Legal)
    (fun _ => Legal.removeDotSegments) (fun _ _ => Legal.merge) hb.throughout hr.throughout
  refine ⟨hauthority, hpath, hquery, ?_⟩
  rw [fragment_resolve]
  exact hr.fragment

theorem Legal.splitAuthority {t : Text} (h : Legal t) :
    (∀ a, (splitAuthority t).1 = some a → Legal a) ∧ Legal (splitAuthority t).2 := by
  rcases splitAuthority_cases t with hsplit | ⟨a, path, hsplit, rfl, -, hpath⟩
  · simpa [hsplit] using h
  · have hslash : IsDelimiter '/' := by decide
    have hrest := (of_append_cons (s := ['/']) hslash h).2
    have hboth : Legal a ∧ Legal path := by
      rcases hpath with rfl | hrooted
      · exact ⟨by simpa using hrest, .nil⟩
      · obtain ⟨rest, rfl⟩ := eq_cons_of_isRooted hrooted
        obtain ⟨ha, hback⟩ := of_append_cons hslash hrest
        exact ⟨ha, .cons hslash hback⟩
    simpa [hsplit] using hboth

theorem sound_split {scheme : Option Text} {rest : Text} (h : Legal rest)
    (hcount : rest.count '#' ≤ 1) : (split scheme rest).Sound := by
  obtain ⟨hfront, hfragment⟩ := h.cut (c := '#') (by decide)
  obtain ⟨hpart, hquery⟩ := hfront.cut (c := '?') (by decide)
  obtain ⟨hauthority, hpath⟩ := hpart.splitAuthority
  refine ⟨hauthority, hpath, hquery, fun f hf => ⟨hfragment f hf, ?_⟩⟩
  have hrest := Text.cut_eq_append '#' rest
  rw [show (Text.cut '#' rest).2 = some f from hf] at hrest
  rw [← hrest, Text.marked, List.count_append, List.count_cons_self] at hcount
  exact List.count_eq_zero.mp (by omega)

theorem sound_of_parse {input : Text} {u : Uri} (h : parse input = .ok u) : u.Sound := by
  obtain ⟨scheme, rest, hscheme, rfl⟩ := parse_eq_assemble h
  have hflaw : flaw? 0 false input = none := by
    rw [parse] at h
    split at h
    · simp at h
    · assumption
  obtain ⟨hlegal, hcount⟩ := (flaw?_eq_none_iff 0 false input).mp hflaw
  have hsound : (split scheme rest).Sound := by
    rcases splitScheme_cases hscheme with ⟨rfl, rfl⟩ | ⟨front, -, -, rfl⟩
    · exact sound_split hlegal hcount
    · refine sound_split (Legal.of_append_cons (by decide) hlegal).2 ?_
      rw [List.count_append] at hcount
      have hback := List.count_le_count_cons (a := '#') (b := ':') (l := rest)
      omega
  rw [assemble_eq_split]
  exact ⟨hsound.authority, hsound.path.normalPath _ _, hsound.query, hsound.fragment⟩

theorem isIllegal_of_isSchemeChar {c : Char} (h : isSchemeChar c) : isIllegal c = false := by
  have hprinted : Text.isBlank c = false ∧ Text.isControl c = false := by
    simp only [isSchemeChar, Char.isAlphanum, isAlpha_iff, isUpper_iff, isLower_iff,
      Char.isDigit, Bool.or_eq_true, Bool.and_eq_true, decide_eq_true_eq, beq_iff_eq,
      UInt32.le_iff_toNat_le, Text.isBlank, Text.isControl, ← Char.toNat_val, Char.ext_iff,
      UInt32.ext_iff] at h ⊢
    simp at h ⊢
    omega
  have hkept : isExcluded c = false := by
    rw [Bool.eq_false_iff]
    intro he
    simp only [isExcluded, Bool.or_eq_true, beq_iff_eq] at he
    rcases he with (((((((rfl | rfl) | rfl) | rfl) | rfl) | rfl) | rfl) | rfl) | rfl <;>
      exact absurd h (by decide)
  simp [isIllegal, hprinted, hkept]

theorem legal_of_isScheme {scheme : Text} (h : isScheme scheme) : Legal scheme := by
  have hchars : ∀ c ∈ scheme, isSchemeChar c := fun c hc => isSchemeChar_of_mem h hc
  clear h
  induction scheme with
  | nil => exact .nil
  | cons c rest ih =>
      have hc := hchars c List.mem_cons_self
      refine .char ?_ (isIllegal_of_isSchemeChar hc)
        (ih fun x hx => hchars x (List.mem_cons_of_mem c hx))
      rintro rfl
      exact absurd hc (by decide)

theorem lower_lower (t : Text) : Text.lower (Text.lower t) = Text.lower t := by
  simp only [Text.lower, List.map_map, Function.comp_def, toLower_toLower]

theorem parse_of_scheme {scheme rest : Text} (hscheme : isScheme scheme) (hlegal : Legal rest)
    (hcount : rest.count '#' ≤ 1) :
    parse (scheme ++ ':' :: rest) = .ok (assemble (some (Text.lower scheme)) rest) := by
  have hhash : '#' ∉ scheme := fun hc => absurd (isSchemeChar_of_mem hscheme hc) (by decide)
  have hflaw : flaw? 0 false (scheme ++ ':' :: rest) = none := by
    rw [flaw?_eq_none_iff]
    refine ⟨(legal_of_isScheme hscheme).append (.cons (by decide) hlegal), ?_⟩
    simpa [List.count_append, List.count_eq_zero.mpr hhash] using hcount
  rw [parse, hflaw, splitScheme_append hscheme]
  rfl

theorem legal_append_marked {part : Text} {fragment : Option Text} (hpart : Legal part)
    (hhash : '#' ∉ part) (hfragment : ∀ f, fragment = some f → Legal f ∧ '#' ∉ f) :
    Legal (part ++ Text.marked '#' fragment) ∧ (part ++ Text.marked '#' fragment).count '#' ≤ 1 := by
  refine ⟨hpart.append (.marked (by decide) fun f hf => (hfragment f hf).1), ?_⟩
  rw [List.count_append, List.count_eq_zero.mpr hhash]
  cases hfrag : fragment with
  | none => simp [Text.marked]
  | some f => simp [Text.marked, List.count_eq_zero.mpr (hfragment f hfrag).2]

theorem parse_opaque {scheme part : Text} {fragment : Option Text} (hscheme : isScheme scheme)
    (hpart : Legal part) (hhash : '#' ∉ part) (hrooted : ¬ isRooted part)
    (hfragment : ∀ f, fragment = some f → Legal f ∧ '#' ∉ f) :
    ∃ u, parse (scheme ++ ':' :: (part ++ Text.marked '#' fragment)) = .ok u ∧
      u.scheme = some (Text.lower scheme) ∧ u.specificPart = part := by
  obtain ⟨hlegal, hcount⟩ := legal_append_marked hpart hhash hfragment
  have hcut : (Text.cut '#' (part ++ Text.marked '#' fragment)).1 = part := by
    rw [Text.cut_append_marked hhash]
  refine ⟨split (some (Text.lower scheme)) (part ++ Text.marked '#' fragment), ?_, rfl,
    by rw [split_specificPart, hcut]⟩
  rw [parse_of_scheme hscheme hlegal hcount, assemble_of_not_rooted (by rwa [hcut])]

end JsonReference.Uri
