import JsonReference.Proofs.Uri.Printed

namespace JsonReference.Uri

variable {c : Char} {t front back rest : Text} {u : Uri}

def excluded : Text :=
  ['"', '<', '>', '\\', '^', '\x60', '\x7b', '|', '\x7d']

def SpellsScheme (t : Text) : Prop :=
  ∃ c rest, t = c :: rest ∧ c.isAlpha ∧ ∀ x ∈ rest, x.isAlphanum ∨ x ∈ ['+', '-', '.']

def BeginsOctet (t : Text) : Prop :=
  ∃ a b rest, t = a :: b :: rest ∧ Text.isHexDigit a ∧ Text.isHexDigit b

/-- The texts of references. -/
structure Grammatical (t : Text) : Prop where
  visible : ∀ c ∈ t, Text.isBlank c = false ∧ Text.isControl c = false ∧ c ∉ excluded
  escaped : Text.Followed '%' BeginsOctet t
  hash : t.count '#' ≤ 1
  scheme : ∀ front back, t = front ++ ':' :: back → (∀ c ∈ front, c ∉ [':', '/', '?', '#']) →
    SpellsScheme front

theorem isIllegal_eq_false_iff :
    isIllegal c = false ↔ Text.isBlank c = false ∧ Text.isControl c = false ∧ c ∉ excluded := by
  simp [isIllegal, isExcluded, excluded, and_assoc]

theorem isScheme_iff : isScheme t ↔ SpellsScheme t := by
  cases t with
  | nil => simp [isScheme, SpellsScheme]
  | cons c rest => simp [isScheme, isSchemeChar, SpellsScheme, or_assoc]

theorem endsScheme_eq_false_iff : endsScheme c = false ↔ c ∉ [':', '/', '?', '#'] := by
  simp [endsScheme, and_assoc]

theorem isSchemeChar_of_isHexDigit (h : Text.isHexDigit c) : isSchemeChar c := by
  simp only [Text.isHexDigit, isSchemeChar, Char.isAlphanum, isAlpha_iff, isUpper_iff,
    isLower_iff, Char.isDigit, Bool.or_eq_true, Bool.and_eq_true, decide_eq_true_eq, Char.le_def,
    UInt32.le_iff_toNat_le] at h ⊢
  simp at h ⊢
  omega

theorem ne_percent_of_isSchemeChar (h : isSchemeChar c) : c ≠ '%' := by
  rintro rfl
  exact absurd h (by decide)

theorem legal_cons_of_isHexDigit (h : Text.isHexDigit c) : Legal (c :: t) ↔ Legal t := by
  have hc := isSchemeChar_of_isHexDigit h
  rw [legal_cons_iff (ne_percent_of_isSchemeChar hc), isIllegal_of_isSchemeChar hc]
  simp

theorem legal_iff : Legal t ↔ (∀ c ∈ t, isIllegal c = false) ∧ Text.Followed '%' BeginsOctet t := by
  induction t with
  | nil => simp [Legal.nil, Text.followed_nil]
  | cons c t ih =>
      rw [Text.followed_cons_iff, List.forall_mem_cons]
      by_cases hc : c = '%'
      · subst hc
        constructor
        · intro h
          cases h with
          | escape ha hb h =>
              -- The digits are characters of their own to the other side.
              have ht := ih.mp ((legal_cons_of_isHexDigit ha).mpr ((legal_cons_of_isHexDigit hb).mpr h))
              exact ⟨⟨by decide, ht.1⟩, fun _ => ⟨_, _, _, rfl, ha, hb⟩, ht.2⟩
          | char hc => exact absurd rfl hc
        · rintro ⟨⟨-, hchars⟩, hoctet, hescaped⟩
          obtain ⟨a, b, rest, rfl, ha, hb⟩ := hoctet rfl
          have hlegal := ih.mpr ⟨hchars, hescaped⟩
          rw [legal_cons_of_isHexDigit ha, legal_cons_of_isHexDigit hb] at hlegal
          exact .escape ha hb hlegal
      · rw [legal_cons_iff hc, ih]
        simp [hc, and_assoc]

theorem beginsScheme_append_colon (h : ∀ c ∈ front, endsScheme c = false) (back : Text) :
    BeginsScheme (front ++ ':' :: back) := by
  rw [BeginsScheme, List.dropWhile_append_of_pos fun c hc => by simp [h c hc]]
  rfl

theorem grammatical_iff :
    Grammatical t ↔ Legal t ∧ t.count '#' ≤ 1 ∧
      ∀ front back, t = front ++ ':' :: back → (∀ c ∈ front, endsScheme c = false) →
        isScheme front := by
  simp only [legal_iff, isIllegal_eq_false_iff, isScheme_iff, endsScheme_eq_false_iff]
  constructor
  · exact fun h => ⟨⟨h.visible, h.escaped⟩, h.hash, h.scheme⟩
  · exact fun ⟨⟨hvisible, hescaped⟩, hhash, hscheme⟩ => ⟨hvisible, hescaped, hhash, hscheme⟩

theorem grammatical_of_parse (h : parse t = .ok u) : Grammatical t := by
  have hflaw : flaw? 0 false t = none := by
    rw [parse] at h
    split at h
    · simp at h
    · assumption
  obtain ⟨hlegal, hcount⟩ := (flaw?_eq_none_iff 0 false t).mp hflaw
  refine grammatical_iff.mpr ⟨hlegal, hcount, fun front back ht hfront => ?_⟩
  obtain ⟨scheme, rest, hsplit, rfl⟩ := parse_eq_assemble h
  rcases splitScheme_cases hsplit with ⟨rfl, -⟩ | ⟨read, hread, -, hrest⟩
  · exact absurd (ht ▸ beginsScheme_append_colon hfront back) (not_beginsScheme_of_parse h rfl)
  · have hcolon {s : Text} (hs : ∀ c ∈ s, endsScheme c = false) : ':' ∉ s := fun hc =>
      absurd (hs ':' hc) (by decide)
    have hends : ∀ c ∈ read, endsScheme c = false := fun c hc =>
      endsScheme_eq_false (isSchemeChar_of_mem hread hc)
    rw [(Text.append_cons_inj (hcolon hfront) (hcolon hends) (ht.symm.trans hrest)).1]
    exact hread

theorem parse_of_grammatical (h : Grammatical t) : ∃ u, parse t = .ok u := by
  obtain ⟨hlegal, hcount, hscheme⟩ := grammatical_iff.mp h
  by_cases hbegins : BeginsScheme t
  · obtain ⟨rest, hrest⟩ := List.head?_eq_some_iff.mp hbegins
    have ht : t = t.takeWhile (!endsScheme ·) ++ ':' :: rest := by
      rw [← hrest, List.takeWhile_append_dropWhile]
    have hfront := hscheme _ _ ht fun c hc => by simpa using List.mem_takeWhile_imp hc
    rw [ht] at hlegal hcount
    have hback := List.count_le_count_cons (a := '#') (b := ':') (l := rest)
    rw [List.count_append] at hcount
    have hparse := parse_of_scheme hfront (Legal.of_append_cons (by decide) hlegal).2 (by omega)
    rw [← ht] at hparse
    exact ⟨_, hparse⟩
  · exact ⟨_, parse_of_not_beginsScheme hlegal hcount hbegins⟩

theorem text_split (scheme : Option Text) (rest : Text) :
    (split scheme rest).text = (match scheme with | some s => s ++ [':'] | none => []) ++ rest := by
  have hrest : (split scheme rest).specificPart ++ Text.marked '#' (split scheme rest).fragment =
      rest := by
    rw [split_specificPart]
    exact Text.cut_eq_append '#' rest
  cases scheme with
  | none =>
      rw [text_of_no_scheme rfl, hrest]
      rfl
  | some s =>
      rw [text_of_scheme rfl, hrest]
      simp

/-- The parts as they are written make up the text. They are kept as they are, but for the case of the
scheme and for the dot segments of a rooted path behind a scheme or an authority. -/
structure Kept (t : Text) (written u : Uri) : Prop where
  text : written.text = t
  scheme : ∀ s, written.scheme = some s → SpellsScheme s
  eq : u = { written with
    scheme := written.scheme.map Text.lower
    path :=
      if (written.scheme.isSome ∨ written.authority.isSome) ∧ written.path.head? = some '/' then
        removeDotSegments written.path
      else written.path }
  written : written.Delimited
  delimited : u.Delimited

theorem kept_of_parse (h : parse t = .ok u) : ∃ written : Uri, Kept t written u := by
  have hplain := (Obtained.parse h).plain
  have hsettled := Settled.of_parse h
  have hdelimited : u.Delimited :=
    ⟨fun a ha => ⟨(hsettled.authority a ha).1, (hsettled.authority a ha).2, hplain.authority a ha⟩,
      ⟨hsettled.path, hplain.path⟩, hplain.query⟩
  obtain ⟨scheme, rest, hsplit, rfl⟩ := parse_eq_assemble h
  rcases splitScheme_cases hsplit with ⟨rfl, rfl⟩ | ⟨read, hread, rfl, rfl⟩
  · refine ⟨split none rest, text_split none rest, by simp, ?_, delimited_split none rest, hdelimited⟩
    simp [assemble_eq_split, normalPath, isRooted]
  · refine ⟨split (some read) rest, ?_, ?_, ?_, delimited_split (some read) rest, hdelimited⟩
    · rw [text_split]
      simp
    · rintro s ⟨⟩
      exact isScheme_iff.mp hread
    · rw [assemble_eq_split]
      simp [normalPath, isRooted, split]

/-- The texts that are read are those of the grammar, and what is read of a text has the parts that
the text consists of. -/
theorem parse_lossless :
    (∀ t : Text, (∃ u, parse t = .ok u) ↔ Grammatical t) ∧
    ∀ (t : Text) (u : Uri), parse t = .ok u → ∃ written : Uri, Kept t written u :=
  ⟨fun _ => ⟨fun ⟨_, h⟩ => grammatical_of_parse h, parse_of_grammatical⟩,
    fun _ _ => kept_of_parse⟩

theorem parse_lossless_repeated :
    let t := "Http+x://u:p@h/a/../b:%7e//?q=/../?://#/../?f".toList
    ∃ u, parse t = .ok u ∧ u.path = "/b:%7e//".toList ∧ Grammatical t ∧
      ∃ written : Uri, Kept t written u := by
  intro t
  have h : parse t = .ok ⟨some "http+x".toList, some "u:p@h".toList, "/b:%7e//".toList,
    some "q=/../?://".toList, some "/../?f".toList⟩ := by decide
  exact ⟨_, h, rfl, (parse_lossless.1 t).mp ⟨_, h⟩, parse_lossless.2 t _ h⟩

end JsonReference.Uri
