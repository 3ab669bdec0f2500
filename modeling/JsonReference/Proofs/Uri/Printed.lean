import JsonReference.Proofs.Uri.Legal

namespace JsonReference.Uri

variable {c : Char} {t : Text} {u base reference entry : Uri}

/-- A colon comes first of the characters that can end a scheme. -/
def BeginsScheme (t : Text) : Prop := (t.dropWhile (!endsScheme ·)).head? = some ':'

instance : Decidable (BeginsScheme t) := inferInstanceAs (Decidable (_ = _))

theorem not_beginsScheme_of_rooted (h : isRooted t) : ¬ BeginsScheme t := by
  obtain ⟨rest, rfl⟩ := eq_cons_of_isRooted h
  simp [BeginsScheme, endsScheme]

theorem not_beginsScheme_of_not_mem (h : ':' ∉ t) : ¬ BeginsScheme t := fun hbegins =>
  h ((List.dropWhile_sublist _).subset (List.mem_of_mem_head? hbegins))

theorem splitScheme_of_not_beginsScheme (h : ¬ BeginsScheme t) : splitScheme t = .ok (none, t) := by
  rw [splitScheme]
  split
  · next hdrop => simp [BeginsScheme, hdrop] at h
  · rfl

theorem not_beginsScheme_of_parse (h : parse t = .ok entry) (hscheme : entry.scheme = none) :
    ¬ BeginsScheme t := by
  obtain ⟨scheme, rest, hsplit, rfl⟩ := parse_eq_assemble h
  obtain rfl : scheme = none := hscheme
  rw [splitScheme] at hsplit
  split at hsplit
  · cases htake : t.takeWhile (!endsScheme ·) with
    | nil => simp [htake] at hsplit
    | cons c front =>
        simp only [htake] at hsplit
        obtain ⟨_, -, hrest⟩ := Except.bind_ok_iff.mp hsplit
        cases hrest
  · next hdrop =>
    intro hbegins
    obtain ⟨rest, hrest⟩ := List.head?_eq_some_iff.mp hbegins
    exact hdrop rest hrest

theorem parse_of_not_beginsScheme (hlegal : Legal t) (hcount : t.count '#' ≤ 1)
    (h : ¬ BeginsScheme t) : parse t = .ok (assemble none t) := by
  have hflaw : flaw? 0 false t = none := (flaw?_eq_none_iff 0 false t).mpr ⟨hlegal, hcount⟩
  rw [parse, hflaw, splitScheme_of_not_beginsScheme h]
  rfl

theorem parse_relative (hlegal : Legal t) (hhash : '#' ∉ t) (h : ¬ BeginsScheme t) :
    ∃ u, parse t = .ok u ∧ u.scheme = none := by
  have hcount : t.count '#' ≤ 1 := by simp [List.count_eq_zero.mpr hhash]
  exact ⟨assemble none t, parse_of_not_beginsScheme hlegal hcount h, rfl⟩

theorem beginsScheme_append_marked (hc : endsScheme c) (hcolon : c ≠ ':') (back : Option Text) :
    BeginsScheme (t ++ Text.marked c back) ↔ BeginsScheme t := by
  rw [BeginsScheme, BeginsScheme, List.dropWhile_append]
  split
  · next hnone =>
    rw [List.isEmpty_iff] at hnone
    cases back <;> simp [hnone, Text.marked, hc, hcolon]
  · next hsome =>
    rw [List.isEmpty_iff] at hsome
    rw [List.head?_append_of_ne_nil _ hsome]

theorem lower_scheme_of_parse {input scheme : Text} {u : Uri} (h : parse input = .ok u)
    (hscheme : u.scheme = some scheme) : Text.lower scheme = scheme := by
  obtain ⟨read, rest, hread, rfl⟩ := parse_eq_assemble h
  rcases splitScheme_cases hread with ⟨rfl, -⟩ | ⟨front, -, rfl, -⟩
  · simp [assemble] at hscheme
  · simp only [assemble, Option.some.injEq] at hscheme
    rw [← hscheme, lower_lower]

theorem text_of_no_scheme {u : Uri} (h : u.scheme = none) :
    u.text = u.specificPart ++ Text.marked '#' u.fragment := by
  rw [text, h]
  cases u.fragment <;> rfl

theorem text_of_scheme {u : Uri} {scheme : Text} (h : u.scheme = some scheme) :
    u.text = scheme ++ ':' :: (u.specificPart ++ Text.marked '#' u.fragment) := by
  rw [text, h]
  cases u.fragment <;> simp [Text.marked]

def BeginsAuthority (t : Text) : Prop := ['/', '/'] <+: t

instance : Decidable (BeginsAuthority t) := inferInstanceAs (Decidable (_ <+: _))

theorem splitAuthority_of_not_beginsAuthority (h : ¬ BeginsAuthority t) :
    splitAuthority t = (none, t) := by
  rcases splitAuthority_cases t with hsplit | ⟨authority, path, -, rfl, -⟩
  · exact hsplit
  · exact absurd (List.prefix_append ['/', '/'] _) h

theorem isSome_splitAuthority (h : BeginsAuthority t) : (splitAuthority t).1.isSome := by
  obtain ⟨rest, rfl⟩ := h
  rfl

theorem splitAuthority_append {authority path : Text} (hslash : '/' ∉ authority)
    (hpath : path = [] ∨ isRooted path) :
    splitAuthority ('/' :: '/' :: (authority ++ path)) = (some authority, path) := by
  have hkept : ∀ c ∈ authority, decide (c ≠ '/') = true := fun c hc =>
    decide_eq_true fun hslash' => hslash (hslash' ▸ hc)
  have hstop : path.takeWhile (· ≠ '/') = [] ∧ path.dropWhile (· ≠ '/') = path := by
    rcases hpath with rfl | hrooted
    · exact ⟨rfl, rfl⟩
    · obtain ⟨rest, rfl⟩ := eq_cons_of_isRooted hrooted
      exact ⟨rfl, rfl⟩
  rw [splitAuthority, List.takeWhile_append_of_pos hkept, List.dropWhile_append_of_pos hkept,
    hstop.1, hstop.2, List.append_nil]

theorem not_beginsAuthority_of_split {scheme : Option Text} {rest : Text}
    (h : (split scheme rest).authority = none) : ¬ BeginsAuthority (split scheme rest).path := by
  rcases splitAuthority_cases (Text.cut '?' (Text.cut '#' rest).1).1 with
    hsplit | ⟨authority, path, hsplit, -⟩
  · intro hbegins
    simp only [split, hsplit] at hbegins
    have hsome := isSome_splitAuthority hbegins
    simp [hsplit] at hsome
  · simp [split, hsplit] at h

inductive FromText : Uri → Prop
  | parse {input : Text} {u : Uri} : Uri.parse input = .ok u → FromText u
  | resolve {base reference : Uri} : FromText base → FromText reference →
      FromText (base.resolve reference)

/-- The parts have no character that would end them, the scheme is in lower case, and there are no
dot segments where reading would take them out. -/
structure Settled (u : Uri) : Prop where
  plain : u.Plain
  sound : u.Sound
  lower : ∀ scheme, u.scheme = some scheme → Text.lower scheme = scheme
  authority : ∀ a, u.authority = some a → '/' ∉ a ∧ '?' ∉ a
  path : '?' ∉ u.path
  rooted : u.authority.isSome → u.path = [] ∨ isRooted u.path
  dotFree : isRooted u.path →
    u.scheme.isSome ∨ u.authority.isSome ∨ BeginsAuthority u.path → DotFree u.path

theorem dotFree_normalPath {scheme authority : Option Text} {path : Text}
    (h : authority = none → ¬ BeginsAuthority path)
    (hrooted : isRooted (normalPath scheme authority path))
    (hkind : scheme.isSome ∨ authority.isSome ∨
      BeginsAuthority (normalPath scheme authority path)) :
    DotFree (normalPath scheme authority path) := by
  by_cases hpath : isRooted path
  · by_cases hmarked : scheme.isSome ∨ authority.isSome
    · rw [normalPath_of_rooted hmarked hpath]
      exact dotFree_removeDotSegments path
    · obtain ⟨rfl, rfl⟩ : scheme = none ∧ authority = none := by simpa using hmarked
      exact absurd (by simpa [normalPath] using hkind) (h rfl)
  · rw [normalPath_of_not_rooted hpath] at hrooted
    exact absurd hrooted hpath

theorem Settled.of_parse (h : Uri.parse t = .ok u) : u.Settled := by
  have hplain := (Obtained.parse h).plain
  have hsound := sound_of_parse h
  have hlower := fun scheme => @lower_scheme_of_parse t scheme u h
  obtain ⟨scheme, rest, -, rfl⟩ := parse_eq_assemble h
  have hparts := delimited_split scheme rest
  rw [assemble_eq_split] at hplain hsound hlower ⊢
  refine ⟨hplain, hsound, hlower, fun a ha => ?_, not_mem_normalPath (by decide) hparts.path.1 _ _,
    ?_, ?_⟩
  · obtain ⟨hslash, hmark, -⟩ := hparts.authority a ha
    exact ⟨hslash, hmark⟩
  · intro hauthority
    rcases split_path hauthority with hempty | hrooted
    · exact .inl (by rw [hempty, normalPath_of_not_rooted (by simp [isRooted])])
    · exact .inr (isRooted_normalPath hrooted _ _)
  · exact dotFree_normalPath not_beginsAuthority_of_split

theorem Settled.resolve (hb : base.Settled) (hr : reference.Settled) :
    (base.resolve reference).Settled := by
  have hplain := hb.plain.resolve hr.plain
  have hsound := hb.sound.resolve hr.sound
  have hresolved := resolved base reference
  have hpath : '?' ∉ Uri.removeDotSegments reference.path :=
    not_mem_removeDotSegments (by decide) hr.path
  have hrooted (h : reference.authority.isSome) :
      Uri.removeDotSegments reference.path = [] ∨
        isRooted (Uri.removeDotSegments reference.path) :=
    (hr.rooted h).imp (fun hempty => by rw [hempty]; rfl) isRooted_removeDotSegments
  generalize base.resolve reference = u at hplain hsound hresolved
  cases hresolved with
  | absolute hscheme =>
      exact ⟨hplain, hsound, hr.lower, hr.authority, hpath, hrooted,
        fun _ _ => dotFree_removeDotSegments _⟩
  | remote =>
      exact ⟨hplain, hsound, hb.lower, hr.authority, hpath, hrooted,
        fun _ _ => dotFree_removeDotSegments _⟩
  | same =>
      exact ⟨hplain, hsound, hb.lower, hb.authority, hb.path, hb.rooted, hb.dotFree⟩
  | rooted _ _ hslash =>
      exact ⟨hplain, hsound, hb.lower, hb.authority, hpath,
        fun _ => .inr (isRooted_removeDotSegments hslash), fun _ _ => dotFree_removeDotSegments _⟩
  | merged =>
      refine ⟨hplain, hsound, hb.lower, hb.authority, ?_, ?_,
        fun _ _ => dotFree_removeDotSegments _⟩
      · apply not_mem_removeDotSegments (by decide)
        intro hmark
        rcases mem_merge hmark with hslash | hmark | hmark
        · exact absurd hslash (by decide)
        · exact hb.path hmark
        · exact hr.path hmark
      · intro hauthority
        apply Or.inr
        apply isRooted_removeDotSegments
        apply isRooted_merge
        exact (hb.rooted hauthority).symm.imp_right fun hempty => ⟨hauthority, hempty⟩

theorem withoutFragment_resolve (base reference : Uri) :
    (base.resolve reference).withoutFragment =
      base.withoutFragment.resolve reference.withoutFragment := by
  rw [resolve, resolve]
  split
  · next h =>
    rw [if_pos (show reference.withoutFragment.scheme.isSome from h)]
    rfl
  · next h =>
    rw [if_neg (show ¬ reference.withoutFragment.scheme.isSome from h)]
    rfl

theorem Settled.withFragment (h : u.Settled) {fragment : Option Text}
    (hf : ∀ f, fragment = some f → Legal f ∧ '#' ∉ f) : (u.withFragment fragment).Settled :=
  ⟨⟨h.plain.scheme, h.plain.authority, h.plain.path, h.plain.query⟩,
    ⟨h.sound.authority, h.sound.path, h.sound.query, hf⟩, h.lower, h.authority, h.path, h.rooted,
    h.dotFree⟩

theorem FromText.settled (h : u.FromText) : u.Settled := by
  induction h with
  | parse h => exact .of_parse h
  | resolve _ _ hb hr => exact hb.resolve hr

theorem Obtained.settled (h : u.Obtained) : u.withoutFragment.Settled := by
  induction h with
  | parse h => exact (Settled.of_parse h).withFragment (by simp)
  | resolve _ _ hb hr => exact withoutFragment_resolve _ _ ▸ hb.resolve hr
  | withFragment _ _ h => exact h

def reread (u : Uri) : Uri :=
  if u.authority.isSome then u
  else
    { u with
      authority := (splitAuthority u.path).1
      path := (splitAuthority u.path).2 }

theorem reread_eq_self_iff : u.reread = u ↔ (u.authority = none → ¬ BeginsAuthority u.path) := by
  rw [reread]
  split
  · next ha => simp [Option.isSome_iff_ne_none.mp ha]
  · next ha =>
    rw [Option.not_isSome_iff_eq_none] at ha
    by_cases hbegins : BeginsAuthority u.path
    · have hsome := isSome_splitAuthority hbegins
      simp only [ha, hbegins, not_true_eq_false, imp_false, iff_false]
      intro hself
      rw [show (splitAuthority u.path).1 = u.authority from congrArg authority hself, ha] at hsome
      cases hsome
    · rw [splitAuthority_of_not_beginsAuthority hbegins, ← ha]
      simp [hbegins]

theorem scheme_reread (u : Uri) : u.reread.scheme = u.scheme := by
  rw [reread]
  split <;> rfl

theorem fragment_reread (u : Uri) : u.reread.fragment = u.fragment := by
  rw [reread]
  split <;> rfl

theorem specificPart_reread (u : Uri) : u.reread.specificPart = u.specificPart := by
  rw [reread]
  split
  · rfl
  · next ha =>
    rw [Option.not_isSome_iff_eq_none] at ha
    rcases splitAuthority_cases u.path with hsplit | ⟨authority, path, hsplit, hparts, -⟩
    · rw [hsplit, ← ha]
    · rw [specificPart_of_no_authority ha, specificPart_of_authority (congrArg Prod.fst hsplit),
        hsplit, hparts]
      rfl

theorem text_reread (u : Uri) : u.reread.text = u.text := by
  rw [text, text, scheme_reread, specificPart_reread, fragment_reread]

theorem DotFree.of_append {authority : Text} (hslash : '/' ∉ authority)
    (h : DotFree (authority ++ '/' :: t)) : DotFree ('/' :: t) := by
  rw [DotFree, Text.segments_append_cons hslash] at h
  rw [dotFree_cons]
  exact fun s hs => h s (List.mem_cons_of_mem authority hs)

theorem normalPath_of_dotFree {scheme authority : Option Text} {path : Text}
    (h : isRooted path → scheme.isSome ∨ authority.isSome → DotFree path) :
    normalPath scheme authority path = path := by
  rw [normalPath]
  split
  · next hcond =>
    simp only [Bool.and_eq_true, Bool.or_eq_true] at hcond
    exact removeDotSegments_of_dotFree (h hcond.2 hcond.1)
  · rfl

namespace Settled

theorem normalPath_splitAuthority (h : u.Settled) :
    normalPath u.scheme (splitAuthority u.path).1 (splitAuthority u.path).2 =
      (splitAuthority u.path).2 := by
  rcases splitAuthority_cases u.path with
    hsplit | ⟨authority, path, hsplit, hparts, hslash, -⟩
  · rw [hsplit]
    exact normalPath_of_dotFree fun hrooted hmarked =>
      h.dotFree hrooted (.inl (by simpa using hmarked))
  · rw [hsplit]
    apply normalPath_of_dotFree
    intro hrooted _
    have hdotFree := h.dotFree (by rw [hparts]; rfl)
      (.inr (.inr (hparts ▸ List.prefix_append ['/', '/'] _)))
    obtain ⟨rest, rfl⟩ := eq_cons_of_isRooted hrooted
    rw [hparts, dotFree_cons, dotFree_cons] at hdotFree
    exact hdotFree.of_append hslash

theorem assemble_eq (h : u.Settled) :
    assemble u.scheme (u.specificPart ++ Text.marked '#' u.fragment) = u.reread := by
  -- Each cut finds the mark that was printed, as no part before it has one.
  have hhash := Text.cut_append_marked h.plain.hash_not_mem_specificPart u.fragment
  rw [assemble, hhash, reread]
  cases ha : u.authority with
  | some a =>
      obtain ⟨hslash, hmark⟩ := h.authority a ha
      have hquery : '?' ∉ '/' :: '/' :: (a ++ u.path) := by simp [hmark, h.path]
      have hpath : normalPath u.scheme (some a) u.path = u.path :=
        normalPath_of_dotFree fun hrooted _ => h.dotFree hrooted (.inr (.inl (by simp [ha])))
      have hpart : u.specificPart = ('/' :: '/' :: (a ++ u.path)) ++ Text.marked '?' u.query := by
        rw [specificPart_of_authority ha]
        rfl
      simp only [hpart, Text.cut_append_marked hquery,
        splitAuthority_append hslash (h.rooted (by simp [ha])), hpath, if_pos, Option.isSome_some]
      rw [← ha]
  | none =>
      simp only [specificPart_of_no_authority ha, Text.cut_append_marked h.path,
        h.normalPath_splitAuthority]
      simp

theorem parse_text (h : u.Settled)
    (hbegins : u.scheme.isSome ∨ u.authority.isSome ∨ ¬ BeginsScheme u.path) :
    parse u.text = .ok u.reread := by
  obtain ⟨hlegal, hcount⟩ := legal_append_marked h.sound.specificPart
    h.plain.hash_not_mem_specificPart h.sound.fragment
  rw [← h.assemble_eq]
  cases hs : u.scheme with
  | some scheme =>
      rw [text_of_scheme hs, parse_of_scheme (h.plain.scheme scheme hs) hlegal hcount,
        h.lower scheme hs]
  | none =>
      rw [text_of_no_scheme hs]
      apply parse_of_not_beginsScheme hlegal hcount
      rw [beginsScheme_append_marked (by decide) (by decide)]
      rcases hbegins.resolve_left (by simp [hs]) with ha | hpath
      · exact not_beginsScheme_of_rooted (isRooted_specificPart_iff.mpr (.inl ha))
      · by_cases ha : u.authority.isSome
        · exact not_beginsScheme_of_rooted (isRooted_specificPart_iff.mpr (.inl ha))
        · rw [specificPart_of_no_authority (by simpa using ha),
            beginsScheme_append_marked (by decide) (by decide)]
          exact hpath

theorem parse_text_eq_self_iff (h : u.Settled) :
    parse u.text = .ok u ↔
      (u.authority = none →
        ¬ BeginsAuthority u.path ∧ (u.scheme = none → ¬ BeginsScheme u.path)) := by
  constructor
  · intro hread ha
    refine ⟨fun hbegins => ?_, fun hs hbegins => ?_⟩
    -- Two slashes are no scheme, so the text is read, and the path with them as an authority.
    · have hrooted : isRooted u.path := by
        obtain ⟨rest, hrest⟩ := hbegins
        rw [← hrest]
        rfl
      rw [h.parse_text (.inr (.inr (not_beginsScheme_of_rooted hrooted))), Except.ok.injEq,
        reread_eq_self_iff] at hread
      exact hread ha hbegins
    · apply not_beginsScheme_of_parse hread hs
      rw [text_of_no_scheme hs, beginsScheme_append_marked (by decide) (by decide),
        specificPart_of_no_authority ha, beginsScheme_append_marked (by decide) (by decide)]
      exact hbegins
  · intro hpath
    have hself : u.reread = u := reread_eq_self_iff.mpr fun ha => (hpath ha).1
    rw [h.parse_text, hself]
    by_cases ha : u.authority = none
    · by_cases hs : u.scheme = none
      · exact .inr (.inr ((hpath ha).2 hs))
      · exact .inl (Option.isSome_iff_ne_none.mpr hs)
    · exact .inr (.inl (Option.isSome_iff_ne_none.mpr ha))

end Settled

theorem parse_text_of_parse (h : parse t = .ok u) (hscheme : u.scheme = none) :
    parse u.text = .ok u := by
  cases ha : u.authority with
  | some a =>
      rw [(Settled.of_parse h).parse_text_eq_self_iff]
      simp [ha]
  | none =>
      have htext : u.text = t := by
        obtain ⟨scheme, rest, hsplit, rfl⟩ := parse_eq_assemble h
        obtain rfl : scheme = none := hscheme
        have hself : assemble none rest = split none rest := by
          rw [assemble_eq_split, show (split none rest).authority = none from ha]
          rfl
        rcases splitScheme_cases hsplit with ⟨-, rfl⟩ | ⟨_, -, hsome, -⟩
        · rw [hself, text_of_no_scheme rfl, split_specificPart]
          exact Text.cut_eq_append '#' rest
        · cases hsome
      rw [htext, h]

/-- What text gives is printed so that it is read again, just if its path has an authority before it
or begins like none, and like no scheme where there is none. What is printed with a scheme or an
authority is read at any rate, and as something that is printed the same. -/
theorem parse_text_iff (h : u.FromText) :
    (parse u.text = .ok u ↔
      (u.authority = none →
        ¬ BeginsAuthority u.path ∧ (u.scheme = none → ¬ BeginsScheme u.path))) ∧
    (u.scheme.isSome ∨ u.authority.isSome ∨ ¬ BeginsScheme u.path →
      ∃ read, parse u.text = .ok read ∧ read.text = u.text) :=
  ⟨h.settled.parse_text_eq_self_iff, fun hbegins =>
    ⟨u.reread, h.settled.parse_text hbegins, text_reread u⟩⟩

def site : Uri := ⟨some "http".toList, some "h".toList, "/b//c".toList, some "q".toList, none⟩

def folder : Uri := ⟨none, none, "b//c".toList, none, none⟩

def upward : Uri := ⟨none, none, "../../..//d:e".toList, some "f".toList, some "g".toList⟩

theorem parse_text_resolve :
    ∃ site folder up, parse "HTTP://h/b//c?q".toList = .ok site ∧
      parse "b//c".toList = .ok folder ∧ parse "../../..//d:e?f#g".toList = .ok up ∧
      (site.resolve up).text = "http://h//d:e?f#g".toList ∧
      parse (site.resolve up).text = .ok (site.resolve up) ∧
      (folder.resolve up).text = "/d:e?f#g".toList ∧
      parse (folder.resolve up).text = .ok (folder.resolve up) := by
  have hsite : parse "HTTP://h/b//c?q".toList = .ok site := by rfl
  have hfolder : parse "b//c".toList = .ok folder := by rfl
  have hup : parse "../../..//d:e?f#g".toList = .ok upward := by rfl
  refine ⟨site, folder, upward, hsite, hfolder, hup, by decide +kernel, ?_, by decide +kernel, ?_⟩
  · exact (parse_text_iff (.resolve (.parse hsite) (.parse hup))).1.mpr (by decide +kernel)
  · exact (parse_text_iff (.resolve (.parse hfolder) (.parse hup))).1.mpr (by decide +kernel)

theorem parse_text_ne_self :
    (∃ u read, parse "a:/.//x".toList = .ok u ∧ u.authority = none ∧ u.path = "//x".toList ∧
      parse u.text = .ok read ∧ read.authority = some "x".toList ∧ read.path = []) ∧
    ∃ base reference, parse "z".toList = .ok base ∧ parse "./1:y".toList = .ok reference ∧
      parse (base.resolve reference).text = .error (.illegalScheme "1".toList) := by
  exact ⟨⟨⟨some "a".toList, none, "//x".toList, none, none⟩,
      ⟨some "a".toList, some "x".toList, [], none, none⟩, rfl, rfl, rfl, rfl, rfl, rfl⟩,
    ⟨none, none, "z".toList, none, none⟩, ⟨none, none, "./1:y".toList, none, none⟩, rfl, rfl, rfl⟩

end JsonReference.Uri
