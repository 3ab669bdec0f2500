import JsonReference.Proofs.Uri.Climbs
import JsonReference.Proofs.Uri.Printed

namespace JsonReference.Uri

open Text (marked)

variable {scheme authority : Option Text} {s path back front t : Text} {u v : Uri}

def leader : Option Text → Text
  | none => []
  | some a => '/' :: '/' :: a

theorem specificPart_eq (u : Uri) :
    u.specificPart = leader u.authority ++ u.path ++ marked '?' u.query := by
  cases ha : u.authority with
  | none => exact specificPart_of_no_authority ha
  | some a => exact specificPart_of_authority ha

structure Apart (authority : Option Text) (path : Text) : Prop where
  behind : ∀ a, authority = some a → '/' ∉ a ∧ (path = [] ∨ isRooted path)
  alone : authority = none → ¬ BeginsAuthority path

theorem Apart.splitAuthority (h : Apart authority path) :
    splitAuthority (leader authority ++ path) = (authority, path) := by
  cases authority with
  | none => exact splitAuthority_of_not_beginsAuthority (h.alone rfl)
  | some a =>
      obtain ⟨hslash, hpath⟩ := h.behind a rfl
      exact splitAuthority_append hslash hpath

theorem Settled.apart (h : u.Settled) (hself : u.reread = u) : Apart u.authority u.path :=
  ⟨fun a ha => ⟨(h.authority a ha).1, h.rooted (by rw [ha]; rfl)⟩, reread_eq_self_iff.mp hself⟩

theorem split_marked {query : Option Text} (hmark : '?' ∉ front)
    (hhash : '#' ∉ front ++ marked '?' query) :
    split scheme (front ++ marked '?' query) =
      ⟨scheme, (splitAuthority front).1, (splitAuthority front).2, query, none⟩ := by
  simp only [split, Text.cut_of_not_mem hhash, Text.cut_append_marked hmark]

theorem Settled.mark_not_mem (h : u.Settled) : '?' ∉ leader u.authority ++ u.path := by
  cases ha : u.authority with
  | none => exact h.path
  | some a => simp [leader, (h.authority a ha).2, h.path]

theorem isRooted_append_cons : isRooted (front ++ '/' :: t) ↔ isRooted (front ++ ['/']) := by
  cases front <;> simp [isRooted]

theorem dotFree_append_cons : DotFree (front ++ '/' :: t) ↔ DotFree front ∧ DotFree t := by
  simp only [DotFree, Text.segments_append, List.forall_mem_append]

theorem collapsed_append (hfront : DotFree front) (h : climbs 0 (Text.segments '/' t) = false) :
    collapsed (front ++ '/' :: t) = front ++ '/' :: collapsed t := by
  have hled (t : Text) : '/' :: collapsed t = Text.led '/' (collapse [] (Text.segments '/' t)) :=
    Text.cons_join (collapse_ne_nil (.inr (Text.segments_ne_nil '/' t)))
  have hkept := @collapse_append [] _ h (Text.segments '/' front).reverse
  rw [← List.cons_inj_right '/', hled, Text.segments_append, collapse_append_of_dotFree hfront,
    List.append_nil, ← List.nil_append (List.reverse _), hkept, List.reverse_reverse,
    Text.led_append, Text.led_segments, ← hled]
  rfl

theorem removeDotSegments_append (hrooted : isRooted (front ++ ['/'])) (hfront : DotFree front)
    (h : climbs 0 (Text.segments '/' t) = false) :
    removeDotSegments (front ++ '/' :: t) = front ++ '/' :: collapsed t := by
  cases front with
  | nil => rfl
  | cons c front =>
      obtain ⟨rest, hrest⟩ := eq_cons_of_isRooted hrooted
      obtain rfl := (List.cons.inj hrest).1
      rw [List.cons_append, List.cons_append, removeDotSegments_cons,
        collapsed_append ((dotFree_cons front).mp hfront) h]

theorem dotFree_splitAuthority (h : DotFree t) : DotFree (splitAuthority ('/' :: '/' :: t)).2 := by
  rcases splitAuthority_cases ('/' :: '/' :: t) with hsplit | ⟨a, path, hsplit, ht, hslash, hpath⟩
  · rw [hsplit, dotFree_cons, dotFree_cons]
    exact h
  · obtain rfl : t = a ++ path := by simpa using ht
    rw [hsplit]
    rcases hpath with rfl | hrooted
    · exact (by decide : DotFree [])
    · obtain ⟨rest, rfl⟩ := eq_cons_of_isRooted hrooted
      exact h.of_append hslash

/-- A URI with a scheme, with a slash at its end, and with the parts that are read of its text. -/
structure Directory (u : Uri) : Prop where
  settled : u.Settled
  scheme : u.scheme.isSome
  fragment : u.fragment = none
  reread : u.reread = u
  last : u.specificPart.getLast? = some '/'

theorem specificPart_of_no_query (h : u.query = none) :
    u.specificPart = leader u.authority ++ u.path := by
  rw [specificPart_eq, h, marked, List.append_nil]

theorem Directory.splitAuthority_append (h : u.Directory) (hquery : u.query = none) (more : Text) :
    (splitAuthority (u.specificPart ++ more) = (u.authority, u.path ++ more) ∧
      ∃ front, u.path = front ++ ['/']) ∨
    (u.specificPart <+: ['/', '/'] ∧ BeginsAuthority (u.specificPart ++ more) ∧
      (DotFree more → DotFree (splitAuthority (u.specificPart ++ more)).2)) := by
  have hlast := h.last
  rw [specificPart_of_no_query hquery] at hlast ⊢
  cases ha : u.authority with
  | none =>
      rw [ha, leader, List.nil_append] at hlast
      rw [leader, List.nil_append]
      obtain ⟨front, hfront⟩ := List.getLast?_eq_some_iff.mp hlast
      by_cases hbegins : BeginsAuthority (u.path ++ more)
      · cases front with
        | nil =>
            obtain ⟨rest, hrest⟩ := hbegins
            obtain rfl : '/' :: rest = more := by simpa [hfront] using hrest
            refine .inr ⟨⟨['/'], by simp [hfront]⟩, ⟨rest, hrest⟩, fun hmore => ?_⟩
            rw [hfront]
            exact dotFree_splitAuthority ((dotFree_cons rest).mp hmore)
        | cons c front =>
            have hlength : ['/', '/'].length ≤ u.path.length := by simp [hfront]
            exact absurd (List.prefix_of_prefix_length_le hbegins (List.prefix_append _ _) hlength)
              (reread_eq_self_iff.mp h.reread ha)
      · exact .inl ⟨splitAuthority_of_not_beginsAuthority hbegins, front, hfront⟩
  | some a =>
      have hslash := (h.settled.authority a ha).1
      rcases h.settled.rooted (by rw [ha]; rfl) with hpath | hrooted
      · right
        rw [ha, hpath, leader, List.append_nil] at hlast
        cases a with
        | nil =>
            rw [hpath]
            exact ⟨List.prefix_rfl, List.prefix_append _ _, dotFree_splitAuthority⟩
        | cons c a =>
            rw [List.getLast?_cons_cons, List.getLast?_cons_cons] at hlast
            exact absurd (List.mem_of_getLast? hlast) hslash
      · left
        have hne : u.path ≠ [] := by
          rintro hnil
          simp [hnil, isRooted] at hrooted
        rw [List.getLast?_append_of_ne_nil _ hne] at hlast
        refine ⟨?_, List.getLast?_eq_some_iff.mp hlast⟩
        rw [List.append_assoc]
        apply Uri.splitAuthority_append hslash
        obtain ⟨rest, hrest⟩ := eq_cons_of_isRooted hrooted
        exact .inr (by rw [hrest]; rfl)

namespace Directory

theorem text_eq (h : u.Directory) (hscheme : u.scheme = some s) :
    u.text = s ++ ':' :: u.specificPart := by
  rw [text_of_scheme hscheme, h.fragment, marked, List.append_nil]

theorem hash_not_mem (h : u.Directory) (hhash : '#' ∉ back) : '#' ∉ u.specificPart ++ back := by
  simp [h.settled.plain.hash_not_mem_specificPart, hhash]

theorem parse_append (h : u.Directory) (hlegal : Legal back) (hhash : '#' ∉ back) :
    parse (u.text ++ back) = .ok (assemble u.scheme (u.specificPart ++ back)) := by
  obtain ⟨scheme, hscheme⟩ := Option.isSome_iff_exists.mp h.scheme
  have hcount : (u.specificPart ++ back).count '#' ≤ 1 := by
    simp only [List.count_eq_zero.mpr (h.hash_not_mem hhash), Nat.zero_le]
  have hread := parse_of_scheme (h.settled.plain.scheme scheme hscheme)
    (h.settled.sound.specificPart.append hlegal) hcount
  rwa [h.settled.lower scheme hscheme, ← hscheme, ← List.cons_append, ← List.append_assoc,
    ← h.text_eq hscheme] at hread

end Directory

def writtenPath (t : Text) : Text :=
  match splitScheme t with
  | .ok (scheme, rest) => (split scheme rest).path
  | .error _ => []

theorem Directory.writtenPath_append (h : u.Directory) (back : Text) :
    writtenPath (u.text ++ back) = (split u.scheme (u.specificPart ++ back)).path := by
  obtain ⟨scheme, hscheme⟩ := Option.isSome_iff_exists.mp h.scheme
  rw [h.text_eq hscheme, List.append_assoc, List.cons_append, writtenPath,
    splitScheme_append (h.settled.plain.scheme scheme hscheme), h.settled.lower scheme hscheme,
    hscheme]

inductive Extends (u : Uri) (back : Text) (v : Uri) : Prop
  | query : u.query.isSome → v.authority = u.authority → v.path = u.path → Extends u back v
  | path {front : Text} : u.query = none → u.path = front ++ ['/'] → v.authority = u.authority →
      v.path = front ++ '/' :: (Text.cut '?' back).1 → Extends u back v
  | authority : u.specificPart <+: ['/', '/'] → v.authority.isSome →
      (DotFree (Text.cut '?' back).1 → DotFree v.path) → Extends u back v

theorem Directory.extends_split (h : u.Directory) (hhash : '#' ∉ back) :
    Extends u back (split scheme (u.specificPart ++ back)) := by
  have hmark := h.settled.mark_not_mem
  have hmark' := Text.not_mem_cut_fst '?' back
  have hwhole := h.hash_not_mem hhash
  cases hquery : u.query with
  | some query =>
      have hrest : u.specificPart ++ back =
          leader u.authority ++ u.path ++ marked '?' (some (query ++ back)) := by
        simp [specificPart_eq u, hquery, marked]
      rw [hrest] at hwhole ⊢
      rw [split_marked hmark hwhole, (h.settled.apart h.reread).splitAuthority]
      exact .query (by rw [hquery]; rfl) rfl rfl
  | none =>
      have hrest : u.specificPart ++ back =
          u.specificPart ++ (Text.cut '?' back).1 ++ marked '?' (Text.cut '?' back).2 := by
        rw [List.append_assoc, Text.cut_eq_append]
      rw [← specificPart_of_no_query hquery] at hmark
      rw [hrest] at hwhole ⊢
      rw [split_marked (by simp [hmark, hmark']) hwhole]
      rcases h.splitAuthority_append hquery (Text.cut '?' back).1 with
        ⟨hsplit, front, hfront⟩ | ⟨hshort, hbegins, hdots⟩
      · rw [hsplit]
        exact .path hquery hfront rfl (by simp [hfront])
      · exact .authority hshort (isSome_splitAuthority hbegins) hdots

theorem specificPart_assemble (scheme : Option Text) (rest : Text) :
    (assemble scheme rest).specificPart =
      leader (split scheme rest).authority ++
        normalPath scheme (split scheme rest).authority (split scheme rest).path ++
        marked '?' (split scheme rest).query := by
  rw [specificPart_eq, assemble_eq_split]

theorem specificPart_assemble_eq_iff (hscheme : scheme.isSome) (hhash : '#' ∉ t) :
    (assemble scheme t).specificPart = t ↔
      (isRooted (split scheme t).path → DotFree (split scheme t).path) := by
  have hpart : leader (split scheme t).authority ++ (split scheme t).path ++
      marked '?' (split scheme t).query = t := by
    rw [← specificPart_eq, split_specificPart, Text.cut_of_not_mem hhash]
  rw [specificPart_assemble]
  nth_rewrite 5 [← hpart]
  rw [List.append_left_inj, List.append_right_inj]
  by_cases hrooted : isRooted (split scheme t).path
  · rw [normalPath_of_rooted (.inl hscheme) hrooted, removeDotSegments_eq_self_iff]
    simp [hrooted]
  · rw [normalPath_of_not_rooted hrooted]
    simp [hrooted]

theorem Directory.dotFree_split (h : u.Directory) (hhash : '#' ∉ back)
    (hback : DotFree (Text.cut '?' back).1)
    (hrooted : isRooted (split u.scheme (u.specificPart ++ back)).path) :
    DotFree (split u.scheme (u.specificPart ++ back)).path := by
  have hextends : Extends u back (split u.scheme (u.specificPart ++ back)) := h.extends_split hhash
  generalize split u.scheme (u.specificPart ++ back) = v at *
  have hdots : isRooted u.path → DotFree u.path := fun hpath => h.settled.dotFree hpath (.inl h.scheme)
  cases hextends with
  | query _ _ hpath =>
      rw [hpath] at hrooted ⊢
      exact hdots hrooted
  | path _ hfront _ hpath =>
      rw [hpath] at hrooted ⊢
      rw [hfront] at hdots
      obtain ⟨hfront, -⟩ := dotFree_append_cons.mp (hdots (isRooted_append_cons.mp hrooted))
      exact dotFree_append_cons.mpr ⟨hfront, hback⟩
  | authority _ _ hpath => exact hpath hback

/-- A directory stays in place as long as nothing behind it leads up over it. -/
theorem Directory.prefix_assemble (h : u.Directory) (hhash : '#' ∉ back)
    (hback : climbs 0 (Text.segments '/' (Text.cut '?' back).1) = false) :
    u.specificPart <+: (assemble u.scheme (u.specificPart ++ back)).specificPart := by
  have hextends : Extends u back (split u.scheme (u.specificPart ++ back)) := h.extends_split hhash
  have hwhole : (split u.scheme (u.specificPart ++ back)).specificPart = u.specificPart ++ back := by
    rw [split_specificPart, Text.cut_of_not_mem (h.hash_not_mem hhash)]
  have hdots : isRooted u.path → DotFree u.path := fun hpath =>
    h.settled.dotFree hpath (.inl h.scheme)
  rw [specificPart_assemble]
  generalize split u.scheme (u.specificPart ++ back) = v at *
  have hkept (hpath : isRooted v.path → DotFree v.path) :
      u.specificPart <+:
        leader v.authority ++ normalPath u.scheme v.authority v.path ++ marked '?' v.query := by
    rw [normalPath_of_dotFree fun hrooted _ => hpath hrooted, ← specificPart_eq, hwhole]
    exact List.prefix_append _ _
  cases hextends with
  | query _ _ hpath => exact hkept (hpath ▸ hdots)
  | @path front hquery hfront hauthority hpath =>
      rw [hfront] at hdots
      by_cases hrooted : isRooted (front ++ ['/'])
      · obtain ⟨hdots, -⟩ := dotFree_append_cons.mp (hdots hrooted)
        rw [hauthority, hpath, specificPart_of_no_query hquery, hfront,
          normalPath_of_rooted (.inl h.scheme) (isRooted_append_cons.mpr hrooted),
          removeDotSegments_append hrooted hdots hback]
        exact ⟨collapsed (Text.cut '?' back).1 ++ marked '?' v.query, by simp⟩
      · refine hkept fun hrooted' => absurd ?_ hrooted
        rw [hpath] at hrooted'
        exact isRooted_append_cons.mp hrooted'
  | authority hshort hauthority _ =>
      obtain ⟨a, ha⟩ := Option.isSome_iff_exists.mp hauthority
      refine hshort.trans ?_
      rw [ha]
      exact ⟨_, rfl⟩

theorem Directory.dotFree_back (h : u.Directory) (hrooted : isRooted u.path) (hquery : u.query = none)
    (hroot : u.specificPart ≠ ['/']) {w : Uri} (hw : w.Settled) (hscheme : w.scheme = u.scheme)
    (hfragment : w.fragment = none) (hpart : w.specificPart = u.specificPart ++ back) :
    DotFree (Text.cut '?' back).1 := by
  have hhash := hw.plain.hash_not_mem_specificPart
  have hread := hw.assemble_eq
  rw [hfragment, marked, List.append_nil] at hread
  have hdots := (specificPart_assemble_eq_iff (hscheme ▸ h.scheme) hhash).mp
    (by rw [hread, specificPart_reread])
  rw [hpart, List.mem_append, not_or] at hhash
  have hextends : Extends u back (split w.scheme w.specificPart) := hpart ▸ h.extends_split hhash.2
  cases hextends with
  | query hsome => simp [hquery] at hsome
  | path _ hfront _ hpath =>
      rw [hfront] at hrooted
      rw [hpath] at hdots
      exact (dotFree_append_cons.mp (hdots (isRooted_append_cons.mpr hrooted))).2
  | authority hshort =>
      obtain ⟨rest, hrest⟩ := eq_cons_of_isRooted hrooted
      have hself := reread_eq_self_iff.mp h.reread
      rw [specificPart_of_no_query hquery, hrest] at hshort hroot
      rw [hrest] at hself
      cases ha : u.authority with
      | some a => simp [ha, leader] at hshort
      | none =>
          rw [ha, leader, List.nil_append, List.cons_prefix_cons] at hshort
          rw [ha, leader, List.nil_append] at hroot
          cases rest with
          | nil => exact absurd rfl hroot
          | cons c rest =>
              obtain rfl := (List.cons_prefix_cons.mp hshort.2).1
              exact absurd (List.prefix_append ['/', '/'] rest) (hself ha)

end JsonReference.Uri
