import JsonReference.Proofs.Text.Cuts
import JsonReference.Proofs.Uri.Plain
import Mathlib.Data.List.TakeWhile

namespace JsonReference.Uri

theorem specificPart_of_no_authority {u : Uri} (h : u.authority = none) :
    u.specificPart = u.path ++ Text.marked '?' u.query := by
  rw [specificPart, h]
  cases u.query <;> rfl

theorem specificPart_of_authority {u : Uri} {authority : Text} (h : u.authority = some authority) :
    u.specificPart = '/' :: '/' :: (authority ++ u.path ++ Text.marked '?' u.query) := by
  rw [specificPart, h]
  cases u.query <;> rfl

theorem isRooted_specificPart_iff {u : Uri} :
    isRooted u.specificPart ↔ u.authority.isSome ∨ isRooted u.path := by
  cases ha : u.authority with
  | some a => simp [specificPart_of_authority ha, isRooted]
  | none =>
      rw [specificPart_of_no_authority ha]
      cases hp : u.path with
      | nil => cases u.query <;> simp [Text.marked, isRooted]
      | cons c rest => simp [isRooted]

theorem isOpaque_iff {u : Uri} : u.isOpaque ↔ u.scheme.isSome ∧ ¬ isRooted u.specificPart := by
  rw [isRooted_specificPart_iff]
  simp [isOpaque, and_assoc]

theorem splitScheme_cases {input rest : Text} {scheme : Option Text}
    (h : splitScheme input = .ok (scheme, rest)) :
    (scheme = none ∧ rest = input) ∨
    ∃ front, isScheme front ∧ scheme = some (Text.lower front) ∧ input = front ++ ':' :: rest := by
  rw [splitScheme] at h
  split at h
  · next back hdrop =>
    have hinput : input = input.takeWhile (!endsScheme ·) ++ ':' :: back := by
      rw [← hdrop, List.takeWhile_append_dropWhile]
    cases htake : input.takeWhile (!endsScheme ·) with
    | nil => simp [htake] at h
    | cons c front =>
        simp only [htake] at h
        obtain ⟨_, hc, hrest⟩ := Except.bind_ok_iff.mp h
        cases hrest
        exact .inr ⟨c :: front, isScheme_of_checkScheme hc, rfl, htake ▸ hinput⟩
  · cases h
    exact .inl ⟨rfl, rfl⟩

theorem splitAuthority_cases (t : Text) :
    splitAuthority t = (none, t) ∨
    ∃ authority path, splitAuthority t = (some authority, path) ∧
      t = '/' :: '/' :: (authority ++ path) ∧ '/' ∉ authority ∧ (path = [] ∨ isRooted path) := by
  unfold splitAuthority
  split
  · next rest =>
    right
    refine ⟨_, _, rfl, by rw [List.takeWhile_append_dropWhile], ?_, ?_⟩
    · intro hslash
      simpa using List.mem_takeWhile_imp hslash
    · cases hdrop : rest.dropWhile (· ≠ '/') with
      | nil => exact .inl rfl
      | cons c back =>
          have hc := List.head?_dropWhile_not (· ≠ '/') rest
          rw [hdrop] at hc
          exact .inr (by simpa [isRooted] using hc)
  · exact .inl rfl

def split (scheme : Option Text) (rest : Text) : Uri :=
  let (rest, fragment) := Text.cut '#' rest
  let (rest, query) := Text.cut '?' rest
  let (authority, path) := splitAuthority rest
  ⟨scheme, authority, path, query, fragment⟩

theorem assemble_eq_split (scheme : Option Text) (rest : Text) :
    assemble scheme rest =
      { split scheme rest with
        path := normalPath scheme (split scheme rest).authority (split scheme rest).path } := rfl

@[simp]
theorem split_scheme (scheme : Option Text) (rest : Text) : (split scheme rest).scheme = scheme := rfl

theorem split_specificPart (scheme : Option Text) (rest : Text) :
    (split scheme rest).specificPart = (Text.cut '#' rest).1 := by
  have hquery := Text.cut_eq_append '?' (Text.cut '#' rest).1
  rcases splitAuthority_cases (Text.cut '?' (Text.cut '#' rest).1).1 with
    hsplit | ⟨authority, path, hsplit, hfront, -⟩
  · rw [specificPart_of_no_authority (by simp only [split, hsplit])]
    simpa only [split, hsplit] using hquery
  · have ha : (split scheme rest).authority = some authority := by simp only [split, hsplit]
    rw [specificPart_of_authority ha]
    rw [hfront, List.cons_append, List.cons_append] at hquery
    simpa only [split, hsplit] using hquery

theorem split_path {scheme : Option Text} {rest : Text}
    (h : (split scheme rest).authority.isSome) :
    (split scheme rest).path = [] ∨ isRooted (split scheme rest).path := by
  rcases splitAuthority_cases (Text.cut '?' (Text.cut '#' rest).1).1 with
    hsplit | ⟨authority, path, hsplit, -, -, hpath⟩
  · simp [split, hsplit] at h
  · simpa only [split, hsplit] using hpath

/-- No part holds a character that would have ended it. -/
structure Delimited (u : Uri) : Prop where
  authority : ∀ a, u.authority = some a → '/' ∉ a ∧ '?' ∉ a ∧ '#' ∉ a
  path : '?' ∉ u.path ∧ '#' ∉ u.path
  query : ∀ q, u.query = some q → '#' ∉ q

theorem delimited_split (scheme : Option Text) (rest : Text) : (split scheme rest).Delimited := by
  have hhash := Text.not_mem_cut_fst '#' rest
  have hmark := Text.not_mem_cut_fst '?' (Text.cut '#' rest).1
  have hfront : '#' ∉ (Text.cut '?' (Text.cut '#' rest).1).1 := fun h =>
    hhash (Text.cut_fst_subset _ _ h)
  have hquery : ∀ q, (split scheme rest).query = some q → '#' ∉ q := fun q hq h =>
    hhash (Text.cut_snd_subset hq h)
  rcases splitAuthority_cases (Text.cut '?' (Text.cut '#' rest).1).1 with
    hsplit | ⟨authority, path, hsplit, hparts, hslash, -⟩
  · exact ⟨by simp [split, hsplit], by simpa [split, hsplit] using ⟨hmark, hfront⟩, hquery⟩
  · rw [hparts] at hmark hfront
    simp only [List.mem_cons, List.mem_append, not_or] at hmark hfront
    refine ⟨?_, ?_, hquery⟩
    · simpa [split, hsplit] using ⟨hslash, hmark.2.2.1, hfront.2.2.1⟩
    · simpa [split, hsplit] using ⟨hmark.2.2.2, hfront.2.2.2⟩

end JsonReference.Uri
