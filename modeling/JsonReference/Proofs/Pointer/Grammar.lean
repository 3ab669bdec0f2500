import JsonReference.Proofs.Except
import JsonReference.Proofs.Pointer.Text
import JsonReference.Proofs.Text.Cuts

namespace JsonReference

namespace Text

def replace (c : Char) (inserted t : Text) : Text := t.flatMap fun x => if x = c then inserted else [x]

theorem length_octets (t : Text) : (octets t).length = size t := by
  induction t with
  | nil => rfl
  | cons c t ih =>
      have hoctets : octets (c :: t) = String.utf8EncodeChar c ++ octets t := List.flatMap_cons
      rw [hoctets, List.length_append, String.length_utf8EncodeChar, ih]
      rfl

end Text

namespace Pointer

variable {c : Char} {front back t read : Text} {offset : Nat} {tokens : List Text}

def BeginsCode (t : Text) : Prop := t.head? = some '0' ∨ t.head? = some '1'

instance : Decidable (BeginsCode t) := inferInstanceAs (Decidable (_ ∨ _))

def Escaped (t : Text) : Prop := ∀ front back : Text, t = front ++ '~' :: back → BeginsCode back

theorem escaped_nil : Escaped [] := Text.followed_nil

theorem escaped_cons_iff : Escaped (c :: t) ↔ (c = '~' → BeginsCode t) ∧ Escaped t :=
  Text.followed_cons_iff

theorem escaped_or_lone (t : Text) :
    Escaped t ∨ ∃ front back, t = front ++ '~' :: back ∧ Escaped front ∧ ¬ BeginsCode back := by
  induction t with
  | nil => exact .inl escaped_nil
  | cons c t ih =>
      by_cases hc : c = '~' → BeginsCode t
      · rcases ih with h | ⟨front, back, rfl, hfront, hback⟩
        · exact .inl (escaped_cons_iff.mpr ⟨hc, h⟩)
        · refine .inr ⟨c :: front, back, rfl, escaped_cons_iff.mpr ⟨fun htilde => ?_, hfront⟩, hback⟩
          -- The next character is in `front`, as `~` is no code.
          cases front with
          | nil => exact absurd (hc htilde) (by simp [BeginsCode])
          | cons x front => exact hc htilde
      · obtain ⟨rfl, ht⟩ := Classical.not_imp.mp hc
        exact .inr ⟨[], t, rfl, escaped_nil, ht⟩

theorem parseTokens_append (h : Escaped front) (offset : Nat) (read : Text) :
    ∃ (tokens : List Text) (read' : Text), ∀ rest, parseTokens offset read (front ++ rest) =
      (parseTokens (offset + Text.size front) read' rest).map (tokens ++ ·) := by
  fun_induction parseTokens offset read front with
  | case1 offset read =>
      refine ⟨[], read, fun rest => ?_⟩
      change parseTokens offset read rest = (parseTokens offset read rest).map ([] ++ ·)
      cases parseTokens offset read rest <;> rfl
  | case2 offset read front ih | case3 offset read front ih =>
      obtain ⟨tokens, read', hread⟩ := ih (escaped_cons_iff.mp (escaped_cons_iff.mp h).2).2
      have hsize : 2 + Text.size front = 1 + (1 + Text.size front) := by omega
      refine ⟨tokens, read', fun rest => ?_⟩
      rw [Nat.add_assoc, hsize] at hread
      rw [List.cons_append, List.cons_append, parseTokens, hread]
      rfl
  | case4 offset read front _ _ ih =>
      obtain ⟨tokens, read', hread⟩ := ih (escaped_cons_iff.mp h).2
      refine ⟨read.reverse :: tokens, read', fun rest => ?_⟩
      rw [Nat.add_assoc] at hread
      rw [List.cons_append, parseTokens, if_pos rfl, hread]
      · change _ = (parseTokens (offset + (1 + Text.size front)) read' rest).map _
        cases parseTokens (offset + (1 + Text.size front)) read' rest <;> rfl
      · simp
      · simp
  | case5 offset read front hzero hone =>
      exfalso
      rcases (escaped_cons_iff.mp h).1 rfl with hcode | hcode
      · obtain ⟨rest, hrest⟩ := List.head?_eq_some_iff.mp hcode
        exact hzero rest rfl hrest
      · obtain ⟨rest, hrest⟩ := List.head?_eq_some_iff.mp hcode
        exact hone rest rfl hrest
  | case6 offset read c front _ _ hslash htilde ih =>
      obtain ⟨tokens, read', hread⟩ := ih (escaped_cons_iff.mp h).2
      refine ⟨tokens, read', fun rest => ?_⟩
      rw [Nat.add_assoc] at hread
      rw [List.cons_append, parseTokens, if_neg hslash, if_neg htilde, hread]
      · rfl
      · simp [htilde]
      · simp [htilde]

theorem parse_of_unled {input : Text} (hne : input ≠ []) (h : input.head? ≠ some '/') :
    parse input = .error (.noLeadingSlash input) := by
  cases input with
  | nil => exact absurd rfl hne
  | cons c t => rw [parse, if_neg (by simpa using h)]

theorem parse_of_escaped {input : Text} (hhead : input.head? = some '/') (h : Escaped input) :
    ∃ p, parse input = .ok p := by
  obtain ⟨t, rfl⟩ := List.head?_eq_some_iff.mp hhead
  obtain ⟨tokens, read, hread⟩ := parseTokens_append (escaped_cons_iff.mp h).2 1 []
  have hend := hread []
  rw [List.append_nil, parseTokens] at hend
  exact ⟨⟨tokens ++ [read.reverse]⟩, by rw [parse, if_pos rfl, hend]; rfl⟩

theorem parse_of_lone {input : Text} (hhead : input.head? = some '/')
    (hinput : input = front ++ '~' :: back) (h : Escaped front) (hback : ¬ BeginsCode back) :
    parse input = .error (.badEscape input (Text.octets front).length) := by
  obtain ⟨t, rfl⟩ := List.head?_eq_some_iff.mp hhead
  cases front with
  | nil => cases hinput
  | cons c front =>
      rw [List.cons_append] at hinput
      obtain ⟨rfl, rfl⟩ := List.cons.inj hinput
      obtain ⟨tokens, read, hread⟩ := parseTokens_append (escaped_cons_iff.mp h).2 1 []
      rw [BeginsCode, not_or] at hback
      have hlone : parseTokens (1 + Text.size front) read ('~' :: back) =
          .error (1 + Text.size front) := by
        rw [parseTokens, if_neg (by decide), if_pos rfl]
        · rintro rest - rfl
          exact hback.1 rfl
        · rintro rest - rfl
          exact hback.2 rfl
      have hend := hread ('~' :: back)
      rw [hlone] at hend
      rw [Text.length_octets, parse, if_pos rfl, hend]
      rfl

theorem form_cases (input : Text) :
    input = [] ∨ (input ≠ [] ∧ input.head? ≠ some '/') ∨
      (input.head? = some '/' ∧ Escaped input) ∨
      (input.head? = some '/' ∧ ∃ front back, input = front ++ '~' :: back ∧ Escaped front ∧
        ¬ BeginsCode back) := by
  by_cases hne : input = []
  · exact .inl hne
  by_cases hhead : input.head? = some '/'
  · rcases escaped_or_lone input with h | h
    · exact .inr (.inr (.inl ⟨hhead, h⟩))
    · exact .inr (.inr (.inr ⟨hhead, h⟩))
  · exact .inr (.inl ⟨hne, hhead⟩)

theorem escape_concat (t : Text) (c : Char) : escape (t ++ [c]) = escape t ++ escapedChar c := by
  simp [escape]

theorem text_of_parseTokens (h : parseTokens offset read t = .ok tokens) :
    text ⟨tokens⟩ = '/' :: (escape read.reverse ++ t) := by
  fun_induction parseTokens offset read t generalizing tokens with
  | case1 offset read =>
      cases h
      simp [text]
  | case2 offset read t ih | case3 offset read t ih =>
      rw [ih h, List.reverse_cons, escape_concat]
      simp [escapedChar]
  | case4 offset read t _ _ ih =>
      obtain ⟨tokens, htokens, rfl⟩ := Except.map_ok_iff.mp h
      rw [text_cons, ih htokens]
      rfl
  | case5 => simp at h
  | case6 offset read c t _ _ hslash htilde ih =>
      rw [ih h, List.reverse_cons, escape_concat]
      simp [escapedChar, hslash, htilde]

theorem text_of_parse {input : Text} {p : Pointer} (h : parse input = .ok p) : p.text = input := by
  unfold parse at h
  split at h
  · cases h
    rfl
  · next c t =>
    split at h
    · next hc =>
      split at h
      · next tokens htokens =>
        cases h
        rw [text_of_parseTokens htokens, hc]
        rfl
      · simp at h
    · simp at h

theorem escape_of_not_mem {token : Text} (htilde : '~' ∉ token) (hslash : '/' ∉ token) :
    escape token = token := by
  induction token with
  | nil => rfl
  | cons c token ih =>
      rw [List.mem_cons, not_or] at htilde hslash
      have hescape : escape (c :: token) = escapedChar c ++ escape token := List.flatMap_cons
      rw [hescape, ih htilde.2 hslash.2, escapedChar, if_neg (Ne.symm htilde.1),
        if_neg (Ne.symm hslash.1), List.singleton_append]

theorem escape_eq_replace (token : Text) :
    escape token = if '~' ∉ token ∧ '/' ∉ token then token else
      Text.replace '/' ['~', '1'] (Text.replace '~' ['~', '0'] token) := by
  split
  · next h => exact escape_of_not_mem h.1 h.2
  · rw [Text.replace, Text.replace, List.flatMap_assoc, escape]
    congr 1
    funext c
    rw [escapedChar]
    split
    · rfl
    · simp

/-- A text is read as a pointer just if the pointer is printed as that text. The texts that are read
are the empty one and those that begin with a slash and have no `~` but in escapes. Of the others
those that begin otherwise are refused for this, and the rest at the octet where the first `~` is
that begins no escape. -/
theorem parse_exact :
    (∀ token : Text, escape token = if '~' ∉ token ∧ '/' ∉ token then token else
      Text.replace '/' ['~', '1'] (Text.replace '~' ['~', '0'] token)) ∧
    (∀ (input : Text) (p : Pointer), parse input = .ok p ↔ p.text = input) ∧
    (∀ input : Text, (∃ p, parse input = .ok p) ↔
      input = [] ∨ input.head? = some '/' ∧ Escaped input) ∧
    ∀ (input : Text) (e : PointerError), parse input = .error e ↔
      input ≠ [] ∧ input.head? ≠ some '/' ∧ e = .noLeadingSlash input ∨
      input.head? = some '/' ∧ ∃ front back, input = front ++ '~' :: back ∧ Escaped front ∧
        ¬ BeginsCode back ∧ e = .badEscape input (Text.octets front).length := by
  refine ⟨escape_eq_replace, fun input p => ⟨text_of_parse, fun h => h ▸ parse_text p⟩, ?_, ?_⟩
  · intro input
    constructor
    · rintro ⟨p, hp⟩
      rcases form_cases input with h | ⟨hne, hhead⟩ | h | ⟨hhead, front, back, hinput, hlone⟩
      · exact .inl h
      · rw [parse_of_unled hne hhead] at hp
        cases hp
      · exact .inr h
      · rw [parse_of_lone hhead hinput hlone.1 hlone.2] at hp
        cases hp
    · rintro (rfl | ⟨hhead, h⟩)
      · exact ⟨root, rfl⟩
      · exact parse_of_escaped hhead h
  · intro input e
    constructor
    · intro he
      rcases form_cases input with rfl | ⟨hne, hhead⟩ | ⟨hhead, h⟩ |
        ⟨hhead, front, back, hinput, hlone⟩
      · cases he
      · rw [parse_of_unled hne hhead, Except.error.injEq] at he
        exact .inl ⟨hne, hhead, he.symm⟩
      · obtain ⟨p, hp⟩ := parse_of_escaped hhead h
        rw [hp] at he
        cases he
      · rw [parse_of_lone hhead hinput hlone.1 hlone.2, Except.error.injEq] at he
        exact .inr ⟨hhead, front, back, hinput, hlone.1, hlone.2, he.symm⟩
    · rintro (⟨hne, hhead, rfl⟩ | ⟨hhead, front, back, hinput, hfront, hback, rfl⟩)
      · exact parse_of_unled hne hhead
      · exact parse_of_lone hhead hinput hfront hback

example : parse "/é~1~x~".toList = .error (.badEscape "/é~1~x~".toList 5) := by decide

end Pointer
end JsonReference
