import JsonReference.Pointer
import Mathlib.Data.List.Basic

namespace JsonReference

theorem Text.size_append (s t : Text) : Text.size (s ++ t) = Text.size s + Text.size t := by
  induction s with
  | nil => exact (Nat.zero_add _).symm
  | cons c s ih =>
      change c.utf8Size + Text.size (s ++ t) = c.utf8Size + Text.size s + Text.size t
      rw [ih, Nat.add_assoc]

namespace Pointer

theorem parseTokens_escapedChar (c : Char) (offset : Nat) (read rest : Text) :
    parseTokens offset read (escapedChar c ++ rest) =
      parseTokens (offset + Text.size (escapedChar c)) (c :: read) rest := by
  rw [escapedChar]
  split
  · next hc =>
    subst hc
    rfl
  · next htilde =>
    split
    · next hc =>
      subst hc
      rfl
    · next hslash =>
      rw [List.singleton_append, parseTokens]
      · rw [if_neg hslash, if_neg htilde]
        rfl
      · simp [htilde]
      · simp [htilde]

theorem text_cons (token : Text) (tokens : List Text) :
    text ⟨token :: tokens⟩ = '/' :: (escape token ++ text ⟨tokens⟩) := rfl

theorem parseTokens_escape (token rest : Text) (offset : Nat) (read : Text) :
    parseTokens offset read (escape token ++ rest) =
      parseTokens (offset + Text.size (escape token)) (token.reverse ++ read) rest := by
  induction token generalizing offset read with
  | nil => rfl
  | cons c token ih =>
      have hescape : escape (c :: token) = escapedChar c ++ escape token := List.flatMap_cons
      rw [hescape, List.append_assoc, parseTokens_escapedChar, ih, Text.size_append, Nat.add_assoc,
        List.reverse_cons, List.append_assoc, List.singleton_append]

theorem parseTokens_text (offset : Nat) (token : Text) (tokens : List Text) :
    parseTokens offset [] (escape token ++ text ⟨tokens⟩) = .ok (token :: tokens) := by
  induction tokens generalizing offset token with
  | nil =>
      rw [parseTokens_escape, List.append_nil]
      simp [text, parseTokens]
  | cons next rest ih =>
      rw [parseTokens_escape, text_cons, parseTokens, if_pos rfl, ih, List.append_nil,
        List.reverse_reverse]
      · rfl
      · simp
      · simp

theorem parse_text (p : Pointer) : parse p.text = .ok p := by
  obtain ⟨tokens⟩ := p
  cases tokens with
  | nil => rfl
  | cons token rest =>
      rw [text_cons, parse, if_pos rfl, parseTokens_text]

end Pointer
end JsonReference
