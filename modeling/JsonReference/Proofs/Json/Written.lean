import JsonReference.Json.Canonical
import JsonReference.Proofs.Json.Children
import JsonReference.Proofs.Text.Cuts
import Mathlib.Data.List.TakeWhile

namespace JsonReference

namespace Text

variable {α : Type} {c : Char} {s t front front' : Text}

def Stops (t : Text) : Prop := ∀ c, t.head? = some c → c.isDigit = false

theorem stops_nil : Stops [] := by simp [Stops]

theorem stops_cons (h : c.isDigit = false) (t : Text) : Stops (c :: t) := by
  rintro x ⟨⟩
  exact h

theorem digits_append_inj (hfront : ∀ c ∈ front, c.isDigit) (hfront' : ∀ c ∈ front', c.isDigit)
    (hs : Stops s) (ht : Stops t) (h : front ++ s = front' ++ t) : front = front' ∧ s = t := by
  have htake {t : Text} (ht : Stops t) : t.takeWhile Char.isDigit = [] := by
    cases t with
    | nil => rfl
    | cons c t => rw [List.takeWhile_cons_of_neg (by simp [ht c rfl])]
  have hdigits := congrArg (List.takeWhile Char.isDigit) h
  rw [List.takeWhile_append_of_pos hfront, List.takeWhile_append_of_pos hfront', htake hs, htake ht,
    List.append_nil, List.append_nil] at hdigits
  subst hdigits
  exact ⟨rfl, List.append_cancel_left h⟩

theorem isDigit_of_mem_ofNat {n : Nat} (h : c ∈ ofNat n) : c.isDigit :=
  Nat.isDigit_of_mem_toDigits (by omega) (by omega) h

/-- What is written of `a` is not what is written of `b`, unless they are the same. -/
def Told (f : α → Text) (a b : α) : Prop :=
  ∀ s t : Text, Stops s → Stops t → f a ++ s = f b ++ t → a = b ∧ s = t

variable {f : α → Text} {as bs : List α} {close : Char}

theorem stops_led (hclose : close.isDigit = false) (ss : List Text) (t : Text) :
    Stops (led ',' ss ++ close :: t) := by
  cases ss with
  | nil => exact stops_cons hclose t
  | cons s ss => exact stops_cons (by decide) _

theorem told_led (h : ∀ a ∈ as, ∀ b ∈ bs, Told f a b) (hclose : close.isDigit = false)
    (hcomma : close ≠ ',')
    (he : led ',' (as.map f) ++ close :: s = led ',' (bs.map f) ++ close :: t) :
    as = bs ∧ s = t := by
  induction as generalizing bs with
  | nil =>
      cases bs with
      | nil => exact ⟨rfl, (List.cons.inj he).2⟩
      | cons b bs => exact absurd (List.cons.inj he).1 hcomma
  | cons a as ih =>
      cases bs with
      | nil => exact absurd (List.cons.inj he).1.symm hcomma
      | cons b bs =>
          have he' : f a ++ (led ',' (as.map f) ++ close :: s) =
              f b ++ (led ',' (bs.map f) ++ close :: t) := by simpa [led] using he
          obtain ⟨rfl, hrest⟩ := h a List.mem_cons_self b List.mem_cons_self _ _
            (stops_led hclose _ s) (stops_led hclose _ t) he'
          obtain ⟨rfl, rfl⟩ := ih
            (fun x hx y hy => h x (List.mem_cons_of_mem a hx) y (List.mem_cons_of_mem a hy)) hrest
          exact ⟨rfl, rfl⟩

theorem told_join (h : ∀ a ∈ as, ∀ b ∈ bs, Told f a b) (hclose : close.isDigit = false)
    (hcomma : close ≠ ',') (hopen : ∀ a ∈ as ++ bs, ∃ c rest, f a = c :: rest ∧ c ≠ close)
    (he : join [','] (as.map f) ++ close :: s = join [','] (bs.map f) ++ close :: t) :
    as = bs ∧ s = t := by
  -- An item at the front of the one text is against the closing character in the other.
  have hnone {a : α} (ha : a ∈ as ++ bs) {items : List α} {s t : Text}
      (he : join [','] ((a :: items).map f) ++ s = close :: t) : False := by
    obtain ⟨c, rest, hc, hne⟩ := hopen a ha
    cases items with
    | nil => exact hne (by simpa [join, hc] using (congrArg List.head? he))
    | cons b items => exact hne (by simpa [join, hc] using (congrArg List.head? he))
  cases as with
  | nil =>
      cases bs with
      | nil => exact ⟨rfl, (List.cons.inj he).2⟩
      | cons b bs => exact (hnone (by simp) he.symm).elim
  | cons a as =>
      cases bs with
      | nil => exact (hnone (by simp) he).elim
      | cons b bs =>
          refine told_led h hclose hcomma ?_
          rw [← cons_join (by simp), ← cons_join (by simp), List.cons_append, List.cons_append, he]

end Text

namespace Json

open Text

variable {c d : Char} {k l s t : Text} {m n : Int}

def readChar? : Text → Option (Char × Text)
  | '\\' :: 'u' :: '0' :: '0' :: a :: b :: rest =>
      some (Char.ofNat (16 * hexValue a + hexValue b), rest)
  | '\\' :: 'b' :: rest => some ('\x08', rest)
  | '\\' :: 't' :: rest => some ('\t', rest)
  | '\\' :: 'n' :: rest => some ('\n', rest)
  | '\\' :: 'f' :: rest => some ('\x0c', rest)
  | '\\' :: 'r' :: rest => some ('\r', rest)
  | '\\' :: c :: rest => some (c, rest)
  | c :: rest => some (c, rest)
  | [] => none

theorem hexValue_digitChar {d : Nat} (h : d < 16) : hexValue d.digitChar = d := by
  revert d
  decide

theorem readChar?_escaped (c : Char) (rest : Text) : readChar? (escaped c ++ rest) = some (c, rest) := by
  unfold escaped
  split_ifs with hquote hbackslash hb ht hn hf hr hcontrol
  · simp [readChar?, hquote]
  · simp [readChar?, hbackslash]
  · simp [readChar?, hb]
  · simp [readChar?, ht]
  · simp [readChar?, hn]
  · simp [readChar?, hf]
  · simp [readChar?, hr]
  · have hlt : c.toNat < 32 := hcontrol
    have hvalue : 16 * (c.toNat / 16) + c.toNat % 16 = c.toNat := by omega
    simp [readChar?, hexValue_digitChar (show c.toNat / 16 < 16 by omega),
      hexValue_digitChar (show c.toNat % 16 < 16 by omega), hvalue]
  · simp [readChar?, hbackslash]

theorem escaped_ne_quote (c : Char) (s t : Text) : escaped c ++ s ≠ '"' :: t := by
  unfold escaped
  split_ifs with hquote
  case neg => simpa using fun h => absurd h hquote
  all_goals simp

theorem told_chars (he : k.flatMap escaped ++ '"' :: s = l.flatMap escaped ++ '"' :: t) :
    k = l ∧ s = t := by
  induction k generalizing l with
  | nil =>
      cases l with
      | nil => exact ⟨rfl, (List.cons.inj he).2⟩
      | cons d l =>
          rw [List.flatMap_cons, List.append_assoc] at he
          exact absurd he.symm (escaped_ne_quote d _ _)
  | cons c k ih =>
      rw [List.flatMap_cons, List.append_assoc] at he
      cases l with
      | nil => exact absurd he (escaped_ne_quote c _ _)
      | cons d l =>
          rw [List.flatMap_cons, List.append_assoc] at he
          have hread := congrArg readChar? he
          rw [readChar?_escaped, readChar?_escaped, Option.some.injEq, Prod.mk.injEq] at hread
          obtain ⟨rfl, hrest⟩ := hread
          obtain ⟨rfl, rfl⟩ := ih hrest
          exact ⟨rfl, rfl⟩

theorem told_writeString (he : writeString k ++ s = writeString l ++ t) : k = l ∧ s = t := by
  simp only [writeString, List.cons_append, List.append_assoc, List.cons.injEq, true_and] at he
  exact told_chars he

theorem exists_ofNat_eq (n : Nat) : ∃ c rest, Text.ofNat n = c :: rest ∧ c.isDigit := by
  cases hdigits : Text.ofNat n with
  | nil => exact absurd hdigits Nat.toDigits_ne_nil
  | cons c rest => exact ⟨c, rest, rfl, isDigit_of_mem_ofNat (hdigits ▸ List.mem_cons_self)⟩

theorem exists_integer_eq (n : Int) :
    ∃ c rest, Layout.integer n = c :: rest ∧ (c = '-' ∨ c.isDigit) := by
  rw [Layout.integer]
  split
  · exact ⟨_, _, rfl, .inl rfl⟩
  · obtain ⟨c, rest, hdigits, hc⟩ := exists_ofNat_eq n.natAbs
    exact ⟨c, rest, hdigits, .inr hc⟩

theorem told_integer (m n : Int) : Told Layout.integer m n := by
  intro s t hs ht he
  have hdigits {x y : Nat} (he : Text.ofNat x ++ s = Text.ofNat y ++ t) : x = y ∧ s = t := by
    obtain ⟨hxy, hrest⟩ := digits_append_inj (fun c hc => isDigit_of_mem_ofNat hc)
      (fun c hc => isDigit_of_mem_ofNat hc) hs ht he
    exact ⟨Pointer.ofNat_inj hxy, hrest⟩
  have hsign {x : Nat} {s t : Text} (he : Text.ofNat x ++ s = '-' :: t) : False := by
    obtain ⟨c, rest, hx, hc⟩ := exists_ofNat_eq x
    rw [hx, List.cons_append, List.cons.injEq] at he
    rw [he.1] at hc
    exact absurd hc (by decide)
  unfold Layout.integer at he
  split at he
  · split at he
    · obtain ⟨habs, hrest⟩ := hdigits (List.cons.inj he).2
      exact ⟨by omega, hrest⟩
    · exact (hsign he.symm).elim
  · split at he
    · exact (hsign he).elim
    · obtain ⟨habs, hrest⟩ := hdigits he
      exact ⟨by omega, hrest⟩

end Json
end JsonReference
