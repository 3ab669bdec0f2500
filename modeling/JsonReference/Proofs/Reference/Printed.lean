import JsonReference.Proofs.Pointer.Text
import JsonReference.Proofs.Reference.Locator
import JsonReference.Proofs.Text.Percent
import JsonReference.Proofs.Uri.Printed

namespace JsonReference

namespace Uri

variable {t : Text} {u v : Uri}

theorem legal_flatMap {α : Type} {f : α → Text} {l : List α}
    (h : ∀ x ∈ l, Legal (f x) ∧ '#' ∉ f x) : Legal (l.flatMap f) ∧ '#' ∉ l.flatMap f := by
  induction l with
  | nil => exact ⟨.nil, List.not_mem_nil⟩
  | cons x rest ih =>
      obtain ⟨hx, hrest⟩ := List.forall_mem_cons.mp h
      rw [List.flatMap_cons, List.mem_append, not_or]
      exact ⟨hx.1.append (ih hrest).1, hx.2, (ih hrest).2⟩

theorem specificPart_eq_nil_iff :
    u.specificPart = [] ↔ u.authority = none ∧ u.path = [] ∧ u.query = none := by
  cases ha : u.authority <;> cases hq : u.query <;> simp [specificPart, ha, hq]

theorem withoutFragment_reread (u : Uri) : u.reread.withoutFragment = u.withoutFragment.reread := by
  rw [reread, reread]
  split
  · next ha => rw [if_pos (show u.withoutFragment.authority.isSome from ha)]
  · next ha => rw [if_neg (show ¬ u.withoutFragment.authority.isSome from ha)]; rfl

end Uri

namespace Percent

theorem legal_of_isUnreserved {c : Char} (h : isUnreserved c) : Uri.Legal [c] ∧ '#' ∉ [c] := by
  have hlegal : Uri.isIllegal c = false := by
    have hc : Uri.isSchemeChar c ∨ c = '_' ∨ c = '~' := by
      simp only [isUnreserved, Uri.isSchemeChar, Bool.or_eq_true, beq_iff_eq] at h ⊢
      tauto
    rcases hc with hc | rfl | rfl
    · exact Uri.isIllegal_of_isSchemeChar hc
    · decide
    · decide
  have hne (x : Char) (hx : isUnreserved x = false) : c ≠ x := by
    rintro rfl
    rw [hx] at h
    cases h
  refine ⟨.char (hne '%' (by decide)) hlegal .nil, ?_⟩
  rw [List.mem_singleton]
  exact (hne '#' (by decide)).symm

theorem legal_escape (b : UInt8) : Uri.Legal (escape b) ∧ '#' ∉ escape b := by
  have hb : b.toNat < 256 := b.toNat_lt
  have hhigh := isHexDigit_hexUpper (n := b.toNat / 16) (by omega)
  have hlow := isHexDigit_hexUpper (n := b.toNat % 16) (by omega)
  refine ⟨.escape hhigh hlow .nil, ?_⟩
  simp [escape, (Uri.hash_ne_of_isHexDigit hhigh).symm, (Uri.hash_ne_of_isHexDigit hlow).symm]

theorem legal_encode (t : Text) : Uri.Legal (encode t) ∧ '#' ∉ encode t := by
  apply Uri.legal_flatMap
  intro c _
  split
  · next hc => exact legal_of_isUnreserved hc
  · exact Uri.legal_flatMap fun b _ => legal_escape b

end Percent

namespace Reference

variable {input : Text} {r : Reference}

theorem octets_encodedPointer (p : Pointer) :
    Percent.octets (encodedPointer p) = Text.octets p.text := by
  obtain ⟨tokens⟩ := p
  induction tokens with
  | nil => rfl
  | cons token rest ih =>
      have hencoded : encodedPointer ⟨token :: rest⟩ =
          '/' :: (Percent.encode (Pointer.escape token) ++ encodedPointer ⟨rest⟩) := rfl
      rw [hencoded, Pointer.text_cons, Percent.octets_cons (by decide), Percent.encode,
        Percent.octets_encodeWith (by decide), ih]
      simp [Text.octets]

theorem classify_text (p : Pointer) : Fragment.classify p.text = .pointer p := by
  obtain ⟨tokens⟩ := p
  cases tokens with
  | nil => rfl
  | cons token rest =>
      have hparse := Pointer.parse_text ⟨token :: rest⟩
      rw [Pointer.text_cons] at hparse ⊢
      rw [Fragment.classify, if_pos rfl, hparse]

theorem legal_encodedPointer (p : Pointer) :
    Uri.Legal (encodedPointer p) ∧ '#' ∉ encodedPointer p := by
  apply Uri.legal_flatMap
  intro token _
  obtain ⟨hlegal, hhash⟩ := Percent.legal_encode (Pointer.escape token)
  exact ⟨.cons (by decide) hlegal, by simpa using hhash⟩

theorem classify_eq {u v : Uri} (hscheme : u.scheme = v.scheme)
    (hpart : u.specificPart = v.specificPart) : classify u = classify v := by
  have hopaque : u.isOpaque = v.isOpaque := by
    rw [Bool.eq_iff_iff, Uri.isOpaque_iff, Uri.isOpaque_iff, hscheme, hpart]
  have hblank (w : Uri) : (w.authority.isNone && w.path.isEmpty && w.query.isNone) =
      decide (w.specificPart = []) := by
    rw [Bool.eq_iff_iff, decide_eq_true_iff, Uri.specificPart_eq_nil_iff]
    simp [and_assoc]
  rw [classify, classify, hblank, hblank, hopaque, hpart, Uri.isAbsolute, Uri.isAbsolute, archive?,
    archive?, hscheme, hpart]

/-- A reference with a text that reads as it again, but for the parts before the query. -/
structure Printable (r : Reference) : Prop where
  settled : r.uri.Settled
  apart : r.uri.scheme.isSome ∨ r.uri.authority.isSome ∨ ¬ Uri.BeginsScheme r.uri.path
  read : ofUri r.uri = .ok r

namespace Printable

theorem of_parse (h : parse input = .ok r) : r.Printable := by
  obtain ⟨uri, hparse, hof⟩ := ofUri_of_parse h
  obtain rfl := (uri_of_ofUri hof).1
  refine ⟨.of_parse hparse, ?_, hof⟩
  by_contra hnot
  obtain ⟨hscheme, hauthority, hbegins⟩ :
      r.uri.scheme = none ∧ r.uri.authority = none ∧ Uri.BeginsScheme r.uri.path := by
    simpa using hnot
  have hread := (Uri.Settled.of_parse hparse).parse_text_eq_self_iff.mp
    (Uri.parse_text_of_parse hparse hscheme)
  exact (hread hauthority).2 hscheme hbegins

theorem toLocator (h : r.Printable) : r.toLocator.Printable :=
  ⟨h.settled.withFragment (by simp), h.apart, rfl⟩

theorem withPointer (h : r.Printable) (p : Pointer) : (r.withPointer p).Printable := by
  refine ⟨h.settled.withFragment ?_, h.apart, ?_⟩
  · rintro f ⟨⟩
    exact legal_encodedPointer p
  · have hdecode : Percent.decode (encodedPointer p) = .ok p.text := by
      rw [Percent.decode, octets_encodedPointer, Utf8.decode_octets]
    have hfragment : (r.withPointer p).uri.fragment = some (encodedPointer p) := rfl
    simp only [ofUri, hfragment, hdecode, classify_text]
    rfl

theorem parse_text (h : r.Printable) : parse r.text = .ok ⟨r.uri.reread, r.fragment⟩ := by
  have hread := h.read
  have hparse : parse r.text = ofUri r.uri.reread := by
    rw [parse, text, h.settled.parse_text h.apart]
    rfl
  rw [hparse, ofUri, Uri.fragment_reread]
  rw [ofUri] at hread
  split at hread
  · rw [← congrArg fragment (Except.ok.inj hread)]
  · split at hread
    · rw [← congrArg fragment (Except.ok.inj hread)]
    · cases hread

theorem reads_back (h : r.Printable) :
    ∃ read, parse r.text = .ok read ∧ read.same r ∧ read.kind = r.kind ∧
      read.isAbsolute = r.isAbsolute := by
  refine ⟨⟨r.uri.reread, r.fragment⟩, h.parse_text, ?_, ?_, ?_⟩
  · have hlocator : locator ⟨r.uri.reread, r.fragment⟩ = r.locator := by
      rw [locator, locator, Uri.withoutFragment_reread, Uri.text_reread]
    simp [same, hlocator]
  · have hresolution : resolution ⟨r.uri.reread, r.fragment⟩ = r.resolution := by
      rw [resolution, resolution, Uri.withoutFragment_reread]
      exact classify_eq (Uri.scheme_reread _) (Uri.specificPart_reread _)
    rw [kind, kind, hresolution]
  · rw [isAbsolute, isAbsolute, Uri.isAbsolute, Uri.isAbsolute, Uri.scheme_reread]

end Printable

namespace IsLocator

theorem uri_eq (h : r.IsLocator) : r.uri.withoutFragment = r.uri := congrArg Reference.uri h.bare

theorem settled (h : r.IsLocator) : r.uri.Settled := h.uri_eq ▸ h.obtained.settled

theorem fragment (h : r.IsLocator) : r.uri.fragment = none := by
  rw [← h.uri_eq]
  rfl

theorem isAbsolute (h : r.IsLocator) : r.isAbsolute := by
  rw [Reference.isAbsolute, h.absolute, ← congrArg Reference.fragment h.bare]
  rfl

theorem back (h : r.IsLocator) {front back : Text} (hfront : front.getLast? = some '/')
    (hback : r.locator = front ++ back) : Uri.Legal back ∧ '#' ∉ back := by
  have hhash := h.hash_not_mem_locator
  obtain ⟨scheme, -, hscheme, hlocator, -⟩ := h.locator_eq
  have hlegal : Uri.Legal r.locator := by
    rw [hlocator]
    exact (Uri.legal_of_isScheme hscheme).append (.cons (by decide) h.settled.sound.specificPart)
  obtain ⟨front, rfl⟩ := List.getLast?_eq_some_iff.mp hfront
  rw [hback, List.append_assoc, List.singleton_append] at hlegal
  rw [hback, List.mem_append, not_or] at hhash
  exact ⟨(Uri.Legal.of_append_cons (by decide) hlegal).2, hhash.2⟩

end IsLocator

/-- A reference is printed so that it is read again as the same, with the fragment that it came
with, with none, and with any pointer. -/
theorem parse_text_same (h : parse input = .ok r) (p : Pointer) :
    (∀ printed ∈ [r, r.toLocator, r.withPointer p],
      ∃ read, parse printed.text = .ok read ∧ read.same printed ∧ read.kind = printed.kind ∧
        read.isAbsolute = printed.isAbsolute) ∧
    (r.withPointer p).pointer? = some p ∧ (r.withPointer p).locator = r.locator ∧
    r.toLocator.locator = r.locator ∧ r.toLocator.fragment.isEmpty := by
  have hr := Printable.of_parse h
  refine ⟨?_, rfl, rfl, rfl, rfl⟩
  intro printed hprinted
  simp only [List.mem_cons, List.not_mem_nil, or_false] at hprinted
  rcases hprinted with rfl | rfl | rfl
  · exact hr.reads_back
  · exact hr.toLocator.reads_back
  · exact (hr.withPointer p).reads_back

def slashed : Reference :=
  ⟨⟨some "a".toList, none, "//x".toList, none, some "f".toList⟩, .name "f".toList⟩

theorem parse_text_same_escaped :
    ∃ r read, parse "A:/.//x#f".toList = .ok r ∧
      let p : Pointer := ⟨["a/b".toList, [], "~%#é€".toList]⟩
      (r.withPointer p).text = "a://x#/a~1b//~0%25%23%C3%A9%E2%82%AC".toList ∧
      parse (r.withPointer p).text = .ok read ∧ read.same (r.withPointer p) ∧
      read.kind = .hierarchical ∧ read.isAbsolute = false := by
  have hr : parse "A:/.//x#f".toList = .ok slashed := by rfl
  obtain ⟨hread, -⟩ := parse_text_same hr ⟨["a/b".toList, [], "~%#é€".toList]⟩
  obtain ⟨read, hread, hsame, hkind, habsolute⟩ := hread _ (.tail _ (.tail _ (.head _)))
  exact ⟨slashed, read, hr, by decide +kernel, hread, hsame, hkind.trans (by decide +kernel),
    habsolute.trans (by decide +kernel)⟩

end Reference
end JsonReference
