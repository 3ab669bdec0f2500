import JsonReference.Proofs.Text.Cuts
import JsonReference.Proofs.Uri.Plain
import JsonReference.Tree.Scope

namespace JsonReference

namespace Reference

def ofPath (path : Text) : Reference := ⟨⟨none, none, path, none, none⟩, .pointer .root⟩

def ofOpaque (scheme path : Text) : Reference :=
  ⟨⟨some scheme, none, path, none, none⟩, .pointer .root⟩

def ofHost (host path : Text) : Reference :=
  ⟨⟨some "http".toList, some host, path, none, none⟩, .pointer .root⟩

def parts (r : Reference) : Uri × Fragment := (r.uri, r.fragment)

theorem parts_inj {r r' : Reference} (h : r.parts = r'.parts) : r = r' := by
  cases r
  cases r'
  cases h
  rfl

theorem uri_of_ofUri {uri : Uri} {r : Reference} (h : ofUri uri = .ok r) :
    r.uri = uri ∧ (uri.fragment = none → r.fragment = .pointer .root) := by
  rw [ofUri] at h
  split at h
  · next hf =>
    cases h
    exact ⟨rfl, fun _ => rfl⟩
  · next raw hf =>
    split at h
    · cases h
      exact ⟨rfl, fun hn => by simp [hf] at hn⟩
    · simp at h

theorem ofUri_of_parse {input : Text} {r : Reference} (h : parse input = .ok r) :
    ∃ uri, Uri.parse input = .ok uri ∧ ofUri uri = .ok r := Except.bind_ok_iff.mp h

theorem obtained_of_parse {input : Text} {r : Reference} (h : parse input = .ok r) :
    r.uri.Obtained := by
  obtain ⟨uri, hu, ho⟩ := ofUri_of_parse h
  exact (uri_of_ofUri ho).1 ▸ .parse hu

theorem obtained_resolve {base other : Reference} (hb : base.uri.Obtained)
    (ho : other.uri.Obtained) : (base.resolve other).uri.Obtained := by
  rw [resolve]
  split
  · exact ho
  · exact hb.resolve ho
  · rw [resolveEntry]
    split
    · exact ho
    · simp only
      split
      · exact ho
      · split
        · next hp => exact .parse hp
        · exact ho

theorem obtained_of_nodeId? {node : Json} {id : Reference} (h : node.nodeId? = some id) :
    id.uri.Obtained := by
  obtain ⟨t, -, ht⟩ := Option.bind_eq_some_iff.mp h
  exact obtained_of_parse (Except.toOption_some_iff.mp ht)

/-- An absolute reference without a fragment. -/
structure IsLocator (r : Reference) : Prop where
  obtained : r.uri.Obtained
  absolute : r.uri.isAbsolute
  bare : r.toLocator = r

theorem isLocator_toLocator {r : Reference} (ho : r.uri.Obtained) (ha : r.uri.isAbsolute) :
    r.toLocator.IsLocator := ⟨ho.withFragment none, ha, rfl⟩

theorem isLocator_of_parse {scheme rest : Text} {r : Reference} (hs : Uri.isScheme scheme)
    (hrest : '#' ∉ rest) (h : parse (scheme ++ ':' :: rest) = .ok r) : r.IsLocator := by
  obtain ⟨uri, hu, ho⟩ := ofUri_of_parse h
  obtain ⟨s, back, hsplit, rfl⟩ := Uri.parse_eq_assemble hu
  rw [Uri.splitScheme_append hs] at hsplit
  simp only [Except.ok.injEq, Prod.mk.injEq] at hsplit
  obtain ⟨rfl, rfl⟩ := hsplit
  obtain ⟨huri, hfragment⟩ := uri_of_ofUri ho
  have hnone : (Uri.assemble (some (Text.lower scheme)) rest).fragment = none :=
    Text.cut_snd_eq_none hrest
  refine ⟨obtained_of_parse h, ?_, ?_⟩
  · rw [huri]
    rfl
  · cases r with
    | mk uri fragment =>
        simp only at huri hfragment
        rw [toLocator, Uri.withoutFragment, Uri.withFragment, hfragment hnone, huri, ← hnone]

namespace IsLocator

variable {r r' : Reference}

theorem text_eq (h : r.IsLocator) : r.text = r.locator := by
  rw [locator, text, ← congrArg Reference.uri h.bare]
  rfl

theorem locator_eq (h : r.IsLocator) : ∃ s, r.uri.scheme = some s ∧ Uri.isScheme s ∧
    r.locator = s ++ ':' :: r.uri.specificPart ∧ '#' ∉ r.uri.specificPart := by
  obtain ⟨s, hs⟩ := Option.isSome_iff_exists.mp h.absolute
  refine ⟨s, hs, h.obtained.plain.scheme s hs, ?_, h.obtained.plain.hash_not_mem_specificPart⟩
  simp [locator, Uri.withoutFragment, Uri.withFragment, Uri.text, hs, Uri.specificPart]

theorem colon_not_mem {s : Text} (h : Uri.isScheme s) : ':' ∉ s := fun hc =>
  absurd (Uri.isSchemeChar_of_mem h hc) (by decide)

theorem hash_not_mem_locator (h : r.IsLocator) : '#' ∉ r.locator := by
  obtain ⟨s, -, hs, hl, hhash⟩ := h.locator_eq
  rw [hl]
  intro hx
  rcases List.mem_append.mp hx with hx | hx
  · exact absurd (Uri.isSchemeChar_of_mem hs hx) (by decide)
  · exact (List.mem_cons.mp hx).elim (by decide) hhash

theorem parts_eq (h : r.IsLocator) (h' : r'.IsLocator) (he : r.locator = r'.locator) :
    r.uri.scheme = r'.uri.scheme ∧ r.uri.specificPart = r'.uri.specificPart := by
  obtain ⟨s, hs, hv, hl, -⟩ := h.locator_eq
  obtain ⟨s', hs', hv', hl', -⟩ := h'.locator_eq
  rw [hl, hl'] at he
  obtain ⟨rfl, hback⟩ := Text.append_cons_inj (colon_not_mem hv) (colon_not_mem hv') he
  exact ⟨hs.trans hs'.symm, hback⟩

end IsLocator

end Reference
end JsonReference
