import JsonReference.Proofs.Loader.Supply
import JsonReference.Proofs.Uri.DotSegments

namespace JsonReference

namespace Reference

theorem kind_eq_hierarchical_iff {r : Reference} :
    r.kind = .hierarchical ↔ r.resolution = .hierarchical := by
  rw [kind]
  cases r.resolution <;> simp

theorem resolve_of_hierarchical {base other : Reference} (h : base.kind = .hierarchical)
    (ha : other.uri.isAbsolute) :
    base.resolve other =
      ⟨{ other.uri with path := Uri.removeDotSegments other.uri.path }, other.fragment⟩ := by
  have hscheme : other.uri.scheme.isSome := ha
  rw [resolve, kind_eq_hierarchical_iff.mp h]
  simp only [Uri.resolve, if_pos hscheme]

theorem resolve_of_not_hierarchical {base other : Reference} (h : base.kind ≠ .hierarchical)
    (ha : other.uri.isAbsolute) : base.resolve other = other := by
  rw [ne_eq, kind_eq_hierarchical_iff] at h
  rw [resolve]
  cases hres : base.resolution with
  | empty => rfl
  | hierarchical => exact absurd hres h
  | archive stem entry => simp only [resolveEntry, if_pos ha]

theorem same_resolve_iff (base : Reference) {other : Reference} (ha : other.uri.isAbsolute) :
    (base.resolve other).same other ↔
      base.kind ≠ .hierarchical ∨ Uri.DotFree other.uri.path := by
  by_cases h : base.kind = .hierarchical
  · have hlocator : (base.resolve other).locator = other.locator ↔
        Uri.removeDotSegments other.uri.path = other.uri.path := by
      simp [resolve_of_hierarchical h ha, locator, Uri.withoutFragment, Uri.withFragment, Uri.text,
        Uri.specificPart]
    have hfragment : (base.resolve other).fragment = other.fragment := by
      rw [resolve_of_hierarchical h ha]
    simp only [same, Bool.and_eq_true, beq_iff_eq, hlocator, hfragment, and_true,
      Uri.removeDotSegments_eq_self_iff]
    simp [h]
  · simp [resolve_of_not_hierarchical h ha, same, h]

theorem resolve_eq_self_of_same {base other : Reference} (ha : other.uri.isAbsolute)
    (hsame : (base.resolve other).same other) : base.resolve other = other := by
  by_cases h : base.kind = .hierarchical
  · have hdots := ((same_resolve_iff base ha).mp hsame).resolve_left (by simp [h])
    rw [resolve_of_hierarchical h ha, Uri.removeDotSegments_of_dotFree hdots]
  · exact resolve_of_not_hierarchical h ha

end Reference

namespace Loader

def rebase (l : Loader) (base : Reference) : Loader := { l with config := { l.config with base } }

theorem document_rebase (l : Loader) (base requested : Reference) :
    (l.rebase base).document requested =
      ((l.document requested).1, (l.document requested).2.rebase base) := rfl

theorem getRef_rebase {l : Loader} {base r : Reference} (h : l.config.base.resolve r = r)
    (h' : base.resolve r = r) :
    (l.rebase base).getRef r = ((l.getRef r).1, (l.getRef r).2.rebase base) := by
  have hbase : (l.rebase base).config.base.resolve r = r := h'
  rw [getRef_eq, getRef_eq, hbase, h]
  simp only
  split
  · rfl
  · rw [document_rebase]
    rfl

end Loader

/-- A reference with a scheme is resolved to itself, unless a hierarchical base takes dot segments
out of its path, which then is an opaque one. Where it has none, a node with that `id` has it as its
scope, a `$ref` leads to it from every tree, and a loader gives the same for it whatever its base. -/
theorem Reference.resolve_absolute {input : Text} {other : Reference}
    (hparse : parse input = .ok other) (ha : other.uri.isAbsolute) :
    (∀ base : Reference, (base.resolve other).same other ↔
      base.kind ≠ .hierarchical ∨ Uri.DotFree other.uri.path) ∧
    (other.uri.isOpaque = false → Uri.DotFree other.uri.path) ∧
    (∀ base : Reference, (base.resolve other).same other → base.resolve other = other) ∧
    (Uri.DotFree other.uri.path →
      (∀ (scope : Reference) (node : Json), node.nodeId? = some other →
        Scope.enter scope node = other) ∧
      (∀ t : Tree, t.resolve other = other) ∧
      ∀ (l : Loader) (base : Reference),
        (l.rebase base).get input = ((l.get input).1, (l.get input).2.rebase base)) := by
  have hself (hdots : Uri.DotFree other.uri.path) (base : Reference) : base.resolve other = other :=
    resolve_eq_self_of_same ha ((same_resolve_iff base ha).mpr (.inr hdots))
  refine ⟨fun base => same_resolve_iff base ha, ?_, fun base => resolve_eq_self_of_same ha, ?_⟩
  · intro hkind
    obtain ⟨uri, hu, ho⟩ := ofUri_of_parse hparse
    obtain rfl := (uri_of_ofUri ho).1
    exact Uri.dotFree_of_parse hu ha hkind
  · intro hdots
    refine ⟨?_, fun t => hself hdots t.scope, ?_⟩
    · intro scope node hid
      rw [Scope.enter, hid]
      exact hself hdots scope
    · intro l base
      have hget (l : Loader) : l.get input = l.getRef other := by rw [Loader.get, hparse]
      rw [hget, hget, Loader.getRef_rebase (hself hdots _) (hself hdots _)]

theorem Reference.resolve_absolute_opaque :
    ∃ base other, parse "http://x/".toList = .ok base ∧ parse "urn:a/../b".toList = .ok other ∧
      other.uri.isAbsolute ∧ (Reference.empty.resolve other).same other ∧
      ¬ (base.resolve other).same other ∧ (base.resolve other).text = "urn:b".toList := by
  have hother : parse "urn:a/../b".toList = .ok (.ofOpaque "urn".toList "a/../b".toList) := rfl
  have hsame := (resolve_absolute hother rfl).1
  refine ⟨.ofHost "x".toList "/".toList, _, rfl, hother, rfl, (hsame _).mpr (.inl (by decide)), ?_,
    by decide⟩
  rw [hsame, not_or, not_ne_iff]
  exact ⟨by decide, by decide⟩

end JsonReference
