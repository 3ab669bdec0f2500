import JsonReference.Proofs.Json.Children

namespace JsonReference.Json

/-- The order of the nodes at two paths: a node comes before those below it, members of an object
come by their names and items of an array by their indices. -/
inductive Precedes : Json → List Text → List Text → Prop
  | above (node : Json) (token : Text) (q : List Text) : Precedes node [] (token :: q)
  | member (members : List (Text × Json)) {k l : Text} (p q : List Text) : k < l →
      Precedes (.object members) (k :: p) (l :: q)
  | item (items : List Json) {i j : Nat} (p q : List Text) : i < j →
      Precedes (.array items) (Text.ofNat i :: p) (Text.ofNat j :: q)
  | inside {node child : Json} {token : Text} {p q : List Text} :
      Pointer.child? node token = some child → Precedes child p q →
      Precedes node (token :: p) (token :: q)

theorem Precedes.cons_cases {node : Json} {k l : Text} {p q : List Text}
    (h : node.Precedes (k :: p) (l :: q)) :
    (∃ members, node = .object members ∧ k < l) ∨
    (∃ items i j, node = .array items ∧ k = Text.ofNat i ∧ l = Text.ofNat j ∧ i < j) ∨
    k = l ∧ ∃ child, Pointer.child? node k = some child ∧ child.Precedes p q := by
  generalize hp : k :: p = a at h
  generalize hq : l :: q = b at h
  cases h with
  | above => cases hp
  | member members p' q' hlt =>
      obtain ⟨rfl, -⟩ := List.cons.inj hp
      obtain ⟨rfl, -⟩ := List.cons.inj hq
      exact .inl ⟨members, rfl, hlt⟩
  | item items p' q' hlt =>
      exact .inr (.inl ⟨items, _, _, rfl, (List.cons.inj hp).1, (List.cons.inj hq).1, hlt⟩)
  | inside hchild h =>
      obtain ⟨rfl, rfl⟩ := List.cons.inj hp
      obtain ⟨rfl, rfl⟩ := List.cons.inj hq
      exact .inr (.inr ⟨rfl, _, hchild, h⟩)

theorem Precedes.asymm {node : Json} {p q : List Text} (h : node.Precedes p q) :
    ¬ node.Precedes q p := by
  induction h with
  | above => rintro ⟨⟩
  | member members p q hlt =>
      intro h
      rcases h.cons_cases with ⟨_, -, hlt'⟩ | ⟨_, _, _, hnode, -⟩ | ⟨rfl, -⟩
      · exact List.lt_asymm hlt hlt'
      · cases hnode
      · exact List.lt_irrefl _ hlt
  | item items p q hlt =>
      intro h
      rcases h.cons_cases with ⟨_, hnode, -⟩ | ⟨_, _, _, -, hj, hi, hlt'⟩ | ⟨he, -⟩
      · cases hnode
      · rw [← Pointer.ofNat_inj hi, ← Pointer.ofNat_inj hj] at hlt'
        exact Nat.lt_asymm hlt hlt'
      · rw [Pointer.ofNat_inj he] at hlt
        exact Nat.lt_irrefl _ hlt
  | inside hchild _ ih =>
      intro h
      rcases h.cons_cases with ⟨_, -, hlt⟩ | ⟨_, _, _, -, hi, hj, hlt⟩ | ⟨-, child, hchild', h⟩
      · exact List.lt_irrefl _ hlt
      · rw [Pointer.ofNat_inj (hi.symm.trans hj)] at hlt
        exact Nat.lt_irrefl _ hlt
      · exact ih (Option.some.inj (hchild.symm.trans hchild') ▸ h)

theorem Precedes.ne {node : Json} {p q : List Text} (h : node.Precedes p q) : p ≠ q := by
  rintro rfl
  exact h.asymm h

theorem Precedes.pairwise_children {node : Json} (h : node.WellFormed) :
    node.children.Pairwise fun c d => ∀ p q, node.Precedes (c.1 :: p) (d.1 :: q) := by
  cases h with
  | object members hnames _ =>
      exact (List.pairwise_map.mp hnames).imp fun hlt p q => .member members p q hlt
  | array items _ _ =>
      have hindices : (items.zipIdx.map Prod.snd).Pairwise (· < ·) := by
        rw [List.zipIdx_map_snd]
        exact List.pairwise_lt_range'
      rw [Json.children, List.pairwise_map]
      exact (List.pairwise_map.mp hindices).imp fun hlt p q => .item items p q hlt
  | _ => exact .nil

/-- All places are at `p` or below it, where `node` is, and each comes before those that follow. -/
structure InOrder {α : Type} (place : α → Pointer) (node : Json) (p : Pointer) (found : List α) :
    Prop where
  below : ∀ a ∈ found, ∃ path, place a = p.join ⟨path⟩
  pairwise : found.Pairwise fun a b => ∃ path path' : List Text,
    place a = p.join ⟨path⟩ ∧ place b = p.join ⟨path'⟩ ∧ node.Precedes path path'

namespace InOrder

variable {α : Type} {place : α → Pointer} {node : Json} {p : Pointer} {found own : List α}

theorem of_children (h : node.WellFormed) (hown : ∀ a ∈ own, place a = p) (hone : own.length ≤ 1)
    {inner : Text × Json → List α}
    (hinner : ∀ c ∈ node.children, c.2.InOrder place (p.append c.1) (inner c)) :
    node.InOrder place p (own ++ node.children.flatMap inner) := by
  have hat (a : α) (ha : a ∈ own) : place a = p.join ⟨[]⟩ := by simp [hown a ha, Pointer.join]
  have hin (c : Text × Json) (hc : c ∈ node.children) (a : α) (ha : a ∈ inner c) :
      ∃ path, place a = p.join ⟨c.1 :: path⟩ := by
    obtain ⟨path, hpath⟩ := (hinner c hc).below a ha
    exact ⟨path, by simp [hpath, Pointer.join, Pointer.append]⟩
  constructor
  · intro a ha
    rcases List.mem_append.mp ha with ha | ha
    · exact ⟨[], hat a ha⟩
    · obtain ⟨c, hc, ha⟩ := List.mem_flatMap.mp ha
      obtain ⟨path, hpath⟩ := hin c hc a ha
      exact ⟨_, hpath⟩
  · rw [List.pairwise_append, List.pairwise_flatMap]
    refine ⟨?_, ⟨?_, ?_⟩, ?_⟩
    · rcases Nat.le_one_iff_eq_zero_or_eq_one.mp hone with hnone | hone
      · exact List.eq_nil_of_length_eq_zero hnone ▸ .nil
      · obtain ⟨a, rfl⟩ := List.length_eq_one_iff.mp hone
        exact List.pairwise_singleton _ a
    · intro c hc
      have hchild := (child?_eq_some_iff h).mpr hc
      refine (hinner c hc).pairwise.imp ?_
      rintro a b ⟨path, path', ha, hb, hlt⟩
      refine ⟨c.1 :: path, c.1 :: path', ?_, ?_, .inside hchild hlt⟩
      · simp [ha, Pointer.join, Pointer.append]
      · simp [hb, Pointer.join, Pointer.append]
    · refine (Precedes.pairwise_children h).imp_of_mem ?_
      intro c d hc hd hlt a ha b hb
      obtain ⟨path, ha⟩ := hin c hc a ha
      obtain ⟨path', hb⟩ := hin d hd b hb
      exact ⟨_, _, ha, hb, hlt path path'⟩
    · intro a ha b hb
      obtain ⟨c, hc, hb⟩ := List.mem_flatMap.mp hb
      obtain ⟨path', hb⟩ := hin c hc b hb
      exact ⟨[], _, hat a ha, hb, .above node c.1 path'⟩

theorem pairwise_tokens {document : Json} (h : document.InOrder place .root found) :
    (found.map fun a => (place a).tokens).Pairwise document.Precedes := by
  refine List.pairwise_map.mpr (h.pairwise.imp ?_)
  rintro a b ⟨path, path', ha, hb, hlt⟩
  rw [ha, hb]
  exact hlt

theorem nodup_place {document : Json} (h : document.InOrder place .root found) :
    (found.map place).Nodup := by
  refine List.pairwise_map.mpr ((List.pairwise_map.mp h.pairwise_tokens).imp ?_)
  exact fun hlt he => hlt.ne (congrArg Pointer.tokens he)

end InOrder

end JsonReference.Json
