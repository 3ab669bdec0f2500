import JsonReference.Proofs.Json.Order
import JsonReference.Proofs.Json.Tidy
import JsonReference.RefSite

namespace JsonReference

def dataNames : List Text := ["enum", "default"].map String.toList

def mapNames : List Text :=
  ["properties", "patternProperties", "definitions", "dependencies"].map String.toList

/-- A walk down from a node comes to another by a path. The flag tells whether names are keywords at
the node where it starts: then it leaves out the data, and goes from a map to the values in it
whatever their names are. -/
inductive Json.Searched : Json → Bool → List Text → Json → Prop
  | here (node : Json) (keywords : Bool) : Searched node keywords [] node
  | keyword {members : List (Text × Json)} {name : Text} {x y : Json} {path : List Text} :
      (name, x) ∈ members → name ∉ dataNames → name ∉ mapNames → Searched x true path y →
      Searched (.object members) true (name :: path) y
  | map {members : List (Text × Json)} {name : Text} {x y : Json} {path : List Text} :
      (name, x) ∈ members → name ∈ mapNames → Searched x false path y →
      Searched (.object members) true (name :: path) y
  | name {members : List (Text × Json)} {name : Text} {x y : Json} {path : List Text} :
      (name, x) ∈ members → Searched x true path y →
      Searched (.object members) false (name :: path) y
  | item {items : List Json} {index : Text} {x y : Json} {path : List Text} (keywords : Bool) :
      (index, x) ∈ (Json.array items).children → Searched x true path y →
      Searched (.array items) keywords (index :: path) y

theorem Json.Searched.walk_eq {node x : Json} {keywords : Bool} {path : List Text}
    (h : node.Searched keywords path x) (hnode : node.WellFormed) :
    Pointer.walk path node = some x := by
  induction h with
  | here => rfl
  | keyword hmem _ _ _ ih | map hmem _ _ ih | name hmem _ ih | item _ hmem _ ih =>
      have hchild := (Json.child?_eq_some_iff hnode).mpr hmem
      rw [Pointer.walk, hchild]
      exact ih (Json.wellFormed_of_mem_children hnode hmem)

theorem Json.Searched.wellFormed {node x : Json} {keywords : Bool} {path : List Text}
    (h : node.Searched keywords path x) (hnode : node.WellFormed) : x.WellFormed := by
  induction h with
  | here => exact hnode
  | keyword hmem _ _ _ ih | map hmem _ _ ih | name hmem _ ih | item _ hmem _ ih =>
      exact ih (Json.wellFormed_of_mem_children hnode hmem)

theorem Json.refText?_eq_some_iff {node : Json} {raw : Text} (h : node.WellFormed) :
    node.refText? = some raw ↔
      ∃ members, node = .object members ∧ ("$ref".toList, .string raw) ∈ members := by
  constructor
  · intro hraw
    obtain ⟨x, hx, hraw⟩ := Option.bind_eq_some_iff.mp hraw
    cases node with
    | object members =>
        cases x with
        | string t =>
            cases hraw
            exact ⟨members, rfl, Table.mem_of_find? hx⟩
        | _ => simp [Json.string?] at hraw
    | _ => simp [Json.member?] at hx
  · rintro ⟨members, rfl, hmem⟩
    have hmember : (Json.object members).member? "$ref".toList = some (.string raw) :=
      (Json.child?_eq_some_iff h).mpr hmem
    rw [Json.refText?, hmember]
    rfl

namespace Unsearched

variable {p : Pointer} {keywords : Bool} {name token : Text} {path : List Text} {node x y : Json}

theorem isDataKeyword_iff : isDataKeyword name ↔ name ∈ dataNames := by
  simp only [isDataKeyword, dataNames, List.any_eq_true, List.mem_map, beq_iff_eq]

theorem isMapKeyword_iff : isMapKeyword name ↔ name ∈ mapNames := by
  simp only [isMapKeyword, mapNames, List.any_eq_true, List.mem_map, beq_iff_eq]

theorem not_isDataKeyword_of_map (h : name ∈ mapNames) : isDataKeyword name = false := by
  have hall : ∀ name ∈ mapNames, isDataKeyword name = false := by decide +kernel
  exact hall name h

theorem searched_cons_iff (p : Pointer) : node.Searched keywords (token :: path) y ↔
    ∃ c ∈ node.children, c.1 = token ∧ ∃ inner, below? ⟨p, node, keywords⟩ c =
      some ⟨p.append c.1, c.2, inner⟩ ∧ c.2.Searched inner path y := by
  constructor
  · intro h
    cases h with
    | keyword hmem hdata hmap hrest =>
        rw [← isDataKeyword_iff] at hdata
        rw [← isMapKeyword_iff] at hmap
        exact ⟨_, hmem, rfl, true, by simp [below?, hdata, hmap], hrest⟩
    | map hmem hmap hrest =>
        have hdata := not_isDataKeyword_of_map hmap
        rw [← isMapKeyword_iff] at hmap
        exact ⟨_, hmem, rfl, false, by simp [below?, hdata, hmap], hrest⟩
    | name hmem hrest => exact ⟨_, hmem, rfl, true, by simp [below?], hrest⟩
    | item _ hmem hrest => exact ⟨_, hmem, rfl, true, by simp [below?], hrest⟩
  · rintro ⟨⟨token, x⟩, hmem, rfl, inner, hbelow, hrest⟩
    cases node with
    | object members =>
        cases keywords with
        | false =>
            obtain rfl : true = inner := by simpa [below?] using hbelow
            exact .name hmem hrest
        | true =>
            by_cases hdata : isDataKeyword token
            · simp [below?, hdata] at hbelow
            · obtain rfl : (!isMapKeyword token) = inner := by simpa [below?, hdata] using hbelow
              rw [isDataKeyword_iff] at hdata
              cases hmap : isMapKeyword token with
              | true => exact .map hmem (isMapKeyword_iff.mp hmap) (by simpa [hmap] using hrest)
              | false =>
                  have hother : token ∉ mapNames := by rw [← isMapKeyword_iff, hmap]; simp
                  exact .keyword hmem hdata hother (by simpa [hmap] using hrest)
    | array items =>
        obtain rfl : true = inner := by simpa [below?] using hbelow
        exact .item keywords hmem hrest
    | _ => simp [Json.children] at hmem

theorem below?_eq {next u : Unsearched} {c : Text × Json} (h : next.below? c = some u) :
    u = ⟨next.pointer.append c.1, c.2, u.keywords⟩ := by
  rw [below?] at h
  split at h
  · split at h
    · simp at h
    · cases h
      rfl
  · cases h
    rfl

end Unsearched

namespace RefSite

variable {p : Pointer} {keywords : Bool} {node : Json} {site : RefSite} {raw : Text}

theorem collect_append (pending rest : List Unsearched) :
    collect (pending ++ rest) = collect pending ++ collect rest := by
  induction pending using collect.induct with
  | case1 => rw [collect, List.nil_append, List.nil_append]
  | case2 next pending ih =>
      rw [List.cons_append, collect, collect, ← List.append_assoc next.inside, ih,
        List.append_assoc]

theorem collect_inside (next : Unsearched) :
    collect next.inside = next.node.children.flatMap fun c => collect (next.below? c).toList := by
  rw [Unsearched.inside]
  induction next.node.children with
  | nil => rw [List.filterMap_nil, collect, List.flatMap_nil]
  | cons c children ih =>
      rw [List.flatMap_cons, ← ih, ← collect_append]
      cases hbelow : next.below? c with
      | none => rw [List.filterMap_cons_none hbelow, Option.toList_none, List.nil_append]
      | some u => rw [List.filterMap_cons_some hbelow, Option.toList_some, List.singleton_append]

theorem collect_eq (p : Pointer) (node : Json) (keywords : Bool) :
    collect [⟨p, node, keywords⟩] = here ⟨p, node, keywords⟩ ++
      node.children.flatMap fun c => collect (Unsearched.below? ⟨p, node, keywords⟩ c).toList := by
  rw [collect, List.append_nil, collect_inside]

theorem mem_here :
    site ∈ here ⟨p, node, keywords⟩ ↔ ∃ raw, node.refText? = some raw ∧ site = ⟨p, raw⟩ := by
  rw [here]
  cases node.refText? <;> simp

theorem mem_collect : site ∈ collect [⟨p, node, keywords⟩] ↔
    ∃ path x raw, node.Searched keywords path x ∧ x.refText? = some raw ∧
      site = ⟨p.join ⟨path⟩, raw⟩ := by
  induction node using Json.induction_children generalizing p keywords with
  | h node ih =>
      rw [collect_eq, List.mem_append, mem_here, List.mem_flatMap]
      constructor
      · rintro (⟨raw, hraw, rfl⟩ | ⟨c, hc, hsite⟩)
        · exact ⟨[], node, raw, .here node keywords, hraw, by simp [Pointer.join]⟩
        · cases hbelow : Unsearched.below? ⟨p, node, keywords⟩ c with
          | none => simp [hbelow, collect] at hsite
          | some u =>
              rw [hbelow, Option.toList_some, Unsearched.below?_eq hbelow] at hsite
              obtain ⟨path, x, raw, hsearched, hraw, rfl⟩ := (ih c hc).mp hsite
              refine ⟨c.1 :: path, x, raw, ?_, hraw, by simp [Pointer.join, Pointer.append]⟩
              rw [Unsearched.searched_cons_iff p]
              exact ⟨c, hc, rfl, u.keywords, Unsearched.below?_eq hbelow ▸ hbelow, hsearched⟩
      · rintro ⟨path, x, raw, hsearched, hraw, rfl⟩
        cases path with
        | nil =>
            cases hsearched
            exact .inl ⟨raw, hraw, by simp [Pointer.join]⟩
        | cons token path =>
            rw [Unsearched.searched_cons_iff p] at hsearched
            obtain ⟨c, hc, rfl, inner, hbelow, hsearched⟩ := hsearched
            refine .inr ⟨c, hc, ?_⟩
            rw [hbelow, Option.toList_some, ih c hc]
            exact ⟨path, x, raw, hsearched, hraw, by simp [Pointer.join, Pointer.append]⟩

theorem get?_isSome_of_mem {document : Json} (h : document.WellFormed) (hsite : site ∈ all document) :
    (site.pointer.get? document).isSome := by
  obtain ⟨path, x, raw, hsearched, -, rfl⟩ := mem_collect.mp hsite
  exact Option.isSome_of_eq_some (hsearched.walk_eq h)

theorem inOrder_collect (h : node.WellFormed) :
    node.InOrder RefSite.pointer p (collect [⟨p, node, keywords⟩]) := by
  induction node using Json.induction_children generalizing p keywords with
  | h node ih =>
      rw [collect_eq]
      refine .of_children h ?_ ?_ fun c hc => ?_
      · intro site hsite
        obtain ⟨raw, -, rfl⟩ := mem_here.mp hsite
        rfl
      · rw [here]
        split <;> simp
      · cases hbelow : Unsearched.below? ⟨p, node, keywords⟩ c with
        | none =>
            rw [Option.toList_none, collect]
            exact ⟨by simp, .nil⟩
        | some u =>
            rw [Option.toList_some, Unsearched.below?_eq hbelow]
            exact ih c hc (Json.wellFormed_of_mem_children h hc)

/-- The sites of a document are the objects with a text for a `$ref` that a walk from the root comes
to, names being keywords there. Each is found once, and they are found in document order. -/
theorem all_inOrder {document : Json} (h : document.WellFormed) :
    (∀ p raw, (⟨p, raw⟩ : RefSite) ∈ all document ↔
      ∃ members, document.Searched true p.tokens (.object members) ∧
        p.get? document = some (.object members) ∧ ("$ref".toList, .string raw) ∈ members) ∧
    ((all document).map (·.pointer)).Nodup ∧
    ((all document).map (·.pointer.tokens)).Pairwise document.Precedes := by
  have horder : document.InOrder RefSite.pointer .root (all document) := inOrder_collect h
  refine ⟨?_, horder.nodup_place, horder.pairwise_tokens⟩
  intro p raw
  rw [all, mem_collect]
  constructor
  · rintro ⟨path, x, raw, hsearched, hraw, hsite⟩
    cases hsite
    obtain ⟨members, rfl, hmem⟩ := (Json.refText?_eq_some_iff (hsearched.wellFormed h)).mp hraw
    exact ⟨members, hsearched, hsearched.walk_eq h, hmem⟩
  · rintro ⟨members, hsearched, -, hmem⟩
    have hraw := (Json.refText?_eq_some_iff (hsearched.wellFormed h)).mpr ⟨members, rfl, hmem⟩
    exact ⟨p.tokens, _, raw, hsearched, hraw, rfl⟩

def misleading : Json :=
  let cite (raw : String) : Json := .object [("$ref".toList, .string raw.toList)]
  .object [
    ("default".toList, cite "#/data"),
    ("dependencies".toList, .array [.object [("enum".toList, cite "#/data")], cite "#/array"]),
    ("properties".toList, .object [
      ("$ref".toList, .string "#/map".toList),
      ("default".toList, cite "#/name"),
      ("properties".toList, .object [
        ("enum".toList, .array [cite "#/data"]),
        ("properties".toList, .object [("enum".toList, cite "#/inner")])])])]

theorem all_inOrder_misleading :
    misleading.WellFormed ∧
    (all misleading).map (·.raw) =
      ["#/array", "#/map", "#/name", "#/inner"].map String.toList ∧
    ((all misleading).map (·.pointer)).Nodup ∧
    ((all misleading).map (·.pointer.tokens)).Pairwise misleading.Precedes ∧
    ∃ members, misleading.Searched true
      ["properties".toList, "properties".toList, "properties".toList, "enum".toList]
      (.object members) := by
  have h : misleading.WellFormed := Json.wellFormed_tidy misleading (by simp [misleading])
  obtain ⟨hmem, hnodup, horder⟩ := all_inOrder h
  have hinner : (⟨⟨["properties", "properties", "properties", "enum"].map String.toList⟩,
      "#/inner".toList⟩ : RefSite) ∈ all misleading := by decide +kernel
  obtain ⟨members, hsearched, -⟩ := (hmem _ _).mp hinner
  exact ⟨h, by decide +kernel, hnodup, horder, members, hsearched⟩

end RefSite
end JsonReference
