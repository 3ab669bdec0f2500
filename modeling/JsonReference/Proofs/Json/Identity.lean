import JsonReference.Digest
import JsonReference.Proofs.Json.Tidy
import JsonReference.Proofs.Json.Written
import JsonReference.Proofs.Text.Utf8
import Mathlib.Data.List.Basic

namespace JsonReference

def Digest.Collision (message message' : Octets) : Prop :=
  message ≠ message' ∧ ofOctets message = ofOctets message'

namespace Json

open Text

/-- No number of the document is a floating-point one. -/
inductive Integral : Json → Prop
  | null : Integral .null
  | bool (b : Bool) : Integral (.bool b)
  | integer (n : Int) : Integral (.number (.integer n))
  | string (t : Text) : Integral (.string t)
  | array (items : List Json) : (∀ x ∈ items, Integral x) → Integral (.array items)
  | object (members : List (Text × Json)) : (∀ m ∈ members, Integral m.2) →
      Integral (.object members)

variable {a b node : Json} {members members' : List (Text × Json)} {m m' : Text × Json}

theorem Integral.of_mem_children (h : node.Integral) {c : Text × Json} (hc : c ∈ node.children) :
    c.2.Integral := by
  cases h with
  | object members hall => exact hall c hc
  | array items hall =>
      obtain ⟨item, hitem, rfl⟩ := List.mem_map.mp hc
      exact hall item.1 (List.fst_mem_of_mem_zipIdx hitem)
  | _ => simp [children] at hc

theorem canonicalItems_eq_map (items : List Json) : canonicalItems items = items.map canonical := by
  induction items with
  | nil => rfl
  | cons x rest ih => rw [canonicalItems, ih, List.map_cons]

theorem canonicalMembers_eq_map (members : List (Text × Json)) :
    canonicalMembers members = members.map fun m => (writeString m.1, canonical m.2) := by
  induction members with
  | nil => rfl
  | cons m rest ih => rw [canonicalMembers, ih, List.map_cons]

def writtenMember (m : Text × Json) : Text := writeString m.1 ++ ':' :: canonical m.2

def sortMembers (members : List (Text × Json)) : List (Text × Json) :=
  members.mergeSort fun a b => !decide (writeString b.1 < writeString a.1)

theorem canonical_array (items : List Json) :
    canonical (.array items) = '[' :: join [','] (items.map canonical) ++ [']'] := by
  rw [canonical, canonicalItems_eq_map]

theorem canonical_object (members : List (Text × Json)) :
    canonical (.object members) =
      '\x7b' :: join [','] ((sortMembers members).map writtenMember) ++ ['\x7d'] := by
  have hsort : sortWritten (canonicalMembers members) =
      (sortMembers members).map fun m => (writeString m.1, canonical m.2) := by
    rw [sortWritten, canonicalMembers_eq_map, sortMembers]
    symm
    apply List.map_mergeSort
    exact fun _ _ _ _ => rfl
  rw [canonical, joinWritten, hsort, List.map_map]
  rfl

theorem perm_sortMembers (members : List (Text × Json)) : (sortMembers members).Perm members :=
  List.mergeSort_perm members _

theorem sortMembers_inj (h : (object members).WellFormed) (h' : (object members').WellFormed)
    (hsort : sortMembers members = sortMembers members') : members = members' := by
  have hperm : members.Perm members' :=
    (perm_sortMembers members).symm.trans (hsort ▸ perm_sortMembers members')
  cases h with
  | object _ hnames _ =>
      cases h' with
      | object _ hnames' _ =>
          rw [List.pairwise_map] at hnames hnames'
          exact hperm.eq_of_pairwise
            (fun m m' _ _ hlt hlt' => absurd hlt' (List.lt_asymm hlt)) hnames hnames'

inductive Kind where
  | null | bool | number | string | array | object
deriving DecidableEq

def kind : Json → Kind
  | .null => .null
  | .bool _ => .bool
  | .number _ => .number
  | .string _ => .string
  | .array _ => .array
  | .object _ => .object

def Kind.ofLead (c : Char) : Kind :=
  if c = 'n' then .null
  else if c = 't' ∨ c = 'f' then .bool
  else if c = '"' then .string
  else if c = '[' then .array
  else if c = '\x7b' then .object
  else .number

theorem exists_lead (h : a.Integral) :
    ∃ c rest, a.canonical = c :: rest ∧ Kind.ofLead c = a.kind ∧ c ≠ ']' := by
  cases h with
  | null => exact ⟨_, _, rfl, rfl, by decide⟩
  | bool b => cases b <;> exact ⟨_, _, rfl, rfl, by decide⟩
  | integer n =>
      obtain ⟨c, rest, hn, hc⟩ := exists_integer_eq n
      refine ⟨c, rest, hn, ?_, ?_⟩
      · have hne {d : Char} (hd : d ≠ '-' ∧ d.isDigit = false) : c ≠ d := by
          rintro rfl
          simp [hd] at hc
        simp [Kind.ofLead, kind, hne]
      · rintro rfl
        exact absurd hc (by decide)
  | string t => exact ⟨_, _, rfl, rfl, by decide⟩
  | array items =>
      rw [canonical_array]
      exact ⟨_, _, rfl, rfl, by decide⟩
  | object members =>
      rw [canonical_object]
      exact ⟨_, _, rfl, rfl, by decide⟩

theorem kind_eq_of_told {s t : Text} (ha : a.Integral) (hb : b.Integral)
    (he : a.canonical ++ s = b.canonical ++ t) : a.kind = b.kind := by
  obtain ⟨c, rest, hc, hkind, -⟩ := exists_lead ha
  obtain ⟨c', rest', hc', hkind', -⟩ := exists_lead hb
  rw [hc, hc', List.cons_append, List.cons_append, List.cons.injEq] at he
  rw [← hkind, ← hkind', he.1]

theorem told_writtenMember (h : Told canonical m.2 m'.2) : Told writtenMember m m' := by
  intro s t hs ht he
  simp only [writtenMember, List.append_assoc, List.cons_append] at he
  obtain ⟨hname, he⟩ := told_writeString he
  obtain ⟨hvalue, hrest⟩ := h s t hs ht (List.cons.inj he).2
  exact ⟨Prod.ext hname hvalue, hrest⟩

theorem told_array {items items' : List Json} (hia : (array items).Integral)
    (hib : (array items').Integral) (h : ∀ x ∈ items, ∀ y ∈ items', Told canonical x y) :
    Told canonical (.array items) (.array items') := by
  intro s t _ _ he
  simp only [canonical_array, List.cons_append, List.append_assoc, List.nil_append, List.cons.injEq,
    true_and] at he
  have hopen : ∀ x ∈ items ++ items', ∃ c rest, x.canonical = c :: rest ∧ c ≠ ']' := by
    intro x hx
    have hix : x.Integral := by
      cases hia with
      | array _ hall =>
          cases hib with
          | array _ hall' => exact (List.mem_append.mp hx).elim (hall x) (hall' x)
    obtain ⟨c, rest, hc, -, hne⟩ := exists_lead hix
    exact ⟨c, rest, hc, hne⟩
  obtain ⟨rfl, rfl⟩ := told_join h (by decide) (by decide) hopen he
  exact ⟨rfl, rfl⟩

theorem told_object (ha : (object members).WellFormed) (hb : (object members').WellFormed)
    (h : ∀ m ∈ members, ∀ m' ∈ members', Told canonical m.2 m'.2) :
    Told canonical (.object members) (.object members') := by
  intro s t _ _ he
  simp only [canonical_object, List.cons_append, List.append_assoc, List.nil_append,
    List.cons.injEq, true_and] at he
  have hmembers : ∀ m ∈ sortMembers members, ∀ m' ∈ sortMembers members', Told writtenMember m m' :=
    fun m hm m' hm' =>
      told_writtenMember (h m ((perm_sortMembers _).mem_iff.mp hm) m' ((perm_sortMembers _).mem_iff.mp hm'))
  have hopen : ∀ m ∈ sortMembers members ++ sortMembers members',
      ∃ c rest, writtenMember m = c :: rest ∧ c ≠ '\x7d' := fun m _ => ⟨_, _, rfl, by decide⟩
  obtain ⟨hsort, rfl⟩ := told_join hmembers (by decide) (by decide) hopen he
  exact ⟨congrArg object (sortMembers_inj ha hb hsort), rfl⟩

theorem told_canonical (ha : a.WellFormed) (hb : b.WellFormed) (hia : a.Integral)
    (hib : b.Integral) : Told canonical a b := by
  induction a using induction_children generalizing b with
  | h a ih =>
      intro s t hs ht he
      -- This leaves one constructor for `b` in each of the cases.
      have hkind := kind_eq_of_told hia hib he
      have hbelow {c c' : Text × Json} (hc : c ∈ a.children) (hc' : c' ∈ b.children) :
          Told canonical c.2 c'.2 :=
        ih c hc (wellFormed_of_mem_children ha hc) (wellFormed_of_mem_children hb hc')
          (hia.of_mem_children hc) (hib.of_mem_children hc')
      cases hia with
      | null =>
          cases hib <;> cases hkind
          exact ⟨rfl, List.append_cancel_left he⟩
      | bool p =>
          cases hib <;> cases hkind
          next q => cases p <;> cases q <;> simp_all [canonical, writeBool]
      | integer n =>
          cases hib <;> cases hkind
          next n' =>
            obtain ⟨rfl, rfl⟩ := told_integer n n' s t hs ht he
            exact ⟨rfl, rfl⟩
      | string k =>
          cases hib <;> cases hkind
          next l =>
            obtain ⟨rfl, rfl⟩ := told_writeString he
            exact ⟨rfl, rfl⟩
      | array items hall =>
          cases hib <;> cases hkind
          next items' hall' =>
            refine told_array (.array items hall) (.array items' hall') ?_ s t hs ht he
            intro x hx y hy
            obtain ⟨_, hcx⟩ := exists_mem_children hx
            obtain ⟨_, hcy⟩ := exists_mem_children hy
            exact hbelow hcx hcy
      | object members hall =>
          cases hib <;> cases hkind
          next members' hall' => exact told_object ha hb (fun m hm m' hm' => hbelow hm hm') s t hs ht he

theorem sameItems_iff {items items' : List Json} (h : ∀ x ∈ items, ∀ y, x.same y ↔ x = y) :
    sameItems items items' ↔ items = items' := by
  induction items generalizing items' with
  | nil => cases items' <;> simp [sameItems]
  | cons x rest ih =>
      cases items' with
      | nil => simp [sameItems]
      | cons y rest' =>
          rw [List.forall_mem_cons] at h
          simp [sameItems, h.1, ih h.2]

theorem sameMembers_iff (h : ∀ m ∈ members, ∀ y, m.2.same y ↔ m.2 = y) :
    sameMembers members members' ↔ members = members' := by
  induction members generalizing members' with
  | nil => cases members' <;> simp [sameMembers]
  | cons m rest ih =>
      cases members' with
      | nil => simp [sameMembers]
      | cons m' rest' =>
          rw [List.forall_mem_cons] at h
          simp [sameMembers, h.1, ih h.2, Prod.ext_iff]

theorem same_iff (h : a.Integral) : a.same b ↔ a = b := by
  induction a using induction_children generalizing b with
  | h a ih =>
      have hbelow {c : Text × Json} (hc : c ∈ a.children) (y : Json) : c.2.same y ↔ c.2 = y :=
        ih c hc (h.of_mem_children hc)
      cases h with
      | array items _ =>
          have hitems : ∀ x ∈ items, ∀ y, x.same y ↔ x = y := by
            intro x hx
            obtain ⟨_, hcx⟩ := exists_mem_children hx
            exact hbelow hcx
          cases b <;> simp [same, sameItems_iff hitems]
      | object members _ =>
          have hmembers : ∀ m ∈ members, ∀ y, m.2.same y ↔ m.2 = y := fun m hm => hbelow hm
          cases b <;> simp [same, sameMembers_iff hmembers]
      | integer n =>
          cases b with
          | number m => cases m <;> simp [same]
          | _ => simp [same]
      | _ => cases b <;> simp [same]

theorem canonicalOctets_eq_iff : a.canonicalOctets = b.canonicalOctets ↔ a.canonical = b.canonical := by
  refine ⟨fun h => ?_, congrArg Text.octets⟩
  have hdecode := congrArg Utf8.decode h
  rwa [canonicalOctets, canonicalOctets, Utf8.decode_octets, Utf8.decode_octets,
    Except.ok.injEq] at hdecode

theorem canonicalEq_iff : canonicalEq a b ↔ a.canonicalOctets = b.canonicalOctets := by
  rw [canonicalEq, beq_iff_eq, canonicalOctets_eq_iff]

theorem digest_eq_iff : Digest.ofJson a = Digest.ofJson b ↔
    canonicalEq a b ∨ Digest.Collision a.canonicalOctets b.canonicalOctets := by
  rw [canonicalEq_iff, Digest.ofJson, Digest.ofJson, Digest.Collision]
  by_cases h : a.canonicalOctets = b.canonicalOctets <;> simp [h]

/-- Documents without floating-point numbers are the same if their canonical octets are, so equality by
the canonical text is equality member by member and item by item, and of different documents the
digests are different unless SHA-256 fails to tell the canonical octets apart. -/
theorem canonical_identifies (ha : a.WellFormed) (hb : b.WellFormed) (hia : a.Integral)
    (hib : b.Integral) :
    (a.canonicalOctets = b.canonicalOctets ↔ a = b) ∧
    (a.same b ↔ a = b) ∧
    (canonicalEq a b ↔ a.same b) ∧
    (Digest.ofJson a = Digest.ofJson b ↔
      a = b ∨ Digest.Collision a.canonicalOctets b.canonicalOctets) := by
  have hoctets : a.canonicalOctets = b.canonicalOctets ↔ a = b := by
    rw [canonicalOctets_eq_iff]
    refine ⟨fun h => ?_, congrArg canonical⟩
    exact (told_canonical ha hb hia hib [] [] stops_nil stops_nil (congrArg (· ++ []) h)).1
  refine ⟨hoctets, same_iff hia, ?_, ?_⟩
  · rw [canonicalEq_iff, hoctets, same_iff hia]
  · rw [digest_eq_iff, canonicalEq_iff, hoctets]

def paired (m n : Int) : Json :=
  .object [
    ("a".toList, .array [.number (.integer m), .number (.integer n)]),
    ("a!".toList, .string "\"],\n\\".toList)]

theorem wellFormed_paired (m n : Int) : (paired m n).WellFormed := by
  have hnames : ["a".toList, "a!".toList].Pairwise (· < ·) := by decide
  have hlength : 2 ≤ Nat.pow 2 64 := by decide
  refine .object _ hnames ?_
  rw [List.forall_mem_cons, List.forall_mem_singleton]
  refine ⟨.array _ hlength ?_, .string _⟩
  rw [List.forall_mem_cons, List.forall_mem_singleton]
  exact ⟨.number _, .number _⟩

theorem integral_paired (m n : Int) : (paired m n).Integral := by
  refine .object _ ?_
  rw [List.forall_mem_cons, List.forall_mem_singleton]
  refine ⟨.array _ ?_, .string _⟩
  rw [List.forall_mem_cons, List.forall_mem_singleton]
  exact ⟨.integer m, .integer n⟩

theorem sortWritten_of_lt {a b : Text × Text} (h : b.1 < a.1) : sortWritten [a, b] = [b, a] := by
  simp [sortWritten, List.mergeSort, h]

theorem canonical_identifies_paired :
    (paired (-1) 23).canonical = "\x7b\"a!\":\"\\\"],\\n\\\\\",\"a\":[-1,23]\x7d".toList ∧
    (paired (-1) 23).canonicalOctets ≠ (paired (-12) 3).canonicalOctets ∧
    canonicalEq (paired (-1) 23) (paired (-12) 3) = false := by
  obtain ⟨hoctets, hsame, heq, -⟩ := canonical_identifies (wellFormed_paired (-1) 23)
    (wellFormed_paired (-12) 3) (integral_paired (-1) 23) (integral_paired (-12) 3)
  have hdiffer : (paired (-1) 23).same (paired (-12) 3) = false := by decide
  refine ⟨?_, ?_, ?_⟩
  · rw [paired, canonical, canonicalMembers, canonicalMembers, canonicalMembers,
      sortWritten_of_lt (by decide)]
    decide
  · rw [ne_eq, hoctets, ← hsame, hdiffer]
    decide
  · rw [Bool.eq_false_iff, ne_eq, heq, hdiffer]
    decide

end Json
end JsonReference
