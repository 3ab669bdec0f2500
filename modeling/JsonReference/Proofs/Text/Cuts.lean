import JsonReference.Text.Basic
import Mathlib.Data.List.Basic

namespace JsonReference.Text

variable {c : Char} {s t stem front back : Text} {ss : List Text}

theorem cut_of_not_mem (h : c ∉ t) : cut c t = (t, none) := by
  induction t with
  | nil => rfl
  | cons x r ih =>
      simp only [List.mem_cons, not_or] at h
      rw [cut, if_neg (Ne.symm h.1), ih h.2]

theorem cut_append_cons (h : c ∉ front) (back : Text) :
    cut c (front ++ c :: back) = (front, some back) := by
  induction front with
  | nil => simp [cut]
  | cons x r ih =>
      simp only [List.mem_cons, not_or] at h
      rw [List.cons_append, cut, if_neg (Ne.symm h.1), ih h.2]

def marked (c : Char) : Option Text → Text
  | none => []
  | some t => c :: t

theorem cut_append_marked (h : c ∉ front) (back : Option Text) :
    cut c (front ++ marked c back) = (front, back) := by
  cases back with
  | none => rw [marked, List.append_nil, cut_of_not_mem h]
  | some back => exact cut_append_cons h back

theorem cut_eq_append (c : Char) (t : Text) : (cut c t).1 ++ marked c (cut c t).2 = t := by
  induction t with
  | nil => rfl
  | cons x r ih =>
      by_cases hx : x = c
      · simp [cut, marked, hx]
      · simpa [cut, hx] using ih

theorem append_cons_inj {a a' b b' : Text} (h : c ∉ a) (h' : c ∉ a')
    (he : a ++ c :: b = a' ++ c :: b') : a = a' ∧ b = b' := by
  induction a generalizing a' with
  | nil =>
      cases a' with
      | nil => exact ⟨rfl, (List.cons.inj he).2⟩
      | cons y a' => exact absurd ((List.cons.inj he).1 ▸ List.mem_cons_self) h'
  | cons x a ih =>
      cases a' with
      | nil => exact absurd ((List.cons.inj he).1 ▸ List.mem_cons_self) h
      | cons y a' =>
          simp only [List.mem_cons, not_or, List.cons_append, List.cons.injEq] at h h' he
          obtain ⟨ha, hb⟩ := ih h.2 h'.2 he.2
          exact ⟨by rw [he.1, ha], hb⟩

def Followed (c : Char) (P : Text → Prop) (t : Text) : Prop :=
  ∀ front back : Text, t = front ++ c :: back → P back

theorem followed_nil {P : Text → Prop} : Followed c P [] := by simp [Followed]

theorem followed_cons_iff {P : Text → Prop} {x : Char} :
    Followed c P (x :: t) ↔ (x = c → P t) ∧ Followed c P t := by
  constructor
  · intro h
    refine ⟨?_, fun front back ht => h (x :: front) back (by rw [ht, List.cons_append])⟩
    rintro rfl
    exact h [] t rfl
  · rintro ⟨hx, ht⟩ front back heq
    cases front with
    | nil =>
        obtain ⟨rfl, rfl⟩ := List.cons.inj heq
        exact hx rfl
    | cons y front => exact ht front back (List.cons.inj heq).2

theorem segments_ne_nil (c : Char) (t : Text) : segments c t ≠ [] := by
  cases t with
  | nil => simp [segments]
  | cons x r =>
      rw [segments]
      split
      · simp
      · split <;> simp

theorem segments_of_not_mem (h : c ∉ t) : segments c t = [t] := by
  induction t with
  | nil => rfl
  | cons x r ih =>
      simp only [List.mem_cons, not_or] at h
      rw [segments, if_neg (Ne.symm h.1), ih h.2]

theorem segments_append (s rest : Text) :
    segments c (s ++ c :: rest) = segments c s ++ segments c rest := by
  induction s with
  | nil => simp [segments]
  | cons x r ih =>
      rw [List.cons_append, segments, segments, ih]
      split
      · rfl
      · cases hr : segments c r with
        | nil => exact absurd hr (segments_ne_nil c r)
        | cons first more => rfl

theorem segments_append_cons (h : c ∉ s) (rest : Text) :
    segments c (s ++ c :: rest) = s :: segments c rest := by
  rw [segments_append, segments_of_not_mem h, List.singleton_append]

theorem not_mem_of_mem_segments (h : s ∈ segments c t) : c ∉ s := by
  induction t generalizing s with
  | nil =>
      rw [segments, List.mem_singleton] at h
      simp [h]
  | cons x r ih =>
      rw [segments] at h
      split at h
      · rcases List.mem_cons.mp h with rfl | h
        · simp
        · exact ih h
      · next hx =>
        split at h
        · rw [List.mem_singleton.mp h]
          simpa using Ne.symm hx
        · next first rest hr =>
          rcases List.mem_cons.mp h with rfl | h
          · have hfirst : c ∉ first := ih (hr ▸ List.mem_cons_self)
            simpa [hfirst] using Ne.symm hx
          · exact ih (hr ▸ List.mem_cons_of_mem first h)

def led (c : Char) (ss : List Text) : Text := ss.flatMap (c :: ·)

theorem cons_join (h : ss ≠ []) : c :: join [c] ss = led c ss := by
  induction ss with
  | nil => exact absurd rfl h
  | cons s rest ih =>
      cases rest with
      | nil => simp [join, led]
      | cons u rest => simpa [join, led] using ih (by simp)

theorem join_segments (c : Char) (t : Text) : join [c] (segments c t) = t := by
  induction t with
  | nil => rfl
  | cons x r ih =>
      rw [segments]
      split
      · next hx =>
        have hjoin : join [c] ([] :: segments c r) = c :: join [c] (segments c r) := by
          cases hr : segments c r with
          | nil => exact absurd hr (segments_ne_nil c r)
          | cons s rest => simp [join]
        rw [hjoin, ih, hx]
      · split
        · next hr => exact absurd hr (segments_ne_nil c r)
        · next first rest hr =>
          rw [hr] at ih
          cases rest with
          | nil => simpa [join] using ih
          | cons u rest => simpa [join] using ih

theorem segments_join (hne : ss ≠ []) (h : ∀ s ∈ ss, c ∉ s) : segments c (join [c] ss) = ss := by
  induction ss with
  | nil => exact absurd rfl hne
  | cons s rest ih =>
      have hs : c ∉ s := h s List.mem_cons_self
      cases rest with
      | nil => exact segments_of_not_mem hs
      | cons u rest =>
          have hrest := ih (by simp) fun v hv => h v (List.mem_cons_of_mem s hv)
          have hjoin : join [c] (s :: u :: rest) = s ++ c :: join [c] (u :: rest) := by simp [join]
          rw [hjoin, segments_append_cons hs, hrest]

theorem led_append (c : Char) (ss us : List Text) : led c (ss ++ us) = led c ss ++ led c us :=
  List.flatMap_append

theorem led_segments (c : Char) (t : Text) : led c (segments c t) = c :: t := by
  rw [← cons_join (segments_ne_nil c t), join_segments]

theorem segments_led (h : ∀ s ∈ ss, c ∉ s) : segments c (led c ss) = [] :: ss := by
  cases ss with
  | nil => rfl
  | cons s rest =>
      have hempty : c ∉ ([] : Text) := by simp
      rw [← cons_join (by simp), ← List.nil_append (c :: _), segments_append_cons hempty,
        segments_join (by simp) h]

theorem led_inj {us : List Text} (h : ∀ s ∈ ss, c ∉ s) (h' : ∀ s ∈ us, c ∉ s) :
    led c ss = led c us ↔ ss = us := by
  refine ⟨fun hled => ?_, congrArg (led c)⟩
  have hsegments := congrArg (segments c) hled
  rw [segments_led h, segments_led h'] at hsegments
  exact (List.cons.inj hsegments).2

theorem count_led (h : ∀ s ∈ ss, c ∉ s) : (led c ss).count c = ss.length := by
  induction ss with
  | nil => rfl
  | cons s rest ih =>
      obtain ⟨hs, hrest⟩ := List.forall_mem_cons.mp h
      have hled : led c (s :: rest) = c :: (s ++ led c rest) := rfl
      rw [hled, List.count_cons_self, List.count_append, List.count_eq_zero.mpr hs, ih hrest,
        List.length_cons, Nat.zero_add]

theorem cutLast?_eq_none_iff : cutLast? c t = none ↔ c ∉ t := by
  induction t with
  | nil => simp [cutLast?]
  | cons x r ih =>
      rw [cutLast?]
      cases hr : cutLast? c r with
      | some cut =>
          have hmem : c ∈ r := by
            by_contra hc
            simp [ih.mpr hc] at hr
          simp [hmem]
      | none =>
          have hnot := ih.mp hr
          by_cases hx : x = c
          · simp [hx]
          · simp [hx, Ne.symm hx, hnot]

theorem cutLast?_some (h : cutLast? c t = some (front, back)) :
    ∃ before, front = before ++ [c] ∧ t = before ++ c :: back ∧ c ∉ back := by
  induction t generalizing front with
  | nil => simp [cutLast?] at h
  | cons x r ih =>
      rw [cutLast?] at h
      split at h
      · next f b hr =>
        simp only [Option.some.injEq, Prod.mk.injEq] at h
        obtain ⟨rfl, rfl⟩ := h
        obtain ⟨before, rfl, rfl, hback⟩ := ih hr
        exact ⟨x :: before, rfl, rfl, hback⟩
      · next hr =>
        split at h
        · next hx =>
          simp only [Option.some.injEq, Prod.mk.injEq] at h
          obtain ⟨rfl, rfl⟩ := h
          exact ⟨[], rfl, by rw [hx, List.nil_append], cutLast?_eq_none_iff.mp hr⟩
        · simp at h

theorem cutLast?_append_cons (h : c ∉ back) (front : Text) :
    cutLast? c (front ++ c :: back) = some (front ++ [c], back) := by
  induction front with
  | nil => simp [cutLast?, cutLast?_eq_none_iff.mpr h]
  | cons x r ih => simp [cutLast?, ih]

/-- Behind a stem that ends in `c`, the last `c` is that one or a later one. -/
theorem cutLast?_append (h : stem.getLast? = some c) (back : Text) :
    ∃ mid rest, cutLast? c (stem ++ back) = some (stem ++ mid, rest) ∧ back = mid ++ rest := by
  obtain ⟨front, rfl⟩ := List.getLast?_eq_some_iff.mp h
  cases hcut : cutLast? c back with
  | none =>
      refine ⟨[], back, ?_, rfl⟩
      rw [List.append_assoc, List.singleton_append, List.append_nil]
      exact cutLast?_append_cons (cutLast?_eq_none_iff.mp hcut) front
  | some cut =>
      obtain ⟨mid, rest⟩ := cut
      obtain ⟨before, rfl, rfl, hrest⟩ := cutLast?_some hcut
      refine ⟨before ++ [c], rest, ?_, by simp⟩
      rw [← List.append_assoc, ← List.append_assoc]
      exact cutLast?_append_cons hrest _

theorem prefix_of_cutLast? (hcut : cutLast? c t = some (front, back)) (hstem : stem <+: t)
    (h : stem.getLast? = some c) : stem <+: front := by
  obtain ⟨rest, rfl⟩ := hstem
  obtain ⟨mid, _, hmid, -⟩ := cutLast?_append h rest
  rw [hcut, Option.some.injEq, Prod.mk.injEq] at hmid
  exact ⟨mid, hmid.1.symm⟩

end JsonReference.Text
