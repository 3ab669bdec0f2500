import JsonReference.Proofs.Uri.DotSegments

namespace JsonReference.Uri

open Text (led)

variable {kept below segments : List Text} {path : Text}

/-- Whether the segments lead up over the `depth` segments that stand before them. -/
def climbs (depth : Nat) : List Text → Bool
  | [] => false
  | s :: rest =>
      if s = ['.'] then climbs depth rest
      else if s = ['.', '.'] then depth == 0 || climbs (depth - 1) rest
      else climbs (depth + 1) rest

theorem climbs_dot_cons (depth : Nat) (segments : List Text) :
    climbs depth (['.'] :: segments) = climbs depth segments := by
  rw [climbs, if_pos rfl]

theorem climbs_dots_cons (depth : Nat) (segments : List Text) :
    climbs depth (['.', '.'] :: segments) = (depth == 0 || climbs (depth - 1) segments) := by
  rw [climbs, if_neg (by simp), if_pos rfl]

theorem climbs_cons {s : Text} (h : ¬ IsDot s) (depth : Nat) (segments : List Text) :
    climbs depth (s :: segments) = climbs (depth + 1) segments := by
  rw [IsDot, not_or] at h
  rw [climbs, if_neg h.1, if_neg h.2]

theorem collapse_append (h : climbs kept.length segments = false) (below : List Text) :
    collapse (kept ++ below) segments = below.reverse ++ collapse kept segments := by
  induction segments generalizing kept with
  | nil => simp [collapse]
  | cons s rest ih =>
      by_cases hdot : IsDot s
      · rcases hdot with rfl | rfl
        · rw [climbs_dot_cons] at h
          rw [collapse_dot_cons, collapse_dot_cons, ih h]
          split <;> simp
        · rw [climbs_dots_cons, Bool.or_eq_false_iff] at h
          cases kept with
          | nil => simp at h
          | cons k kept =>
              rw [collapse_dots_cons, collapse_dots_cons, List.cons_append, List.tail_cons,
                List.tail_cons, ih h.2]
              split <;> simp
      · rw [climbs_cons hdot] at h
        have hrest : climbs (s :: kept).length rest = false := h
        rw [collapse_cons hdot, collapse_cons hdot, ← List.cons_append, ih hrest]

theorem length_collapse_append_le (kept below segments : List Text) :
    (collapse (kept ++ below) segments).length ≤ below.length + (collapse kept segments).length := by
  induction segments generalizing kept below with
  | nil => simp [collapse, Nat.add_comm]
  | cons s rest ih =>
      by_cases hdot : IsDot s
      · rcases hdot with rfl | rfl
        · rw [collapse_dot_cons, collapse_dot_cons]
          split
          · simp only [List.length_reverse, List.length_cons, List.length_append]
            omega
          · exact ih kept below
        · rw [collapse_dots_cons, collapse_dots_cons]
          cases kept with
          | nil =>
              have htail := ih [] below.tail
              rw [List.nil_append, List.length_tail] at htail
              rw [List.nil_append, List.tail_nil]
              split
              · simp only [List.length_reverse, List.length_cons, List.length_tail, List.length_nil]
                omega
              · omega
          | cons k kept =>
              rw [List.cons_append, List.tail_cons, List.tail_cons]
              split
              · simp only [List.length_reverse, List.length_cons, List.length_append]
                omega
              · exact ih kept below
      · rw [collapse_cons hdot, collapse_cons hdot, ← List.cons_append]
        exact ih (s :: kept) below

/-- What is gone up over is missing from then on. -/
theorem length_collapse_append_lt (h : climbs kept.length segments) (hbelow : below ≠ []) :
    (collapse (kept ++ below) segments).length < below.length + (collapse kept segments).length := by
  induction segments generalizing kept with
  | nil => simp [climbs] at h
  | cons s rest ih =>
      by_cases hdot : IsDot s
      · rcases hdot with rfl | rfl
        · rw [climbs_dot_cons] at h
          have hrest : rest.isEmpty = false := by
            cases rest with
            | nil => simp [climbs] at h
            | cons => rfl
          rw [collapse_dot_cons, collapse_dot_cons, hrest]
          exact ih h
        · rw [climbs_dots_cons, Bool.or_eq_true] at h
          rw [collapse_dots_cons, collapse_dots_cons]
          cases kept with
          | nil =>
              have htail := length_collapse_append_le [] below.tail rest
              have hpos := List.length_pos_iff.mpr hbelow
              rw [List.nil_append, List.length_tail] at htail
              rw [List.nil_append, List.tail_nil]
              split
              · simp only [List.length_reverse, List.length_cons, List.length_tail, List.length_nil]
                omega
              · omega
          | cons k kept =>
              have hkept : climbs kept.length rest := by simpa using h
              have hrest : rest.isEmpty = false := by
                cases rest with
                | nil => simp [climbs] at hkept
                | cons => rfl
              rw [List.cons_append, List.tail_cons, List.tail_cons, hrest]
              exact ih hkept
      · rw [climbs_cons hdot] at h
        have hrest : climbs (s :: kept).length rest := h
        rw [collapse_cons hdot, collapse_cons hdot, ← List.cons_append]
        exact ih hrest

theorem collapse_append_iff (hbelow : below ≠ []) :
    collapse (kept ++ below) segments = below.reverse ++ collapse kept segments ↔
      climbs kept.length segments = false := by
  refine ⟨fun heq => ?_, fun h => collapse_append h below⟩
  by_contra hclimbs
  have hlt := length_collapse_append_lt (by simpa using hclimbs) hbelow
  rw [heq, List.length_append, List.length_reverse] at hlt
  exact Nat.lt_irrefl _ hlt

theorem collapse_append_of_dotFree {front : List Text} (h : ∀ s ∈ front, ¬ IsDot s) :
    collapse kept (front ++ segments) = collapse (front.reverse ++ kept) segments := by
  induction front generalizing kept with
  | nil => rfl
  | cons s rest ih =>
      obtain ⟨hs, hrest⟩ := List.forall_mem_cons.mp h
      rw [List.cons_append, collapse_cons hs, ih hrest]
      simp

theorem removeDotSegments_led (hne : segments ≠ []) (h : ∀ s ∈ segments, '/' ∉ s) :
    removeDotSegments (led '/' segments) = led '/' (collapse [] segments) := by
  rw [← Text.cons_join hne, removeDotSegments_cons, collapsed, Text.segments_join hne h,
    Text.cons_join (collapse_ne_nil (.inr hne))]

theorem not_mem_of_mem_collapse (h : ∀ s ∈ segments, '/' ∉ s) :
    ∀ s ∈ collapse [] segments, '/' ∉ s := by
  intro s hs
  rcases mem_collapse hs with rfl | hs | hs
  · simp
  · simp at hs
  · exact h s hs

theorem dotFree_led (h : ∀ s ∈ segments, '/' ∉ s) :
    DotFree (led '/' segments) ↔ ∀ s ∈ segments, ¬ IsDot s := by
  rw [DotFree, Text.segments_led h, List.forall_mem_cons]
  simp [not_isDot_nil]

theorem exists_led (h : path = [] ∨ isRooted path) :
    ∃ segments : List Text, path = led '/' segments ∧ ∀ s ∈ segments, '/' ∉ s := by
  rcases h with rfl | hrooted
  · exact ⟨[], rfl, by simp⟩
  · obtain ⟨rest, rfl⟩ := eq_cons_of_isRooted hrooted
    exact ⟨Text.segments '/' rest, (Text.led_segments '/' rest).symm,
      fun s => Text.not_mem_of_mem_segments⟩

end JsonReference.Uri
