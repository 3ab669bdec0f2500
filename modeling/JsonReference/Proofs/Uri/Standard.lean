import JsonReference.Proofs.Uri.DotSegments
import Mathlib.Data.List.TakeWhile

namespace JsonReference.Uri.Standard

def directory (path : Text) : Text := (path.reverse.dropWhile (· ≠ '/')).reverse

def merge (base : Uri) (relative : Text) : Text :=
  if base.authority.isSome ∧ base.path = [] then '/' :: relative
  else directory base.path ++ relative

structure Buffers where
  input : Text
  output : Text

namespace Buffers

def retreat (output : Text) : Text := (directory output).dropLast

def take (b : Buffers) (lead : Char) (rest : Text) : Buffers :=
  ⟨rest.dropWhile (· ≠ '/'), b.output ++ lead :: rest.takeWhile (· ≠ '/')⟩

/-- One round of the loop, by the first of its rules A to E that fits the input. -/
def advance (b : Buffers) : Buffers :=
  match b.input with
  -- A
  | '.' :: '.' :: '/' :: rest => ⟨rest, b.output⟩
  | '.' :: '/' :: rest => ⟨rest, b.output⟩
  -- B
  | '/' :: '.' :: '/' :: rest => ⟨'/' :: rest, b.output⟩
  | ['/', '.'] => ⟨['/'], b.output⟩
  -- C
  | '/' :: '.' :: '.' :: '/' :: rest => ⟨'/' :: rest, retreat b.output⟩
  | ['/', '.', '.'] => ⟨['/'], retreat b.output⟩
  -- D
  | ['.'] => ⟨[], b.output⟩
  | ['.', '.'] => ⟨[], b.output⟩
  -- E
  | c :: rest => b.take c rest
  | [] => b

theorem length_advance {b : Buffers} (h : b.input ≠ []) :
    b.advance.input.length < b.input.length := by
  obtain ⟨input, output⟩ := b
  unfold advance
  split <;> simp_all only [List.length_cons, ne_eq, List.length_nil]
  case h_9 c rest _ _ _ _ _ _ _ _ _ =>
    exact Nat.lt_succ_of_le (List.dropWhile_sublist _).length_le
  all_goals omega

def run (b : Buffers) : Text := if b.input = [] then b.output else b.advance.run
termination_by b.input.length
decreasing_by exact length_advance ‹_›

end Buffers

def removeDots (path : Text) : Text := (Buffers.mk path []).run

def transform (base r : Uri) : Uri :=
  if r.scheme.isSome then ⟨r.scheme, r.authority, removeDots r.path, r.query, r.fragment⟩
  else if r.authority.isSome then
    ⟨base.scheme, r.authority, removeDots r.path, r.query, r.fragment⟩
  else if r.path = [] then
    ⟨base.scheme, base.authority, base.path, if r.query.isSome then r.query else base.query,
      r.fragment⟩
  else if r.path.head? = some '/' then
    ⟨base.scheme, base.authority, removeDots r.path, r.query, r.fragment⟩
  else ⟨base.scheme, base.authority, removeDots (merge base r.path), r.query, r.fragment⟩

theorem ne_slash_of_not_mem {t : Text} (h : '/' ∉ t) : ∀ x ∈ t, decide (x ≠ '/') = true := by
  intro x hx
  rw [decide_eq_true_eq]
  rintro rfl
  exact h hx

theorem directory_append_cons {back : Text} (front : Text) (h : '/' ∉ back) :
    directory (front ++ '/' :: back) = front ++ ['/'] := by
  have hback := ne_slash_of_not_mem (mt List.mem_reverse.mp h)
  have hreverse : (front ++ '/' :: back).reverse = back.reverse ++ '/' :: front.reverse := by simp
  rw [directory, hreverse, List.dropWhile_append_of_pos hback]
  simp

theorem directory_of_not_mem {path : Text} (h : '/' ∉ path) : directory path = [] := by
  have hall := ne_slash_of_not_mem (mt List.mem_reverse.mp h)
  rw [directory, List.dropWhile_eq_nil_iff.mpr hall, List.reverse_nil]

namespace Buffers

open Text (led)

variable {segments kept : List Text} {s : Text}

theorem run_nil (output : Text) : run ⟨[], output⟩ = output := by
  rw [run, if_pos rfl]

theorem run_of_input {b : Buffers} (h : b.input ≠ []) : b.run = b.advance.run := by
  rw [run, if_neg h]

theorem retreat_led (h : ∀ s ∈ kept, '/' ∉ s) :
    retreat (led '/' kept.reverse) = led '/' kept.tail.reverse := by
  cases kept with
  | nil => rfl
  | cons s rest =>
      have hled : led '/' (s :: rest).reverse = led '/' rest.reverse ++ '/' :: s := by simp [led]
      rw [retreat, hled, directory_append_cons _ (h s List.mem_cons_self)]
      simp

theorem advance_dot (segments : List Text) (output : Text) :
    advance ⟨led '/' (['.'] :: segments), output⟩ =
      ⟨led '/' (if segments.isEmpty then [[]] else segments), output⟩ := by
  cases segments <;> rfl

theorem advance_dots (segments : List Text) (output : Text) :
    advance ⟨led '/' (['.', '.'] :: segments), output⟩ =
      ⟨led '/' (if segments.isEmpty then [[]] else segments), retreat output⟩ := by
  cases segments <;> rfl

theorem take_led (hs : '/' ∉ s) (segments : List Text) (output : Text) :
    take ⟨led '/' (s :: segments), output⟩ '/' (s ++ led '/' segments) =
      ⟨led '/' segments, output ++ '/' :: s⟩ := by
  have hkeep := ne_slash_of_not_mem hs
  rw [take, List.dropWhile_append_of_pos hkeep, List.takeWhile_append_of_pos hkeep]
  cases segments <;> simp [led]

theorem advance_segment (h : ¬ IsDot s) (hs : '/' ∉ s) (segments : List Text) (output : Text) :
    advance ⟨led '/' (s :: segments), output⟩ = ⟨led '/' segments, output ++ '/' :: s⟩ := by
  rw [← take_led hs]
  have hslash : ∀ x rest, led '/' segments = x :: rest → x = '/' := by
    intro x rest hx
    cases segments with
    | nil => simp [led] at hx
    | cons u rest => simpa [led] using (congrArg List.head? hx).symm
  rw [IsDot, not_or] at h
  -- No rule before the last one fits, by the first characters of the segment.
  rcases s with _ | ⟨x, _ | ⟨y, _ | ⟨z, s⟩⟩⟩
  all_goals
    unfold advance
    split <;> simp_all [led]
  all_goals
    rename_i hinput
    obtain ⟨rfl, rfl⟩ := hinput
    rfl

theorem run_led_singleton (kept : List Text) :
    run ⟨led '/' [[]], led '/' kept.reverse⟩ = led '/' ([] :: kept).reverse := by
  rw [run_of_input (by simp [led]), advance_segment not_isDot_nil (by simp)]
  change run ⟨[], _⟩ = _
  rw [run_nil]
  simp [led]

/-- While the loop runs, the output holds the segments kept so far, and the input those to come. -/
theorem run_led (hkept : ∀ s ∈ kept, '/' ∉ s) (hsegments : ∀ s ∈ segments, '/' ∉ s) :
    run ⟨led '/' segments, led '/' kept.reverse⟩ = led '/' (collapse kept segments) := by
  induction segments generalizing kept with
  | nil => exact run_nil _
  | cons s rest ih =>
      have hrest : ∀ u ∈ rest, '/' ∉ u := fun u hu => hsegments u (List.mem_cons_of_mem s hu)
      have htail : ∀ u ∈ kept.tail, '/' ∉ u := fun u hu => hkept u (List.mem_of_mem_tail hu)
      rw [run_of_input (by simp [led])]
      by_cases hdot : IsDot s
      · rcases hdot with rfl | rfl
        · rw [advance_dot, collapse_dot_cons]
          split
          · exact run_led_singleton _
          · exact ih hkept hrest
        · rw [advance_dots, collapse_dots_cons, retreat_led hkept]
          split
          · exact run_led_singleton _
          · exact ih htail hrest
      · have hs : '/' ∉ s := hsegments s List.mem_cons_self
        have hled : led '/' kept.reverse ++ '/' :: s = led '/' (s :: kept).reverse := by simp [led]
        rw [advance_segment hdot hs, hled, collapse_cons hdot]
        apply ih _ hrest
        intro u hu
        rcases List.mem_cons.mp hu with rfl | hu
        · exact hs
        · exact hkept u hu

end Buffers

theorem removeDotSegments_eq {path : Text} (h : path = [] ∨ isRooted path) :
    removeDotSegments path = removeDots path := by
  rcases h with rfl | h
  · rw [removeDots, Buffers.run_nil]
    rfl
  · obtain ⟨rest, rfl⟩ := eq_cons_of_isRooted h
    have hsegments := Text.segments_ne_nil '/' rest
    have hslash : ∀ s ∈ Text.segments '/' rest, '/' ∉ s := fun s => Text.not_mem_of_mem_segments
    have hrun := @Buffers.run_led (Text.segments '/' rest) [] (by simp) hslash
    rw [Text.led_segments, ← Text.cons_join (collapse_ne_nil (.inr hsegments))] at hrun
    exact hrun.symm

theorem merge_eq (base : Uri) (relative : Text) : base.merge relative = merge base relative := by
  rw [Uri.merge, merge]
  by_cases h : base.authority.isSome && base.path.isEmpty
  · rw [if_pos h, if_pos (by simpa using h)]
  · rw [if_neg h, if_neg (by simpa using h)]
    cases hcut : Text.cutLast? '/' base.path with
    | none =>
        have hslash := Text.cutLast?_eq_none_iff.mp hcut
        rw [directory_of_not_mem hslash]
        rfl
    | some cut =>
        obtain ⟨before, hfront, hpath, hback⟩ := Text.cutLast?_some hcut
        rw [hpath, directory_append_cons _ hback, ← hfront]

/-- Resolution against a hierarchical base gives the components that the standard gives, and dot
segments are removed as it says. -/
theorem resolve_eq_transform (base reference : Uri)
    (hbase : isRooted base.path ∨ base.authority.isSome ∧ base.path = [])
    (hreference : reference.scheme.isSome ∨ reference.authority.isSome →
      reference.path = [] ∨ isRooted reference.path) :
    base.resolve reference = transform base reference ∧
    ∀ path : Text, path = [] ∨ isRooted path → removeDotSegments path = removeDots path := by
  refine ⟨?_, fun path => removeDotSegments_eq⟩
  rw [resolve, transform]
  by_cases hscheme : reference.scheme.isSome
  · rw [if_pos hscheme, if_pos hscheme, removeDotSegments_eq (hreference (.inl hscheme))]
  rw [if_neg hscheme, if_neg hscheme]
  by_cases hauthority : reference.authority.isSome
  · rw [if_pos hauthority, if_pos hauthority, removeDotSegments_eq (hreference (.inr hauthority))]
  rw [if_neg hauthority, if_neg hauthority]
  by_cases hempty : reference.path = []
  · have hquery : reference.query.or base.query =
        if reference.query.isSome then reference.query else base.query := by
      cases reference.query <;> rfl
    rw [if_pos (by simpa using hempty), if_pos hempty, hquery]
  rw [if_neg (by simpa using hempty), if_neg hempty]
  by_cases hrooted : isRooted reference.path
  · rw [if_pos hrooted, if_pos (by simpa [isRooted] using hrooted),
      removeDotSegments_eq (.inr hrooted)]
  · rw [if_neg hrooted, if_neg (by simpa [isRooted] using hrooted),
      removeDotSegments_eq (.inr (isRooted_merge hbase)), merge_eq]

theorem resolve_eq_transform_abnormal :
    let base : Uri := ⟨some "http".toList, some "a".toList, "/b//c/d;p".toList, some "q".toList, none⟩
    let reference : Uri := ⟨none, none, "..//../../../../g/./h/..".toList, none, some "s".toList⟩
    base.resolve reference = transform base reference ∧
      (transform base reference).text = "http://a/g/#s".toList := by
  intro base reference
  have h := (resolve_eq_transform base reference (.inl rfl) (by simp [reference])).1
  refine ⟨h, ?_⟩
  rw [← h]
  decide +kernel

end JsonReference.Uri.Standard
