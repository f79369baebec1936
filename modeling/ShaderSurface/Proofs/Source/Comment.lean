import ShaderSurface.Source.Comment

/-!
# Sources without comments

A source without slashes and number signs holds neither comments nor directives, so stripping leaves
it as it is.
-/

namespace ShaderSurface

namespace Text

theorem mem_of_mem_dropWhile {p : Char → Bool} {s : Text} {c : Char} (h : c ∈ s.dropWhile p) :
    c ∈ s :=
  (List.dropWhile_suffix p).subset h

theorem mem_of_mem_trim {s : Text} {c : Char} (h : c ∈ trim s) : c ∈ s := by
  have front := mem_of_mem_dropWhile (List.mem_reverse.1 h)
  exact mem_of_mem_dropWhile (List.mem_reverse.1 front)

theorem unlines_lines (s : Text) : unlines (lines s) = s :=
  List.intercalate_splitOn '\n'

theorem mem_intercalate {sep s : Text} {texts : List Text} (h : s ∈ texts) {c : Char}
    (mem : c ∈ s) : c ∈ sep.intercalate texts := by
  induction texts with
  | nil => cases h
  | cons t texts ih =>
    cases texts with
    | nil =>
      obtain rfl := List.mem_singleton.1 h
      rwa [List.intercalate_singleton]
    | cons u texts =>
      rw [List.intercalate_cons_cons, List.append_assoc]
      rcases List.mem_cons.1 h with rfl | h
      · exact List.mem_append_left _ mem
      · exact List.mem_append_right _ (List.mem_append_right _ (ih h))

theorem mem_of_mem_lines {s line : Text} (h : line ∈ lines s) {c : Char} (mem : c ∈ line) :
    c ∈ s := by
  rw [← unlines_lines s]
  exact mem_intercalate h mem

end Text

namespace Source

open Text

variable {s : Text}

theorem isDirective_of_not_mem (h : '#' ∉ s) : isDirective s = false := by
  rw [isDirective, decide_eq_false_iff_not]
  intro first
  exact h (mem_of_mem_trim (List.mem_of_mem_head? first))

theorem beforeLineComment_of_not_mem (h : '/' ∉ s) : beforeLineComment s = s := by
  unfold beforeLineComment
  split
  · rename_i before after cut
    rw [eq_of_cut? cut] at h
    simp at h
  · rfl

theorem withoutBlockComments_of_not_mem (h : '/' ∉ s) : withoutBlockComments false s = s := by
  induction s with
  | nil => rfl
  | cons c s ih =>
    obtain ⟨first, rest⟩ := not_or.1 (mt List.mem_cons.2 h)
    rw [withoutBlockComments, ih rest]
    rintro _ rfl
    exact absurd rfl first

theorem map_filter_eq_self {ls : List Text} (free : ∀ line ∈ ls, '/' ∉ line ∧ '#' ∉ line) :
    (ls.filter (!isDirective ·)).map beforeLineComment = ls := by
  have kept : ls.filter (!isDirective ·) = ls := by
    rw [List.filter_eq_self]
    intro line mem
    rw [isDirective_of_not_mem (free line mem).2]
    rfl
  have whole : ls.map beforeLineComment = ls.map id := by
    apply List.map_congr_left
    intro line mem
    exact beforeLineComment_of_not_mem (free line mem).1
  rw [kept, whole, List.map_id]

theorem free_of_mem_lines (slash : '/' ∉ s) (sign : '#' ∉ s) :
    ∀ line ∈ lines s, '/' ∉ line ∧ '#' ∉ line :=
  fun _ mem =>
    ⟨fun inside => slash (mem_of_mem_lines mem inside),
      fun inside => sign (mem_of_mem_lines mem inside)⟩

theorem stripComments_of_not_mem (slash : '/' ∉ s) (sign : '#' ∉ s) : stripComments s = s := by
  rw [stripComments, map_filter_eq_self (free_of_mem_lines slash sign),
    unlines_lines, withoutBlockComments_of_not_mem slash]

end Source

end ShaderSurface
