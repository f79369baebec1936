import ShaderSurface.Proofs.Source.BlockComment
import ShaderSurface.Proofs.Source.Lines

/-!
# Stripped sources hold no comments

Line comments are stripped before block comments, so no two slashes stand side by side when block
comments are cut out. A block comment starts with a slash, hence the text before it does not end in
one, and the texts that meet where it was make no new mark. What is left is free of comments, and
both passes leave it as it is (`Source.isCommentFree_stripComments`).
-/

namespace ShaderSurface

namespace Text

variable {s needle before after : Text}

theorem not_isInfix_of_cut? (ne : needle ≠ []) (h : s.cut? needle = some (before, after)) :
    ¬needle <:+: before := by
  rw [← mentions_iff_isInfix, mentions]
  intro found
  obtain ⟨⟨front, back⟩, cut⟩ := Option.isSome_iff_exists.1 found
  have whole := eq_of_cut? h
  rw [List.append_assoc] at whole
  -- an earlier place would cut the whole text there
  have earlier := cut?_append ne cut (needle ++ after)
  rw [← whole, h, Option.some_inj, Prod.mk.injEq] at earlier
  have shorter := congrArg List.length (eq_of_cut? cut)
  have filled := List.length_pos_iff.2 ne
  rw [← earlier.1, List.length_append, List.length_append] at shorter
  omega

end Text

namespace Source

open Text

variable {s line : Text} {c : Char}

def withoutDirectives (s : Text) : Text :=
  unlines ((lines s).filter (!isDirective ·))

def cutLineComments (s : Text) : Text :=
  unlines ((lines s).map beforeLineComment)

/-- A source is stripped in three passes. -/
theorem stripComments_eq_passes (source : Text) :
    stripComments source =
      withoutBlockComments false (cutLineComments (withoutDirectives source)) := by
  rw [stripComments, cutLineComments, withoutDirectives]
  by_cases none : (lines source).filter (!isDirective ·) = []
  · rw [none]
    rfl
  · rw [lines_unlines none]
    exact fun line mem => not_mem_of_mem_lines (List.mem_filter.1 mem).1

/-- No line comment starts in the text, and no block comment that is closed. -/
structure IsCommentFree (s : Text) : Prop where
  line : ¬['/', '/'] <:+: s
  block : ∀ before after, s = before ++ '/' :: '*' :: after → ¬['*', '/'] <:+: after

theorem isCommentFree_nil : IsCommentFree [] := by
  refine ⟨by simp, fun before after whole => ?_⟩
  simp at whole

theorem IsCommentFree.tail (h : IsCommentFree (c :: s)) : IsCommentFree s where
  line inside := h.line (inside.trans (List.suffix_cons c s).isInfix)
  block before after whole := h.block (c :: before) after (by rw [whole, List.cons_append])

/-- A character in front of a text without comments starts one only as the first of its mark. -/
theorem IsCommentFree.cons (h : IsCommentFree s) (line : c = '/' → s.head? ≠ some '/')
    (block : ∀ rest, c = '/' → s = '*' :: rest → ¬['*', '/'] <:+: rest) :
    IsCommentFree (c :: s) := by
  refine ⟨fun inside => ?_, fun before after whole => ?_⟩
  · rcases List.infix_cons_iff.1 inside with mark | inside
    · obtain ⟨rfl, next⟩ := List.cons_prefix_cons.1 mark
      obtain ⟨rest, rfl⟩ := next
      exact line rfl rfl
    · exact h.line inside
  · cases before with
    | nil =>
      obtain ⟨rfl, rfl⟩ := List.cons.inj whole
      exact block after rfl rfl
    | cons d before => exact h.block before after (List.cons.inj whole).2

theorem isCommentFree_of_unclosed (line : ¬['/', '/'] <:+: s) (unclosed : ¬['*', '/'] <:+: s) :
    IsCommentFree s := by
  refine ⟨line, fun before after whole inside => unclosed ?_⟩
  have last : after <:+ s := ⟨before ++ ['/', '*'], by simp [whole]⟩
  exact inside.trans last.isInfix

theorem IsCommentFree.cutLineComments_eq (h : IsCommentFree s) : cutLineComments s = s := by
  have kept : (lines s).map beforeLineComment = (lines s).map id := by
    apply List.map_congr_left
    intro line mem
    have free : ¬mentions line ['/', '/'] = true := by
      rw [mentions_iff_isInfix]
      exact fun inside => h.line (inside.trans (isInfix_of_mem_splitOn mem))
    have uncut : line.cut? ['/', '/'] = none := by simpa [mentions] using free
    rw [beforeLineComment, uncut]
    rfl
  rw [cutLineComments, kept, List.map_id, unlines_lines]

theorem IsCommentFree.withoutBlockComments_eq (h : IsCommentFree s) :
    withoutBlockComments false s = s := by
  induction s with
  | nil => rfl
  | cons c s ih =>
    have rest := ih h.tail
    by_cases opens : c = '/' ∧ s.head? = some '*'
    · obtain ⟨rfl, next⟩ := opens
      obtain ⟨s, rfl⟩ := List.head?_eq_some_iff.1 next
      have unclosed : mentions s ['*', '/'] = false := by
        rw [← Bool.not_eq_true, mentions_iff_isInfix]
        exact h.block [] s rfl
      have star : withoutBlockComments false ('*' :: s) = '*' :: withoutBlockComments false s :=
        withoutBlockComments_kept fun same => absurd same (by decide)
      rw [withoutBlockComments_unclosed unclosed, ← star, rest]
    · rw [withoutBlockComments_kept (not_and.1 opens), rest]

theorem not_isInfix_beforeLineComment (line : Text) : ¬['/', '/'] <:+: beforeLineComment line := by
  rw [beforeLineComment]
  split
  · rename_i found
    exact not_isInfix_of_cut? (List.cons_ne_nil _ _) found
  · rename_i missing
    rw [← mentions_iff_isInfix, mentions, missing]
    exact Bool.false_ne_true

theorem not_isInfix_cutLineComments (s : Text) : ¬['/', '/'] <:+: cutLineComments s := by
  intro inside
  obtain ⟨kept, mem, inside⟩ :=
    exists_isInfix_of_isInfix_intercalate (List.cons_ne_nil _ _) (by decide) inside
  obtain ⟨line, -, rfl⟩ := List.mem_map.1 mem
  exact not_isInfix_beforeLineComment line inside

theorem head?_withoutBlockComments (h : s.head? ≠ some '/') :
    (withoutBlockComments false s).head? = s.head? := by
  cases s with
  | nil => rfl
  | cons c s =>
    rw [withoutBlockComments_kept]
    · rfl
    · rintro rfl
      exact absurd rfl h

/-- Where no line comment starts, no comment is left when the block comments are cut out, from
inside or outside of one. -/
theorem isCommentFree_withoutBlockComments (isInside : Bool) (line : ¬['/', '/'] <:+: s) :
    IsCommentFree (withoutBlockComments isInside s) := by
  have later {c : Char} {t : Text} (line : ¬['/', '/'] <:+: c :: t) : ¬['/', '/'] <:+: t :=
    fun inside => line (inside.trans (List.suffix_cons c t).isInfix)
  -- a seam behind a kept slash would be the slash of an opening mark, and so a line comment
  have noSlash {t : Text} (line : ¬['/', '/'] <:+: '/' :: t) : t.head? ≠ some '/' := by
    intro next
    obtain ⟨t, rfl⟩ := List.head?_eq_some_iff.1 next
    exact line (List.prefix_append ['/', '/'] t).isInfix
  induction isInside, s using withoutBlockComments.induct with
  | case1 s closed ih =>
    rw [withoutBlockComments_opening closed]
    exact ih (later (later line))
  | case2 s unclosed ih =>
    rw [Bool.not_eq_true] at unclosed
    have open' : ¬['*', '/'] <:+: s := by
      rw [← mentions_iff_isInfix, unclosed]
      exact Bool.false_ne_true
    have free := isCommentFree_of_unclosed (later (later line)) open'
    rw [withoutBlockComments_unclosed unclosed, free.withoutBlockComments_eq]
    have star : IsCommentFree ('*' :: s) :=
      free.cons (fun same => absurd same (by decide)) fun _ same => absurd same (by decide)
    refine star.cons (fun _ => by simp) fun rest _ same => ?_
    rwa [← (List.cons.inj same).2]
  | case3 c s other ih =>
    have opens := head?_ne_of_forall other
    rw [withoutBlockComments_kept opens]
    have first (same : c = '/') : (withoutBlockComments false s).head? = s.head? :=
      head?_withoutBlockComments (noSlash (same ▸ line))
    refine (ih (later line)).cons (fun same => ?_) fun rest same next => ?_
    · rw [first same]
      exact noSlash (same ▸ line)
    · have star := first same
      rw [next] at star
      exact absurd star.symm (opens same)
  | case4 s ih =>
    rw [withoutBlockComments_closing]
    exact ih (later (later line))
  | case5 c s other ih =>
    rw [withoutBlockComments_dropped (head?_ne_of_forall other)]
    exact ih (later line)
  | case6 isInside =>
    cases isInside <;> exact isCommentFree_nil

/-- No comment is left in a stripped source, and the two passes that cut comments out leave it as it
is. -/
theorem isCommentFree_stripComments (source : Text) :
    stripComments source =
        withoutBlockComments false (cutLineComments (withoutDirectives source)) ∧
      IsCommentFree (stripComments source) ∧
      cutLineComments (stripComments source) = stripComments source ∧
      withoutBlockComments false (stripComments source) = stripComments source := by
  have passes := stripComments_eq_passes source
  have free : IsCommentFree (stripComments source) := by
    rw [passes]
    exact isCommentFree_withoutBlockComments false (not_isInfix_cutLineComments _)
  exact ⟨passes, free, free.cutLineComments_eq, free.withoutBlockComments_eq⟩

/-- Overlapping marks, and a comment that is not closed. -/
example :
    stripComments "a /*/ b */*c /**/ d/ /*/\n#e\nf // g /*".toList =
      "a *c  d/ /*/\nf ".toList := by
  decide +kernel

end Source

end ShaderSurface
