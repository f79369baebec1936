import Mathlib.Data.List.TakeWhile
import ShaderSurface.Text.Basic

/-!
# Cutting at one character

A text in which a character stands once is cut there, whatever the text after it, and a text
without the character is not cut. The pieces between the occurrences of a character do not hold it.
-/

namespace ShaderSurface.Text

variable {s : Text} {c : Char}

theorem takeWhile_ne_append_cons (h : c ∉ s) (t : Text) :
    (s ++ c :: t).takeWhile (· ≠ c) = s := by
  rw [List.takeWhile_append_of_pos fun x mem => decide_eq_true (ne_of_mem_of_not_mem mem h)]
  simp

theorem dropWhile_ne_append_cons (h : c ∉ s) (t : Text) :
    (s ++ c :: t).dropWhile (· ≠ c) = c :: t := by
  rw [List.dropWhile_append_of_pos fun x mem => decide_eq_true (ne_of_mem_of_not_mem mem h)]
  simp

theorem takeWhile_ne_of_not_mem (h : c ∉ s) : s.takeWhile (· ≠ c) = s := by
  rw [← List.append_nil s,
    List.takeWhile_append_of_pos fun x mem => decide_eq_true (ne_of_mem_of_not_mem mem h)]
  rfl

theorem cut?_append_cons (h : c ∉ s) (t : Text) : (s ++ c :: t).cut? [c] = some (s, t) := by
  rw [cut?_singleton, if_pos (by simp), takeWhile_ne_append_cons h, dropWhile_ne_append_cons h]
  rfl

theorem cut?_of_not_mem (h : c ∉ s) : s.cut? [c] = none := by
  rw [cut?_singleton, if_neg h]

theorem not_mem_of_cut?_eq_none (h : s.cut? [c] = none) : c ∉ s := by
  intro mem
  rw [cut?_singleton, if_pos mem] at h
  cases h

theorem not_mem_of_cut? {before after : Text} (h : s.cut? [c] = some (before, after)) :
    c ∉ before := by
  rw [cut?_singleton] at h
  split at h
  · obtain ⟨rfl, -⟩ := Prod.mk.inj (Option.some.inj h)
    exact fun mem => by simpa using List.mem_takeWhile_imp mem
  · cases h

theorem position?_append_cons (h : c ∉ s) (t : Text) :
    (s ++ c :: t).position? [c] = some s.length := by
  rw [position?, cut?_append_cons h]
  rfl

theorem not_mem_of_mem_splitOn {piece : Text} (h : piece ∈ s.splitOn c) : c ∉ piece := by
  induction s generalizing piece with
  | nil =>
    rw [List.splitOn_nil, List.mem_singleton] at h
    simp [h]
  | cons d s ih =>
    obtain ⟨first, others, pieces⟩ := List.exists_cons_of_ne_nil (List.splitOn_ne_nil c s)
    rw [List.splitOn_cons_eq_if_modifyHead, pieces] at h
    rw [pieces] at ih
    by_cases same : d = c
    · rw [if_pos (beq_iff_eq.2 same)] at h
      rcases List.mem_cons.1 h with rfl | h
      · exact List.not_mem_nil
      · exact ih h
    · rw [if_neg (mt beq_iff_eq.1 same), List.modifyHead_cons] at h
      rcases List.mem_cons.1 h with rfl | h
      · rw [List.mem_cons, not_or]
        exact ⟨Ne.symm same, ih List.mem_cons_self⟩
      · exact ih (List.mem_cons_of_mem first h)

theorem splitOn_append_of_not_mem (h : c ∉ s) {t first : Text} {others : List Text}
    (pieces : t.splitOn c = first :: others) : (s ++ t).splitOn c = (s ++ first) :: others := by
  induction s with
  | nil => exact pieces
  | cons d s ih =>
    obtain ⟨differs, rest⟩ := not_or.1 (mt List.mem_cons.2 h)
    rw [List.cons_append, List.splitOn_cons_eq_if_modifyHead, ih rest,
      if_neg (mt beq_iff_eq.1 (Ne.symm differs))]
    rfl

end ShaderSurface.Text
