import Mathlib.Data.List.Infix
import ShaderSurface.Text.Blank

/-!
# Parts of a text

A part of a text is a run of consecutive characters of it. The words and the pieces of a text are
parts of it, and a part that lacks a character stands between two of its occurrences.
-/

namespace ShaderSurface.Text

variable {s t part : Text} {c : Char}

/-- A part that lacks a character stands on one side of it. -/
theorem isInfix_or_of_not_mem (free : c ∉ part) (h : part <:+: s ++ c :: t) :
    part <:+: s ∨ part <:+: t := by
  obtain ⟨front, back, whole⟩ := h
  rcases List.append_eq_append_iff.1 whole with ⟨rest, same, -⟩ | ⟨rest, same, tail⟩
  · exact .inl ⟨front, rest, same.symm⟩
  cases rest with
  | nil => exact .inl ⟨front, [], by simpa using same⟩
  | cons d rest =>
    obtain ⟨rfl, rfl⟩ := List.cons.inj tail
    rcases List.append_eq_append_iff.1 same with ⟨more, -, cut⟩ | ⟨more, -, cut⟩
    · exact absurd (cut ▸ List.mem_append_right _ List.mem_cons_self) free
    · cases more with
      | nil =>
        rw [List.nil_append] at cut
        exact absurd (cut ▸ List.mem_cons_self) free
      | cons e more =>
        obtain ⟨rfl, rfl⟩ := List.cons.inj cut
        exact .inr ⟨more, back, rfl⟩

theorem exists_isInfix_of_isInfix_intercalate {texts : List Text} (ne : part ≠ [])
    (free : c ∉ part) (h : part <:+: [c].intercalate texts) : ∃ s ∈ texts, part <:+: s := by
  induction texts with
  | nil => exact absurd (List.eq_nil_of_infix_nil h) ne
  | cons t texts ih =>
    cases texts with
    | nil => exact ⟨t, List.mem_singleton_self t, by rwa [List.intercalate_singleton] at h⟩
    | cons u texts =>
      rw [List.intercalate_cons_cons, List.append_assoc, List.singleton_append] at h
      rcases isInfix_or_of_not_mem free h with first | rest
      · exact ⟨t, List.mem_cons_self, first⟩
      · obtain ⟨s, mem, inside⟩ := ih rest
        exact ⟨s, List.mem_cons_of_mem t mem, inside⟩

theorem isPrefix_of_splitOnP {p : Char → Bool} {first : Text} {others : List Text}
    (pieces : t.splitOnP p = first :: others) :
    first <+: t ∧ ∀ piece ∈ others, piece <:+: t := by
  induction t generalizing first others with
  | nil =>
    rw [List.splitOnP_nil] at pieces
    obtain ⟨rfl, rfl⟩ := List.cons.inj pieces
    exact ⟨List.prefix_rfl, List.forall_mem_nil _⟩
  | cons d t ih =>
    obtain ⟨first', others', rest⟩ := List.exists_cons_of_ne_nil (List.splitOnP_ne_nil p t)
    obtain ⟨atStart, inside⟩ := ih rest
    have later : ∀ piece ∈ others', piece <:+: d :: t :=
      fun piece mem => (inside piece mem).trans (List.suffix_cons d t).isInfix
    rw [List.splitOnP_cons_eq_if_modifyHead, rest] at pieces
    split at pieces
    · obtain ⟨rfl, rfl⟩ := List.cons.inj pieces
      exact ⟨List.nil_prefix, List.forall_mem_cons.2
        ⟨atStart.isInfix.trans (List.suffix_cons d t).isInfix, later⟩⟩
    · obtain ⟨rfl, rfl⟩ := List.cons.inj pieces
      exact ⟨List.cons_prefix_cons.2 ⟨rfl, atStart⟩, later⟩

theorem isInfix_of_mem_splitOnP {p : Char → Bool} (h : s ∈ t.splitOnP p) : s <:+: t := by
  obtain ⟨first, others, pieces⟩ := List.exists_cons_of_ne_nil (List.splitOnP_ne_nil p t)
  obtain ⟨atStart, inside⟩ := isPrefix_of_splitOnP pieces
  rw [pieces] at h
  rcases List.mem_cons.1 h with rfl | h
  · exact atStart.isInfix
  · exact inside s h

theorem isInfix_of_mem_splitOn (h : s ∈ t.splitOn c) : s <:+: t := by
  rw [List.splitOn_eq_splitOnP] at h
  exact isInfix_of_mem_splitOnP h

theorem isInfix_of_mem_words {word : Word} (h : word ∈ words s) : word <:+: s :=
  isInfix_of_mem_splitOnP (List.mem_filter.1 h).1

theorem mentions_iff_isInfix {needle : Text} : s.mentions needle = true ↔ needle <:+: s := by
  induction s with
  | nil => cases needle <;> simp [mentions, cut?]
  | cons c s ih =>
    rw [List.infix_cons_iff, ← ih, ← List.isPrefixOf_iff_prefix, mentions, cut?]
    split
    · rename_i found
      simp [found]
    · rename_i missing
      simp [missing, mentions]

end ShaderSurface.Text
