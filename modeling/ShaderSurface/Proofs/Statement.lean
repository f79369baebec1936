import ShaderSurface.Proofs.Text.Cutting
import ShaderSurface.Proofs.Text.Parts
import ShaderSurface.Proofs.Text.Words
import ShaderSurface.Statement

/-!
# Statements of a text

A text that is put together from parts that end in semicolons, and hold none, is cut into the words
of the parts.
-/

namespace ShaderSurface

namespace Text

theorem words_ne_nil {s : Text} {c : Char} (mem : c ∈ s) (solid : isBlank c = false) :
    words s ≠ [] := by
  intro none
  have kept : c ∈ squeeze s := List.mem_filter.2 ⟨mem, by simp [solid]⟩
  rw [← flatten_words, none] at kept
  cases kept

end Text

namespace Statement

open Text

theorem isInfix_of_mem_ofText {code : Text} {statement : Statement} (h : statement ∈ ofText code)
    {word : Word} (mem : word ∈ statement) : word <:+: code ∧ word.IsSolid := by
  obtain ⟨piece, cut, rfl⟩ := List.mem_map.1 (List.mem_filter.1 h).1
  exact ⟨(isInfix_of_mem_words mem).trans (isInfix_of_mem_splitOn cut),
    fun c inside => isBlank_eq_false_of_mem_words mem inside⟩

theorem isInfix_of_part {code : Text} {statement : Statement} (h : statement ∈ ofText code)
    {word : Word} (part : ∃ whole ∈ statement, word <:+: whole) :
    word <:+: code ∧ word.IsSolid := by
  obtain ⟨whole, mem, inside⟩ := part
  have ⟨inCode, solid⟩ := isInfix_of_mem_ofText h mem
  exact ⟨inside.trans inCode, fun c hc => solid c (inside.subset hc)⟩

theorem ofText_append {s : Text} (ends : ';' ∉ s) (ne : words s ≠ []) (rest : Text) :
    ofText (s ++ ';' :: rest) = words s :: ofText rest := by
  rw [ofText, List.splitOn_append_cons_self_of_not_mem ends, List.map_cons,
    List.filter_cons_of_pos (by simpa using ne)]
  rfl

theorem not_mem_gap {gap : Text} (hgap : gap.IsGap) : ';' ∉ gap :=
  fun mem => absurd (hgap ';' mem) (by decide)

theorem ofText_gap {gap : Text} (hgap : gap.IsGap) : ofText gap = [] := by
  rw [ofText, List.splitOn_eq_singleton (not_mem_gap hgap), List.map_singleton, words_gap hgap]
  rfl

theorem ofText_gap_append {gap : Text} (hgap : gap.IsGap) (rest : Text) :
    ofText (gap ++ rest) = ofText rest := by
  obtain ⟨first, others, pieces⟩ := List.exists_cons_of_ne_nil (List.splitOn_ne_nil ';' rest)
  rw [ofText, ofText, splitOn_append_of_not_mem (not_mem_gap hgap) pieces, pieces, List.map_cons,
    List.map_cons, words_gap_append hgap]

theorem ofText_append_cons (s rest : Text) :
    ofText (s ++ ';' :: rest) = ofText s ++ ofText rest := by
  rw [ofText, List.splitOn_append_cons_self, List.map_append, List.filter_append]
  rfl

theorem ofText_flatMap {α : Type} {part : α → Text} {xs : List α} (ends : ∀ x ∈ xs, ';' ∉ part x)
    (ne : ∀ x ∈ xs, words (part x) ≠ []) {between last : Text} (hbetween : between.IsGap)
    (hlast : last.IsGap) :
    ofText (xs.flatMap (fun x => part x ++ ';' :: between) ++ last) =
      xs.map fun x => words (part x) := by
  induction xs with
  | nil => exact ofText_gap hlast
  | cons x xs ih =>
    obtain ⟨endsFirst, ends⟩ := List.forall_mem_cons.1 ends
    obtain ⟨neFirst, ne⟩ := List.forall_mem_cons.1 ne
    rw [List.flatMap_cons, List.append_assoc, List.append_assoc, List.cons_append,
      ofText_append endsFirst neFirst, ofText_gap_append hbetween, ih ends ne, List.map_cons]

/-- The texts between semicolons whose words pass a test. -/
def texts (test : Statement → Bool) (code : Text) : List Text :=
  (code.splitOn ';').filter fun s => !(words s).isEmpty && test (words s)

theorem select_eq_map_texts (test : Statement → Bool) (code : Text) :
    select test code = (texts test code).map words := by
  rw [select, ofText, List.filter_filter, List.filter_map, texts]
  congr 2
  funext s
  exact Bool.and_comm _ _

end Statement

end ShaderSurface
