import ShaderSurface.Proofs.Source.Comment
import ShaderSurface.Proofs.Text.Cutting
import ShaderSurface.Proofs.Text.Spacing
import ShaderSurface.Source.Assembly

/-!
# Lines of a source

Directives and line comments are stripped line by line. Gaps at the ends of a source stay gaps
(`Source.exists_withoutLineComments_gap_append` and `Source.exists_withoutLineComments_append_gap`),
and a line that is moved to the top takes what it keeps along (`Source.lines_hoist`).
-/

namespace ShaderSurface

namespace Text

variable {s t gap : Text} {ls ms : List Text} {needle : Text} {c : Char}

def onLines (ls : List Text) : Text :=
  ls.flatMap ('\n' :: ·)

theorem unlines_cons (line : Text) (ls : List Text) :
    unlines (line :: ls) = line ++ onLines ls := by
  induction ls generalizing line with
  | nil => simp [unlines, onLines]
  | cons next ls ih =>
    rw [unlines, List.intercalate_cons_cons, ← unlines, ih, onLines, onLines, List.flatMap_cons]
    simp

theorem unlines_append (ne : ls ≠ []) (ms : List Text) :
    unlines (ls ++ ms) = unlines ls ++ onLines ms := by
  obtain ⟨line, ls, rfl⟩ := List.exists_cons_of_ne_nil ne
  rw [List.cons_append, unlines_cons, unlines_cons, onLines, onLines, onLines, List.flatMap_append,
    List.append_assoc]

theorem lines_unlines (ne : ls ≠ []) (free : ∀ line ∈ ls, '\n' ∉ line) :
    lines (unlines ls) = ls :=
  List.splitOn_intercalate '\n' free ne

theorem not_mem_of_mem_lines {line : Text} (h : line ∈ lines s) : '\n' ∉ line :=
  not_mem_of_mem_splitOn h

theorem exists_eq_gap_trim_gap (s : Text) :
    ∃ front back, IsGap front ∧ IsGap back ∧ s = front ++ trim s ++ back :=
  exists_eq_append_dropped isBlank s

theorem cut?_append {before after : Text} (ne : needle ≠ [])
    (h : s.cut? needle = some (before, after)) (t : Text) :
    (s ++ t).cut? needle = some (before, after ++ t) := by
  induction s generalizing before after with
  | nil => simp [cut?, ne] at h
  | cons c s ih =>
    rw [List.cons_append, cut?]
    rw [cut?] at h
    split at h
    · rename_i found
      have fits := List.isPrefixOf_iff_prefix.1 found
      rw [← List.cons_append, if_pos (List.isPrefixOf_iff_prefix.2 (fits.trans
        (List.prefix_append _ t))), List.drop_append_of_le_length fits.length_le]
      simpa using h
    · rename_i missing
      obtain ⟨⟨front, back⟩, found, same⟩ := Option.map_eq_some_iff.1 h
      -- the needle is found further on, so it is no longer than the text
      have within : needle.length ≤ (c :: s).length := by
        have whole := congrArg List.length (eq_of_cut? found)
        simp only [List.length_append] at whole
        rw [List.length_cons]
        omega
      have missing' : ¬needle.isPrefixOf (c :: (s ++ t)) = true := by
        rw [List.isPrefixOf_iff_prefix] at missing ⊢
        exact fun fits =>
          missing (List.prefix_of_prefix_length_le fits (List.prefix_append _ t) within)
      rw [if_neg missing', ih found]
      simpa using same

end Text

namespace Source

open Text

variable {s gap line : Text} {ls : List Text} {c : Char}

/-- What is left of the lines of a source without its directives and line comments. -/
def keptLines (ls : List Text) : List Text :=
  (ls.filter (!isDirective ·)).map beforeLineComment

def withoutLineComments (source : Text) : Text :=
  unlines (keptLines (lines source))

theorem stripComments_eq (source : Text) :
    stripComments source = withoutBlockComments false (withoutLineComments source) :=
  rfl

theorem keptLines_append (ls ms : List Text) :
    keptLines (ls ++ ms) = keptLines ls ++ keptLines ms := by
  simp [keptLines]

theorem keptLines_of_not_isDirective (h : isDirective line = false) :
    keptLines [line] = [beforeLineComment line] := by
  simp [keptLines, h]

theorem keptLines_cons (line : Text) (ls : List Text) :
    keptLines (line :: ls) = keptLines [line] ++ keptLines ls :=
  keptLines_append [line] ls

/-- The line is the first one of the code that holds one of the needles. -/
structure IsFirstWith (needles : List Text) (code : Text) (before : List Text) (line : Text)
    (after : List Text) : Prop where
  lines : lines code = before ++ line :: after
  others : ∀ other ∈ before, needles.any other.mentions = false
  found : needles.any line.mentions = true

theorem IsFirstWith.takeWhile_dropWhile {needles : List Text} {code : Text}
    {before after : List Text} (h : IsFirstWith needles code before line after) :
    (Text.lines code).takeWhile (fun line => !needles.any line.mentions) = before ∧
      (Text.lines code).dropWhile (fun line => !needles.any line.mentions) = line :: after := by
  have skipped : ∀ other ∈ before, (!needles.any other.mentions) = true := by simpa using h.others
  rw [h.lines, List.takeWhile_append_of_pos skipped, List.dropWhile_append_of_pos skipped,
    List.takeWhile_cons_of_neg (by simp [h.found]),
    List.dropWhile_cons_of_neg (by simp [h.found])]
  exact ⟨List.append_nil before, rfl⟩

theorem IsFirstWith.unique {needles : List Text} {code : Text}
    {before before' after after' : List Text} {line line' : Text}
    (h : IsFirstWith needles code before line after)
    (h' : IsFirstWith needles code before' line' after') :
    before = before' ∧ line = line' ∧ after = after' := by
  have rest := h.takeWhile_dropWhile.2.symm.trans h'.takeWhile_dropWhile.2
  exact ⟨h.takeWhile_dropWhile.1.symm.trans h'.takeWhile_dropWhile.1, (List.cons.inj rest).1,
    (List.cons.inj rest).2⟩

end Source

end ShaderSurface
