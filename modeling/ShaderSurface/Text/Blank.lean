import ShaderSurface.Text.Basic

/-!
# White space and words

Words are the maximal runs of characters other than white space. A word holds no white space, so
taking the words of a text and putting single spaces between them forgets only how the words were
kept apart.
-/

namespace ShaderSurface.Text

/-- The white space that keeps words apart: the space characters, the line and paragraph separators,
and the controls that move the pen or separate units of data. -/
def blanks : List (Nat × Nat) :=
  [(0x09, 0x0D), (0x1C, 0x20), (0x85, 0x85), (0xA0, 0xA0), (0x1680, 0x1680), (0x2000, 0x200A),
   (0x2028, 0x2029), (0x202F, 0x202F), (0x205F, 0x205F), (0x3000, 0x3000)]

def isBlank (c : Char) : Bool :=
  inRanges blanks c

def trim (s : Text) : Text :=
  ((s.dropWhile isBlank).reverse.dropWhile isBlank).reverse

def squeeze (s : Text) : Text :=
  s.filter (!isBlank ·)

def words (s : Text) : List Word :=
  (s.splitOnP isBlank).filter (!·.isEmpty)

theorem squeeze_append (s t : Text) : squeeze (s ++ t) = squeeze s ++ squeeze t := by
  simp [squeeze]

/-- Putting the words together drops the white space and nothing else. -/
theorem flatten_words (s : Text) : (words s).flatten = squeeze s := by
  rw [words, List.flatten_filter_not_isEmpty]
  induction s with
  | nil => rfl
  | cons c rest ih =>
    rw [List.splitOnP_cons_eq_if_modifyHead]
    by_cases blank : isBlank c = true
    · simpa [squeeze, blank] using ih
    · obtain ⟨first, others, pieces⟩ :=
        List.exists_cons_of_ne_nil (List.splitOnP_ne_nil isBlank rest)
      simp only [squeeze] at ih
      simp [squeeze, blank, ← ih, pieces]

theorem isBlank_eq_false_of_mem_words {s : Text} {word : Word} (h : word ∈ words s) {c : Char}
    (hc : c ∈ word) : isBlank c = false := by
  have kept : c ∈ squeeze s := by
    rw [← flatten_words]
    exact List.mem_flatten.2 ⟨word, h, hc⟩
  simpa using (List.mem_filter.1 kept).2

end ShaderSurface.Text
