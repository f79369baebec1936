/-!
# Text as a list of characters

Text that is searched and cut up is a list of characters. The first occurrence of a needle cuts a
text in two (`Text.cut?`), and cutting at every occurrence gives the pieces between them
(`Text.pieces`).
-/

namespace ShaderSurface

/-- A text, as the list of its characters. -/
abbrev Text := List Char

/-- A run of characters that is read as one unit. -/
abbrev Word := Text

namespace Text

def inRanges (ranges : List (Nat × Nat)) (c : Char) : Bool :=
  ranges.any fun (first, last) => first ≤ c.toNat && c.toNat ≤ last

/-- The texts before and after the first occurrence of a needle. -/
def cut? : (s needle : Text) → Option (Text × Text)
  | [], needle => if needle.isEmpty then some ([], []) else none
  | c :: rest, needle =>
    if needle.isPrefixOf (c :: rest) then
      some ([], (c :: rest).drop needle.length)
    else
      (cut? rest needle).map fun (before, after) => (c :: before, after)

/-- The needle occurs in the text. -/
def mentions (s needle : Text) : Bool :=
  (s.cut? needle).isSome

def position? (s needle : Text) : Option Nat :=
  (s.cut? needle).map (·.1.length)

/-- The pieces of a text when its first `skipped` characters still belong to a needle. -/
def piecesAfter (needle : Text) (skipped : Nat) : Text → List Text
  | [] => [[]]
  | c :: rest =>
    match skipped with
    | skipped + 1 => piecesAfter needle skipped rest
    | 0 =>
      if needle.isPrefixOf (c :: rest) then
        [] :: piecesAfter needle (needle.length - 1) rest
      else
        (piecesAfter needle 0 rest).modifyHead (c :: ·)

/-- The pieces of a text between the occurrences of a non-empty needle. Occurrences are found from
the left and do not overlap. -/
def pieces (s needle : Text) : List Text :=
  piecesAfter needle 0 s

/-- The lines of a text, without their ends. A text has one line more than it has line ends. -/
def lines (s : Text) : List Text :=
  s.splitOn '\n'

def unlines (ls : List Text) : Text :=
  ['\n'].intercalate ls

theorem eq_of_cut? {s needle before after : Text} (h : s.cut? needle = some (before, after)) :
    s = before ++ needle ++ after := by
  induction s generalizing before with
  | nil =>
    simp only [cut?, List.isEmpty_iff] at h
    split at h <;> simp_all
  | cons c rest ih =>
    simp only [cut?] at h
    split at h
    · rename_i found
      obtain ⟨rest', joined⟩ := List.isPrefixOf_iff_prefix.1 found
      simp only [Option.some.injEq, Prod.mk.injEq] at h
      obtain ⟨rfl, rfl⟩ := h
      simp [← joined]
    · obtain ⟨⟨front, back⟩, found, same⟩ := Option.map_eq_some_iff.1 h
      simp only [Prod.mk.injEq] at same
      obtain ⟨rfl, rfl⟩ := same
      simp [ih found]

theorem mentions_singleton (s : Text) (c : Char) : s.mentions [c] = s.contains c := by
  unfold mentions
  induction s with
  | nil => simp [cut?]
  | cons d rest ih =>
    by_cases same : c = d
    · simp [cut?, same]
    · simp [cut?, same, ih]

theorem cut?_singleton (s : Text) (c : Char) :
    s.cut? [c] =
      if c ∈ s then some (s.takeWhile (· ≠ c), (s.dropWhile (· ≠ c)).tail) else none := by
  induction s with
  | nil => simp [cut?]
  | cons d rest ih =>
    by_cases same : c = d
    · simp [cut?, same]
    · by_cases mem : c ∈ rest <;> simp [cut?, same, Ne.symm same, ih, mem]

theorem pieces_singleton (s : Text) (c : Char) : s.pieces [c] = s.splitOn c := by
  unfold pieces
  induction s with
  | nil => simp [piecesAfter]
  | cons d rest ih =>
    rw [List.splitOn_eq_splitOnP, List.splitOnP_cons_eq_if_modifyHead, ← List.splitOn_eq_splitOnP]
    by_cases same : c = d
    · subst same
      simpa [piecesAfter] using ih
    · simp [piecesAfter, same, Ne.symm same, ih]

end Text

end ShaderSurface
