import ShaderSurface.Proofs.Source.BlockComment
import ShaderSurface.Proofs.Source.Lines
import ShaderSurface.Surface

/-!
# Sources with comments

A source with comments consists of pieces of code, without slashes and number signs, with a comment
between each two. Directives and line comments are stripped first, which leaves the block comments
whole; cutting these out then leaves the pieces. So the source is stripped to its pieces, and it is
read as they are (`Source.read_withComments`).
-/

namespace ShaderSurface.Source

open Text

variable {s t kept body first : Text} {c : Char}

inductive Comment where
  | block (body : Text)
  | line (body : Text)
  deriving DecidableEq, Repr

namespace Comment

def text : Comment → Text
  | block body => '/' :: '*' :: (body ++ ['*', '/'])
  | line body => '/' :: '/' :: body

/-- A block comment holds no mark that ends it or starts a line comment, and no number sign; a line
comment stays on its line. -/
def IsWellFormed : Comment → Prop
  | block body => ¬['*', '/'] <:+: body ∧ ¬['/', '/'] <:+: body ∧ '#' ∉ body
  | line body => '\n' ∉ body

instance : DecidablePred IsWellFormed
  | block body =>
    inferInstanceAs (Decidable (¬['*', '/'] <:+: body ∧ ¬['/', '/'] <:+: body ∧ '#' ∉ body))
  | line body => inferInstanceAs (Decidable ('\n' ∉ body))

def isLine : Comment → Bool
  | block _ => false
  | line _ => true

def withoutLine : Comment → Text
  | block body => (block body).text
  | line _ => []

end Comment

/-- The text of pieces of code, the first one and then one behind each comment. -/
def withComments (first : Text) (rest : List (Comment × Text)) : Text :=
  first ++ rest.flatMap fun (comment, piece) => comment.text ++ piece

def withoutComments (first : Text) (rest : List (Comment × Text)) : Text :=
  first ++ rest.flatMap (·.2)

/-- Comments are kept apart: a piece stands between each two of them, and a line comment ends at a
line end or with the text. -/
structure AreApart (rest : List (Comment × Text)) : Prop where
  comments : ∀ x ∈ rest, x.1.IsWellFormed
  pieces : ∀ x ∈ rest, '/' ∉ x.2 ∧ '#' ∉ x.2
  between : ∀ x ∈ rest.dropLast, x.2 ≠ []
  lineEnds : ∀ x ∈ rest, x.1.isLine = true → x.2 = [] ∨ x.2.head? = some '\n'

theorem AreApart.tail {x : Comment × Text} {rest : List (Comment × Text)}
    (h : AreApart (x :: rest)) : AreApart rest where
  comments y mem := h.comments y (List.mem_cons_of_mem x mem)
  pieces y mem := h.pieces y (List.mem_cons_of_mem x mem)
  between y mem := by
    cases rest with
    | nil => cases mem
    | cons z rest => exact h.between y (List.mem_cons_of_mem x mem)
  lineEnds y mem := h.lineEnds y (List.mem_cons_of_mem x mem)

/-- No piece is empty but the last one. -/
theorem AreApart.eq_nil {x : Comment × Text} {rest : List (Comment × Text)}
    (h : AreApart (x :: rest)) (empty : x.2 = []) : rest = [] := by
  cases rest with
  | nil => rfl
  | cons y rest => exact absurd empty (h.between x List.mem_cons_self)

/-- The text has no directive, and this is kept of it without its line comments. -/
structure Sheds (s kept : Text) : Prop where
  directives : ∀ line ∈ lines s, isDirective line = false
  kept : withoutLineComments s = kept

theorem sheds_nil : Sheds [] [] :=
  ⟨by decide, by decide⟩

theorem lines_cons_of_ne (apart : c ≠ '\n') {line : Text} {ls : List Text}
    (whole : lines s = line :: ls) : lines (c :: s) = (c :: line) :: ls := by
  rw [lines, List.splitOn_cons_eq_if_modifyHead, if_neg (by simpa using apart), ← lines, whole]
  rfl

theorem lines_newline_cons (s : Text) : lines ('\n' :: s) = [] :: lines s := by
  rw [lines, List.splitOn_cons_eq_if_modifyHead, if_pos (beq_self_eq_true _)]
  rfl

theorem head?_of_lines {line : Text} {ls : List Text} (whole : lines s = line :: ls)
    (h : line.head? = some c) : s.head? = some c := by
  rw [← unlines_lines s, whole, unlines_cons, List.head?_append, h]
  rfl

theorem head?_trim_cons (solid : isBlank c = false) (s : Text) :
    (trim (c :: s)).head? = some c := by
  obtain ⟨front, back, isGap, isGap', whole⟩ := exists_eq_gap_trim_gap (c :: s)
  have first {gap : Text} (isGap : IsGap gap) (same : gap.head? = some c) : False := by
    rw [isGap c (List.mem_of_mem_head? same)] at solid
    cases solid
  cases front with
  | cons d front =>
    obtain ⟨rfl, -⟩ := List.cons.inj whole
    exact (first isGap rfl).elim
  | nil =>
    cases kept : trim (c :: s) with
    | nil =>
      rw [kept] at whole
      exact (first isGap' (by rw [← List.nil_append back, ← List.append_nil [], ← whole]; rfl)).elim
    | cons d kept' =>
      rw [kept] at whole
      obtain ⟨rfl, -⟩ := List.cons.inj whole
      rfl

theorem isDirective_cons {line : Text} (noSign : c ≠ '#') (h : isDirective line = false) :
    isDirective (c :: line) = false := by
  cases blank : isBlank c with
  | true => rwa [isDirective, ← List.singleton_append, trim_gap_append (by simpa [IsGap])]
  | false => simp [isDirective, head?_trim_cons blank, noSign]

theorem beforeLineComment_cons {line : Text} (opens : c = '/' → line.head? ≠ some '/') :
    beforeLineComment (c :: line) = c :: beforeLineComment line := by
  have missing : ¬['/', '/'].isPrefixOf (c :: line) = true := by
    rw [List.isPrefixOf_iff_prefix]
    intro mark
    obtain ⟨rfl, rest⟩ := List.cons_prefix_cons.1 mark
    obtain ⟨t, rfl⟩ := rest
    exact opens rfl rfl
  unfold beforeLineComment
  rw [cut?, if_neg missing]
  cases cut? line ['/', '/'] <;> rfl

theorem Sheds.cons (noSign : c ≠ '#') (opens : c = '/' → s.head? ≠ some '/') (h : Sheds s kept) :
    Sheds (c :: s) (c :: kept) := by
  obtain ⟨line, ls, whole⟩ := List.exists_cons_of_ne_nil (List.splitOn_ne_nil '\n' s)
  change lines s = line :: ls at whole
  have directives := h.directives
  rw [whole, List.forall_mem_cons] at directives
  have same : unlines (beforeLineComment line :: keptLines ls) = kept := by
    rw [← h.kept, withoutLineComments, whole, keptLines_cons,
      keptLines_of_not_isDirective directives.1, List.singleton_append]
  by_cases newline : c = '\n'
  · subst newline
    have cut : lines ('\n' :: s) = [] :: line :: ls := by rw [lines_newline_cons, whole]
    refine ⟨?_, ?_⟩
    · rw [cut, List.forall_mem_cons, List.forall_mem_cons]
      exact ⟨by decide, directives⟩
    · have empty : keptLines [[]] = [[]] := by decide
      rw [withoutLineComments, cut, keptLines_cons, empty, keptLines_cons,
        keptLines_of_not_isDirective directives.1, ← same]
      rfl
  · have cut := lines_cons_of_ne newline whole
    have here := isDirective_cons noSign directives.1
    refine ⟨?_, ?_⟩
    · rw [cut, List.forall_mem_cons]
      exact ⟨here, directives.2⟩
    · rw [withoutLineComments, cut, keptLines_cons, keptLines_of_not_isDirective here,
        beforeLineComment_cons fun slash => mt (head?_of_lines whole) (opens slash), ← same,
        List.singleton_append, unlines_cons, unlines_cons, List.cons_append]

/-- Text without comment marks and number signs is kept in front of a text, if the two do not make a
mark together. -/
theorem Sheds.append (noSign : '#' ∉ s) (noMark : ¬['/', '/'] <:+: s)
    (seam : s.getLast? = some '/' → t.head? ≠ some '/') (h : Sheds t kept) :
    Sheds (s ++ t) (s ++ kept) := by
  induction s with
  | nil => exact h
  | cons c s ih =>
    rw [List.mem_cons, not_or] at noSign
    rw [List.infix_cons_iff, not_or] at noMark
    rw [List.cons_append, List.cons_append]
    refine Sheds.cons (Ne.symm noSign.1) ?_ (ih noSign.2 noMark.2 fun last => seam ?_)
    · rintro rfl
      cases s with
      | nil => exact seam rfl
      | cons d s =>
        intro next
        obtain rfl := Option.some.inj next
        exact noMark.1 (List.prefix_append ['/', '/'] s)
    · rw [List.getLast?_cons, last]
      rfl

theorem Sheds.lineComment (onLine : '\n' ∉ body) (ends : t = [] ∨ t.head? = some '\n')
    (h : Sheds t kept) : Sheds ((Comment.line body).text ++ t) kept := by
  have free : '\n' ∉ (Comment.line body).text := by simp [Comment.text, onLine]
  have directive : isDirective (Comment.line body).text = false := by
    rw [isDirective, Comment.text, head?_trim_cons (by decide)]
    rfl
  -- the line is kept empty, as the line is that the rest starts with
  have dropped : keptLines [(Comment.line body).text] = [[]] := by
    rw [keptLines_of_not_isDirective directive]
    simp [Comment.text, beforeLineComment, cut?]
  have empty : keptLines [[]] = [[]] := by decide
  obtain ⟨ls, cut, cut'⟩ : ∃ ls, lines t = [] :: ls ∧
      lines ((Comment.line body).text ++ t) = (Comment.line body).text :: ls := by
    rcases ends with rfl | newline
    · exact ⟨[], rfl, by rw [List.append_nil, lines, List.splitOn_eq_singleton free]⟩
    · obtain ⟨t, rfl⟩ := List.head?_eq_some_iff.1 newline
      exact ⟨lines t, lines_newline_cons t, List.splitOn_append_cons_self_of_not_mem free t⟩
  have directives := h.directives
  rw [cut, List.forall_mem_cons] at directives
  refine ⟨?_, ?_⟩
  · rw [cut', List.forall_mem_cons]
    exact ⟨directive, directives.2⟩
  · rw [← h.kept, withoutLineComments, withoutLineComments, cut, cut', keptLines_cons, dropped,
      keptLines_cons [], empty]

theorem Sheds.blockComment (formed : (Comment.block body).IsWellFormed)
    (apart : t.head? ≠ some '/') (h : Sheds t kept) :
    Sheds ((Comment.block body).text ++ t) ((Comment.block body).text ++ kept) := by
  obtain ⟨-, noMark, noSign⟩ := formed
  have closing : Sheds ('*' :: '/' :: t) ('*' :: '/' :: kept) :=
    .cons (by decide) (by simp) (.cons (by decide) (fun _ => apart) h)
  have whole := Sheds.append noSign noMark (by simp) closing
  have opening : Sheds ('/' :: '*' :: (body ++ '*' :: '/' :: t))
      ('/' :: '*' :: (body ++ '*' :: '/' :: kept)) :=
    .cons (by decide) (by simp) (.cons (by decide) (by simp) whole)
  simpa [Comment.text] using opening

theorem withoutBlockComments_body (stays : ¬['*', '/'] <:+: body) (t : Text) :
    withoutBlockComments true (body ++ '*' :: '/' :: t) = withoutBlockComments false t := by
  induction body with
  | nil => exact withoutBlockComments_closing t
  | cons c body ih =>
    rw [List.infix_cons_iff, not_or] at stays
    rw [List.cons_append, withoutBlockComments_dropped, ih stays.2]
    rintro rfl next
    cases body with
    | nil => cases next
    | cons d body =>
      obtain rfl := Option.some.inj next
      exact stays.1 (List.prefix_append ['*', '/'] body)

theorem withoutBlockComments_block (formed : (Comment.block body).IsWellFormed) (t : Text) :
    withoutBlockComments false ((Comment.block body).text ++ t) = withoutBlockComments false t := by
  have closes : mentions (body ++ '*' :: '/' :: t) ['*', '/'] = true :=
    mentions_append_right (mentions_iff_isInfix.2 (List.prefix_append ['*', '/'] t).isInfix) body
  have whole : (Comment.block body).text ++ t = '/' :: '*' :: (body ++ '*' :: '/' :: t) := by
    simp [Comment.text]
  rw [whole, withoutBlockComments_opening closes, withoutBlockComments_body formed.1]

theorem withoutBlockComments_piece (noSlash : '/' ∉ s) (t : Text) :
    withoutBlockComments false (s ++ t) = s ++ withoutBlockComments false t := by
  induction s with
  | nil => rfl
  | cons c s ih =>
    rw [List.mem_cons, not_or] at noSlash
    rw [List.cons_append, withoutBlockComments_kept fun same => absurd same.symm noSlash.1,
      ih noSlash.2, List.cons_append]

theorem not_isInfix_of_not_mem (noSlash : '/' ∉ s) : ¬['/', '/'] <:+: s :=
  fun mark => noSlash (mark.subset List.mem_cons_self)

theorem not_getLast?_of_not_mem (noSlash : '/' ∉ s) : s.getLast? ≠ some '/' :=
  fun last => noSlash (List.mem_of_getLast? last)

theorem sheds_comments {rest : List (Comment × Text)} (h : AreApart rest) :
    Sheds (rest.flatMap fun (comment, piece) => comment.text ++ piece)
      (rest.flatMap fun (comment, piece) => comment.withoutLine ++ piece) := by
  induction rest with
  | nil => exact sheds_nil
  | cons x rest ih =>
    obtain ⟨comment, piece⟩ := x
    obtain ⟨noSlash, noSign⟩ := h.pieces _ List.mem_cons_self
    have formed := h.comments _ List.mem_cons_self
    have others : Sheds _ _ := Sheds.append noSign (not_isInfix_of_not_mem noSlash)
      (fun last => absurd last (not_getLast?_of_not_mem noSlash)) (ih h.tail)
    rw [List.flatMap_cons, List.flatMap_cons, List.append_assoc, List.append_assoc]
    -- an empty piece is the last one
    have start : ∀ c, (piece ++ rest.flatMap fun (comment, piece) => comment.text ++ piece).head? =
        some c → c ∈ piece := by
      intro c first
      cases piece with
      | nil =>
        obtain rfl : rest = [] := h.eq_nil rfl
        cases first
      | cons d piece =>
        obtain rfl := Option.some.inj first
        exact List.mem_cons_self
    cases comment with
    | block body => exact others.blockComment formed fun first => noSlash (start '/' first)
    | line body =>
      refine others.lineComment formed ?_
      rcases h.lineEnds _ List.mem_cons_self rfl with empty | newline
      · obtain rfl : rest = [] := h.eq_nil empty
        exact .inl (by simpa using empty)
      · exact .inr (by rw [List.head?_append, newline]; rfl)

theorem withoutBlockComments_comments {rest : List (Comment × Text)} (h : AreApart rest) :
    withoutBlockComments false
        (rest.flatMap fun (comment, piece) => comment.withoutLine ++ piece) =
      rest.flatMap (·.2) := by
  induction rest with
  | nil => rfl
  | cons x rest ih =>
    obtain ⟨comment, piece⟩ := x
    obtain ⟨noSlash, -⟩ := h.pieces _ List.mem_cons_self
    have formed := h.comments _ List.mem_cons_self
    rw [List.flatMap_cons, List.flatMap_cons, List.append_assoc]
    cases comment with
    | block body =>
      rw [Comment.withoutLine, withoutBlockComments_block formed,
        withoutBlockComments_piece noSlash, ih h.tail]
    | line body =>
      rw [Comment.withoutLine, List.nil_append, withoutBlockComments_piece noSlash, ih h.tail]

/-- A source with comments is stripped to its pieces. -/
theorem stripComments_withComments {rest : List (Comment × Text)}
    (plain : '/' ∉ first ∧ '#' ∉ first) (h : AreApart rest) :
    stripComments (withComments first rest) = withoutComments first rest := by
  obtain ⟨noSlash, noSign⟩ := plain
  have shed := Sheds.append noSign (not_isInfix_of_not_mem noSlash)
    (fun last => absurd last (not_getLast?_of_not_mem noSlash)) (sheds_comments h)
  rw [withComments, stripComments_eq, shed.kept, withoutBlockComments_piece noSlash,
    withoutBlockComments_comments h, withoutComments]

theorem not_mem_withoutComments {rest : List (Comment × Text)} (free : c ∉ first)
    (h : ∀ x ∈ rest, c ∉ x.2) : c ∉ withoutComments first rest := by
  rw [withoutComments, List.mem_append, List.mem_flatMap]
  rintro (mem | ⟨x, inside, mem⟩)
  · exact free mem
  · exact h x inside mem

/-- Comments are stripped exactly, and a source is read as it is without them. -/
theorem read_withComments {rest : List (Comment × Text)} (plain : '/' ∉ first ∧ '#' ∉ first)
    (h : AreApart rest) :
    stripComments (withComments first rest) = withoutComments first rest ∧
      Surface.read (withComments first rest) = Surface.read (withoutComments first rest) := by
  have stripped := stripComments_withComments plain h
  have kept : stripComments (withoutComments first rest) = withoutComments first rest :=
    stripComments_of_not_mem
      (not_mem_withoutComments plain.1 fun x mem => (h.pieces x mem).1)
      (not_mem_withoutComments plain.2 fun x mem => (h.pieces x mem).2)
  refine ⟨stripped, ?_⟩
  rw [Surface.read, Surface.read, Surface.setAside, Surface.setAside, stripped, kept]

/-- The block comments have parts of marks at their ends, and the line comments hold marks of both
kinds, a number sign and a declaration. -/
theorem read_withComments_marks :
    let source :=
      "in /*/ ***/ vec3 a; // out vec4 b; /* #\nuniform /**\n*/float f[2];//#*/".toList
    let first := "in ".toList
    let rest := [
      (Comment.block "/ **".toList, " vec3 a; ".toList),
      (Comment.line " out vec4 b; /* #".toList, "\nuniform ".toList),
      (Comment.block "*\n".toList, "float f[2];".toList),
      (Comment.line "#*/".toList, [])]
    let plain := "in  vec3 a; \nuniform float f[2];".toList
    let a : Declaration := {
      qualifier := .input, type := .value (.vector .float .three), name := "a" }
    let f : Declaration := {
      qualifier := .uniform, type := .value (.scalar .float), name := "f", amount := 2 }
    withComments first rest = source ∧ withoutComments first rest = plain ∧
      ('/' ∉ first ∧ '#' ∉ first) ∧ AreApart rest ∧ stripComments source = plain ∧
      Surface.read source = Surface.read plain ∧ Surface.read plain = .ok [a, f] := by
  intro source first rest plain a f
  have text : withComments first rest = source := by decide +kernel
  have pieces : withoutComments first rest = plain := by decide +kernel
  have free : '/' ∉ first ∧ '#' ∉ first := by decide +kernel
  have apart : AreApart rest :=
    ⟨by decide +kernel, by decide +kernel, by decide +kernel, by decide +kernel⟩
  obtain ⟨stripped, alike⟩ := read_withComments free apart
  rw [text, pieces] at stripped alike
  exact ⟨text, pieces, free, apart, stripped, alike, by decide +kernel⟩

end ShaderSurface.Source
