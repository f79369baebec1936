import ShaderSurface.Proofs.Span.Chunks

/-!
# Setting the brackets of closed texts aside

A text is closed if a closing delimiter follows each opening one. What stands behind a closed text
is then set aside as if it stood alone (`SpanTable.extract_closed_append`), and what stands behind
any text is left alone if it holds no delimiter (`SpanTable.extract_append_plain`).
-/

namespace ShaderSurface

namespace Text

variable {o c : Char} {s t : Text}

def IsClosed (o c : Char) (s : Text) : Prop :=
  ∀ front back, s = front ++ o :: back → c ∈ back

theorem IsClosed.of_append (h : IsClosed o c (s ++ t)) : IsClosed o c t := by
  rintro front back rfl
  exact h (s ++ front) back (List.append_assoc s front (o :: back)).symm

theorem IsClosed.tail (h : IsClosed o c (o :: s)) : c ∈ s :=
  h [] s rfl

/-- How a text is made of its delimiters: at each opening one the next delimiter is a closing one,
another opening one, or missing. -/
inductive Bracketing (o c : Char) : Text → Prop
  | plain {s : Text} (free : o ∉ s) : Bracketing o c s
  | front {s t : Text} (free : o ∉ s) (rest : Bracketing o c (o :: t)) :
    Bracketing o c (s ++ o :: t)
  | empty {t : Text} (rest : Bracketing o c t) : Bracketing o c (o :: c :: t)
  | span {s t : Text} (ne : s ≠ []) (opens : o ∉ s) (closes : c ∉ s) (rest : Bracketing o c t) :
    Bracketing o c (o :: (s ++ c :: t))
  | reopened {s t : Text} (opens : o ∉ s) (closes : c ∉ s) (rest : Bracketing o c (o :: t)) :
    Bracketing o c (o :: (s ++ o :: t))
  | unclosed {s : Text} (opens : o ∉ s) (closes : c ∉ s) : Bracketing o c (o :: s)

theorem exists_first_delimiter (o c : Char) (s : Text) :
    ∃ front rest, s = front ++ rest ∧ o ∉ front ∧ c ∉ front ∧
      (rest = [] ∨ ∃ t, rest = o :: t ∨ rest = c :: t) := by
  induction s with
  | nil => exact ⟨[], [], rfl, List.not_mem_nil, List.not_mem_nil, .inl rfl⟩
  | cons d s ih =>
    by_cases opens : o = d
    · exact ⟨[], d :: s, rfl, List.not_mem_nil, List.not_mem_nil, .inr ⟨s, .inl (opens ▸ rfl)⟩⟩
    by_cases closes : c = d
    · exact ⟨[], d :: s, rfl, List.not_mem_nil, List.not_mem_nil, .inr ⟨s, .inr (closes ▸ rfl)⟩⟩
    obtain ⟨front, rest, rfl, free, free', next⟩ := ih
    exact ⟨d :: front, rest, rfl, by simp [opens, free], by simp [closes, free'], next⟩

theorem bracketing (o c : Char) (s : Text) : Bracketing o c s := by
  induction hn : s.length using Nat.strong_induction_on generalizing s with
  | _ n ih =>
    subst hn
    by_cases mem : o ∈ s
    · obtain ⟨front, t, rfl, free⟩ := List.eq_append_cons_of_mem mem
      cases front with
      | cons d front =>
        have shorter : (o :: t).length < (d :: front ++ o :: t).length := by
          simp only [List.length_append, List.length_cons]
          omega
        exact .front free (ih _ shorter _ rfl)
      | nil =>
        obtain ⟨mid, rest, rfl, opens, closes, rfl | ⟨t, rfl | rfl⟩⟩ :=
          exists_first_delimiter o c t
        · rw [List.append_nil]
          exact .unclosed opens closes
        · have shorter : (o :: t).length < ([] ++ o :: (mid ++ o :: t)).length := by
            simp only [List.length_append, List.length_cons]
            omega
          exact .reopened opens closes (ih _ shorter _ rfl)
        · have shorter : t.length < ([] ++ o :: (mid ++ c :: t)).length := by
            simp only [List.length_append, List.length_cons]
            omega
          have rest : Bracketing o c t := ih _ shorter _ rfl
          by_cases empty : mid = []
          · subst empty
            exact .empty rest
          · exact .span empty opens closes rest
    · exact .plain mem

end Text

namespace SpanTable

open Delimiters Text

variable {o c : Char} {s t : Text}

theorem extract_reopened {mid : Text} (opens : o ∉ mid) (closes : c ∉ mid) (rest : Text)
    (table : SpanTable) :
    table.extract (ofChars o c) (o :: (mid ++ o :: rest)) =
      (o :: (mid ++ (table.extract (ofChars o c) (o :: rest)).1),
        (table.extract (ofChars o c) (o :: rest)).2) := by
  obtain ⟨first, others, pieces⟩ := List.exists_cons_of_ne_nil (List.splitOn_ne_nil o rest)
  have cut : (mid ++ o :: rest).splitOn o = mid :: first :: others := by
    rw [List.splitOn_append_cons_self_of_not_mem opens, pieces]
  have none : (ofChars o c).span? mid = none := by
    simp [span?, ofChars, cut?_of_not_mem closes]
  rw [extract_opening cut, extract_opening pieces, extractEach_cons_of_none none]
  have ne : (table.extractEach (ofChars o c) (first :: others)).1 ≠ [] := by
    cases found : (ofChars o c).span? first with
    | none => simp [extractEach_cons_of_none found]
    | some pair => simp [extractEach_cons_of_span? found]
  rw [List.intercalate_cons_of_ne_nil ne]
  simp

theorem extract_unclosed (opens : o ∉ s) (closes : c ∉ s) (table : SpanTable) :
    table.extract (ofChars o c) (o :: s) = (o :: s, table) := by
  have cut : s.splitOn o = [s] := List.splitOn_eq_singleton opens
  have none : (ofChars o c).span? s = none := by
    simp [span?, ofChars, cut?_of_not_mem closes]
  rw [extract_opening cut, extractEach_cons_of_none none]
  simp [extractEach]

/-- Behind a closed text spans are set aside as if it did not stand there, and so they are in text
without a delimiter behind any text. -/
theorem extract_append_apart (differ : o ≠ c) {rest : Text}
    (apart : IsClosed o c s ∨ o ∉ rest ∧ c ∉ rest) (table : SpanTable) :
    table.extract (ofChars o c) (s ++ rest) =
      ((table.extract (ofChars o c) s).1 ++
          ((table.extract (ofChars o c) s).2.extract (ofChars o c) rest).1,
        ((table.extract (ofChars o c) s).2.extract (ofChars o c) rest).2) := by
  have brackets := bracketing o c s
  induction brackets generalizing table with
  | plain free => rw [extract_append free, extract_of_not_mem free]
  | @front s t free _ ih =>
    rw [List.append_assoc, extract_append free, extract_append free,
      ih (apart.imp_left .of_append)]
    simp
  | @empty t _ ih =>
    have apart : IsClosed o c t ∨ o ∉ rest ∧ c ∉ rest :=
      apart.imp_left (IsClosed.of_append (s := [o, c]))
    simp only [List.cons_append, extract_empty differ, ih apart]
  | @span s t ne opens closes _ ih =>
    have apart : IsClosed o c t ∨ o ∉ rest ∧ c ∉ rest := by
      refine apart.imp_left fun closed => IsClosed.of_append (s := o :: (s ++ [c])) ?_
      simpa using closed
    simp only [List.cons_append, List.append_assoc, extract_span differ ne opens closes, ih apart]
  | @reopened s t opens closes _ ih =>
    have apart : IsClosed o c (o :: t) ∨ o ∉ rest ∧ c ∉ rest :=
      apart.imp_left fun closed => IsClosed.of_append (s := o :: s) (by simpa using closed)
    have whole := ih apart table
    rw [List.cons_append] at whole
    simp only [List.cons_append, List.append_assoc, extract_reopened opens closes, whole]
  | @unclosed s opens closes =>
    -- the open delimiter would be closed by one of the rest, so there must be none
    obtain ⟨opens', closes'⟩ := apart.resolve_left fun closed => closes closed.tail
    have opens'' : o ∉ s ++ rest := by simp [opens, opens']
    have closes'' : c ∉ s ++ rest := by simp [closes, closes']
    rw [List.cons_append, extract_unclosed opens'' closes'', extract_unclosed opens closes,
      extract_of_not_mem opens']
    rfl

theorem extract_append_plain (differ : o ≠ c) (opens : o ∉ t) (closes : c ∉ t) (s : Text)
    (table : SpanTable) :
    table.extract (ofChars o c) (s ++ t) =
      ((table.extract (ofChars o c) s).1 ++ t, (table.extract (ofChars o c) s).2) := by
  rw [extract_append_apart differ (.inr ⟨opens, closes⟩), extract_of_not_mem opens]

end SpanTable

end ShaderSurface
