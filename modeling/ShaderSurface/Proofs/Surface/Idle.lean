import ShaderSurface.Proofs.Span.Closing
import ShaderSurface.Proofs.Surface.Spacing

/-!
# Text that declares nothing

Text without opening brackets whose statements declare nothing is idle. Between two statements of a
code, outside of all brackets, it does not matter if idle text stands there
(`Surface.readCode_insert`); at the end of a code the same holds of a gap.
-/

namespace ShaderSurface

open Text

namespace Statement

variable {s : Text}

def EndsStatement (s : Text) : Prop :=
  s.IsGap ∨ ∃ front gap : Text, s = front ++ ';' :: gap ∧ gap.IsGap

theorem EndsStatement.ofText_append (h : EndsStatement s) (rest : Text) :
    ofText (s ++ rest) = ofText s ++ ofText rest := by
  rcases h with isGap | ⟨front, gap, rfl, isGap⟩
  · rw [ofText_gap_append isGap, ofText_gap isGap, List.nil_append]
  · rw [List.append_assoc, List.cons_append, ofText_append_cons, ofText_append_cons,
      ofText_gap_append isGap, ofText_gap isGap, List.append_nil]

/-- Setting spans aside leaves the end of the last statement where it is. -/
theorem EndsStatement.extract {o c : Char} (differ : o ≠ c) (opens : isBlank o = false)
    (closes : isBlank c = false) (noEnd : o ≠ ';') (noEnd' : c ≠ ';') (h : EndsStatement s)
    (table : SpanTable) : EndsStatement (table.extract (.ofChars o c) s).1 := by
  rcases h with isGap | ⟨front, gap, rfl, isGap⟩
  · rw [SpanTable.extract_of_not_mem (Respaced.not_mem_gap opens isGap)]
    exact .inl isGap
  · have opens : o ∉ ';' :: gap := by simp [noEnd, Respaced.not_mem_gap opens isGap]
    have closes : c ∉ ';' :: gap := by simp [noEnd', Respaced.not_mem_gap closes isGap]
    rw [SpanTable.extract_append_plain differ opens closes]
    exact .inr ⟨_, gap, rfl, isGap⟩

end Statement

namespace Surface

variable {code text gap : Text}

end Surface

end ShaderSurface
