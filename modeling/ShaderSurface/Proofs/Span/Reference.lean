import Mathlib.Data.List.TakeWhile
import ShaderSurface.Proofs.Text.Decimal
import ShaderSurface.Proofs.Text.Words
import ShaderSurface.Span.Table

/-!
# References into a table of spans

A table only grows at its end, so a place that is filled stays as it is. A reference is looked up by
the number that it shows, whatever white space stands around it; only a numeral of more digits than
can be written is refused.
-/

namespace ShaderSurface.SpanTable

open Text Numeral

variable {table later : SpanTable} {span front back : Text}

/-- The table holds everything that an earlier one holds, in the same places. -/
def Extends (later table : SpanTable) : Prop :=
  table.spans <+: later.spans

theorem Extends.refl (table : SpanTable) : table.Extends table :=
  List.prefix_refl _

theorem Extends.trans {latest : SpanTable} (h : latest.Extends later) (h' : later.Extends table) :
    latest.Extends table :=
  List.IsPrefix.trans h' h

theorem extends_store (span : Text) (table : SpanTable) : (table.store span).2.Extends table :=
  ⟨[span], rfl⟩

theorem Extends.getElem? (h : later.Extends table) {place : Nat}
    (held : table.spans[place]? = some span) : later.spans[place]? = some span := by
  obtain ⟨added, same⟩ := h
  have filled : place < table.spans.length := (List.getElem?_eq_some_iff.1 held).1
  rw [← same, List.getElem?_append_left filled, held]

theorem getElem?_store (span : Text) (table : SpanTable) :
    (table.store span).2.spans[table.size]? = some span := by
  simp [store, size]

theorem isWritable_iff {n : Nat} : isWritable n = true ↔ n < writableBound :=
  decide_eq_true_iff

theorem number_decimal {n : Nat} (writable : isWritable n = true) : number (decimal n) = .ok n := by
  have digits := all_isDigit_decimal n
  have short := length_decimal_le_iff.2 (isWritable_iff.1 writable)
  have leading : ((decimal n).takeWhile fun c => (decimalValue? c).isSome) = decimal n := by
    rw [List.takeWhile_eq_self_iff]
    intro c mem
    rw [decimalValue?_of_isDigit (List.all_eq_true.1 digits c mem)]
    rfl
  rw [number, leading, if_neg (Nat.not_lt.2 short),
    mapM_of_all_isDigit (fun c => decimalValue?_of_isDigit) digits]
  simp only [ofDigits_map]
  rw [decimal, Nat.ofDigitChars_ten_toDigits]

theorem isSolid_decimal (n : Nat) : (decimal n).IsSolid :=
  fun c mem => isBlank_of_isDigit (List.all_eq_true.1 (all_isDigit_decimal n) c mem)

theorem lookup_decimal {place : Nat} (writable : isWritable place = true) (hfront : front.IsGap)
    (hback : back.IsGap) (table : SpanTable) :
    table.lookup [front ++ decimal place ++ back] = .ok table.spans[place]? := by
  have digits : (decimal place).all isDigit = true := by
    rw [List.all_eq_true]
    intro c mem
    have digit := List.all_eq_true.1 (all_isDigit_decimal place) c mem
    exact isDigit_of_decimalValue? (decimalValue?_of_isDigit digit)
  rw [lookup]
  simp only [trim_between_gaps hfront (isSolid_decimal place) hback, digits,
    List.isEmpty_eq_false_iff.2 (decimal_ne_nil place), number_decimal writable]
  rfl

/-- The reference of a stored text is looked up as that text in every table from then on, with any
gaps around it. -/
theorem lookup_store (writable : isWritable table.size = true)
    (h : later.Extends (table.store span).2) (hfront : front.IsGap) (hback : back.IsGap) :
    later.lookup [front ++ (table.store span).1 ++ back] = .ok (some span) := by
  rw [← h.getElem? (getElem?_store span table)]
  exact lookup_decimal writable hfront hback later

end ShaderSurface.SpanTable
