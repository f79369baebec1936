import Mathlib.Data.Option.Basic
import ShaderSurface.Text.Blank
import ShaderSurface.Text.Numeral

/-!
# Numerals of ASCII digits

An ASCII digit has the value that it shows in every reading of numerals. So a run of such digits is
read as the number that it shows, unless it has more digits than a numeral may have; in particular
the decimal numeral of a number is read back as that number.
-/

namespace ShaderSurface

namespace Text

theorem decimalValue?_of_isDigit {c : Char} (h : c.isDigit = true) :
    decimalValue? c = some (c.toNat - '0'.toNat) := by
  have bounds := Char.isDigit_iff_toNat.1 h
  simp only [Char.reduceToNat] at bounds
  rw [decimalValue?, decimalZeros, List.find?_cons_of_pos]
  · rfl
  · simp only [Bool.and_eq_true, decide_eq_true_eq]
    omega

theorem isDigit_ascii_eq_false {c : Char} (h : isDigit c = false) : c.isDigit = false := by
  rw [Bool.eq_false_iff]
  intro digit
  rw [isDigit_of_decimalValue? (decimalValue?_of_isDigit digit)] at h
  cases h

theorem isBlank_of_isDigit {c : Char} (h : c.isDigit = true) : isBlank c = false := by
  have bounds := Char.isDigit_iff_toNat.1 h
  simp only [Char.reduceToNat] at bounds
  simp only [isBlank, inRanges, blanks, List.any_cons, List.any_nil, Bool.or_false,
    Bool.or_eq_false_iff, Bool.and_eq_false_imp, decide_eq_true_eq, decide_eq_false_iff_not]
  omega

theorem mapM_of_all_isDigit {value? : Char → Option Nat}
    (digit : ∀ c : Char, c.isDigit = true → value? c = some (c.toNat - '0'.toNat)) {s : Text}
    (h : s.all Char.isDigit = true) :
    s.mapM value? = some (s.map fun c => c.toNat - '0'.toNat) := by
  induction s with
  | nil => rfl
  | cons c s ih =>
    simp only [List.all_cons, Bool.and_eq_true] at h
    simp [digit c h.1, ih h.2]

end Text

namespace Numeral

open Text

theorem ofDigits_map (s : Text) :
    ofDigits 10 (s.map fun c => c.toNat - '0'.toNat) = Nat.ofDigitChars 10 s 0 := by
  simp only [ofDigits, Nat.ofDigitChars_eq_foldl, List.foldl_map, Nat.mul_comm]

theorem digitValue?_ten_of_isDigit {c : Char} (h : c.isDigit = true) :
    digitValue? 10 c = some (c.toNat - '0'.toNat) := by
  have value := decimalValue?_of_isDigit h
  have small := decimalValue?_lt value
  rw [digitValue?, value]
  exact Option.filter_eq_some_iff.2 ⟨rfl, decide_eq_true small⟩

theorem digits?_of_not_mem {base : Nat} {s : Text} (ne : s ≠ []) (ungrouped : '_' ∉ s) :
    digits? base s = s.mapM (digitValue? base) := by
  have filled : [s].any List.isEmpty = false := by simp [ne]
  simp only [digits?, List.splitOn_eq_singleton ungrouped, filled, List.flatten_singleton]
  rfl

theorem digits?_of_all_isDigit {s : Text} (ne : s ≠ []) (h : s.all Char.isDigit = true) :
    digits? 10 s = some (s.map fun c => c.toNat - '0'.toNat) := by
  have ungrouped : '_' ∉ s := by
    intro mem
    exact absurd (List.all_eq_true.1 h _ mem) (by decide)
  rw [digits?_of_not_mem ne ungrouped, mapM_of_all_isDigit (fun c => digitValue?_ten_of_isDigit) h]

theorem decimal?_of_all_isDigit {s : Text} (ne : s ≠ []) (h : s.all Char.isDigit = true) :
    decimal? s = if s.length ≤ maxDigits then some (Nat.ofDigitChars 10 s 0) else none := by
  rw [decimal?, digits?_of_all_isDigit ne h, Option.bind_eq_bind, Option.bind_some, ofDigits_map,
    List.length_map]

theorem based?_of_forall {s : Text} (h : ∀ c ∈ s, baseOfLetter? c = none) : based? s = none := by
  unfold based?
  split
  · rename_i zero letter rest
    have noBase : baseOfLetter? letter = none := h letter (by simp)
    by_cases value : decimalValue? zero = some 0 <;> simp [guard, value, noBase]
  · rfl

theorem baseOfLetter?_of_isDigit {c : Char} (digit : c.isDigit = true) :
    baseOfLetter? c = none := by
  rw [baseOfLetter?, if_neg, if_neg, if_neg] <;> rintro (rfl | rfl) <;>
    exact absurd digit (by decide)

theorem based?_of_all_isDigit {s : Text} (h : s.all Char.isDigit = true) : based? s = none :=
  based?_of_forall fun c mem => baseOfLetter?_of_isDigit (List.all_eq_true.1 h c mem)

theorem signed?_of_all_isDigit (unsigned? : Text → Option Nat) {s : Text}
    (h : s.all Char.isDigit = true) : signed? unsigned? s = (unsigned? s).map Int.ofNat := by
  unfold signed?
  split
  · simp at h
  · simp at h
  · rfl

/-- A run of digits is read as the number that it shows, unless it is too long. -/
theorem integer?_of_all_isDigit {s : Text} (ne : s ≠ []) (h : s.all Char.isDigit = true) :
    integer? s = if s.length ≤ maxDigits then some ↑(Nat.ofDigitChars 10 s 0) else none := by
  rw [integer?, signed?_of_all_isDigit _ h, signed?_of_all_isDigit _ h, based?_of_all_isDigit h,
    decimal?_of_all_isDigit ne h]
  split <;> simp

theorem decimal_ne_nil (n : Nat) : decimal n ≠ [] :=
  Nat.toDigits_ne_nil

theorem decimal_injective : Function.Injective decimal := by
  intro m n same
  have shown := congrArg (fun s => Nat.ofDigitChars 10 s 0) same
  simpa only [decimal, Nat.ofDigitChars_ten_toDigits] using shown

theorem all_isDigit_decimal (n : Nat) : (decimal n).all Char.isDigit = true := by
  rw [List.all_eq_true]
  intro c mem
  exact Nat.isDigit_of_mem_toDigits (by decide : 0 < 10) (by decide) mem

theorem not_mem_decimal {x : Char} (h : x.isDigit = false) (n : Nat) : x ∉ decimal n := by
  intro mem
  have digit := List.all_eq_true.1 (all_isDigit_decimal n) x mem
  simp [digit] at h

theorem length_decimal_le {n digits : Nat} (h : 0 < digits) :
    (decimal n).length ≤ digits ↔ n < Nat.pow 10 digits :=
  Nat.length_toDigits_le_iff (by decide) h

theorem length_decimal_le_iff {n : Nat} : (decimal n).length ≤ maxDigits ↔ n < writableBound := by
  unfold writableBound
  exact length_decimal_le (by decide)

theorem decimal?_decimal {n : Nat} (h : n < writableBound) : decimal? (decimal n) = some n := by
  rw [decimal?_of_all_isDigit (decimal_ne_nil n) (all_isDigit_decimal n),
    if_pos (length_decimal_le_iff.2 h), decimal, Nat.ofDigitChars_ten_toDigits]

theorem toList_toString (n : Nat) : (toString n).toList = decimal n := by
  exact String.toList_ofList

theorem toList_toString_negSucc (n : Nat) :
    (toString (Int.negSucc n)).toList = '-' :: decimal (n + 1) := by
  have text : toString (Int.negSucc n) = "-" ++ toString (n + 1) := rfl
  rw [text, String.toList_append, toList_toString]
  rfl

theorem toString_ne_nil (n : Int) : (toString n).toList ≠ [] := by
  cases n with
  | ofNat n =>
    have text : (toString (Int.ofNat n)).toList = decimal n := toList_toString n
    rw [text]
    exact decimal_ne_nil n
  | negSucc n =>
    rw [toList_toString_negSucc]
    exact List.cons_ne_nil _ _

theorem isDigit_of_mem_toString {n : Int} {c : Char} (mem : c ∈ (toString n).toList) :
    c = '-' ∨ c.isDigit = true := by
  have digit (n : Nat) (mem : c ∈ decimal n) : c.isDigit = true :=
    List.all_eq_true.1 (all_isDigit_decimal n) c mem
  cases n with
  | ofNat n =>
    have text : (toString (Int.ofNat n)).toList = decimal n := toList_toString n
    rw [text] at mem
    exact .inr (digit n mem)
  | negSucc n =>
    rw [toList_toString_negSucc] at mem
    exact (List.mem_cons.1 mem).imp_right (digit (n + 1))

theorem integer?_toString {n : Int} (h : isWritable n = true) :
    integer? (toString n).toList = some n := by
  have small : n.natAbs < writableBound := of_decide_eq_true h
  cases n with
  | ofNat n =>
    have read : decimal? (decimal n) = some n := decimal?_decimal small
    have text : (toString (Int.ofNat n)).toList = decimal n := toList_toString n
    rw [text, integer?, signed?_of_all_isDigit _ (all_isDigit_decimal n), read]
    rfl
  | negSucc n =>
    have read : decimal? (decimal (n + 1)) = some (n + 1) := decimal?_decimal small
    rw [toList_toString_negSucc, integer?, signed?, read]
    rfl

end Numeral

end ShaderSurface
