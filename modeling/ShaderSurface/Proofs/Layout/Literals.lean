import Mathlib.Data.Nat.Digits.Defs
import ShaderSurface.Layout.Arguments
import ShaderSurface.Proofs.Text.Decimal

/-!
# Integer literals

An integer literal shows a number in hexadecimal digits behind `0x`, in octal digits behind a zero,
or in decimal digits, and may have an unsigned suffix. A text is read as a number exactly if it is
a literal of this number (`Layout.literal?_eq_some_iff`), and every number has a literal of each
kind, if it has few enough decimal digits for a decimal one (`Layout.denotes_toDigits`).
-/

namespace ShaderSurface.Layout

open Text

variable {base n : Nat} {c : Char} {s digits suffix : Text}

def digitValue (c : Char) : Nat :=
  min ("0123456789abcdef".toList.idxOf c) ("0123456789ABCDEF".toList.idxOf c)

def AreDigits (base : Nat) (digits : Text) : Prop :=
  digits ≠ [] ∧ ∀ c ∈ digits, digitValue c < base

instance (base : Nat) (digits : Text) : Decidable (AreDigits base digits) :=
  inferInstanceAs (Decidable (digits ≠ [] ∧ ∀ c ∈ digits, digitValue c < base))

def numberOf (base : Nat) (digits : Text) : Nat :=
  Nat.ofDigits base (digits.reverse.map digitValue)

def IsSuffix (s : Text) : Prop :=
  s = [] ∨ s = ['u'] ∨ s = ['U']

/-- The text is a literal, which need not show a number: hexadecimal digits behind `0x` or decimal
digits, perhaps with a suffix. -/
inductive IsLiteral : Text → Prop
  | hexadecimal {letter : Char} {digits suffix : Text} (isLetter : letter = 'x' ∨ letter = 'X')
    (areDigits : AreDigits 16 digits) (isSuffix : IsSuffix suffix) :
    IsLiteral ('0' :: letter :: digits ++ suffix)
  | decimal {digits suffix : Text} (areDigits : AreDigits 10 digits) (isSuffix : IsSuffix suffix) :
    IsLiteral (digits ++ suffix)

inductive Denotes : (literal : Text) → (n : Nat) → Prop
  | hexadecimal {letter : Char} {digits suffix : Text} (isLetter : letter = 'x' ∨ letter = 'X')
    (areDigits : AreDigits 16 digits) (isSuffix : IsSuffix suffix) :
    Denotes ('0' :: letter :: digits ++ suffix) (numberOf 16 digits)
  | octal {digits suffix : Text} (areDigits : AreDigits 8 digits) (isSuffix : IsSuffix suffix) :
    Denotes ('0' :: digits ++ suffix) (numberOf 8 digits)
  | decimal {digits suffix : Text} (areDigits : AreDigits 10 digits)
    (noOctal : digits.head? = some '0' → digits.length = 1)
    (short : digits.length ≤ Numeral.maxDigits) (isSuffix : IsSuffix suffix) :
    Denotes (digits ++ suffix) (numberOf 10 digits)

@[elab_as_elim]
theorem of_forall_lt {motive : Char → Prop} {bound : Nat} (c : Char) (small : c.toNat < bound)
    (all : ∀ n < bound, motive (Char.ofNat n)) : motive c := by
  rw [← Char.ofNat_toNat c]
  exact all c.toNat small

theorem toNat_lt_of_isHexDigit (h : isHexDigit c = true) : c.toNat < 128 := by
  simp only [isHexDigit, Bool.or_eq_true, Bool.and_eq_true, decide_eq_true_eq] at h
  rcases h with (digit | ⟨-, small⟩) | ⟨-, capital⟩
  · have bounds := Char.isDigit_iff_toNat.1 digit
    simp only [Char.reduceToNat] at bounds
    omega
  · exact Nat.lt_of_le_of_lt (UInt32.le_iff_toNat_le.1 small) (by decide)
  · exact Nat.lt_of_le_of_lt (UInt32.le_iff_toNat_le.1 capital) (by decide)

theorem toNat_lt_of_digitValue_lt (h : digitValue c < 16) : c.toNat < 128 := by
  have small : ∀ x ∈ "0123456789abcdef".toList, x.toNat < 128 := by decide
  have capital : ∀ x ∈ "0123456789ABCDEF".toList, x.toNat < 128 := by decide
  rcases min_lt_iff.1 h with place | place
  · exact small c (List.idxOf_lt_length_iff.1 place)
  · exact capital c (List.idxOf_lt_length_iff.1 place)

theorem digit_iff (c : Char) :
    (c.isDigit = true ↔ digitValue c < 10) ∧ (isHexDigit c = true ↔ digitValue c < 16) ∧
      (digitValue c < 16 → Numeral.digitValue? 16 c = some (digitValue c)) := by
  by_cases small : c.toNat < 128
  · refine of_forall_lt c small ?_
    decide +kernel
  · have noHex : ¬isHexDigit c = true := fun h => small (toNat_lt_of_isHexDigit h)
    have noDigit : ¬c.isDigit = true := fun h => noHex (by simp [isHexDigit, h])
    have noValue : ¬digitValue c < 16 := fun h => small (toNat_lt_of_digitValue_lt h)
    exact ⟨iff_of_false noDigit fun h => noValue (by omega), iff_of_false noHex noValue,
      fun h => absurd h noValue⟩

/-- A digit that is known to be hexadecimal has its value in every base in which it is a digit. -/
theorem digitValue?_eq (bounded : base ≤ 16) (hexadecimal : digitValue c < 16) :
    Numeral.digitValue? base c = if digitValue c < base then some (digitValue c) else none := by
  have filtered : Numeral.digitValue? base c =
      (Numeral.digitValue? 16 c).filter (· < base) := by
    rw [Numeral.digitValue?, Numeral.digitValue?, Option.filter_filter]
    congr 1
    funext value
    rw [← Bool.decide_and, decide_eq_decide]
    omega
  rw [filtered, (digit_iff c).2.2 hexadecimal, Option.filter_some]
  simp only [decide_eq_true_eq]

theorem ofDigits_eq_numberOf (base : Nat) (digits : Text) :
    Numeral.ofDigits base (digits.map digitValue) = numberOf base digits := by
  rw [numberOf, Nat.ofDigits_eq_foldr, List.map_reverse, List.foldr_reverse, Numeral.ofDigits]
  congr 1
  funext n digit
  rw [Nat.mul_comm, Nat.add_comm]
  rfl

/-- Hexadecimal digits are read in a base as their values, if all of them are digits of the base. -/
theorem mapM_digitValue?_eq_some_iff {values : List Nat} (bounded : base ≤ 16)
    (hexadecimal : ∀ c ∈ digits, digitValue c < 16) :
    digits.mapM (Numeral.digitValue? base) = some values ↔
      (∀ c ∈ digits, digitValue c < base) ∧ digits.map digitValue = values := by
  induction digits generalizing values with
  | nil => simp
  | cons c digits ih =>
    obtain ⟨first, others⟩ := List.forall_mem_cons.1 hexadecimal
    rw [List.mapM_cons, digitValue?_eq bounded first, List.forall_mem_cons, and_assoc]
    by_cases here : digitValue c < base
    · simp [here, Option.bind_eq_some_iff, ih others, and_assoc]
    · simp [here]

theorem numberIn?_eq_some_iff (bounded : base ≤ 16)
    (hexadecimal : ∀ c ∈ digits, digitValue c < 16) :
    numberIn? base digits = some n ↔
      (∀ c ∈ digits, digitValue c < base) ∧ numberOf base digits = n := by
  simp only [numberIn?, Option.map_eq_some_iff, mapM_digitValue?_eq_some_iff bounded hexadecimal,
    and_assoc, exists_and_left, exists_eq_left', ofDigits_eq_numberOf]

theorem isEmpty_or_not_all_iff {isDigit : Char → Bool}
    (same : ∀ c, isDigit c = true ↔ digitValue c < base) :
    (digits.isEmpty || !digits.all isDigit) = true ↔ ¬AreDigits base digits := by
  rw [AreDigits, Bool.or_eq_true, List.isEmpty_iff, Bool.not_eq_true', ← Bool.not_eq_true,
    List.all_eq_true, not_and_or, not_not]
  simp only [same]

theorem literal?_hexadecimal {letter : Char} (isLetter : letter = 'x' ∨ letter = 'X')
    (whole : withoutSuffix s = '0' :: letter :: digits) :
    literal? s = some n ↔ AreDigits 16 digits ∧ numberOf 16 digits = n := by
  have read : literal? s =
      if digits.isEmpty || !digits.all isHexDigit then none else numberIn? 16 digits := by
    rcases isLetter with rfl | rfl <;> rw [literal?, whole] <;> rfl
  rw [read]
  by_cases areDigits : AreDigits 16 digits
  · rw [if_neg fun h => (isEmpty_or_not_all_iff fun c => (digit_iff c).2.1).1 h areDigits,
      numberIn?_eq_some_iff le_rfl areDigits.2, and_iff_right areDigits.2, and_iff_right areDigits]
  · rw [if_pos ((isEmpty_or_not_all_iff fun c => (digit_iff c).2.1).2 areDigits)]
    exact iff_of_false (by simp) fun h => areDigits h.1

theorem literal?_plain (whole : withoutSuffix s = digits)
    (noLetter : ∀ letter rest, digits = '0' :: letter :: rest → letter ≠ 'x' ∧ letter ≠ 'X') :
    literal? s = some n ↔ AreDigits 10 digits ∧
      if digits.head? = some '0' ∧ digits.length > 1 then
        (∀ c ∈ digits, digitValue c < 8) ∧ numberOf 8 digits = n
      else digits.length ≤ Numeral.maxDigits ∧ numberOf 10 digits = n := by
  have read : literal? s =
      if digits.isEmpty || !digits.all Char.isDigit then none
      else if digits.head? = some '0' && digits.length > 1 then numberIn? 8 digits
      else if digits.length ≤ Numeral.maxDigits then numberIn? 10 digits
      else none := by
    rw [literal?, whole]
    split
    · exact absurd rfl (noLetter _ _ rfl).1
    · exact absurd rfl (noLetter _ _ rfl).2
    · rfl
  rw [read]
  by_cases areDigits : AreDigits 10 digits
  · have hexadecimal : ∀ c ∈ digits, digitValue c < 16 :=
      fun c mem => Nat.lt_trans (areDigits.2 c mem) (by decide)
    rw [if_neg fun h => (isEmpty_or_not_all_iff fun c => (digit_iff c).1).1 h areDigits,
      and_iff_right areDigits]
    by_cases octal : digits.head? = some '0' ∧ digits.length > 1
    · rw [if_pos octal, if_pos (by simpa using octal),
        numberIn?_eq_some_iff (by decide) hexadecimal]
    · rw [if_neg octal, if_neg (by simpa using octal)]
      by_cases short : digits.length ≤ Numeral.maxDigits
      · rw [if_pos short, numberIn?_eq_some_iff (by decide) hexadecimal,
          and_iff_right areDigits.2, and_iff_right short]
      · rw [if_neg short]
        exact iff_of_false (by simp) fun h => short h.1
  · rw [if_pos ((isEmpty_or_not_all_iff fun c => (digit_iff c).1).2 areDigits)]
    exact iff_of_false (by simp) fun h => areDigits h.1

theorem exists_suffix (s : Text) : ∃ suffix, IsSuffix suffix ∧ s = withoutSuffix s ++ suffix := by
  rw [withoutSuffix]
  split
  · rename_i rest reversed
    exact ⟨['u'], .inr (.inl rfl), by rw [← List.reverse_cons, ← reversed, List.reverse_reverse]⟩
  · rename_i rest reversed
    exact ⟨['U'], .inr (.inr rfl), by rw [← List.reverse_cons, ← reversed, List.reverse_reverse]⟩
  · exact ⟨[], .inl rfl, (List.append_nil s).symm⟩

/-- The suffix starts behind the last digit. -/
theorem withoutSuffix_append (areDigits : AreDigits 16 digits) (front : Text)
    (isSuffix : IsSuffix suffix) : withoutSuffix (front ++ digits ++ suffix) = front ++ digits := by
  obtain ⟨init, c, rfl⟩ := (List.eq_nil_or_concat digits).resolve_left areDigits.1
  rw [List.concat_eq_append] at areDigits ⊢
  have digit := areDigits.2 c (by simp)
  rw [withoutSuffix]
  rcases isSuffix with rfl | rfl | rfl
  · split
    · rename_i rest reversed
      obtain rfl : c = 'u' := by simp at reversed; exact reversed.1
      exact absurd digit (by decide)
    · rename_i rest reversed
      obtain rfl : c = 'U' := by simp at reversed; exact reversed.1
      exact absurd digit (by decide)
    · exact List.append_nil _
  · rw [List.reverse_append]
    exact List.reverse_reverse _
  · rw [List.reverse_append]
    exact List.reverse_reverse _

theorem AreDigits.mono {base base' : Nat} (le : base ≤ base') (h : AreDigits base digits) :
    AreDigits base' digits :=
  ⟨h.1, fun c mem => Nat.lt_of_lt_of_le (h.2 c mem) le⟩

theorem numberOf_zero_cons (base : Nat) (digits : Text) :
    numberOf base ('0' :: digits) = numberOf base digits := by
  have zero : digitValue '0' = 0 := by decide
  rw [numberOf, List.reverse_cons, List.map_append, Nat.ofDigits_append, List.map_singleton, zero]
  simp [numberOf]

theorem AreDigits.zero_cons (positive : 0 < base) (h : AreDigits base digits) :
    AreDigits base ('0' :: digits) := by
  have zero : digitValue '0' = 0 := by decide
  refine ⟨List.cons_ne_nil _ _, List.forall_mem_cons.2 ⟨?_, h.2⟩⟩
  rwa [zero]

theorem Denotes.isLiteral (h : Denotes s n) : IsLiteral s := by
  cases h with
  | hexadecimal isLetter areDigits isSuffix => exact .hexadecimal isLetter areDigits isSuffix
  | octal areDigits isSuffix =>
    exact .decimal ((areDigits.mono (by decide)).zero_cons (by decide)) isSuffix
  | decimal areDigits noOctal short isSuffix => exact .decimal areDigits isSuffix

theorem AreDigits.noLetter (h : AreDigits 10 digits) (letter : Char) (rest : Text)
    (same : digits = '0' :: letter :: rest) : letter ≠ 'x' ∧ letter ≠ 'X' := by
  have digit := h.2 letter (by simp [same])
  constructor <;> rintro rfl <;> exact absurd digit (by decide)

/-- A text is read as a number exactly if it is a literal of the number. -/
theorem literal?_eq_some_iff : literal? s = some n ↔ Denotes s n := by
  constructor
  · intro read
    obtain ⟨suffix, isSuffix, whole⟩ := exists_suffix s
    by_cases hexadecimal : ∃ letter digits, withoutSuffix s = '0' :: letter :: digits ∧
        (letter = 'x' ∨ letter = 'X')
    · obtain ⟨letter, digits, body, isLetter⟩ := hexadecimal
      obtain ⟨areDigits, rfl⟩ := (literal?_hexadecimal isLetter body).1 read
      rw [whole, body]
      exact .hexadecimal isLetter areDigits isSuffix
    · have noLetter (letter : Char) (rest : Text)
          (body : withoutSuffix s = '0' :: letter :: rest) : letter ≠ 'x' ∧ letter ≠ 'X' :=
        not_or.1 fun isLetter => hexadecimal ⟨letter, rest, body, isLetter⟩
      obtain ⟨areDigits, number⟩ := (literal?_plain rfl noLetter).1 read
      rw [whole]
      -- a zero in front of other digits makes them octal
      by_cases octal : (withoutSuffix s).head? = some '0' ∧ (withoutSuffix s).length > 1
      · rw [if_pos octal] at number
        obtain ⟨inBase, rfl⟩ := number
        obtain ⟨rest, body⟩ := List.head?_eq_some_iff.1 octal.1
        have ne : rest ≠ [] := by
          rintro rfl
          simp [body] at octal
        rw [body] at inBase ⊢
        rw [numberOf_zero_cons]
        exact .octal ⟨ne, (List.forall_mem_cons.1 inBase).2⟩ isSuffix
      · rw [if_neg octal] at number
        obtain ⟨short, rfl⟩ := number
        refine .decimal areDigits (fun zero => ?_) short isSuffix
        have filled := List.length_pos_iff.2 areDigits.1
        have single : ¬(withoutSuffix s).length > 1 := fun more => octal ⟨zero, more⟩
        omega
  · intro denotes
    cases denotes with
    | @hexadecimal letter digits suffix isLetter areDigits isSuffix =>
      exact (literal?_hexadecimal isLetter
        (withoutSuffix_append areDigits ['0', letter] isSuffix)).2 ⟨areDigits, rfl⟩
    | @octal digits suffix areDigits isSuffix =>
      have body := withoutSuffix_append (areDigits.mono (by decide)) ['0'] isSuffix
      have inBase : AreDigits 8 ('0' :: digits) := areDigits.zero_cons (by decide)
      have areDecimal : AreDigits 10 ('0' :: digits) := inBase.mono (by decide)
      refine (literal?_plain body areDecimal.noLetter).2 ⟨areDecimal, ?_⟩
      have more := List.length_pos_iff.2 areDigits.1
      rw [if_pos ⟨rfl, Nat.succ_lt_succ more⟩]
      exact ⟨inBase.2, numberOf_zero_cons 8 digits⟩
    | @decimal digits suffix areDigits noOctal short isSuffix =>
      have body := withoutSuffix_append (areDigits.mono (by decide)) [] isSuffix
      refine (literal?_plain body areDigits.noLetter).2 ⟨areDigits, ?_⟩
      have noOctal' : ¬(digits.head? = some '0' ∧ digits.length > 1) := by
        rintro ⟨zero, more⟩
        have single := noOctal zero
        omega
      rw [List.nil_append, if_neg noOctal']
      exact ⟨short, rfl⟩

theorem numberOf_append_singleton (base : Nat) (digits : Text) (c : Char) :
    numberOf base (digits ++ [c]) = digitValue c + base * numberOf base digits := by
  rw [numberOf, List.reverse_append, List.reverse_singleton, List.singleton_append, List.map_cons,
    Nat.ofDigits_cons]
  rfl

theorem numberOf_toDigits (isBase : 1 < base) (bounded : base ≤ 16) (n : Nat) :
    AreDigits base (Nat.toDigits base n) ∧ numberOf base (Nat.toDigits base n) = n := by
  have value : ∀ d < 16, digitValue (Nat.digitChar d) = d := by decide
  induction n using Nat.strong_induction_on with
  | _ n ih =>
    by_cases small : n < base
    · have last := value n (by omega)
      rw [Nat.toDigits_of_lt_base small]
      refine ⟨⟨List.cons_ne_nil _ _, List.forall_mem_singleton.2 (by omega)⟩, ?_⟩
      rw [← List.nil_append [_], numberOf_append_singleton, last]
      simp [numberOf]
    · have below : n % base < base := Nat.mod_lt n (by omega)
      have last := value (n % base) (by omega)
      obtain ⟨areDigits, shown⟩ := ih (n / base) (Nat.div_lt_self (by omega) isBase)
      rw [Nat.toDigits_of_base_le isBase (by omega)]
      refine ⟨⟨by simp, List.forall_mem_append.2 ⟨areDigits.2, ?_⟩⟩, ?_⟩
      · rw [List.forall_mem_singleton]
        omega
      · rw [numberOf_append_singleton, last, shown, Nat.mod_add_div]

theorem eq_zero_of_head?_decimal (h : (Numeral.decimal n).head? = some '0') : n = 0 := by
  have digit : ∀ d < 10, Nat.digitChar d = '0' → d = 0 := by decide
  rw [Numeral.decimal] at h
  induction n using Nat.strong_induction_on with
  | _ n ih =>
    by_cases small : n < 10
    · rw [Nat.toDigits_of_lt_base small] at h
      exact digit n small (Option.some.inj h)
    · have front : (Nat.toDigits 10 (n / 10)).head? = some '0' := by
        obtain ⟨c, rest, same⟩ := List.exists_cons_of_ne_nil
          (Numeral.decimal_ne_nil (n / 10))
        rw [Nat.toDigits_of_base_le (by decide) (by omega), ← Numeral.decimal, same] at h
        rwa [← Numeral.decimal, same]
      have none := ih (n / 10) (by omega) front
      omega

/-- Every number has a literal of each kind, a decimal one if it is within the limit. -/
theorem denotes_toDigits (n : Nat) (isSuffix : IsSuffix suffix) :
    (∀ letter, letter = 'x' ∨ letter = 'X' →
        Denotes ('0' :: letter :: Nat.toDigits 16 n ++ suffix) n) ∧
      Denotes ('0' :: Nat.toDigits 8 n ++ suffix) n ∧
      (n < Numeral.writableBound → Denotes (Numeral.decimal n ++ suffix) n) := by
  obtain ⟨areHexadecimal, hexadecimal⟩ := numberOf_toDigits (by decide : 1 < 16) (by decide) n
  obtain ⟨areOctal, octal⟩ := numberOf_toDigits (by decide : 1 < 8) (by decide) n
  obtain ⟨areDecimal, decimal⟩ := numberOf_toDigits (by decide : 1 < 10) (by decide) n
  refine ⟨fun letter isLetter => ?_, ?_, fun small => ?_⟩
  · have denotes := Denotes.hexadecimal isLetter areHexadecimal isSuffix
    rwa [hexadecimal] at denotes
  · have denotes := Denotes.octal areOctal isSuffix
    rwa [octal] at denotes
  · have noOctal : (Numeral.decimal n).head? = some '0' → (Numeral.decimal n).length = 1 := by
      intro zero
      rw [eq_zero_of_head?_decimal zero]
      decide
    have denotes := Denotes.decimal areDecimal noOctal (Numeral.length_decimal_le_iff.2 small)
      isSuffix
    rwa [decimal] at denotes

end ShaderSurface.Layout
