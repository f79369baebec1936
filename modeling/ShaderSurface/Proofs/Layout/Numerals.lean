import ShaderSurface.Proofs.Layout.Arguments
import ShaderSurface.Proofs.Outcome

/-!
# Literals that are read as numerals

Where a numeral is expected, a literal of the layout arguments is read by other rules: digits behind
`0x` are hexadecimal as well, but digits behind another zero are decimal, and there is no suffix. So
a literal is read as the number that it shows exactly if it has no suffix and the digits behind a
leading zero, up to the last one, are zeros (`Layout.integer?_eq_some_iff`).
-/

namespace ShaderSurface

open Text

namespace Numeral

variable {base : Nat} {c : Char} {s : Text}

theorem digits?_of_mem (ungrouped : '_' ∉ s) (mem : c ∈ s) (noValue : digitValue? base c = none) :
    digits? base s = none := by
  rw [digits?_of_not_mem (List.ne_nil_of_mem mem) ungrouped, Option.eq_none_iff_forall_ne_some]
  intro values read
  obtain ⟨value, -, given⟩ :=
    Outcome.exists_of_mem_right (Outcome.mapM_eq_some_iff.1 read).flip mem
  rw [noValue] at given
  cases given

theorem decimal?_of_mem (ungrouped : '_' ∉ s) (mem : c ∈ s) (noValue : digitValue? 10 c = none) :
    decimal? s = none := by
  rw [decimal?, digits?_of_mem ungrouped mem noValue]
  rfl

theorem based?_of_letter {letter : Char} (isLetter : letter = 'x' ∨ letter = 'X')
    (ungrouped : '_' ∉ s) : based? ('0' :: letter :: s) = (digits? 16 s).map (ofDigits 16) := by
  have zero : decimalValue? '0' = some 0 := by decide
  have base : baseOfLetter? letter = some 16 := by rcases isLetter with rfl | rfl <;> rfl
  have noGroup : s.head? ≠ some '_' := fun head => ungrouped (List.mem_of_mem_head? head)
  cases read : digits? 16 s <;> simp [based?, zero, base, noGroup, guard, read]

theorem integer?_of_isDigit (digit : c.isDigit = true) (s : Text) :
    integer? (c :: s) =
      ((decimal? (c :: s)).map Int.ofNat <|> (based? (c :: s)).map Int.ofNat) := by
  have unsigned (unsigned? : Text → Option Nat) :
      signed? unsigned? (c :: s) = (unsigned? (c :: s)).map Int.ofNat := by
    unfold signed?
    split
    · simp_all
    · simp_all
    · rfl
  rw [integer?, unsigned, unsigned]

end Numeral

namespace Layout

variable {base base' n : Nat} {c letter : Char} {s digits : Text}

theorem digitValue_eq_zero_iff : digitValue c = 0 ↔ c = '0' := by
  constructor
  · intro zero
    have small : c.toNat < 128 := toNat_lt_of_digitValue_lt (by omega)
    revert zero
    refine of_forall_lt c small ?_
    decide +kernel
  · rintro rfl
    decide

theorem numberOf_eq_zero_iff (positive : 0 < base) :
    numberOf base digits = 0 ↔ ∀ c ∈ digits, c = '0' := by
  induction digits using List.reverseRecOn with
  | nil => simp [numberOf]
  | append_singleton digits c ih =>
    rw [numberOf_append_singleton, Nat.add_eq_zero_iff, Nat.mul_eq_zero, ih,
      digitValue_eq_zero_iff, List.forall_mem_append, List.forall_mem_singleton,
      or_iff_right positive.ne', and_comm]

theorem numberOf_mono (le : base ≤ base') : numberOf base digits ≤ numberOf base' digits := by
  induction digits using List.reverseRecOn with
  | nil => rfl
  | append_singleton digits c ih =>
    rw [numberOf_append_singleton, numberOf_append_singleton]
    exact Nat.add_le_add_left (Nat.mul_le_mul le ih) _

/-- Digits show the same number in two bases exactly if all but the last are zeros. -/
theorem numberOf_eq_numberOf_iff (lt : base < base') :
    numberOf base digits = numberOf base' digits ↔ ∀ c ∈ digits.dropLast, c = '0' := by
  cases digits using List.reverseRecOn with
  | nil => simp [numberOf]
  | append_singleton front c =>
    rw [List.dropLast_concat, ← numberOf_eq_zero_iff (Nat.zero_lt_of_lt lt),
      numberOf_append_singleton, numberOf_append_singleton, Nat.add_left_cancel_iff]
    have le : numberOf base front ≤ numberOf base' front := numberOf_mono lt.le
    constructor
    · intro same
      by_contra positive
      have grows : base * numberOf base' front < base' * numberOf base' front :=
        Nat.mul_lt_mul_of_pos_right lt (Nat.pos_of_ne_zero positive)
      have bound : base * numberOf base front ≤ base * numberOf base' front :=
        Nat.mul_le_mul_left base le
      omega
    · intro zero
      rw [zero] at le ⊢
      rw [Nat.le_zero.1 le, Nat.mul_zero, Nat.mul_zero]

theorem AreDigits.not_mem (h : AreDigits base digits) (large : base ≤ digitValue c) : c ∉ digits :=
  fun mem => absurd (h.2 c mem) (Nat.not_lt.2 large)

theorem digits?_of_areDigits (bounded : base ≤ 16) (areDigits : AreDigits base digits) :
    Numeral.digits? base digits = some (digits.map digitValue) := by
  have hexadecimal : AreDigits 16 digits := areDigits.mono bounded
  rw [Numeral.digits?_of_not_mem areDigits.1 (hexadecimal.not_mem (by decide))]
  exact (mapM_digitValue?_eq_some_iff bounded hexadecimal.2).2 ⟨areDigits.2, rfl⟩

theorem decimal?_of_letter (isLetter : letter = 'x' ∨ letter = 'X') (ungrouped : '_' ∉ s) :
    Numeral.decimal? ('0' :: letter :: s) = none := by
  have noValue : Numeral.digitValue? 10 letter = none ∧ letter ≠ '_' := by
    rcases isLetter with rfl | rfl <;> decide
  refine Numeral.decimal?_of_mem ?_ (List.mem_cons_of_mem '0' List.mem_cons_self) noValue.1
  simp [ungrouped, noValue.2.symm]

theorem integer?_hexadecimal (isLetter : letter = 'x' ∨ letter = 'X')
    (areDigits : AreDigits 16 digits) :
    Numeral.integer? ('0' :: letter :: digits) = some ↑(numberOf 16 digits) := by
  have ungrouped : '_' ∉ digits := areDigits.not_mem (by decide)
  rw [Numeral.integer?_of_isDigit (by decide), decimal?_of_letter isLetter ungrouped,
    Numeral.based?_of_letter isLetter ungrouped, digits?_of_areDigits le_rfl areDigits,
    Option.map_some, ofDigits_eq_numberOf]
  rfl

theorem baseOfLetter?_of_mem (areDigits : AreDigits 10 digits) :
    ∀ c ∈ digits, Numeral.baseOfLetter? c = none := fun c mem =>
  Numeral.baseOfLetter?_of_isDigit ((digit_iff c).1.2 (areDigits.2 c mem))

theorem integer?_decimal (areDigits : AreDigits 10 digits) :
    Numeral.integer? digits =
      if digits.length ≤ Numeral.maxDigits then some ↑(numberOf 10 digits) else none := by
  have read : Numeral.decimal? digits =
      if digits.length ≤ Numeral.maxDigits then some (numberOf 10 digits) else none := by
    rw [Numeral.decimal?, digits?_of_areDigits (by decide) areDigits, Option.bind_eq_bind,
      Option.bind_some, ofDigits_eq_numberOf, List.length_map]
  have notBased : Numeral.based? digits = none :=
    Numeral.based?_of_forall (baseOfLetter?_of_mem areDigits)
  obtain ⟨c, rest, rfl⟩ := List.exists_cons_of_ne_nil areDigits.1
  have digit : c.isDigit = true := (digit_iff c).1.2 (areDigits.2 c List.mem_cons_self)
  rw [Numeral.integer?_of_isDigit digit, read, notBased]
  split <;> rfl

theorem integer?_of_mark (literal : IsLiteral s) (marked : 'u' ∈ s ∨ 'U' ∈ s) :
    Numeral.integer? s = none := by
  obtain ⟨mark, isMark, mem⟩ : ∃ mark, (mark = 'u' ∨ mark = 'U') ∧ mark ∈ s := by
    rcases marked with mem | mem
    · exact ⟨'u', .inl rfl, mem⟩
    · exact ⟨'U', .inr rfl, mem⟩
  have noValue : Numeral.digitValue? 10 mark = none ∧ Numeral.digitValue? 16 mark = none ∧
      mark ≠ '0' ∧ mark ≠ 'x' ∧ mark ≠ 'X' := by
    rcases isMark with rfl | rfl <;> decide
  obtain ⟨noDecimal, noHexadecimal, notZero, notLetter⟩ := noValue
  have ofSuffix {suffix : Text} (isSuffix : IsSuffix suffix) :
      '_' ∉ suffix ∧ ∀ c ∈ suffix, Numeral.baseOfLetter? c = none := by
    rcases isSuffix with rfl | rfl | rfl <;> decide
  obtain ⟨-, first, rest, same, digit⟩ := literal.isNameLike
  rw [same, Numeral.integer?_of_isDigit digit, ← same]
  -- the mark stands among the digits that are read, whichever base they are read in
  cases literal with
  | @hexadecimal letter digits suffix isLetter areDigits isSuffix =>
    have ungrouped : '_' ∉ digits ++ suffix :=
      List.not_mem_append (areDigits.not_mem (by decide)) (ofSuffix isSuffix).1
    have behind : mark ∈ digits ++ suffix := by
      have notLetter' : mark ≠ letter := by
        rcases isLetter with rfl | rfl
        · exact notLetter.1
        · exact notLetter.2
      simpa [notZero, notLetter'] using mem
    rw [List.cons_append, List.cons_append, decimal?_of_letter isLetter ungrouped,
      Numeral.based?_of_letter isLetter ungrouped,
      Numeral.digits?_of_mem ungrouped behind noHexadecimal]
    rfl
  | @decimal digits suffix areDigits isSuffix =>
    have ungrouped : '_' ∉ digits ++ suffix :=
      List.not_mem_append ((areDigits.mono (by decide : 10 ≤ 16)).not_mem (by decide))
        (ofSuffix isSuffix).1
    have notBased : Numeral.based? (digits ++ suffix) = none :=
      Numeral.based?_of_forall <|
        List.forall_mem_append.2 ⟨baseOfLetter?_of_mem areDigits, (ofSuffix isSuffix).2⟩
    rw [Numeral.decimal?_of_mem ungrouped mem noDecimal, notBased]
    rfl

/-- The literal has no suffix, and if it is made of digits behind a zero, they are few enough for a
numeral and zeros, except for the last. -/
def ReadsAlike (s : Text) : Prop :=
  'u' ∉ s ∧ 'U' ∉ s ∧ (AreDigits 10 s → s.head? = some '0' →
    s.length ≤ Numeral.maxDigits ∧ ∀ c ∈ s.dropLast, c = '0')

instance : DecidablePred ReadsAlike := fun s =>
  inferInstanceAs (Decidable ('u' ∉ s ∧ 'U' ∉ s ∧ (AreDigits 10 s → s.head? = some '0' →
    s.length ≤ Numeral.maxDigits ∧ ∀ c ∈ s.dropLast, c = '0')))

theorem IsSuffix.eq_nil {front suffix : Text} (isSuffix : IsSuffix suffix)
    (noSmall : 'u' ∉ front ++ suffix) (noCapital : 'U' ∉ front ++ suffix) : suffix = [] := by
  rcases isSuffix with rfl | rfl | rfl
  · rfl
  · simp at noSmall
  · simp at noCapital

theorem not_areDigits_of_letter (isLetter : letter = 'x' ∨ letter = 'X') :
    ¬AreDigits 10 ('0' :: letter :: digits) := by
  intro areDigits
  have digit := areDigits.2 letter (by simp)
  rcases isLetter with rfl | rfl <;> exact absurd digit (by decide)

/-- A literal is read as the number that it shows exactly if it reads alike. -/
theorem integer?_eq_some_iff (denotes : Denotes s n) :
    Numeral.integer? s = some ↑n ↔ ReadsAlike s := by
  by_cases marked : 'u' ∈ s ∨ 'U' ∈ s
  · rw [integer?_of_mark denotes.isLiteral marked]
    exact iff_of_false (by simp) fun alike => marked.elim alike.1 alike.2.1
  · obtain ⟨noSmall, noCapital⟩ := not_or.1 marked
    rw [ReadsAlike, and_iff_right noSmall, and_iff_right noCapital]
    cases denotes with
    | hexadecimal isLetter areDigits isSuffix =>
      obtain rfl := isSuffix.eq_nil noSmall noCapital
      rw [List.append_nil]
      exact iff_of_true (integer?_hexadecimal isLetter areDigits) fun decimal =>
        absurd decimal (not_areDigits_of_letter isLetter)
    | @octal digits suffix areDigits isSuffix =>
      obtain rfl := isSuffix.eq_nil noSmall noCapital
      have decimal : AreDigits 10 ('0' :: digits) :=
        (areDigits.mono (by decide)).zero_cons (by decide)
      have lt : 8 < 10 := by decide
      rw [List.append_nil, integer?_decimal decimal, ← numberOf_zero_cons 8,
        ← numberOf_eq_numberOf_iff lt]
      split <;> simp_all [eq_comm]
    | @decimal digits suffix areDigits noOctal short isSuffix =>
      obtain rfl := isSuffix.eq_nil noSmall noCapital
      rw [List.append_nil, integer?_decimal areDigits, if_pos short]
      refine iff_of_true rfl fun _ zero => ⟨short, ?_⟩
      have single : digits.dropLast = [] :=
        List.eq_nil_of_length_eq_zero (by rw [List.length_dropLast, noOctal zero])
      rw [single]
      exact List.forall_mem_nil _

/-- A literal that does not read alike is read as a decimal numeral, if it is one. -/
theorem integer?_of_not_readsAlike (literal : IsLiteral s) (different : ¬ReadsAlike s) :
    Numeral.integer? s =
      if AreDigits 10 s ∧ s.length ≤ Numeral.maxDigits then some ↑(numberOf 10 s) else none := by
  by_cases decimal : AreDigits 10 s
  · rw [integer?_decimal decimal]
    simp only [decimal, true_and]
  · rw [if_neg fun h => decimal h.1]
    apply integer?_of_mark literal
    by_contra marked
    obtain ⟨noSmall, noCapital⟩ := not_or.1 marked
    exact different ⟨noSmall, noCapital, fun decimal' => absurd decimal' decimal⟩

end Layout

end ShaderSurface
