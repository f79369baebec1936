import ShaderSurface.Proofs.Outcome
import ShaderSurface.Proofs.Span.Reference

/-!
# What is looked up

A lookup stands for a text exactly if it is given a single word that shows, with any gaps around it,
the place of that text. It is refused exactly if it is given a single word of digits that show no
number: a digit among them has no decimal value, or there are more of them than a numeral may have.
-/

namespace ShaderSurface.SpanTable

open Text Numeral

variable {table : SpanTable} {words : List Word} {s text : Text} {n : Nat}

/-- The digits show the number: each has a decimal value, and there are no more of them than a
numeral may have. -/
structure Shows (s : Text) (n : Nat) : Prop where
  ne_nil : s ≠ []
  short : s.length ≤ maxDigits
  value : ∃ digits, s.mapM decimalValue? = some digits ∧ ofDigits 10 digits = n

structure IsUnreadable (s : Text) : Prop where
  ne_nil : s ≠ []
  digits : ∀ c ∈ s, isDigit c = true
  refused : maxDigits < s.length ∨ ∃ c ∈ s, decimalValue? c = none

theorem IsUnreadable.not_mem (h : IsUnreadable s) {c : Char} (visible : isDigit c = false) :
    c ∉ s :=
  fun mem => Bool.false_ne_true (visible.symm.trans (h.digits c mem))

theorem mapM_decimalValue?_eq_none_iff :
    s.mapM decimalValue? = none ↔ ∃ c ∈ s, decimalValue? c = none := by
  induction s with
  | nil => simp
  | cons c s ih =>
    cases value : decimalValue? c with
    | none => simp [value]
    | some digit =>
      cases rest : s.mapM decimalValue? with
      | none => simpa [value, rest] using ih
      | some digits => simpa [value, rest] using ih

theorem takeWhile_of_decimal {digits : List Nat} (h : s.mapM decimalValue? = some digits) :
    (s.takeWhile fun c => (decimalValue? c).isSome) = s := by
  rw [List.takeWhile_eq_self_iff]
  intro c mem
  rw [Option.isSome_iff_ne_none]
  intro none
  rw [mapM_decimalValue?_eq_none_iff.2 ⟨c, mem, none⟩] at h
  cases h

theorem number_eq_ok_iff (ne : s ≠ []) : number s = .ok n ↔ Shows s n := by
  rw [number]
  cases value : s.mapM decimalValue? with
  | none =>
    constructor
    · intro h
      split at h <;> cases h
    · rintro ⟨-, -, digits, value', -⟩
      rw [value] at value'
      cases value'
  | some digits =>
    rw [takeWhile_of_decimal value]
    by_cases short : s.length ≤ maxDigits
    · rw [if_neg (Nat.not_lt.2 short), Except.ok.injEq]
      constructor
      · intro same
        exact ⟨ne, short, digits, value, same⟩
      · rintro ⟨-, -, digits', value', same⟩
        rw [value, Option.some.injEq] at value'
        exact value' ▸ same
    · rw [if_pos (Nat.lt_of_not_le short)]
      constructor
      · intro h
        cases h
      · exact fun shows => absurd shows.short short

theorem exists_number_eq_error_iff :
    (∃ cause, number s = .error cause) ↔
      maxDigits < s.length ∨ ∃ c ∈ s, decimalValue? c = none := by
  rw [number]
  cases value : s.mapM decimalValue? with
  | none =>
    have missing := mapM_decimalValue?_eq_none_iff.1 value
    simp only [missing, or_true, iff_true]
    split <;> exact ⟨_, rfl⟩
  | some digits =>
    have complete : ¬∃ c ∈ s, decimalValue? c = none := by
      rw [← mapM_decimalValue?_eq_none_iff, value]
      exact Option.some_ne_none digits
    rw [takeWhile_of_decimal value, or_iff_left complete]
    by_cases long : maxDigits < s.length
    · rw [if_pos long]
      exact ⟨fun _ => long, fun _ => ⟨_, rfl⟩⟩
    · simp [long]

theorem isDigit_of_shows (h : Shows s n) : ∀ c ∈ s, isDigit c = true := by
  obtain ⟨-, -, digits, value, -⟩ := h
  intro c mem
  cases digit : decimalValue? c with
  | none =>
    rw [mapM_decimalValue?_eq_none_iff.2 ⟨c, mem, digit⟩] at value
    cases value
  | some n => exact isDigit_of_decimalValue? digit

/-- The numeral of a number shows no number only if it has too many digits. -/
theorem writableBound_le_of_isUnreadable (h : IsUnreadable (decimal n)) : writableBound ≤ n := by
  have long : maxDigits < (decimal n).length := by
    refine h.refused.resolve_right ?_
    rintro ⟨c, mem, missing⟩
    rw [decimalValue?_of_isDigit (List.all_eq_true.1 (all_isDigit_decimal n) c mem)] at missing
    cases missing
  exact Nat.le_of_not_lt fun small => Nat.not_le_of_lt long (length_decimal_le_iff.2 small)

theorem lookup_singleton (table : SpanTable) (word : Word) :
    table.lookup [word] =
      if trim word ≠ [] ∧ ∀ c ∈ trim word, isDigit c = true then
        (number (trim word)).map (table.spans[·]?)
      else .ok none := by
  rw [lookup]
  by_cases digits : trim word ≠ [] ∧ ∀ c ∈ trim word, isDigit c = true
  · rw [if_pos digits, if_neg (by simpa using digits)]
  · rw [if_neg digits]
    simp only [ne_eq, not_and_or, not_not] at digits
    rw [if_pos (by simpa using digits)]

theorem exists_eq_singleton (h : table.lookup words ≠ .ok none) : ∃ word, words = [word] := by
  rcases words with - | ⟨word, - | ⟨_, _⟩⟩
  · exact absurd rfl h
  · exact ⟨word, rfl⟩
  · exact absurd rfl h

/-- A lookup stands for a text exactly if a single word shows the place of the text. -/
theorem lookup_eq_some_iff :
    table.lookup words = .ok (some text) ↔
      ∃ word place, words = [word] ∧ Shows (trim word) place ∧
        table.spans[place]? = some text := by
  constructor
  · intro h
    have resolved : table.lookup words ≠ .ok none := by simp [h]
    obtain ⟨word, rfl⟩ := exists_eq_singleton resolved
    rw [lookup_singleton] at h
    split at h
    · rename_i digits
      obtain ⟨place, read, held⟩ := Outcome.map_eq_ok.1 h
      exact ⟨word, place, rfl, (number_eq_ok_iff digits.1).1 read, held⟩
    · cases h
  · rintro ⟨word, place, rfl, shows, held⟩
    rw [lookup_singleton, if_pos ⟨shows.ne_nil, isDigit_of_shows shows⟩,
      (number_eq_ok_iff shows.ne_nil).2 shows]
    exact congrArg Except.ok held

/-- A lookup is refused exactly if it is given a single run of digits that shows no number. -/
theorem exists_lookup_eq_error_iff :
    (∃ cause, table.lookup words = .error cause) ↔
      ∃ word, words = [word] ∧ IsUnreadable (trim word) := by
  constructor
  · rintro ⟨cause, h⟩
    have resolved : table.lookup words ≠ .ok none := by simp [h]
    obtain ⟨word, rfl⟩ := exists_eq_singleton resolved
    rw [lookup_singleton] at h
    split at h
    · rename_i digits
      have refused : ∃ cause, number (trim word) = .error cause := by
        cases read : number (trim word) with
        | error cause => exact ⟨cause, rfl⟩
        | ok place =>
          rw [read] at h
          cases h
      exact ⟨word, rfl, digits.1, digits.2, exists_number_eq_error_iff.1 refused⟩
    · cases h
  · rintro ⟨word, rfl, ne, digits, refused⟩
    obtain ⟨cause, read⟩ := exists_number_eq_error_iff.2 refused
    rw [lookup_singleton, if_pos ⟨ne, digits⟩, read]
    exact ⟨cause, rfl⟩

end ShaderSurface.SpanTable
