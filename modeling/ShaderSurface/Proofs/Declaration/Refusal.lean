import ShaderSurface.Proofs.Declaration.Body

/-!
# Why a declaration is refused

A window is refused for the digits between its delimiters, if these show no number. A draft is
refused as malformed, and the refusal shows it, unless it or one of its members has a length that is
too large to be shown. Such a length stands behind a square bracket in one of the words.
-/

namespace ShaderSurface

open Text

namespace Json

@[simp] theorem isWritable_scalar (value : Scalar) : (scalar value).isWritable = value.isWritable :=
  rfl

theorem allWritable_iff (items : List Json) :
    allWritable items = true ↔ ∀ item ∈ items, item.isWritable = true := by
  induction items with
  | nil => simp [allWritable]
  | cons item items ih => simp [allWritable, ih]

theorem allFieldsWritable_iff (fields : List (String × Json)) :
    allFieldsWritable fields = true ↔ ∀ field ∈ fields, field.2.isWritable = true := by
  induction fields with
  | nil => simp [allFieldsWritable]
  | cons field fields ih => simp [allFieldsWritable, ih]

theorem isWritable_record (qualifier type name layout precision structName : Option String)
    (amount : Scalar) (isInvariant isCentroid : Bool) (members : Json) :
    (Declaration.record (ofText? qualifier) (ofText? type) (ofText? name) (.scalar amount)
      (bool isInvariant) (bool isCentroid) (ofText? layout) (ofText? precision)
      (ofText? structName) members).isWritable = (amount.isWritable && members.isWritable) := by
  simp only [Declaration.record, isWritable, allFieldsWritable]
  simp

end Json

theorem ArrayLength.of_read_eq_count {s : Text} {n : Int} (h : read s = .count n) :
    Numeral.isWritable n = true ∨ Numeral.integer? (trim s) = some n := by
  revert h
  fun_cases read s with
  | case1 trimmed empty =>
    rintro ⟨⟩
    exact .inl (SpanTable.isWritable_iff.2 (Numeral.length_decimal_le_iff.1 (by decide)))
  | case2 trimmed filled n number =>
    rintro ⟨⟩
    exact .inr number
  | case3 =>
    intro h
    cases h

namespace Draft

open Numeral SpanTable

variable {table : SpanTable} {known : List String} {words : List Word} {d : Draft} {o c : Char}

/-- A window is refused for a run of digits between its delimiters that shows no number. -/
theorem exists_unreadable_of_lookupWindow {e : ReadError} (solid : ∀ word ∈ words, word.IsSolid)
    (h : lookupWindow table (.ofChars o c) words = .error e) :
    ∃ cause digits, e = .reference cause ∧ IsUnreadable digits ∧
      ∃ whole ∈ words, o :: (digits ++ [c]) <:+: whole := by
  rw [lookupWindow] at h
  split at h
  · cases h
  rename_i window found
  cases looked : table.lookup window.inside with
  | ok text? =>
    rw [looked] at h
    cases h
  | error cause =>
    rw [looked] at h
    obtain rfl := Except.error.inj h
    obtain ⟨digits, inside, unreadable⟩ := exists_lookup_eq_error_iff.1 ⟨cause, looked⟩
    have filled : digits ≠ [] := by
      rintro rfl
      exact unreadable.ne_nil rfl
    obtain ⟨whole, mem, between⟩ := Window.exists_isInfix_of_find? found inside filled
    have within : digits.IsSolid := fun x hx =>
      solid whole mem x (between.subset (List.mem_cons_of_mem o (List.mem_append_left [c] hx)))
    rw [trim_solid within] at unreadable
    exact ⟨cause, digits, rfl, unreadable, whole, mem, between⟩

/-- The length of a draft is small enough to be shown, or it stands behind a square bracket in one
of the words. -/
def LengthIn (words : List Word) (d : Draft) : Prop :=
  ∀ n, d.amount? = some n → isWritable n = true ∨
    ∃ word ∈ words, ∃ part, '[' :: part <:+: word ∧ integer? (trim part) = some n

theorem LengthIn.mono {words' : List Word} (h : LengthIn words d)
    (parts : ∀ word ∈ words, ∃ whole ∈ words', word <:+: whole) : LengthIn words' d := by
  intro n amount
  refine (h n amount).imp_right ?_
  rintro ⟨word, mem, part, inside, number⟩
  obtain ⟨whole, mem', within⟩ := parts word mem
  exact ⟨whole, mem', part, inside.trans within, number⟩

theorem isWritable_one : isWritable 1 = true :=
  isWritable_iff.2 (length_decimal_le_iff.1 (by decide : (decimal 1).length ≤ maxDigits))

theorem lengthIn_readWords (known : List String) (words : List Word) {d : Draft}
    (vacant : d.length = none) : LengthIn words (readWords known words d) := by
  refine readWords_induction (P := LengthIn words) ?_ ?_
  · rintro word mem d later within (_ | _ | _ | ⟨rfl, free⟩ | _ | _ | _ | _ | _)
    case subscript before after =>
      intro n given
      cases present : d.length with
      | some length =>
        rw [amount?, readSubscript, present] at given
        exact within n (by rw [amount?, present]; exact given)
      | none =>
        have read : ArrayLength.read (after.takeWhile (· ≠ ']')) = .count n := by
          rw [amount?, readSubscript, present] at given
          simp only [Option.none_or, Option.orElse_eq_orElse, Option.orElse_eq_or] at given
          split at given <;> simp_all
        refine (ArrayLength.of_read_eq_count read).imp_right fun number => ?_
        refine ⟨_, mem, after.takeWhile (· ≠ ']'), ?_, number⟩
        exact ⟨before, after.dropWhile (· ≠ ']'), by simp⟩
    all_goals exact within
  · intro n given
    rw [amount?, vacant] at given
    obtain rfl := Option.some.inj given
    exact .inl isWritable_one

theorem lengthIn_of_readOver
    {readMembers : Option Qualifier → Text → Except ReadError (List Declaration)}
    {statement : Statement} (h : readOver table known readMembers statement = .ok d) :
    LengthIn statement d := by
  obtain ⟨remaining, layout, rest, body?, found, -, added⟩ := exists_of_readOver h
  have own : LengthIn statement (ofWords known remaining layout) := by
    refine (lengthIn_readWords known _ rfl).mono fun word mem => ?_
    obtain ⟨word, inside, rfl⟩ := List.mem_map.1 mem
    obtain ⟨whole, mem', part⟩ := isInfix_of_lookupWindow found word inside
    exact ⟨whole, mem',
      (isInfix_outsideBraces word).trans ((List.takeWhile_prefix _).isInfix.trans part)⟩
  cases body? with
  | none =>
    obtain rfl := Except.ok.inj added
    exact own
  | some body =>
    obtain ⟨members, -, rfl⟩ := Outcome.map_eq_ok.1 added
    exact own

/-- The form of a draft is writable exactly if its length and its members are. -/
theorem isWritable_toForm (d : Draft) :
    d.toForm.toJson.isWritable = true ↔
      (∀ n, d.amount? = some n → isWritable n = true) ∧
        ∀ members ∈ d.members, ∀ member ∈ members, member.toJson.isWritable = true := by
  have shown : d.toForm.toJson = Declaration.record (.ofText? (d.qualifier.map Qualifier.keyword))
      (.ofText? (d.type.map DeclaredType.name)) (.ofText? d.name)
      (.scalar ((d.length.map ArrayLength.toScalar).getD .null))
      (.bool d.isInvariant) (.bool d.isCentroid) (.ofText? d.layout)
      (.ofText? (d.precision.map Precision.keyword)) (.ofText? d.structName)
      ((d.members.map (·.map Member.declaration)).elim .null
        fun members => .array (members.map Member.toJson)) := by
    unfold toForm
    cases d.members <;> rfl
  rw [shown, Json.isWritable_record, Bool.and_eq_true]
  apply and_congr
  · rcases length : d.length with _ | _ | _ <;>
      simp [amount?, length, ArrayLength.toScalar, Scalar.isWritable, isWritable_one]
  · cases members : d.members with
    | none => simp [Json.null, Scalar.isWritable]
    | some members => simp [Json.isWritable, Json.allWritable_iff, Member.toJson]

/-- A draft is refused as malformed, unless its length or a member is too large to be shown. -/
theorem refusal_of_settle {what : String} {e : ReadError} (h : d.settle what = .error e) :
    (∃ form, e = .malformed what form) ∨
      e = .oversizedInteger ∧
        ((∃ n, d.amount? = some n ∧ isWritable n = false) ∨
          ∃ members ∈ d.members, ∃ member ∈ members, member.toJson.isWritable = false) := by
  rw [settle, Form.settle] at h
  split at h
  · cases h
  obtain rfl := Except.error.inj h
  split
  · exact .inl ⟨_, rfl⟩
  · rename_i unwritable
    refine .inr ⟨rfl, ?_⟩
    rw [isWritable_toForm, not_and_or] at unwritable
    simpa using unwritable

end Draft

theorem Declaration.isWritable_toJson_eq (d : Declaration) :
    d.toJson.isWritable = (Numeral.isWritable d.amount && (bodyToJson d.members).isWritable) := by
  rcases d with ⟨qualifier, type, name, amount, isInvariant, isCentroid, layout, precision,
    structName, members⟩
  rw [toJson]
  exact Json.isWritable_record (some qualifier.keyword) (some type.name) (some name)
    layout (precision.map Precision.keyword) structName (.int amount) isInvariant isCentroid _

theorem Declaration.isWritable_toJson {d : Declaration} (noBody : d.members = none) :
    d.toJson.isWritable = Numeral.isWritable d.amount := by
  rw [isWritable_toJson_eq, noBody, bodyToJson]
  exact Bool.and_true _

end ShaderSurface
