import ShaderSurface.Proofs.Grammar.Filters
import ShaderSurface.Proofs.Layout.Numerals

/-!
# Literals as array lengths

An array is declared with a literal as its length. The length is read as a numeral, so the array has
the length that the literal stands for in a layout argument exactly if the literal reads alike; then
it is not octal, up to its last digit, and has no suffix. Otherwise the length is the decimal one,
or the declaration is refused (`Surface.read_arraySource_of_literal`).
-/

namespace ShaderSurface

open Text

namespace Surface

open Grammar Layout

variable {s : Text}

def arrayStatement (length : Text) : Statement :=
  [Qualifier.uniform.keyword.toList, (ValueType.scalar .float).name.toList,
    'w' :: '[' :: (length ++ [']'])]

def arraySource (length : Text) : Text :=
  "uniform float w[".toList ++ length ++ "];".toList

def arrayDraft (length : ArrayLength) : Draft where
  qualifier := some .uniform
  type := some (.value (.scalar .float))
  name := some "w"
  length := some length

def arrayOf (length : Int) : Declaration where
  qualifier := .uniform
  type := .value (.scalar .float)
  name := "w"
  amount := length

theorem arraySource_eq (length : Text) :
    arraySource length =
      "uniform float".toList ++ [' '] ++ 'w' :: '[' :: (length ++ [']']) ++ [';'] := by
  have front : "uniform float w[".toList = "uniform float".toList ++ [' '] ++ ['w', '['] := by
    decide
  have back : "];".toList = [']'] ++ [';'] := by decide
  unfold arraySource
  simp only [front, back, List.append_assoc, List.cons_append, List.nil_append]

variable (nameLike : s.IsNameLike)

include nameLike

theorem ofText_arraySource : Statement.ofText (arraySource s) = [arrayStatement s] := by
  have space : IsGap [' '] := by decide
  have brackets : isBlank 'w' = false ∧ isBlank '[' = false ∧ IsSolid [']'] := by decide
  have front : words "uniform float".toList =
      [Qualifier.uniform.keyword.toList, (ValueType.scalar .float).name.toList] := by decide
  have solid : IsSolid ('w' :: '[' :: (s ++ [']'])) :=
    List.forall_mem_cons.2 ⟨brackets.1, List.forall_mem_cons.2
      ⟨brackets.2.1, nameLike.isSolid.append brackets.2.2⟩⟩
  have statement : words ("uniform float".toList ++ [' '] ++ 'w' :: '[' :: (s ++ [']'])) =
      arrayStatement s := by
    rw [words_append_gap_append (List.cons_ne_nil _ _) space, front,
      words_solid (List.cons_ne_nil _ _) solid]
    rfl
  have ne : words ("uniform float".toList ++ [' '] ++ 'w' :: '[' :: (s ++ [']'])) ≠ [] := by
    rw [statement]
    exact List.cons_ne_nil _ _
  have ends : ';' ∉ "uniform float".toList ++ [' '] ++ 'w' :: '[' :: (s ++ [']']) := by
    have frontEnds : ';' ∉ "uniform float".toList ++ [' '] := by decide
    have lengthEnds : ';' ∉ s := nameLike.not_mem (by decide)
    refine List.not_mem_append frontEnds ?_
    simp [lengthEnds]
  rw [arraySource_eq, Statement.ofText_append ends ne, statement]
  rfl

theorem readWords_arrayStatement (ne : s ≠ []) :
    Draft.readWords [] (arrayStatement s) {} =
      arrayDraft (match Numeral.integer? s with
        | some n => .count n
        | none => .unreadable) := by
  have notName : Layout.isName (['w'] ++ '[' :: (s ++ [']'])) = false :=
    isName_eq_false_of_mem (c := '[') (by simp) (by decide)
  have noClosing : ']' ∉ s := nameLike.not_mem (by decide)
  have noBracket : '[' ∉ ['w'] := by decide
  rw [arrayStatement, Draft.readWords_cons, Draft.readWord_qualifier rfl, Draft.readWords_cons,
    Draft.readWord_valueType rfl List.not_mem_nil, Draft.readWords_cons,
    ← List.singleton_append (x := 'w'),
    Draft.readWord_bracket ⟨Draft.not_mem_keywords_of_not_isName notName, .inl rfl⟩ noBracket,
    Draft.readSubscript, takeWhile_ne_append_cons noClosing,
    ArrayLength.read_solid ne nameLike.isSolid]
  rfl

theorem read_arrayStatement (table : SpanTable) :
    Draft.read table [] (arrayStatement s) = .ok (Draft.readWords [] (arrayStatement s) {}) := by
  have plain : ∀ word ∈ arrayStatement s, word.IsPlain := by
    have brackets : 'w' ∉ structural ∧ '[' ∉ structural ∧ IsPlain [']'] := by decide
    have first : IsPlain Qualifier.uniform.keyword.toList := by decide
    refine List.forall_mem_cons.2 ⟨first, List.forall_mem_cons.2
      ⟨(isNameLike_name _).isPlain, List.forall_mem_singleton.2 ?_⟩⟩
    exact isPlain_cons.2 ⟨brackets.1, isPlain_cons.2
      ⟨brackets.2.1, isPlain_append.2 ⟨nameLike.isPlain, brackets.2.2⟩⟩⟩
  obtain ⟨readBody, read⟩ := Draft.exists_readOver table []
  rw [read, readOver_of_plain plain]

theorem setAside_arraySource : setAside (arraySource s) = (arraySource s, {}) := by
  have free {c : Char} (ends : c ∉ "uniform float w[".toList ∧ c ∉ "];".toList)
      (notPart : Layout.isNamePart c = false) : c ∉ arraySource s :=
    List.not_mem_append (List.not_mem_append ends.1 (nameLike.not_mem notPart)) ends.2
  rw [setAside, Source.stripComments_of_not_mem (free (by decide) (by decide))
      (free (by decide) (by decide)), Delimiters.braces_eq, Delimiters.parentheses_eq,
    SpanTable.extract_of_not_mem (free (by decide) (by decide))]
  exact SpanTable.extract_of_not_mem (free (by decide) (by decide)) _

theorem select_arraySource :
    Statement.select Statement.declaresStruct (arraySource s) = [] ∧
      Statement.select Statement.declaresInterface (arraySource s) = [arrayStatement s] := by
  have notModifier : Statement.isModifier Qualifier.uniform.keyword.toList = false := by decide
  have notStruct : Statement.declaresStruct (arrayStatement s) = false :=
    decide_eq_false fun head => keyword_ne_struct (by decide) (Option.some.inj head)
  have isInterface : Statement.declaresInterface (arrayStatement s) = true :=
    Statement.declaresInterface_of_leading?
      (Statement.leading?_of_not_isModifier notModifier _) (by decide)
  simp only [Statement.select, ofText_arraySource nameLike]
  exact ⟨List.filter_cons_of_neg (by simp [notStruct]), List.filter_cons_of_pos isInterface⟩

/-- The array is read with its length as a numeral, or is refused for it. -/
theorem read_arraySource (ne : s ≠ []) :
    read (arraySource s) =
      match Numeral.integer? s with
      | some n => .ok [arrayOf n]
      | none => .error (.malformed "declaration" (arrayDraft .unreadable).toForm) := by
  obtain ⟨noStruct, interface⟩ := select_arraySource nameLike
  have settled : read (arraySource s) =
      (Draft.settle "declaration" (Draft.readWords [] (arrayStatement s) {})).map ([·]) := by
    simp only [read, setAside_arraySource nameLike, readStructs, readInterface, noStruct, interface,
      List.foldlM_nil, List.map_nil, List.mapM_cons, List.mapM_nil, pure, Except.pure,
      Outcome.bind_ok, read_arrayStatement nameLike]
    cases Draft.settle "declaration" (Draft.readWords [] (arrayStatement s) {}) <;> rfl
  rw [settled, readWords_arrayStatement nameLike ne]
  cases Numeral.integer? s with
  | none =>
    rw [Draft.settle_of_unreadable "declaration" rfl rfl]
    rfl
  | some n =>
    have amount : (arrayDraft (.count n)).amount? = some n := rfl
    have ne : "w" ≠ "" := by decide
    rw [Draft.settle_of_complete _ "declaration" rfl rfl rfl ne amount (by simp [arrayDraft])
      (by simp [arrayDraft])]
    rfl

omit nameLike

/-- A literal that is accepted as the value of a layout argument is the length of an array with the
same number exactly if it reads alike. Otherwise the array has the decimal length that the digits
show, or is refused if there is none. -/
theorem read_arraySource_of_literal (literal : IsLiteral s) {n : Nat}
    (accepted : arguments? ("k=".toList ++ s) = some [("k", .number n)]) :
    (read (arraySource s) = .ok [arrayOf n] ↔ ReadsAlike s) ∧
      (¬ReadsAlike s → read (arraySource s) =
        if AreDigits 10 s ∧ s.length ≤ Numeral.maxDigits then .ok [arrayOf (numberOf 10 s)]
        else .error (.malformed "declaration" (arrayDraft .unreadable).toForm)) := by
  obtain ⟨nameLike, first, rest, same, -⟩ := literal.isNameLike
  have ne : s ≠ [] := same ▸ List.cons_ne_nil first rest
  have denotes : Denotes s n := by
    have isName : isName "k".toList = true := by decide
    obtain ⟨value, given, pair⟩ :=
      Option.map_eq_some_iff.1 ((arguments?_assignment isName nameLike ne).symm.trans accepted)
    obtain rfl : value = .number n := by simpa using pair
    cases value?_eq_some_iff.1 given with
    | number denotes => exact denotes
  rw [read_arraySource nameLike ne]
  refine ⟨?_, fun different => ?_⟩
  · rw [← integer?_eq_some_iff denotes]
    cases Numeral.integer? s <;> simp [arrayOf]
  · rw [integer?_of_not_readsAlike literal different]
    split <;> simp_all

/-- A hexadecimal length is read alike, an octal one as decimal, and one with a suffix not at all.
-/
theorem read_arraySource_literals :
    let sources := ["0x1F", "010", "4u"].map fun s => arraySource s.toList
    sources = ["uniform float w[0x1F];".toList, "uniform float w[010];".toList,
        "uniform float w[4u];".toList] ∧
      ["k=0x1F", "k=010", "k=4u"].map (fun s => arguments? s.toList) =
        [some [("k", .number 31)], some [("k", .number 8)], some [("k", .number 4)]] ∧
      sources.map read = [.ok [arrayOf 31], .ok [arrayOf 10],
        .error (.malformed "declaration" (arrayDraft .unreadable).toForm)] := by
  intro sources
  have hexadecimal : IsLiteral ('0' :: 'x' :: "1F".toList ++ []) :=
    .hexadecimal (.inl rfl) (by decide) (.inl rfl)
  have octal : IsLiteral ("010".toList ++ []) := .decimal (by decide) (.inl rfl)
  have suffixed : IsLiteral ("4".toList ++ ['u']) := .decimal (by decide) (.inr (.inl rfl))
  have first := read_arraySource_of_literal (s := "0x1F".toList) hexadecimal (n := 31)
    (by decide +kernel)
  have second := read_arraySource_of_literal (s := "010".toList) octal (n := 8) (by decide +kernel)
  have third := read_arraySource_of_literal (s := "4u".toList) suffixed (n := 4) (by decide +kernel)
  refine ⟨by decide +kernel, by decide +kernel, ?_⟩
  simp only [sources, List.map_cons, List.map_nil, first.1.2 (by decide), second.2 (by decide),
    third.2 (by decide)]
  decide +kernel

/-- Digits behind a zero are octal in a layout argument and decimal in an array length. -/
theorem not_forall_read_arraySource :
    ¬∀ (s : Text) (n : Nat), IsLiteral s →
      arguments? ("k=".toList ++ s) = some [("k", .number n)] →
      read (arraySource s) = .ok [arrayOf n] := by
  intro h
  have octal : IsLiteral ("010".toList ++ []) := .decimal (by decide) (.inl rfl)
  have claimed := h "010".toList 8 octal (by decide +kernel)
  have actual : read (arraySource "010".toList) = .ok [arrayOf 10] := by decide +kernel
  rw [actual] at claimed
  exact absurd claimed (by decide)

end Surface

end ShaderSurface
