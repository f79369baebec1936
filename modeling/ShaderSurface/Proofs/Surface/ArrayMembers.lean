import ShaderSurface.Proofs.Grammar.Reading
import ShaderSurface.Proofs.Layout.Footprints
import ShaderSurface.Proofs.Surface.Closure
import ShaderSurface.Proofs.Surface.Members

/-!
# Arrays among the members of a block

A member that is declared as an array of a built-in type is read with the length that is written,
and its elements are padded to the alignment of a four-component vector. An array of length one is
not told apart from a single value, so its only element is not padded
(`Surface.footprint_of_declaresArray`).
-/

namespace ShaderSurface

open Text

namespace Std140

variable {structs : StructTable} {d : Declaration} {type : ValueType} {own : Footprint}

theorem footprint_of_value (value : d.type = .value type) (sized : ofType? type = some own) :
    footprint structs d = ofElement d own := by
  have nested (depth : Nat) : footprintNested structs depth d = ofElement d own := by
    cases depth <;>
      rw [footprintNested, footprintOver_eq, elementFootprint, value] <;>
      simp only [sized, Outcome.bind_ok]
  exact nested structs.length

theorem ofElement_of_pos (positive : 1 ≤ d.amount) :
    ofElement d own = .ok (if d.amount = 1 then own else repeated d.amount.toNat own) := by
  by_cases single : d.amount = 1
  · simp [ofElement, Declaration.isArray, single]
  · simp [ofElement, Declaration.isArray, single, positive]

theorem roundUp_eq_self_iff {offset alignment : Nat} (h : alignment ∣ maxAlignment) :
    roundUp offset alignment = offset ↔ alignment ∣ offset := by
  constructor
  · intro same
    rw [← same]
    exact dvd_roundUp h offset
  · exact roundUp_of_dvd h

/-- An element takes up as much as an array of it with length one exactly if it needs no padding. -/
theorem eq_repeated_one_iff :
    own = repeated 1 own ↔ vectorAlignment ∣ own.size ∧ vectorAlignment ∣ own.alignment := by
  rw [← roundUp_eq_self_iff dvd_vectorAlignment, ← roundUp_eq_self_iff dvd_vectorAlignment]
  rcases own with ⟨size, alignment⟩
  simp [repeated, eq_comm]

end Std140

namespace Grammar

def arrayWords (type : ValueType) (name : Identifier) (length : Digits) : Statement :=
  [type.name.toList, name.text ++ '[' :: (length.text ++ [']'])]

variable {type : ValueType} {name : Identifier} {length : Digits} {known : List String}

theorem isPlain_arrayWords : ∀ word ∈ arrayWords type name length, word.IsPlain := by
  have brackets : '[' ∉ structural ∧ ']' ∉ structural := by decide
  rw [arrayWords, List.forall_mem_cons, List.forall_mem_singleton]
  refine ⟨(isNameLike_name type).isPlain, ?_⟩
  simp [name.isNameLike.isPlain, length.isNameLike.isPlain, brackets]

theorem readWords_arrayWords (notKnown : type.name ∉ known) :
    Draft.readWords known (arrayWords type name length) {} =
      { type := some (.value type), name := some name.name, length := some length.read } := by
  have noBracket : '[' ∉ name.text := name.isNameLike.not_mem (by decide)
  have noClosing : ']' ∉ length.text := length.isNameLike.not_mem (by decide)
  have notName : Layout.isName (name.text ++ '[' :: (length.text ++ [']'])) = false :=
    isName_eq_false_of_mem (c := '[') (by simp) (by decide)
  have named : name.text.isEmpty = false := by simpa using name.ne_nil
  rw [arrayWords, Draft.readWords_cons, Draft.readWord_valueType rfl notKnown, Draft.readWords_cons,
    Draft.readWord_bracket ⟨Draft.not_mem_keywords_of_not_isName notName, .inl rfl⟩ noBracket,
    Draft.readSubscript, takeWhile_ne_append_cons noClosing, length.arrayLength_read, named]
  rfl

theorem readOver_arrayWords (notKnown : type.name ∉ known) (table : SpanTable)
    (readMembers : Option Qualifier → Text → Except ReadError (List Declaration)) :
    Draft.readOver table known readMembers (arrayWords type name length) =
      .ok { type := some (.value type), name := some name.name, length := some length.read } := by
  rw [readOver_of_plain isPlain_arrayWords, readWords_arrayWords notKnown]

end Grammar

namespace Surface

open Grammar Std140

variable {source : Text} {ds : List Declaration} {statement : Statement} {type : ValueType}
  {name : Identifier} {length : Digits}

/-- A statement of the source declares a block with an array of a built-in type in its body, and no
struct of the surface takes the name of the type. -/
structure DeclaresArray (source : Text) (ds : List Declaration) (statement : Statement)
    (type : ValueType) (name : Identifier) (length : Digits) : Prop where
  selected : statement ∈ Statement.select Statement.declaresInterface (setAside source).1
  member : ∃ body, HasBody source statement body ∧
    arrayWords type name length ∈ Statement.ofText body
  unshadowed : ∀ d ∈ ds, d.qualifier = .struct → d.name ≠ type.name

theorem exists_readsAs (h : read source = .ok ds)
    (selected : statement ∈ Statement.select Statement.declaresInterface (setAside source).1) :
    ∃ d ∈ ds, ∃ known, ReadsAs source known statement d ∧ AreStructNames ds known := by
  obtain ⟨interface, structs, rfl, hstructs, hinterface⟩ := exists_of_read h
  obtain ⟨d, mem, outcome⟩ :=
    Outcome.exists_of_mem_right (Outcome.mapM_eq_ok_iff.1 hinterface).flip selected
  obtain ⟨draft, read, settled⟩ := Outcome.bind_eq_ok.1 outcome
  have readsAs : ReadsAs source (structs.map (·.name)) statement d :=
    ⟨draft, read, Draft.settlesInto_of_settle settled⟩
  exact ⟨d, List.mem_append_left _ mem, _, readsAs,
    areStructNames_of_readStructs hstructs (List.Subset.refl _) interface⟩

/-- The member that an array declaration is read as. -/
theorem exists_arrayMember (h : read source = .ok ds)
    (declared : DeclaresArray source ds statement type name length) :
    ∃ d ∈ ds, d.isBlock ∧ (∃ known, ReadsAs source known statement d) ∧ ∃ member ∈ d.body,
      member.name = name.name ∧ member.type = .value type ∧ length.value? = some member.amount := by
  obtain ⟨body, hasBody, inBody⟩ := declared.member
  obtain ⟨d, mem, known, readsAs, structs⟩ := exists_readsAs h declared.selected
  have notKnown : type.name ∉ known := by
    intro given
    obtain ⟨struct, inside, isStruct, same⟩ := structs _ given
    exact declared.unshadowed struct inside isStruct same
  have selected : arrayWords type name length ∈
      Statement.select (Statement.declaresMember known) body :=
    List.mem_filter.2 ⟨inBody, by simp [arrayWords, Statement.declaresMember]⟩
  have inCode := (List.mem_filter.1 declared.selected).1
  obtain ⟨member, inside, draft, read, settled⟩ :=
    Outcome.exists_of_mem_right (forall₂_readsMember inCode readsAs hasBody).flip selected
  obtain ⟨readMembers, nested⟩ := Draft.exists_readOver (setAside source).2 known
  rw [nested, readOver_arrayWords notKnown] at read
  obtain rfl := Except.ok.inj read
  have block : d.type = .block := by
    obtain ⟨draft, -, settled'⟩ := readsAs
    rw [settled'.body]
    cases members : d.members with
    | none => simp [Declaration.body, members] at inside
    | some members => rfl
  have amount : length.value? = some member.amount := by
    have given := settled.amount
    rw [Draft.amount?, Digits.read] at given
    cases value : length.value? with
    | none => simp [value] at given
    | some n => simpa [value] using given
  refine ⟨d, mem, beq_iff_eq.2 block, ⟨known, readsAs⟩, member, inside, ?_, ?_, amount⟩
  · exact (Option.some.inj settled.name).symm
  · exact (Option.some.inj settled.type).symm

/-- A member that is declared as an array has the padded size and alignment of its elements, unless
it has length one: then it has the footprint of a single value, which is the padded one only where
the type needs no padding. -/
theorem footprint_of_declaresArray (h : read source = .ok ds)
    (declared : DeclaresArray source ds statement type name length) {own : Footprint}
    (sized : ofType? type = some own) {n : Int} (shown : length.value? = some n)
    (positive : 1 ≤ n) :
    ∃ d ∈ ds, d.isBlock ∧ (∃ known, ReadsAs source known statement d) ∧ ∃ member ∈ d.body,
      member.name = name.name ∧ member.type = .value type ∧ member.amount = n ∧
      ∀ structs : StructTable,
        (footprint structs member =
          .ok (if n = 1 then own else
            ⟨n.toNat * roundUp own.size 16, roundUp own.alignment 16⟩)) ∧
        (footprint structs member =
            .ok ⟨n.toNat * roundUp own.size 16, roundUp own.alignment 16⟩ ↔
          n ≠ 1 ∨ 16 ∣ own.size ∧ 16 ∣ own.alignment) := by
  obtain ⟨d, mem, block, readsAs, member, inside, named, value, amount⟩ :=
    exists_arrayMember h declared
  obtain rfl : member.amount = n := by simpa [shown] using amount.symm
  have padded : (⟨member.amount.toNat * roundUp own.size 16, roundUp own.alignment 16⟩ :
      Footprint) = repeated member.amount.toNat own := by
    rw [repeated, vectorAlignment, Nat.mul_comm]
  refine ⟨d, mem, block, readsAs, member, inside, named, value, rfl, fun structs => ?_⟩
  rw [footprint_of_value value sized, ofElement_of_pos positive, padded]
  refine ⟨rfl, ?_⟩
  by_cases single : member.amount = 1
  · simpa [single, vectorAlignment] using eq_repeated_one_iff
  · simp [single]

theorem footprint_of_declaresArray_vectors :
    let source := "uniform B \x7bvec3 w[5];\x7d;".toList
    let w : Declaration := {
      qualifier := .uniform, type := .value (.vector .float .three), name := "w", amount := 5 }
    let b : Declaration := {
      qualifier := .uniform, type := .block, name := "B", members := some [w] }
    read source = .ok [b] ∧ footprint (StructTable.ofDeclarations [b]) w = .ok ⟨80, 16⟩ := by
  intro source w b
  have whole : read source = .ok [b] := by decide +kernel
  have body : HasBody source (words "uniform B \x7b0\x7d".toList) "vec3 w[5];".toList :=
    ⟨words "uniform B \x7b0\x7d".toList, none, ["uniform".toList, "B".toList], by decide +kernel,
      by decide +kernel⟩
  have declared : DeclaresArray source [b] (words "uniform B \x7b0\x7d".toList)
      (.vector .float .three) { text := "w".toList } { text := "5".toList } := {
    selected := by decide +kernel
    member := ⟨_, body, by decide +kernel⟩
    unshadowed := by simp [b] }
  have sized : ofType? (.vector .float .three) = some ⟨12, 16⟩ := rfl
  obtain ⟨d, mem, -, -, member, inside, -, -, -, sizes⟩ :=
    footprint_of_declaresArray whole declared sized (by decide : _ = some (5 : Int)) (by decide)
  obtain rfl := List.mem_singleton.1 mem
  obtain rfl := List.mem_singleton.1 inside
  exact ⟨whole, (sizes _).1⟩

/-- The element of an array of length one is not padded. -/
theorem not_forall_footprint :
    ¬∀ (source : Text) (ds : List Declaration) (statement : Statement) (type : ValueType)
      (name : Identifier) (length : Digits) (own : Footprint) (n : Int), read source = .ok ds →
      DeclaresArray source ds statement type name length → ofType? type = some own →
      length.value? = some n → 1 ≤ n →
      ∃ d ∈ ds, ∃ member ∈ d.body, member.name = name.name ∧
        footprint (StructTable.ofDeclarations ds) member =
          .ok ⟨n.toNat * roundUp own.size 16, roundUp own.alignment 16⟩ := by
  intro h
  let source := "uniform B \x7bfloat w[1];\x7d;".toList
  let w : Declaration := { qualifier := .uniform, type := .value (.scalar .float), name := "w" }
  let b : Declaration := {
    qualifier := .uniform, type := .block, name := "B", members := some [w] }
  have whole : read source = .ok [b] := by decide +kernel
  have body : HasBody source (words "uniform B \x7b0\x7d".toList) "float w[1];".toList :=
    ⟨words "uniform B \x7b0\x7d".toList, none, ["uniform".toList, "B".toList], by decide +kernel,
      by decide +kernel⟩
  have declared : DeclaresArray source [b] (words "uniform B \x7b0\x7d".toList)
      (.scalar .float) { text := "w".toList } { text := "1".toList } := {
    selected := by decide +kernel
    member := ⟨_, body, by decide +kernel⟩
    unshadowed := by simp [b] }
  obtain ⟨d, mem, member, inside, -, padded⟩ :=
    h source [b] _ _ _ _ ⟨4, 4⟩ 1 whole declared rfl (by decide) (by decide)
  obtain rfl := List.mem_singleton.1 mem
  obtain rfl := List.mem_singleton.1 inside
  have bare : footprint (StructTable.ofDeclarations [b]) w = .ok ⟨4, 4⟩ := by decide +kernel
  rw [bare] at padded
  cases padded

end Surface

end ShaderSurface
