import ShaderSurface.Proofs.Grammar.Spelling

/-!
# Words read into drafts

Each token of a declaration fills in the part of the draft that it is meant for. A keyword and the
name of a type are known as such; any other word is taken for the name, or for the array length if
it holds a square bracket, and is passed over once these are filled in.
-/

namespace ShaderSurface

namespace Grammar

def AreIdentifiers (known : List String) : Prop :=
  ∀ name ∈ known, ∃ i : Identifier, i.name = name

def AreUnreserved (known : List String) : Prop :=
  ∀ name ∈ known, name ∉ keywords ∧ ValueType.ofName? name = none

theorem AreIdentifiers.areUnreserved {known : List String} (h : AreIdentifiers known) :
    AreUnreserved known := by
  intro name inside
  obtain ⟨i, rfl⟩ := h name inside
  exact ⟨i.notKeyword, i.notType⟩

theorem AreUnreserved.name_not_mem {known : List String} (h : AreUnreserved known)
    (type : ValueType) : type.name ∉ known := by
  intro inside
  have notType := (h type.name inside).2
  rw [ValueType.ofName?_name] at notType
  cases notType

theorem AreIdentifiers.not_mem_of_not_isName {known : List String} (h : AreIdentifiers known)
    {word : Word} (notName : Layout.isName word = false) : String.ofList word ∉ known := by
  intro inside
  obtain ⟨i, same⟩ := h _ inside
  obtain rfl := String.ofList_injective same
  exact Bool.false_ne_true (notName.symm.trans i.isName)

end Grammar

namespace Draft

open Grammar

variable {known : List String} {d : Draft} {word : Word}

/-- The word is no keyword and, where the type is still open, not the name of one. -/
structure IsFree (known : List String) (d : Draft) (word : Word) : Prop where
  notKeyword : String.ofList word ∉ keywords
  notType : d.type.isSome ∨
    ValueType.ofName? (String.ofList word) = none ∧ String.ofList word ∉ known

theorem ofKeyword?_of_not_mem {s : String} (h : s ∉ keywords) : Qualifier.ofKeyword? s = none := by
  cases found : Qualifier.ofKeyword? s with
  | none => rfl
  | some q =>
    rw [← Qualifier.keyword_of_ofKeyword? found] at h
    exact absurd (keyword_mem_keywords q) h

theorem precision_ofKeyword?_of_not_mem {s : String} (h : s ∉ keywords) :
    Precision.ofKeyword? s = none := by
  cases found : Precision.ofKeyword? s with
  | none => rfl
  | some p =>
    rw [← Precision.keyword_of_ofKeyword? found] at h
    exact absurd (precision_mem_keywords p) h

theorem readWord_qualifier (vacant : d.qualifier = none) (known : List String) (q : Qualifier) :
    readWord known d q.keyword.toList = { d with qualifier := some q } := by
  simp [readWord, vacant]

theorem readWord_structName (vacant : d.type = none) {i : Identifier} (mem : i.name ∈ known) :
    readWord known d i.text = { d with type := some .struct, structName := some i.name } := by
  have notKeyword := ofKeyword?_of_not_mem i.notKeyword
  rw [Identifier.name] at mem ⊢
  cases qualifier : d.qualifier <;> simp [readWord, qualifier, notKeyword, vacant, mem]

theorem name_not_mem_keywords (type : ValueType) : type.name ∉ keywords := by
  have all : ∀ type ∈ ValueType.all, type.name ∉ keywords := by decide +kernel
  exact all type (ValueType.mem_all type)

theorem readWord_valueType (vacant : d.type = none) {type : ValueType}
    (notKnown : type.name ∉ known) :
    readWord known d type.name.toList = { d with type := some (.value type) } := by
  have notKeyword := ofKeyword?_of_not_mem (name_not_mem_keywords type)
  cases qualifier : d.qualifier <;> simp [readWord, qualifier, notKeyword, vacant, notKnown]

theorem readWord_type (vacant : d.type = none) (noStruct : d.structName = none)
    (hknown : AreUnreserved known) {type : TypeName} (isKnown : type.IsKnown known) :
    readWord known d type.word =
      { d with type := some type.declared, structName := type.structName? } := by
  cases type with
  | value type =>
    rw [TypeName.word, readWord_valueType vacant (hknown.name_not_mem type)]
    simp [TypeName.declared, TypeName.structName?, noStruct]
  | struct name => exact readWord_structName vacant isKnown

theorem isFree_of_mem_keywords (hknown : AreUnreserved known) {keyword : String}
    (mem : keyword ∈ keywords) : keyword ∉ known ∧ ValueType.ofName? keyword = none ∧
      Text.cut? keyword.toList ['['] = none := by
  have noType : ∀ keyword ∈ keywords, ValueType.ofName? keyword = none := by decide +kernel
  refine ⟨fun inside => (hknown keyword inside).1 mem, noType keyword mem, ?_⟩
  exact Text.cut?_of_not_mem ((isNameLike_of_mem_keywords keyword mem).not_mem (by decide))

theorem readWord_invariant (vacant : d.isInvariant = false) (hknown : AreUnreserved known) :
    readWord known d "invariant".toList = { d with isInvariant := true } := by
  obtain ⟨notKnown, notType, noBracket⟩ :=
    isFree_of_mem_keywords hknown (by decide : "invariant" ∈ keywords)
  have notQualifier : Qualifier.ofKeyword? "invariant" = none := by decide
  rcases d with ⟨_ | _, _ | _⟩ <;> simp_all [readWord]

theorem readWord_centroid (vacant : d.isCentroid = false) (hknown : AreUnreserved known) :
    readWord known d "centroid".toList = { d with isCentroid := true } := by
  obtain ⟨notKnown, notType, noBracket⟩ :=
    isFree_of_mem_keywords hknown (by decide : "centroid" ∈ keywords)
  have notQualifier : Qualifier.ofKeyword? "centroid" = none := by decide
  rcases d with ⟨_ | _, _ | _⟩ <;> simp_all [readWord]

theorem readWord_precision (vacant : d.precision = none) (hknown : AreUnreserved known)
    (p : Precision) :
    readWord known d p.keyword.toList = { d with precision := some p } := by
  obtain ⟨notKnown, notType, noBracket⟩ :=
    isFree_of_mem_keywords hknown (precision_mem_keywords p)
  have notQualifier : Qualifier.ofKeyword? p.keyword = none := by cases p <;> decide
  have notFlag : p.keyword ≠ "centroid" ∧ p.keyword ≠ "invariant" := by cases p <;> decide
  rcases d with ⟨_ | _, _ | _⟩ <;> simp_all [readWord]

theorem IsFree.apart (free : IsFree known d word) :
    String.ofList word ≠ "centroid" ∧ String.ofList word ≠ "invariant" := by
  constructor <;> intro same <;> exact free.notKeyword (by rw [same]; decide)

/-- Any other word without a bracket is taken for the name, if that is still open. -/
theorem readWord_free (free : IsFree known d word) (noBracket : '[' ∉ word) (ne : word ≠ []) :
    readWord known d word = { d with name := d.name <|> some (String.ofList word) } := by
  have notQualifier := ofKeyword?_of_not_mem free.notKeyword
  have notPrecision := precision_ofKeyword?_of_not_mem free.notKeyword
  have notFlag := free.apart
  have uncut := Text.cut?_of_not_mem noBracket
  have notType := free.notType
  rcases d with ⟨_ | _, _ | _, _ | _⟩ <;> simp_all [readWord]

/-- Any other word with a bracket gives a name and an array length. -/
theorem readWord_bracket {before after : Text} (free : IsFree known d (before ++ '[' :: after))
    (noBracket : '[' ∉ before) :
    readWord known d (before ++ '[' :: after) = d.readSubscript before after := by
  have notQualifier := ofKeyword?_of_not_mem free.notKeyword
  have cut := Text.cut?_append_cons noBracket after
  have notType := free.notType
  rcases d with ⟨_ | _, _ | _⟩ <;> simp_all [readWord]

theorem readWord_nil (hknown : AreIdentifiers known) : readWord known d [] = d := by
  have notKnown : "" ∉ known := hknown.not_mem_of_not_isName rfl
  have noWord : Qualifier.ofKeyword? "" = none ∧ ValueType.ofName? "" = none ∧
      Precision.ofKeyword? "" = none := by decide +kernel
  rcases d with ⟨_ | _, _ | _⟩ <;> simp_all [readWord, Text.cut?]

theorem readWords_cons (known : List String) (word : Word) (words : List Word) (d : Draft) :
    readWords known (word :: words) d = readWords known words (readWord known d word) :=
  rfl

theorem readWords_append (known : List String) (words words' : List Word) (d : Draft) :
    readWords known (words ++ words') d = readWords known words' (readWords known words d) :=
  List.foldl_append

theorem not_mem_keywords_of_not_isName (notName : Layout.isName word = false) :
    String.ofList word ∉ keywords := by
  have keywordNames : ∀ keyword ∈ keywords, Layout.isName keyword.toList = true := by decide
  intro mem
  have name := keywordNames _ mem
  rw [String.toList_ofList] at name
  exact Bool.false_ne_true (notName.symm.trans name)

theorem isFree_of_not_isName (hknown : AreIdentifiers known) (d : Draft)
    (notName : Layout.isName word = false) : IsFree known d word := by
  have typeNames : ∀ type ∈ ValueType.all, Layout.isName type.name.toList = true := by
    decide +kernel
  refine ⟨not_mem_keywords_of_not_isName notName,
    .inr ⟨?_, hknown.not_mem_of_not_isName notName⟩⟩
  cases found : ValueType.ofName? (String.ofList word) with
  | none => rfl
  | some type =>
    have name := typeNames type (ValueType.mem_all type)
    rw [ValueType.name_of_ofName? found, String.toList_ofList] at name
    exact absurd (notName.symm.trans name) Bool.false_ne_true

theorem readWords_passed (hknown : AreIdentifiers known) {words : List Word}
    (h : ∀ word ∈ words, word ≠ [] ∧ Layout.isName word = false ∧ '[' ∉ word) {d : Draft}
    (named : d.name.isSome) : readWords known words d = d := by
  induction words with
  | nil => rfl
  | cons word words ih =>
    obtain ⟨⟨ne, notName, noBracket⟩, others⟩ := List.forall_mem_cons.1 h
    obtain ⟨name, found⟩ := Option.isSome_iff_exists.1 named
    have passed : readWord known d word = d := by
      rw [readWord_free (isFree_of_not_isName hknown d notName) noBracket ne, found]
      cases d
      simp_all
    rw [readWords_cons, passed, ih others]

end Draft

namespace Grammar

open Text

/-- The length that is read from digits in square brackets: white space after the opening bracket
parts the digits from it, so that none is read. -/
def Spacing.lengthOf (s : Spacing) (n : Digits) : ArrayLength :=
  if s.afterBracket.text.isEmpty then n.read else .count 0

theorem words_numeral (s : Spacing) (n : Digits) {front : Text} (solid : front.IsSolid) :
    words (front ++ n.text ++ (s.afterLength.text ++ ']' :: s.beforeSemicolon.text)) =
        [front ++ n.text ++ [']']] ∨
      words (front ++ n.text ++ (s.afterLength.text ++ ']' :: s.beforeSemicolon.text)) =
        [front ++ n.text, [']']] := by
  have bracket : IsSolid [']'] := by decide
  have ne : front ++ n.text ≠ [] := by simp [n.ne_nil]
  have solid := solid.append n.isSolid
  rw [← List.singleton_append, ← List.append_assoc s.afterLength.text, ← List.append_assoc,
    words_append_gap s.beforeSemicolon.isGap]
  by_cases joined : s.afterLength.text = []
  · left
    rw [joined, List.nil_append, words_solid (by simp) (solid.append bracket)]
  · right
    rw [← List.append_assoc, words_append_gap_append joined s.afterLength.isGap,
      words_solid ne solid, words_solid (List.cons_ne_nil _ _) bracket]
    rfl

theorem passed_of_closing (n : Digits) {words : List Word}
    (h : words = [n.text ++ [']']] ∨ words = [n.text, [']']] ∨ words = [[']']]) :
    ∀ word ∈ words, word ≠ [] ∧ Layout.isName word = false ∧ '[' ∉ word := by
  obtain ⟨c, rest, digits⟩ := List.exists_cons_of_ne_nil n.ne_nil
  have all := n.all_isDigit
  rw [digits, List.all_cons, Bool.and_eq_true] at all
  have noBracket : '[' ∉ n.text := n.isNameLike.not_mem (by decide)
  have notName (more : Text) : Layout.isName (n.text ++ more) = false := by
    rw [digits]
    exact isName_eq_false_of_isDigit all.1 _
  have bracket : [']'] ≠ [] ∧ Layout.isName [']'] = false ∧ '[' ∉ [']'] := by decide
  rcases h with rfl | rfl | rfl
  · rw [List.forall_mem_singleton]
    exact ⟨by simp, notName _, by simp [noBracket]⟩
  · rw [List.forall_mem_cons, List.forall_mem_singleton]
    refine ⟨⟨n.ne_nil, ?_, noBracket⟩, bracket⟩
    rw [← List.append_nil n.text]
    exact notName []
  · rw [List.forall_mem_singleton]
    exact bracket

/-- The first word with the bracket gives the length, and the words after it are passed over. -/
theorem words_bracket (s : Spacing) (n : Digits) {front : Text} (name : front.IsNameLike) :
    ∃ after others, words (front ++ '[' :: (s.afterBracket.text ++ n.text ++
        (s.afterLength.text ++ ']' :: s.beforeSemicolon.text))) =
          (front ++ '[' :: after) :: others ∧
      ArrayLength.read (after.takeWhile (· ≠ ']')) = s.lengthOf n ∧
      ∀ word ∈ others, word ≠ [] ∧ Layout.isName word = false ∧ '[' ∉ word := by
  have bracket : IsSolid ['['] := by decide
  have solid : IsSolid (front ++ ['[']) := name.isSolid.append bracket
  have noClosing : ']' ∉ n.text := n.isNameLike.not_mem (by decide)
  by_cases joined : s.afterBracket.text = []
  · have length : s.lengthOf n = n.read := if_pos (by simp [joined])
    have whole : front ++ '[' :: (s.afterBracket.text ++ n.text ++
        (s.afterLength.text ++ ']' :: s.beforeSemicolon.text)) =
          front ++ ['['] ++ n.text ++ (s.afterLength.text ++ ']' :: s.beforeSemicolon.text) := by
      simp [joined]
    rw [whole, length]
    rcases words_numeral s n solid with same | same <;> rw [same]
    · refine ⟨n.text ++ [']'], [], by simp, ?_, List.forall_mem_nil _⟩
      rw [takeWhile_ne_append_cons noClosing, n.arrayLength_read]
    · refine ⟨n.text, [[']']], by simp, ?_, passed_of_closing n (.inr (.inr rfl))⟩
      rw [takeWhile_ne_of_not_mem noClosing, n.arrayLength_read]
  · have length : s.lengthOf n = .count 0 := if_neg (by simp [joined])
    have whole : front ++ '[' :: (s.afterBracket.text ++ n.text ++
        (s.afterLength.text ++ ']' :: s.beforeSemicolon.text)) =
          front ++ ['['] ++ s.afterBracket.text ++
            ([] ++ n.text ++ (s.afterLength.text ++ ']' :: s.beforeSemicolon.text)) := by
      simp
    rw [whole, length, words_append_gap_append joined s.afterBracket.isGap,
      words_solid (by simp) solid]
    rcases words_numeral s n (List.forall_mem_nil _) with same | same <;> rw [same]
    · exact ⟨[], [n.text ++ [']']], by simp, rfl, passed_of_closing n (.inl rfl)⟩
    · exact ⟨[], [n.text, [']']], by simp, rfl, passed_of_closing n (.inr (.inl rfl))⟩

theorem readWords_bracket {known : List String} (hknown : AreIdentifiers known) (s : Spacing)
    (n : Digits) {front : Text} (name : front.IsNameLike) {d : Draft} (vacant : d.length = none)
    (named : (d.name <|> if front.isEmpty then none else some (String.ofList front)).isSome) :
    d.readWords known (words (front ++ '[' :: (s.afterBracket.text ++ n.text ++
      (s.afterLength.text ++ ']' :: s.beforeSemicolon.text)))) =
        { d with
          length := some (s.lengthOf n)
          name := d.name <|> if front.isEmpty then none else some (String.ofList front) } := by
  obtain ⟨after, others, same, length, passed⟩ := words_bracket s n name
  have notName : Layout.isName (front ++ '[' :: after) = false :=
    isName_eq_false_of_mem (by simp : '[' ∈ front ++ '[' :: after) (by decide)
  have first : d.readWord known (front ++ '[' :: after) =
      { d with
        length := some (s.lengthOf n)
        name := d.name <|> if front.isEmpty then none else some (String.ofList front) } := by
    rw [Draft.readWord_bracket (Draft.isFree_of_not_isName hknown d notName)
      (name.not_mem (by decide)), Draft.readSubscript, length, vacant]
    rfl
  rw [same, Draft.readWords_cons, first, Draft.readWords_passed hknown passed named]

def nameWords (s : Spacing) (name : Identifier) (length : Option Digits) : List Word :=
  words (name.text ++ subscript s length ++ s.beforeSemicolon.text)

theorem readWords_nameWords {known : List String} (hknown : AreIdentifiers known) (s : Spacing)
    (name : Identifier) (length : Option Digits) {d : Draft} (vacant : d.length = none)
    (apart : d.type.isSome ∨ name.name ∉ known) :
    d.readWords known (nameWords s name length) =
      { d with
        length := length.map s.lengthOf
        name := d.name <|> some name.name } := by
  have free : Draft.IsFree known d name.text :=
    ⟨name.notKeyword, apart.imp_right fun notKnown => ⟨name.notType, notKnown⟩⟩
  have noBracket : '[' ∉ name.text := name.isNameLike.not_mem (by decide)
  have first := Draft.readWord_free free noBracket name.ne_nil
  cases length with
  | none =>
    rw [nameWords, subscript, List.append_nil, words_append_gap s.beforeSemicolon.isGap,
      words_solid name.ne_nil name.isNameLike.isSolid, Draft.readWords_cons, first]
    simp [Draft.readWords, vacant, Identifier.name]
  | some n =>
    by_cases joined : s.beforeBracket.text = []
    · have whole : name.text ++ subscript s (some n) ++ s.beforeSemicolon.text =
          name.text ++ '[' :: (s.afterBracket.text ++ n.text ++
            (s.afterLength.text ++ ']' :: s.beforeSemicolon.text)) := by
        simp [subscript, joined]
      have ne := List.isEmpty_eq_false_iff.2 name.ne_nil
      rw [nameWords, whole, readWords_bracket hknown s n name.isNameLike vacant (by simp [ne]), ne]
      rfl
    · have whole : name.text ++ subscript s (some n) ++ s.beforeSemicolon.text =
          name.text ++ s.beforeBracket.text ++ ([] ++ '[' :: (s.afterBracket.text ++ n.text ++
            (s.afterLength.text ++ ']' :: s.beforeSemicolon.text))) := by
        simp [subscript]
      have rest := @readWords_bracket known hknown s n [] (List.forall_mem_nil _)
        { d with name := d.name <|> some name.name } vacant (by simp)
      rw [nameWords, whole, words_append_gap_append joined s.beforeBracket.isGap,
        words_solid name.ne_nil name.isNameLike.isSolid, List.singleton_append,
        Draft.readWords_cons, first]
      exact rest.trans (by simp)

variable {known : List String} {d : Draft}

def typeWords (precision : Option Precision) (type : TypeName) : List Word :=
  (precision.map fun p => p.keyword.toList).toList ++ [type.word]

def storageWords (invariant centroid : Bool) (q : Qualifier) : List Word :=
  (if invariant then ["invariant".toList] else []) ++
    ((if centroid then ["centroid".toList] else []) ++ [q.keyword.toList])

theorem filterMap_leading_member (s : Spacing) (m : Member) :
    (m.leading s).filterMap (·.1) = typeWords m.precision m.type := by
  cases precision : m.precision <;> simp [Member.leading, typeWords, precision]

theorem filterMap_leading_variable (s : Spacing) (v : Variable) :
    ((Item.var v).leading s).filterMap (·.1) =
      storageWords v.isInvariant v.isCentroid v.storage ++ typeWords v.precision v.type := by
  have typed := filterMap_leading_member s v.toMember
  cases invariant : v.isInvariant <;> cases centroid : v.isCentroid <;>
    simp [Item.leading, storageWords, invariant, centroid, typed]

section Unreserved

variable (hknown : AreUnreserved known)
include hknown

theorem readWords_typeWords {type : TypeName} (isKnown : type.IsKnown known)
    (noPrecision : d.precision = none) (noType : d.type = none) (noStruct : d.structName = none)
    (precision : Option Precision) :
    d.readWords known (typeWords precision type) =
      { d with
        precision := precision
        type := some type.declared
        structName := type.structName? } := by
  cases precision with
  | none =>
    have first := Draft.readWord_type noType noStruct hknown isKnown
    simp [typeWords, Draft.readWords, first, noPrecision]
  | some p =>
    have first := Draft.readWord_precision noPrecision hknown p
    have second := @Draft.readWord_type known { d with precision := some p } noType noStruct hknown
      type isKnown
    simp [typeWords, Draft.readWords, first, second]

theorem readWords_invariant (vacant : d.isInvariant = false) (flag : Bool) :
    d.readWords known (if flag then ["invariant".toList] else []) =
      { d with isInvariant := flag } := by
  cases flag with
  | false =>
    rw [if_neg Bool.false_ne_true, ← vacant]
    rfl
  | true =>
    rw [if_pos rfl, Draft.readWords_cons, Draft.readWord_invariant vacant hknown]
    rfl

theorem readWords_centroid (vacant : d.isCentroid = false) (flag : Bool) :
    d.readWords known (if flag then ["centroid".toList] else []) =
      { d with isCentroid := flag } := by
  cases flag with
  | false =>
    rw [if_neg Bool.false_ne_true, ← vacant]
    rfl
  | true =>
    rw [if_pos rfl, Draft.readWords_cons, Draft.readWord_centroid vacant hknown]
    rfl

/-- The words before the name of a variable give its flags, its qualifier, its precision and its
type. -/
theorem readWords_leading {type : TypeName} (isKnown : type.IsKnown known)
    (invariant centroid : Bool) (q : Qualifier) (precision : Option Precision)
    (name layout : Option String) :
    Draft.readWords known (storageWords invariant centroid q ++ typeWords precision type)
        { name, layout } =
      { name, layout, precision
        isInvariant := invariant
        isCentroid := centroid
        qualifier := some q
        type := some type.declared
        structName := type.structName? } := by
  rw [storageWords, Draft.readWords_append, Draft.readWords_append,
    readWords_invariant hknown rfl, Draft.readWords_append, readWords_centroid hknown rfl,
    Draft.readWords_cons, Draft.readWord_qualifier rfl]
  exact readWords_typeWords hknown isKnown rfl rfl rfl precision

end Unreserved

end Grammar

end ShaderSurface
