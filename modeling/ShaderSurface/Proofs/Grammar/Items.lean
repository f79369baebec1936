import ShaderSurface.Proofs.Declaration.Settling
import ShaderSurface.Proofs.Grammar.Reading
import ShaderSurface.Proofs.Outcome

/-!
# The drafts of items

The statement of a plain declaration is read into a draft with all of its parts, and that of a block
or a struct into a draft with the members of its body. The parts are those of the item, except where
white space parts the layout keyword from its parentheses or digits from their opening bracket.
-/

namespace ShaderSurface.Grammar

open Text Numeral

def Item.layoutName? (s : Spacing) (item : Item) : Option String :=
  (item.layoutText s).map fun text => String.ofList (squeeze text)

namespace Variable

def draft (s : Spacing) (v : Variable) : Draft where
  qualifier := some v.storage
  type := some v.type.declared
  name := (Item.var v).keywordName? s <|> some v.name.name
  length := v.length.map s.lengthOf
  isInvariant := v.isInvariant
  isCentroid := v.isCentroid
  layout := (Item.var v).layoutName? s
  precision := v.precision
  structName := v.type.structName?

end Variable

variable {table : SpanTable} {e : Entry} {known : List String}
  {readBody : Option Qualifier → Text → Except ReadError (List Declaration)}

theorem words_remainder_var {v : Variable} (held : e.IsHeld table) (item : e.item = .var v) :
    words (e.item.remainder e.spacing e.body) =
      ((Item.var v).leading e.spacing).filterMap (·.1) ++ nameWords e.spacing v.name v.length := by
  have none : e.body = none := by
    have represented := held.body
    rw [item] at represented
    exact SpanTable.eq_none_of_rel represented
  rw [Item.remainder, words_spell_append (e.item.areNames_leading e.spacing), none, item]
  simp [Item.last, Item.trailing, bracketed, nameWords]

theorem readOver_var {v : Variable} (held : e.IsHeld table) (writable : table.size ≤ writableBound)
    (hknown : AreIdentifiers known) (item : e.item = .var v) (isKnown : v.type.IsKnown known) :
    Draft.readOver table known readBody e.statement = .ok (v.draft e.spacing) := by
  have plain : ∀ word ∈ (Item.var v).keywordWords e.spacing ++
      (((Item.var v).leading e.spacing).filterMap (·.1) ++ nameWords e.spacing v.name v.length),
      word.IsPlain :=
    List.forall_mem_append.2 ⟨isPlain_keywordWords e.spacing _, List.forall_mem_append.2
      ⟨isPlain_leadingWords e.spacing _, isPlain_nameWords e.spacing v.name v.length⟩⟩
  have window := lookupWindow_parentheses held writable
  rw [words_remainder_var held item, item] at window
  have noBody := @Draft.lookupWindow_of_not_mem '{' _ table '}' fun word mem =>
    (plain word mem).not_mem (by decide)
  have leading := readWords_leading hknown.areUnreserved isKnown v.isInvariant v.isCentroid
    v.storage v.precision ((Item.var v).keywordName? e.spacing) ((Item.var v).layoutName? e.spacing)
  rw [Draft.readOver, window]
  simp only [Outcome.bind_ok, map_outsideBraces plain, Draft.readWords_append, Delimiters.braces_eq,
    noBody]
  rw [← Item.layoutName?, readWords_keywordWords hknown, filterMap_leading_variable, leading,
    readWords_nameWords hknown e.spacing v.name v.length rfl (.inl rfl)]
  rfl

def amountOf : Option Digits → Int
  | none => 1
  | some n => Nat.ofDigitChars 10 n.text 0

/-- The length can be read: it is not too long and stands directly behind its opening bracket. -/
def Spacing.Reads (s : Spacing) (length : Option Digits) : Prop :=
  ∀ n ∈ length, n.IsShort ∧ s.afterBracket.text = []

instance (s : Spacing) : DecidablePred s.Reads :=
  fun length => inferInstanceAs
    (Decidable (∀ n ∈ length, n.IsShort ∧ s.afterBracket.text = []))

theorem amount?_of_reads {s : Spacing} {length : Option Digits} (h : s.Reads length) {d : Draft}
    (same : d.length = length.map s.lengthOf) : d.amount? = some (amountOf length) := by
  rw [Draft.amount?, same]
  cases length with
  | none => rfl
  | some n =>
    obtain ⟨short, tight⟩ := h n rfl
    simp [Spacing.lengthOf, tight, Digits.read, Digits.value?_of_isShort short, amountOf]

namespace TypeName

theorem declared_eq_struct_iff (type : TypeName) :
    type.declared = .struct ↔ type.structName?.isSome := by
  cases type <;> simp [declared, structName?]

theorem declared_ne_block (type : TypeName) : type.declared ≠ .block := by
  cases type <;> simp [declared]

end TypeName

theorem Identifier.name_ne_empty (i : Identifier) : i.name ≠ "" := by
  intro h
  exact i.ne_nil (String.ofList_injective h)

namespace Member

def draft (s : Spacing) (m : Member) : Draft where
  type := some m.type.declared
  name := some m.name.name
  length := m.length.map s.lengthOf
  precision := m.precision
  structName := m.type.structName?

def declaration (q : Qualifier) (m : Member) : Declaration where
  qualifier := q
  type := m.type.declared
  name := m.name.name
  amount := amountOf m.length
  precision := m.precision
  structName := m.type.structName?

theorem words_spelled (s : Spacing) (m : Member) :
    words (m.spelled s) = (m.leading s).filterMap (·.1) ++ nameWords s m.name m.length := by
  have whole : m.spelled s = s.start.text ++ (spell (m.leading s) ++
      (m.name.text ++ subscript s m.length ++ s.beforeSemicolon.text)) := by
    simp [spelled]
  rw [whole, words_gap_append s.start.isGap, words_spell_append (m.areNames_leading s), nameWords]

theorem words_spelled_ne_nil (s : Spacing) (m : Member) : words (m.spelled s) ≠ [] := by
  rw [words_spelled]
  simp [leading]

theorem readNested_spelled (hknown : AreIdentifiers known) (s : Spacing) {m : Member}
    (isKnown : m.type.IsKnown known) (table : SpanTable) (depth : Nat) :
    Draft.readNested table known depth (words (m.spelled s)) = .ok (m.draft s) := by
  have plain := isPlain_of_mem_words (m.isPlain_spelled s)
  have leading := readWords_typeWords (d := {}) hknown.areUnreserved isKnown rfl rfl rfl m.precision
  have always (readBody : Option Qualifier → Text → Except ReadError (List Declaration)) :
      Draft.readOver table known readBody (words (m.spelled s)) = .ok (m.draft s) := by
    rw [readOver_of_plain plain, words_spelled, Draft.readWords_append, filterMap_leading_member,
      leading, readWords_nameWords hknown s m.name m.length rfl (.inl rfl)]
    rfl
  cases depth with
  | zero => exact always _
  | succ depth => exact always _

theorem readMember_spelled (hknown : AreIdentifiers known) {s : Spacing} {m : Member}
    (isKnown : m.type.IsKnown known) (reads : s.Reads m.length) (table : SpanTable) (depth : Nat)
    (q : Qualifier) :
    Draft.readMember (Draft.readNested table known depth) (some q) (words (m.spelled s)) =
      .ok (m.declaration q) := by
  rw [Draft.readMember, readNested_spelled hknown s isKnown, Outcome.bind_ok]
  exact Draft.settle_of_complete _ _ rfl rfl rfl m.name.name_ne_empty
    (amount?_of_reads reads rfl) m.type.declared_eq_struct_iff
    (by simp [m.type.declared_ne_block, draft])

theorem declaresMember_spelled (s : Spacing) {m : Member} (isKnown : m.type.IsKnown known) :
    Statement.declaresMember known (words (m.spelled s)) = true := by
  have typed : (ValueType.ofName? (String.ofList m.type.word)).isSome ||
      known.contains (String.ofList m.type.word) := by
    cases type : m.type with
    | value type => simp [TypeName.word]
    | struct name =>
      rw [type] at isKnown
      have mem : String.ofList name.text ∈ known := isKnown
      simp [TypeName.word, mem]
  rw [words_spelled]
  cases precision : m.precision with
  | none =>
    simp only [leading, precision, Option.map_none, List.filterMap_cons, List.filterMap_nil,
      List.cons_append, Statement.declaresMember]
    rw [typed]
    rfl
  | some p =>
    simp [leading, precision, Statement.declaresMember]

end Member

/-- The members in a body are read into their declarations. -/
theorem readBody_bodyText (hknown : AreIdentifiers known) {members : List (Member × Spacing)}
    (typed : ∀ member ∈ members, member.1.type.IsKnown known)
    (reads : ∀ member ∈ members, member.2.Reads member.1.length) (last : Gap) (table : SpanTable)
    (depth : Nat) (q : Qualifier) :
    Draft.readBody known (Draft.readNested table known depth) (some q) (bodyText members last) =
      .ok (members.map fun member => member.1.declaration q) := by
  have statements : Statement.ofText (bodyText members last) =
      members.map fun member => words (member.1.spelled member.2) :=
    Statement.ofText_flatMap
      (fun member _ => (member.1.isPlain_spelled member.2).not_mem (by decide))
      (fun member _ => member.1.words_spelled_ne_nil member.2)
      (List.forall_mem_nil _) last.isGap
  have accepted : (members.map fun member => words (member.1.spelled member.2)).filter
      (Statement.declaresMember known) =
        members.map fun member => words (member.1.spelled member.2) := by
    rw [List.filter_eq_self]
    intro statement mem
    obtain ⟨member, written, rfl⟩ := List.mem_map.1 mem
    exact member.1.declaresMember_spelled member.2 (typed member written)
  rw [Draft.readBody, Statement.select, statements, accepted]
  apply Outcome.mapM_map_eq_ok
  intro member mem
  exact member.1.readMember_spelled hknown (typed member mem) (reads member mem) table depth q

end ShaderSurface.Grammar
