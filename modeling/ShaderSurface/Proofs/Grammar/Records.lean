import ShaderSurface.Proofs.Declaration.Body
import ShaderSurface.Proofs.Grammar.Bodies

/-!
# The declarations of items

An item that is written with its layout keyword joined to the parentheses, some layout arguments in
them, and lengths that can be read stands for one declaration. Its statement is read into that
declaration, whatever stands around it in the source.
-/

namespace ShaderSurface.Grammar

open Text Numeral

def Arguments.layout (arguments : Arguments) : String :=
  String.ofList (squeeze arguments.text)

def Variable.declaration (v : Variable) : Declaration where
  qualifier := v.storage
  type := v.type.declared
  name := v.name.name
  amount := amountOf v.length
  isInvariant := v.isInvariant
  isCentroid := v.isCentroid
  layout := v.layout.map Arguments.layout
  precision := v.precision
  structName := v.type.structName?

def Block.length (b : Block) : Option Digits :=
  b.instance?.bind (·.2)

/-- The declaration that a block stands for. The instance name is not kept. -/
def Block.declaration (b : Block) : Declaration where
  qualifier := b.storage
  type := .block
  name := b.name.name
  amount := amountOf b.length
  layout := b.layout.map Arguments.layout
  members := some (b.members.map fun member => member.1.declaration b.storage)

def Struct.declaration (d : Struct) : Declaration where
  qualifier := .struct
  type := .block
  name := d.name.name
  members := some (d.members.map fun member => member.1.declaration .struct)

namespace Item

def length? : Item → Option Digits
  | var v => v.length
  | block b => b.length
  | _ => none

/-- The item is written so that all of its parts are read: the layout keyword is joined to the
parentheses and there are arguments, and every length can be read. -/
structure IsWritten (s : Spacing) (item : Item) : Prop where
  layout : ∀ arguments ∈ item.layout?, arguments.text ≠ [] ∧ s.beforeParenthesis.text = []
  length : s.Reads item.length?
  members : ∀ members ∈ item.members?, ∀ member ∈ members, member.2.Reads member.1.length

instance (s : Spacing) : DecidablePred (IsWritten s) := fun item =>
  decidable_of_iff
    ((∀ arguments ∈ item.layout?, arguments.text ≠ [] ∧ s.beforeParenthesis.text = []) ∧
      s.Reads item.length? ∧
      ∀ members ∈ item.members?, ∀ member ∈ members, member.2.Reads member.1.length)
    ⟨fun ⟨layout, length, members⟩ => ⟨layout, length, members⟩,
      fun ⟨layout, length, members⟩ => ⟨layout, length, members⟩⟩

variable {s : Spacing} {item : Item}

theorem IsWritten.keywordName? (h : item.IsWritten s) : item.keywordName? s = none := by
  rw [Item.keywordName?, if_neg]
  rintro ⟨given, apart⟩
  obtain ⟨arguments, layout⟩ := Option.isSome_iff_exists.1 given
  exact apart (h.layout arguments layout).2

theorem layoutName?_eq_ite (s : Spacing) (item : Item) :
    item.layoutName? s =
      if item.arguments? s = some [] then none else item.layout?.map Arguments.layout := by
  cases layout : item.layout? with
  | none => simp [Item.layoutName?, layoutText, arguments?, layout]
  | some arguments =>
    have gaps : squeeze s.afterOpening.text = [] ∧ squeeze s.beforeClosing.text = [] :=
      ⟨squeeze_gap s.afterOpening.isGap, squeeze_gap s.beforeClosing.isGap⟩
    rw [Item.layoutName?, layoutText, arguments?, layout, Option.map_some]
    by_cases empty : s.afterOpening.text ++ arguments.text ++ s.beforeClosing.text = []
    · rw [empty, if_pos rfl]
      rfl
    · rw [Option.filter_some, if_pos (decide_eq_true empty),
        if_neg fun same => empty (Option.some.inj same)]
      simp [squeeze_append, gaps, Arguments.layout]

theorem IsWritten.layoutName? (h : item.IsWritten s) :
    item.layoutName? s = item.layout?.map Arguments.layout := by
  rw [layoutName?_eq_ite, if_neg]
  intro empty
  obtain ⟨arguments, layout, empty⟩ := Option.map_eq_some_iff.1 empty
  refine (h.layout arguments layout).1 ?_
  simp only [List.append_eq_nil_iff] at empty
  exact empty.1.2

end Item

variable {table : SpanTable} {e : Entry} {known : List String}

theorem exists_readNested (filled : 0 < table.size) (known : List String) :
    ∃ depth, Draft.read table known =
      Draft.readOver table known (Draft.readBody known (Draft.readNested table known depth)) := by
  have positive : 0 < Draft.nestingLimit table := Nat.mul_pos filled (Nat.succ_pos _)
  obtain ⟨depth, limit⟩ := Nat.exists_eq_succ_of_ne_zero positive.ne'
  refine ⟨depth, ?_⟩
  funext statement
  rw [Draft.read, limit]
  rfl

theorem settle_read_var {v : Variable} (held : e.IsHeld table)
    (writable : table.size ≤ writableBound) (hknown : AreIdentifiers known)
    (item : e.item = .var v) (isKnown : v.type.IsKnown known) (what : String) :
    (do (← Draft.read table known e.statement).settle what) =
      (v.draft e.spacing).settle what := by
  obtain ⟨readBody, read⟩ := Draft.exists_readOver table known
  rw [read, readOver_var held writable hknown item isKnown, Outcome.bind_ok]

theorem settle_var {v : Variable} (held : e.IsHeld table) (writable : table.size ≤ writableBound)
    (hknown : AreIdentifiers known) (item : e.item = .var v) (isKnown : v.type.IsKnown known)
    (written : e.item.IsWritten e.spacing) :
    (do (← Draft.read table known e.statement).settle "declaration") = .ok v.declaration := by
  rw [settle_read_var held writable hknown item isKnown]
  rw [item] at written
  have name : (v.draft e.spacing).name = some v.name.name := by
    rw [Variable.draft, written.keywordName?]
    rfl
  rw [Draft.settle_of_complete _ _ rfl rfl name v.name.name_ne_empty
    (amount?_of_reads written.length rfl) v.type.declared_eq_struct_iff
    (by simp [v.type.declared_ne_block, Variable.draft])]
  have layout : (v.draft e.spacing).layout = v.layout.map Arguments.layout := written.layoutName?
  rw [layout]
  rfl

theorem bodyText_ne_nil {members : List (Member × Spacing)} (ne : members ≠ []) (last : Gap) :
    bodyText members last ≠ [] := by
  obtain ⟨member, others, rfl⟩ := List.exists_cons_of_ne_nil ne
  simp [bodyText]

theorem size_pos_of_represents {reference span : Text}
    (represents : table.Represents reference span) (ne : span ≠ []) : 0 < table.size := by
  cases represents with
  | empty => exact absurd rfl ne
  | stored _ held => exact Nat.zero_lt_of_lt (List.getElem?_eq_some_iff.1 held).1

def Item.heading? : Item → Option (Qualifier × Identifier × List (Member × Spacing))
  | block b => some (b.storage, b.name, b.members)
  | struct d => some (.struct, d.name, d.members)
  | _ => none

def Item.bodyNames : Item → List Identifier
  | block b => b.name :: (b.instance?.map (·.1)).toList
  | struct d => [d.name]
  | _ => []

theorem Item.heading?_spelled {item : Item} {q : Qualifier} {i : Identifier}
    {members : List (Member × Spacing)} (heading : item.heading? = some (q, i, members))
    (s : Spacing) :
    item.last s = i.text ++ s.beforeBrace.text ∧ item.members? = some members ∧ members ≠ [] ∧
      (item.leading s).filterMap (·.1) = [q.keyword.toList] ∧ i ∈ item.bodyNames := by
  cases item with
  | block b =>
    obtain ⟨rfl, rfl, rfl⟩ : b.storage = q ∧ b.name = i ∧ b.members = members := by
      simpa [heading?] using heading
    exact ⟨rfl, rfl, b.members_ne_nil, rfl, List.mem_cons_self⟩
  | struct d =>
    obtain ⟨rfl, rfl, rfl⟩ : .struct = q ∧ d.name = i ∧ d.members = members := by
      simpa [heading?] using heading
    exact ⟨rfl, rfl, d.members_ne_nil, rfl, List.mem_cons_self⟩
  | var v => cases heading
  | precision p => cases heading

theorem readWords_ending (hknown : AreIdentifiers known) (s : Spacing) {item : Item} {d : Draft}
    (bodied : item.heading?.isSome) (apart : ∀ i ∈ item.bodyNames, i.name ∉ known)
    (named : d.name.isSome) (vacant : d.length = none) :
    d.readWords known (words (item.ending s)) =
      { d with length := item.length?.map s.lengthOf } := by
  obtain ⟨name, given⟩ := Option.isSome_iff_exists.1 named
  have nothing : words s.beforeSemicolon.text = [] := words_gap s.beforeSemicolon.isGap
  cases item with
  | struct d =>
    simp [Item.ending, Item.trailing, nothing, Item.length?, Draft.readWords, ← vacant]
  | block b =>
    rcases instance? : b.instance? with _ | ⟨i, length⟩
    · simp [Item.ending, Item.trailing, instance?, nothing, Item.length?, Block.length,
        Draft.readWords, ← vacant]
    · have whole : (Item.block b).ending s = s.afterBrace.text ++
          (i.text ++ subscript s length ++ s.beforeSemicolon.text) := by
        simp [Item.ending, Item.trailing, instance?]
      have free : i.name ∉ known := apart i (by simp [Item.bodyNames, instance?])
      rw [whole, words_gap_append s.afterBrace.isGap, ← nameWords,
        readWords_nameWords hknown s i length vacant (.inr free)]
      simp [Item.length?, Block.length, instance?, given]
  | var v => cases bodied
  | precision p => cases bodied

theorem readWords_heading (hknown : AreIdentifiers known) {s : Spacing} {item : Item}
    (written : item.IsWritten s) {q : Qualifier} {i : Identifier}
    {members : List (Member × Spacing)} (heading : item.heading? = some (q, i, members))
    (apart : ∀ i ∈ item.bodyNames, i.name ∉ known) :
    Draft.readWords known (words (item.ending s))
        (Draft.readWord known
          (Draft.readWords known (item.leadingWords s) { layout := item.layoutName? s }) i.text) =
      {
        qualifier := some q
        name := some i.name
        layout := item.layout?.map Arguments.layout
        length := item.length?.map s.lengthOf } := by
  obtain ⟨-, -, -, leading, declared⟩ := Item.heading?_spelled heading s
  have keyword := readWords_keywordWords hknown s item (item.layoutName? s)
  rw [written.keywordName?, written.layoutName?] at keyword
  have free : Draft.IsFree known
      { layout := item.layout?.map Arguments.layout, qualifier := some q } i.text :=
    ⟨i.notKeyword, .inr ⟨i.notType, apart i declared⟩⟩
  have named := Draft.readWord_free free (i.isNameLike.not_mem (by decide)) i.ne_nil
  rw [Item.leadingWords, leading, written.layoutName?, Draft.readWords_append, keyword,
    Draft.readWords_cons, Draft.readWord_qualifier rfl]
  refine (congrArg (Draft.readWords known _) named).trans ?_
  exact readWords_ending hknown s (by simp [heading]) apart rfl rfl

theorem read_body (held : e.IsHeld table) (writable : table.size ≤ writableBound)
    (hknown : AreIdentifiers known) (written : e.item.IsWritten e.spacing) {q : Qualifier}
    {i : Identifier} {members : List (Member × Spacing)}
    (heading : e.item.heading? = some (q, i, members))
    (apart : ∀ i ∈ e.item.bodyNames, i.name ∉ known)
    (typed : ∀ member ∈ members, member.1.type.IsKnown known) :
    Draft.read table known e.statement =
      .ok {
        qualifier := some q
        type := some .block
        name := some i.name
        layout := e.item.layout?.map Arguments.layout
        length := e.item.length?.map e.spacing.lengthOf
        members := some (members.map fun member => member.1.declaration q) } := by
  obtain ⟨last, given, ne, -, -⟩ := Item.heading?_spelled heading e.spacing
  have body : e.item.body? e.spacing = some (bodyText members e.spacing.afterMembers) := by
    rw [Item.body?, given]
    rfl
  have bodyNe := bodyText_ne_nil ne e.spacing.afterMembers
  have filled : 0 < table.size := by
    have represented := held.body
    rw [body] at represented
    obtain ⟨reference, -, represents⟩ := SpanTable.exists_of_rel_some represented
    exact size_pos_of_represents represents bodyNe
  obtain ⟨depth, read⟩ := exists_readNested filled known
  have inner := readBody_bodyText hknown typed (written.members members given)
    e.spacing.afterMembers table depth q
  rw [read, readOver_body held writable hknown bodyNe last body]
  simp only [readWords_heading hknown written heading apart, inner, Outcome.bind_ok]
  rfl

theorem settle_block {b : Block} (held : e.IsHeld table) (writable : table.size ≤ writableBound)
    (hknown : AreIdentifiers known) (item : e.item = .block b)
    (written : e.item.IsWritten e.spacing) (apart : ∀ i ∈ e.item.bodyNames, i.name ∉ known)
    (typed : ∀ member ∈ b.members, member.1.type.IsKnown known) :
    (do (← Draft.read table known e.statement).settle "declaration") = .ok b.declaration := by
  have heading : e.item.heading? = some (b.storage, b.name, b.members) := by rw [item]; rfl
  rw [read_body held writable hknown written heading apart typed, Outcome.bind_ok]
  rw [Draft.settle_of_complete _ _ rfl rfl rfl b.name.name_ne_empty
    (amount?_of_reads written.length rfl) (by simp) (by simp), item]
  rfl

theorem settle_struct {d : Struct} (held : e.IsHeld table) (writable : table.size ≤ writableBound)
    (hknown : AreIdentifiers known) (item : e.item = .struct d)
    (written : e.item.IsWritten e.spacing) (apart : ∀ i ∈ e.item.bodyNames, i.name ∉ known)
    (typed : ∀ member ∈ d.members, member.1.type.IsKnown known) :
    (do (← Draft.read table known e.statement).settle "struct") = .ok d.declaration := by
  have heading : e.item.heading? = some (.struct, d.name, d.members) := by rw [item]; rfl
  rw [read_body held writable hknown written heading apart typed, Outcome.bind_ok]
  rw [Draft.settle_of_complete _ _ rfl rfl rfl d.name.name_ne_empty
    (amount?_of_reads written.length rfl) (by simp) (by simp), item]
  rfl

end ShaderSurface.Grammar
