import ShaderSurface.Proofs.Declaration.Refusal
import ShaderSurface.Proofs.Surface.Nesting

/-!
# Why a source is refused

A source that is not read has a malformed declaration, with three exceptions: a body holds digits in
parentheses that show no number, a length in square brackets is too large to be shown in a refusal,
or more spans are set aside than there are numerals for (`Surface.failure_of_read`).
-/

namespace ShaderSurface.Surface

open SpanTable Numeral

/-- The text is cut into statements that are read: it is the code, or a body. -/
inductive IsStatementText (source : Text) : Text → Prop
  | code : IsStatementText source (setAside source).1
  | body {reference text : Text} (written : WritesBody source reference text) :
    IsStatementText source text

/-- In a body, digits that show no number stand in parentheses. -/
def HoldsUnreadable (source : Text) : Prop :=
  ∃ reference body digits, WritesBody source reference body ∧ IsUnreadable digits ∧
    '(' :: (digits ++ [')']) <:+: body

/-- In the code or in a body, a number that is too large to be shown stands behind a square
bracket. -/
def HoldsUnwritable (source : Text) : Prop :=
  ∃ text part n, IsStatementText source text ∧ '[' :: part <:+: text ∧
    integer? (Text.trim part) = some n ∧ isWritable n = false

inductive Explains (source : Text) : ReadError → Prop
  | malformed (what : String) (form : Form) : Explains source (.malformed what form)
  | unreadable (cause : ReferenceError) (holds : HoldsUnreadable source) :
    Explains source (.reference cause)
  | crowded (cause : ReferenceError) (large : writableBound < (setAside source).2.size) :
    Explains source (.reference cause)
  | unwritable (holds : HoldsUnwritable source) : Explains source .oversizedInteger

variable {source : Text} {statement : Statement} {known : List String} {e : ReadError}

/-- A window in parentheses in the code is refused only where there are too many spans. -/
theorem explains_of_parentheses (mem : statement ∈ Statement.ofText (setAside source).1)
    (h : Draft.lookupWindow (setAside source).2 .parentheses statement = .error e) :
    Explains source e := by
  obtain ⟨cause, digits, rfl, unreadable, whole, inside, bracketed⟩ :=
    Draft.exists_unreadable_of_lookupWindow (o := '(') (c := ')')
      (fun word inside => (Statement.isInfix_of_mem_ofText mem inside).2) h
  have inCode : '(' :: (digits ++ [')']) <:+: (setAside source).1 :=
    bracketed.trans (Statement.isInfix_of_mem_ofText mem inside).1
  exact .crowded cause
    (writableBound_lt_size_extract (by decide) (by decide) (by decide) unreadable inCode)

/-- A window in braces is refused only where there are too many spans before the parentheses are set
aside. -/
theorem explains_of_braces (mem : statement ∈ Statement.ofText (setAside source).1)
    {words : List Word} (parts : ∀ word ∈ words, ∃ whole ∈ statement, word <:+: whole)
    (h : Draft.lookupWindow (setAside source).2 .braces words = .error e) :
    Explains source e := by
  obtain ⟨cause, digits, rfl, unreadable, whole, inside, bracketed⟩ :=
    Draft.exists_unreadable_of_lookupWindow (o := '{') (c := '}')
      (fun word inside => (Statement.isInfix_of_part mem (parts word inside)).2) h
  have inCode : '{' :: (digits ++ ['}']) <:+: (afterBraces source).1 :=
    isInfix_afterBraces unreadable.digits
      (bracketed.trans (Statement.isInfix_of_part mem (parts whole inside)).1)
  have crowded : writableBound < (afterBraces source).2.size :=
    writableBound_lt_size_extract (by decide) (by decide) (by decide) unreadable inCode
  exact .crowded cause (Nat.lt_of_lt_of_le crowded (extends_setAside source).length_le)

theorem holdsUnwritable_of_lengthIn {text : Text} (isText : IsStatementText source text)
    (mem : statement ∈ Statement.ofText text) {draft : Draft} (within : draft.LengthIn statement)
    {n : Int} (amount : draft.amount? = some n) (unwritable : isWritable n = false) :
    HoldsUnwritable source := by
  rcases within n amount with writable | ⟨word, inside, part, infix', number⟩
  · rw [writable] at unwritable
    cases unwritable
  · exact ⟨text, part, n, isText, infix'.trans (Statement.isInfix_of_mem_ofText mem inside).1,
      number, unwritable⟩

section Member

variable {reference body : Text} (written : WritesBody source reference body)
  (mem : statement ∈ Statement.ofText body)
  {readMembers : Option Qualifier → Text → Except ReadError (List Declaration)}
include written mem

theorem explains_of_bodyStatement
    (h : Draft.readOver (setAside source).2 known readMembers statement = .error e) :
    Explains source e := by
  have free := not_mem_of_mem_ofText written.free.1 mem
  rcases Draft.of_readOver_eq_error h with h | ⟨remaining, layout, found, h⟩
  · obtain ⟨cause, digits, rfl, unreadable, whole, inside, bracketed⟩ :=
      Draft.exists_unreadable_of_lookupWindow (o := '(') (c := ')')
        (fun word inside => (Statement.isInfix_of_mem_ofText mem inside).2) h
    exact .unreadable cause ⟨reference, body, digits, written, unreadable,
      bracketed.trans (Statement.isInfix_of_mem_ofText mem inside).1⟩
  · -- there is no window in braces
    rw [Draft.lookupWindow_braces_of_free free found] at h
    rcases h with h | ⟨rest, text, h, -⟩ <;> cases h

/-- The amount of a member that is read is in the body. -/
theorem holdsUnwritable_of_member {draft : Draft}
    (read : Draft.readOver (setAside source).2 known readMembers statement = .ok draft)
    {inherited : Option Qualifier} {member : Declaration}
    (settled : Draft.SettlesInto { draft with qualifier := inherited } member)
    (unwritable : member.toJson.isWritable = false) : HoldsUnwritable source := by
  have free := not_mem_of_mem_ofText written.free.1 mem
  have noBody : draft.members = none := Draft.members_of_readOver_of_free free read
  have bare : member.members = none := settled.members.trans noBody
  have amount : draft.amount? = some member.amount := settled.amount
  rw [Declaration.isWritable_toJson bare] at unwritable
  exact holdsUnwritable_of_lengthIn (.body written) mem (Draft.lengthIn_of_readOver read) amount
    unwritable

theorem explains_of_readMember {inherited : Option Qualifier}
    (h : Draft.readMember (Draft.readOver (setAside source).2 known readMembers) inherited
      statement = .error e) : Explains source e := by
  have free := not_mem_of_mem_ofText written.free.1 mem
  rcases Outcome.bind_eq_error.1 h with h | ⟨draft, read, h⟩
  · exact explains_of_bodyStatement written mem h
  · rcases Draft.refusal_of_settle h with ⟨form, rfl⟩ | ⟨rfl, ⟨n, amount, unwritable⟩ | holds⟩
    · exact .malformed _ form
    · have amount : draft.amount? = some n := amount
      exact .unwritable (holdsUnwritable_of_lengthIn (.body written) mem
        (Draft.lengthIn_of_readOver read) amount unwritable)
    · -- a statement of a body has no members of its own
      obtain ⟨members, given, -⟩ := holds
      rw [Draft.members_of_readOver_of_free free read] at given
      cases given

end Member

/-- A statement of the code is not read if a window in it is refused, or if a member is not read. -/
theorem explains_of_draftRead (mem : statement ∈ Statement.ofText (setAside source).1)
    (h : Draft.read (setAside source).2 known statement = .error e) : Explains source e := by
  rw [read_eq_readOver mem known fun _ _ => .ok []] at h
  rcases Draft.of_readOver_eq_error h with
    h | ⟨remaining, layout, found, h | ⟨rest, body, found', h⟩⟩
  · exact explains_of_parentheses mem h
  · exact explains_of_braces mem (Draft.isInfix_of_lookupWindow found) h
  · obtain ⟨reference, -, written⟩ := exists_writesBody_of_lookupWindow mem found found'
    obtain ⟨statement', selected, h⟩ := Outcome.exists_of_mapM_eq_error h
    exact explains_of_readMember written (List.mem_filter.1 selected).1 h

theorem explains_of_settle (mem : statement ∈ Statement.ofText (setAside source).1) {draft : Draft}
    (read : Draft.read (setAside source).2 known statement = .ok draft) {what : String}
    (h : draft.settle what = .error e) : Explains source e := by
  rcases Draft.refusal_of_settle h with ⟨form, rfl⟩ | ⟨rfl, ⟨n, amount, unwritable⟩ | holds⟩
  · exact .malformed what form
  · rw [read_eq_readOver mem known fun _ _ => .ok []] at read
    exact .unwritable
      (holdsUnwritable_of_lengthIn .code mem (Draft.lengthIn_of_readOver read) amount unwritable)
  · obtain ⟨members, given, member, inside, unwritable⟩ := holds
    obtain ⟨words, layout, -, ⟨rest, -, rfl⟩ |
      ⟨rest, reference, body, members', -, written, gathered, rfl⟩⟩ := exists_of_draftRead mem read
    · rw [Draft.members_ofWords] at given
      cases given
    · obtain rfl := Option.some.inj given
      obtain ⟨statement', selected, draft', read', settled⟩ :=
        Draft.exists_of_mem_readBody gathered inside
      exact .unwritable
        (holdsUnwritable_of_member written (List.mem_filter.1 selected).1 read' settled unwritable)

theorem explains_of_read (h : read source = .error e) : Explains source e := by
  obtain ⟨known, statement, mem, h | ⟨draft, what, read, h⟩⟩ := exists_of_read_eq_error h
  · exact explains_of_draftRead mem h
  · exact explains_of_settle mem read h

/-- A lookup stands for a text exactly if a single word shows its place, and is refused exactly for
a single run of digits that shows no number. A source is read or refused as malformed, unless a body
holds such digits in parentheses, more spans are set aside than there are numerals for, or a length
is too large to be shown. -/
theorem outcome_of_read (table : SpanTable) (words : List Word) (source : Text) :
    (∀ text, table.lookup words = .ok (some text) ↔
      ∃ word place, words = [word] ∧ Shows (Text.trim word) place ∧
        table.spans[place]? = some text) ∧
    ((∃ cause, table.lookup words = .error cause) ↔
      ∃ word, words = [word] ∧ IsUnreadable (Text.trim word)) ∧
    ((∃ ds, read source = .ok ds) ∨
      (∃ what form, read source = .error (.malformed what form)) ∨
      ((∃ cause, read source = .error (.reference cause)) ∧
        (HoldsUnreadable source ∨ writableBound < (setAside source).2.size)) ∨
      (read source = .error .oversizedInteger ∧ HoldsUnwritable source)) := by
  refine ⟨fun _ => lookup_eq_some_iff, exists_lookup_eq_error_iff, ?_⟩
  cases outcome : read source with
  | ok ds => exact .inl ⟨ds, rfl⟩
  | error e =>
    refine .inr ?_
    cases explains_of_read outcome with
    | malformed what form => exact .inl ⟨what, form, rfl⟩
    | unreadable cause holds => exact .inr (.inl ⟨⟨cause, rfl⟩, .inl holds⟩)
    | crowded cause large => exact .inr (.inl ⟨⟨cause, rfl⟩, .inr large⟩)
    | unwritable holds => exact .inr (.inr ⟨rfl, holds⟩)

/-- A superscript digit is not looked up, and in the parentheses of a member it stops the reading of
a source that has no malformed declaration. -/
theorem not_forall_malformed :
    (¬∀ source : Text, (∃ ds, read source = .ok ds) ∨
      ∃ what form, read source = .error (.malformed what form)) ∧
    ¬∀ (table : SpanTable) (words : List Word), ∃ text?, table.lookup words = .ok text? := by
  have refused : read "uniform B \x7blayout(²) float x;\x7d;".toList =
      .error (.reference (.notDecimal "²".toList)) := by decide +kernel
  have refused' : SpanTable.lookup {} ["²".toList] = .error (.notDecimal "²".toList) := by
    decide +kernel
  constructor
  · intro h
    rcases h "uniform B \x7blayout(²) float x;\x7d;".toList with ⟨ds, h⟩ | ⟨what, form, h⟩
    · rw [refused] at h
      cases h
    · rw [refused] at h
      cases h
  · intro h
    obtain ⟨text?, h⟩ := h {} ["²".toList]
    rw [refused'] at h
    cases h

end ShaderSurface.Surface
