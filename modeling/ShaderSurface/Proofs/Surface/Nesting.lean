import ShaderSurface.Proofs.Declaration.Body
import ShaderSurface.Proofs.Statement
import ShaderSurface.Proofs.Surface.Reading

/-!
# Bodies nest once

No source can forge a reference at the top level. A window in braces that stands for a text stands
for one that the pass over braces has set aside, under the reference that this pass wrote; the same
holds of windows in parentheses and the pass over those. As the texts that are set aside in braces
hold no braces, a body has no further body in it, and every reading ends
(`Surface.statements_grounded`).
-/

namespace ShaderSurface.Surface

open SpanTable

def afterBraces (source : Text) : Text × SpanTable :=
  SpanTable.extract .braces (Source.stripComments source) {}

def WritesBody (source reference text : Text) : Prop :=
  ∃ place, WritesReference .braces (Source.stripComments source) {} reference text place

def WritesLayout (source reference text : Text) : Prop :=
  ∃ place, WritesReference .parentheses (afterBraces source).1 (afterBraces source).2 reference text
    place

variable {source : Text} {statement : Statement}

theorem extends_setAside (source : Text) : (setAside source).2.Extends (afterBraces source).2 := by
  refine ⟨_, (spans_extract .parentheses (afterBraces source).1 (afterBraces source).2).symm⟩

/-- A window in parentheses resolves to nothing but a text that its pass has set aside. -/
theorem exists_writesLayout (mem : statement ∈ Statement.ofText (setAside source).1)
    {rest : List Word} {text : Text}
    (found : Draft.lookupWindow (setAside source).2 .parentheses statement =
      .ok (rest, some text)) :
    ∃ reference, (Window.find? ['('] [')'] statement).map (·.inside) = some [reference] ∧
      WritesLayout source reference text := by
  obtain ⟨reference, inside, looked, ne, digits, whole, word, bracketed⟩ :=
    Draft.exists_reference_of_lookupWindow
      (fun word inside => (Statement.isInfix_of_mem_ofText mem inside).2) found
  refine ⟨reference, inside, ?_⟩
  exact exists_writesReference_of_lookup (by decide) (by decide) (by decide)
    (Extends.refl (setAside source).2) ne digits
    (bracketed.trans (Statement.isInfix_of_mem_ofText mem word).1) looked

theorem isInfix_afterBraces {digits : Text} (visible : ∀ x ∈ digits, Text.isDigit x = true)
    (h : '{' :: (digits ++ ['}']) <:+: (setAside source).1) :
    '{' :: (digits ++ ['}']) <:+: (afterBraces source).1 := by
  have apart (x : Char) (notDigit : Text.isDigit x = false) : x ∉ digits :=
    fun hx => Bool.false_ne_true (notDigit.symm.trans (visible x hx))
  have opens : '(' ∉ '{' :: (digits ++ ['}']) := by simp [apart '(' (by decide)]
  have closes : ')' ∉ '{' :: (digits ++ ['}']) := by simp [apart ')' (by decide)]
  exact isInfix_of_isInfix_extract opens closes ⟨'{', List.mem_cons_self, by decide⟩ h

/-- A window in braces resolves to nothing but a text that its pass has set aside: what stands in
braces when the parentheses are set aside stood there before. -/
theorem exists_writesBody (mem : statement ∈ Statement.ofText (setAside source).1)
    {words : List Word} (parts : ∀ word ∈ words, ∃ whole ∈ statement, word <:+: whole)
    {rest : List Word} {text : Text}
    (found : Draft.lookupWindow (setAside source).2 .braces words = .ok (rest, some text)) :
    ∃ reference, (Window.find? ['{'] ['}'] words).map (·.inside) = some [reference] ∧
      WritesBody source reference text := by
  have inCode (word : Word) (inside : word ∈ words) :
      word <:+: (setAside source).1 ∧ word.IsSolid :=
    Statement.isInfix_of_part mem (parts word inside)
  obtain ⟨reference, inside, looked, ne, digits, whole, word, bracketed⟩ :=
    Draft.exists_reference_of_lookupWindow (fun word inside => (inCode word inside).2) found
  refine ⟨reference, inside, ?_⟩
  exact exists_writesReference_of_lookup (by decide) (by decide) (by decide)
    (extends_setAside source) ne digits
    (isInfix_afterBraces digits (bracketed.trans (inCode whole word).1)) looked

theorem WritesBody.free {reference text : Text} (h : WritesBody source reference text) :
    '{' ∉ text ∧ '}' ∉ text := by
  obtain ⟨place, written⟩ := h
  exact (Delimiters.free_of_mem_spansIn (o := '{') (c := '}')
    (List.mem_of_getElem? written.source)).2

theorem exists_writesBody_of_lookupWindow (mem : statement ∈ Statement.ofText (setAside source).1)
    {words : List Word} {layout : Option Text}
    (found : Draft.lookupWindow (setAside source).2 .parentheses statement = .ok (words, layout))
    {rest : List Word} {text : Text}
    (found' : Draft.lookupWindow (setAside source).2 .braces words = .ok (rest, some text)) :
    ∃ reference, (Window.find? ['{'] ['}'] words).map (·.inside) = some [reference] ∧
      WritesBody source reference text :=
  exists_writesBody mem (Draft.isInfix_of_lookupWindow found) found'

theorem not_mem_of_mem_ofText {body : Text} (free : '{' ∉ body)
    (mem : statement ∈ Statement.ofText body) : ∀ word ∈ statement, '{' ∉ word :=
  fun _ inside opens => free ((Statement.isInfix_of_mem_ofText mem inside).1.subset opens)

theorem readNested_of_free {table : SpanTable} {known : List String}
    (free : ∀ word ∈ statement, '{' ∉ word) (depth : Nat)
    (readMembers : Option Qualifier → Text → Except ReadError (List Declaration)) :
    Draft.readNested table known depth statement =
      Draft.readOver table known readMembers statement := by
  cases depth with
  | zero => exact Draft.readOver_eq_of_free free
  | succ depth => exact Draft.readOver_eq_of_free free

/-- A statement of the source is read without reading a body inside its body: for the statements of
its body it does not matter how bodies are read. -/
theorem read_eq_readOver (mem : statement ∈ Statement.ofText (setAside source).1)
    (known : List String)
    (readMembers : Option Qualifier → Text → Except ReadError (List Declaration)) :
    Draft.read (setAside source).2 known statement =
      Draft.readOver (setAside source).2 known
        (Draft.readBody known (Draft.readOver (setAside source).2 known readMembers))
        statement := by
  rw [Draft.read]
  cases limit : Draft.nestingLimit (setAside source).2 with
  | zero =>
    -- the table is empty, so that no window resolves
    refine Draft.readOver_congr fun words layout _ rest body found => ?_
    obtain ⟨window, -, looked⟩ := Draft.exists_of_lookupWindow found
    have filled := List.length_pos_of_mem (mem_spans_of_lookup looked)
    rw [Draft.nestingLimit, SpanTable.size, Nat.mul_eq_zero] at limit
    omega
  | succ depth =>
    refine Draft.readOver_congr fun words layout found rest body found' qualifier => ?_
    obtain ⟨reference, -, written⟩ := exists_writesBody_of_lookupWindow mem found found'
    exact Draft.readBody_congr fun member inside =>
      readNested_of_free (not_mem_of_mem_ofText written.free.1 inside) depth readMembers

/-- A statement of the source is read into the draft of the words beside its windows, with the
members of its body, if it has one; these are read without reading a body. -/
theorem exists_of_draftRead (mem : statement ∈ Statement.ofText (setAside source).1)
    {known : List String} {draft : Draft}
    (read : Draft.read (setAside source).2 known statement = .ok draft) :
    ∃ words layout,
      Draft.lookupWindow (setAside source).2 .parentheses statement = .ok (words, layout) ∧
      ((∃ rest, Draft.lookupWindow (setAside source).2 .braces words = .ok (rest, none) ∧
          draft = Draft.ofWords known words layout) ∨
        ∃ rest reference body members,
          Draft.lookupWindow (setAside source).2 .braces words = .ok (rest, some body) ∧
          WritesBody source reference body ∧
          Draft.readBody known (Draft.readOver (setAside source).2 known fun _ _ => .ok [])
            (Draft.ofWords known words layout).qualifier body = .ok members ∧
          draft = (Draft.ofWords known words layout).withBody members) := by
  rw [read_eq_readOver mem known fun _ _ => .ok []] at read
  obtain ⟨words, layout, rest, body?, found, found', added⟩ := Draft.exists_of_readOver read
  refine ⟨words, layout, found, ?_⟩
  cases body? with
  | none => exact .inl ⟨rest, found', (Except.ok.inj added).symm⟩
  | some body =>
    obtain ⟨reference, -, written⟩ := exists_writesBody_of_lookupWindow mem found found'
    obtain ⟨members, gathered, same⟩ := Outcome.map_eq_ok.1 added
    exact .inr ⟨rest, reference, body, members, found', written, gathered, same.symm⟩

theorem draftRead_ne_endless (mem : statement ∈ Statement.ofText (setAside source).1)
    (known : List String) : Draft.read (setAside source).2 known statement ≠ .error .endless := by
  rw [read_eq_readOver mem known fun _ _ => .ok []]
  refine Draft.readOver_ne_endless fun _ _ => Draft.readBody_ne_endless fun _ => ?_
  refine Draft.readOver_ne_endless fun _ _ h => ?_
  cases h

theorem read_ne_endless (source : Text) : read source ≠ .error .endless := by
  intro h
  obtain ⟨known, statement, mem, h | ⟨draft, what, -, h⟩⟩ := exists_of_read_eq_error h
  · exact draftRead_ne_endless mem known h
  · exact Draft.settle_ne_endless what draft h

/-- The members of a declaration that is read from the source have no members. -/
theorem members_eq_none {known : List String} {d : Declaration}
    (h : IsReadFrom (setAside source).2 known (Statement.ofText (setAside source).1) d) :
    ∀ member ∈ d.body, member.members = none := by
  obtain ⟨statement, mem, draft, read, settled⟩ := h
  rw [Declaration.body, settled.members]
  obtain ⟨words, layout, -, ⟨rest, -, rfl⟩ |
    ⟨rest, reference, body, members, -, written, gathered, rfl⟩⟩ := exists_of_draftRead mem read
  · rw [Draft.members_ofWords]
    exact List.forall_mem_nil _
  · intro member inside
    obtain ⟨statement', selected, draft', read', settled'⟩ :=
      Draft.exists_of_mem_readBody gathered inside
    have free := not_mem_of_mem_ofText written.free.1 (List.mem_filter.1 selected).1
    have bare : draft'.members = none := Draft.members_of_readOver_of_free free read'
    exact settled'.members.trans bare

/-- What the windows of a statement of the source resolve to: each stands for a text that the pass
over its delimiters has set aside, a body holds no braces, and no body is read inside a body. -/
structure IsGrounded (source : Text) (statement : Statement) : Prop where
  layout : ∀ rest text,
    Draft.lookupWindow (setAside source).2 .parentheses statement = .ok (rest, some text) →
      ∃ reference, (Window.find? ['('] [')'] statement).map (·.inside) = some [reference] ∧
        WritesLayout source reference text
  body : ∀ words layout,
    Draft.lookupWindow (setAside source).2 .parentheses statement = .ok (words, layout) →
      ∀ rest text, Draft.lookupWindow (setAside source).2 .braces words = .ok (rest, some text) →
        ∃ reference, (Window.find? ['{'] ['}'] words).map (·.inside) = some [reference] ∧
          WritesBody source reference text ∧ '{' ∉ text ∧ '}' ∉ text
  once : ∀ known readMembers,
    Draft.read (setAside source).2 known statement =
      Draft.readOver (setAside source).2 known
        (Draft.readBody known (Draft.readOver (setAside source).2 known readMembers)) statement

/-- The windows of every statement of every source resolve to what their own pass has set aside, so
that reading always ends, and no member of a declaration has a body of its own. -/
theorem statements_grounded (source : Text) :
    (∀ statement ∈ Statement.ofText (setAside source).1, IsGrounded source statement) ∧
      read source ≠ .error .endless ∧
      ∀ ds, read source = .ok ds → ∀ d ∈ ds, ∀ member ∈ d.body, member.members = none := by
  refine ⟨fun statement mem => ?_, read_ne_endless source, fun ds h d mem => ?_⟩
  · refine ⟨fun rest text => exists_writesLayout mem, fun words layout found rest text found' => ?_,
      read_eq_readOver mem⟩
    obtain ⟨reference, inside, written⟩ := exists_writesBody_of_lookupWindow mem found found'
    exact ⟨reference, inside, written, written.free⟩
  · obtain ⟨known, readFrom⟩ := isReadFrom_of_read h mem
    exact members_eq_none readFrom

/-- A number in braces is set aside like any other text, and not taken for a reference: here it is
the number of an earlier body. -/
theorem statements_grounded_number :
    let source := "uniform A \x7bfloat x;\x7d a; uniform B \x7b0\x7d b;".toList
    Draft.lookupWindow (setAside source).2 .braces
        ["uniform".toList, "B".toList, "\x7b1\x7d".toList, "b".toList] =
      .ok (["uniform".toList, "B".toList, "b".toList], some "0".toList) ∧
    WritesBody source "1".toList "0".toList := by
  intro source
  have found : Draft.lookupWindow (setAside source).2 .braces
        ["uniform".toList, "B".toList, "\x7b1\x7d".toList, "b".toList] =
      .ok (["uniform".toList, "B".toList, "b".toList], some "0".toList) := by decide
  have window : (Window.find? ['{'] ['}'] ["uniform".toList, "B".toList, "\x7b1\x7d".toList,
      "b".toList]).map (·.inside) = some ["1".toList] := by decide
  have grounded := (statements_grounded source).1
    ["uniform".toList, "B".toList, "\x7b1\x7d".toList, "b".toList] (by decide)
  obtain ⟨reference, inside, written, -⟩ := grounded.body _ none (by decide) _ _ found
  rw [window, Option.some.injEq, List.singleton_inj] at inside
  exact ⟨found, inside ▸ written⟩

end ShaderSurface.Surface
