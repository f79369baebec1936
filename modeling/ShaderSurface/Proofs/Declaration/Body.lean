import ShaderSurface.Proofs.Declaration.Filling
import ShaderSurface.Proofs.Declaration.Settling
import ShaderSurface.Proofs.Outcome
import ShaderSurface.Proofs.Span.Grounding
import ShaderSurface.Proofs.Span.Window

/-!
# Statements and their bodies

A statement is read into the draft of its words, and the members in its body are added to it, if it
has one. So how bodies are read matters only for the body that the window in braces gives, and for a
statement without opening braces it does not matter at all. Apart from the body, a statement is
refused for a reference that is too long and for nothing else.
-/

namespace ShaderSurface.Draft

open Text

variable {table : SpanTable} {known : List String} {statement words rest : List Word}
  {readMembers readMembers' : Option Qualifier → Text → Except ReadError (List Declaration)}

theorem exists_of_lookupWindow {d : Delimiters} {text : Text}
    (h : lookupWindow table d words = .ok (rest, some text)) :
    ∃ window, Window.find? d.opening d.closing words = some window ∧
      table.lookup window.inside = .ok (some text) := by
  rw [lookupWindow] at h
  split at h
  · cases h
  · rename_i window found
    obtain ⟨text?, looked, same⟩ := Outcome.bind_eq_ok.1 h
    obtain ⟨rfl, rfl⟩ := Prod.mk.inj (Except.ok.inj same)
    refine ⟨window, found, ?_⟩
    cases result : table.lookup window.inside with
    | error cause =>
      rw [result] at looked
      cases looked
    | ok text? =>
      rw [result] at looked
      exact congrArg Except.ok (Except.ok.inj looked)

theorem exists_reference_of_lookupWindow {o c : Char} {text : Text}
    (solid : ∀ word ∈ words, word.IsSolid)
    (h : lookupWindow table (.ofChars o c) words = .ok (rest, some text)) :
    ∃ reference, (Window.find? [o] [c] words).map (·.inside) = some [reference] ∧
      table.lookup [reference] = .ok (some text) ∧ reference ≠ [] ∧
      (∀ x ∈ reference, isDigit x = true) ∧
      ∃ whole ∈ words, o :: (reference ++ [c]) <:+: whole := by
  obtain ⟨window, found, looked⟩ := exists_of_lookupWindow h
  obtain ⟨reference, inside, ne, digits⟩ := SpanTable.exists_of_lookup looked
  have filled : reference ≠ [] := by
    rintro rfl
    exact ne rfl
  obtain ⟨whole, mem, between⟩ := Window.exists_isInfix_of_find? found inside filled
  have solid : reference.IsSolid := by
    intro x hx
    exact solid whole mem x (between.subset (List.mem_cons_of_mem o (List.mem_append_left [c] hx)))
  rw [trim_solid solid] at digits
  rw [inside] at looked
  exact ⟨reference, Option.map_eq_some_iff.2 ⟨window, found, inside⟩, looked, filled, digits, whole,
    mem, between⟩

theorem isInfix_of_lookupWindow {d : Delimiters} {text? : Option Text}
    (h : lookupWindow table d words = .ok (rest, text?)) :
    ∀ word ∈ rest, ∃ whole ∈ words, word <:+: whole := by
  rw [lookupWindow] at h
  split at h
  · obtain ⟨rfl, -⟩ := Prod.mk.inj (Except.ok.inj h)
    exact fun word mem => ⟨word, mem, List.infix_rfl⟩
  · rename_i window found
    obtain ⟨text?, -, same⟩ := Outcome.bind_eq_ok.1 h
    obtain ⟨rfl, -⟩ := Prod.mk.inj (Except.ok.inj same)
    exact fun word mem => Window.exists_isInfix_of_mem_remaining found mem

theorem lookupWindow_ne_endless (table : SpanTable) (d : Delimiters) (words : List Word) :
    lookupWindow table d words ≠ .error .endless := by
  intro h
  rw [lookupWindow] at h
  split at h
  · cases h
  · rename_i window _
    cases result : table.lookup window.inside with
    | error cause =>
      rw [result] at h
      cases h
    | ok text? =>
      rw [result] at h
      cases h

theorem isInfix_outsideBraces (word : Word) : outsideBraces word <:+: word.takeWhile (· ≠ '{') := by
  simp only [outsideBraces]
  split
  · rename_i before after cut
    exact ⟨before ++ ['}'], [], by rw [List.append_nil, eq_of_cut? cut]⟩
  · exact List.infix_rfl

def ofWords (known : List String) (words : List Word) (layout : Option Text) : Draft :=
  readWords known (words.map outsideBraces)
    { layout := layout.map fun text => String.ofList (squeeze text) }

theorem layout_ofWords (known : List String) (words : List Word) (layout : Option Text) :
    (ofWords known words layout).layout = layout.map fun text => String.ofList (squeeze text) :=
  (frame_readWords known _ _).1

theorem members_ofWords (known : List String) (words : List Word) (layout : Option Text) :
    (ofWords known words layout).members = none :=
  (frame_readWords known _ _).2

def withBody (d : Draft) (members : List Declaration) : Draft :=
  { d with members := some members, type := d.type <|> some .block }

def addBody (readMembers : Option Qualifier → Text → Except ReadError (List Declaration))
    (d : Draft) : Option Text → Except ReadError Draft
  | none => .ok d
  | some body => (readMembers d.qualifier body).map d.withBody

theorem readOver_eq (table : SpanTable) (known : List String)
    (readMembers : Option Qualifier → Text → Except ReadError (List Declaration))
    (statement : Statement) :
    readOver table known readMembers statement =
      lookupWindow table .parentheses statement >>= fun (remaining, layout) =>
        lookupWindow table .braces remaining >>= fun (_, body) =>
          addBody readMembers (ofWords known remaining layout) body := by
  have bodies : ∀ d body?, addBody readMembers d body? = match body? with
      | none => .ok d
      | some body => do
        let members ← readMembers d.qualifier body
        return { d with members := some members, type := d.type <|> some .block } := by
    intro d body?
    cases body? with
    | none => rfl
    | some body => cases readMembers d.qualifier body <;> rfl
  simp only [bodies]
  rfl

/-- The draft of a statement has the layout of the window in parentheses, and the members of the
body that the window in braces gives. -/
theorem exists_of_readOver {draft : Draft}
    (h : readOver table known readMembers statement = .ok draft) :
    ∃ remaining layout rest body?,
      lookupWindow table .parentheses statement = .ok (remaining, layout) ∧
      lookupWindow table .braces remaining = .ok (rest, body?) ∧
      addBody readMembers (ofWords known remaining layout) body? = .ok draft := by
  rw [readOver_eq] at h
  obtain ⟨⟨remaining, layout⟩, found, h⟩ := Outcome.bind_eq_ok.1 h
  obtain ⟨⟨rest, body?⟩, found', h⟩ := Outcome.bind_eq_ok.1 h
  exact ⟨remaining, layout, rest, body?, found, found', h⟩

theorem readOver_congr
    (same : ∀ remaining layout,
      lookupWindow table .parentheses statement = .ok (remaining, layout) →
      ∀ rest body, lookupWindow table .braces remaining = .ok (rest, some body) →
        ∀ qualifier, readMembers qualifier body = readMembers' qualifier body) :
    readOver table known readMembers statement = readOver table known readMembers' statement := by
  rw [readOver_eq, readOver_eq]
  cases found : lookupWindow table .parentheses statement with
  | error e => rfl
  | ok pair =>
    obtain ⟨remaining, layout⟩ := pair
    simp only [Outcome.bind_ok]
    cases found' : lookupWindow table .braces remaining with
    | error e => rfl
    | ok pair =>
      obtain ⟨rest, _ | body⟩ := pair
      · rfl
      · simp only [Outcome.bind_ok, addBody, same remaining layout found rest body found']

theorem of_readOver_eq_error {e : ReadError}
    (h : readOver table known readMembers statement = .error e) :
    lookupWindow table .parentheses statement = .error e ∨
      ∃ remaining layout,
        lookupWindow table .parentheses statement = .ok (remaining, layout) ∧
          (lookupWindow table .braces remaining = .error e ∨
            ∃ rest body, lookupWindow table .braces remaining = .ok (rest, some body) ∧
              readMembers (ofWords known remaining layout).qualifier body = .error e) := by
  rw [readOver_eq] at h
  rcases Outcome.bind_eq_error.1 h with h | ⟨⟨remaining, layout⟩, found, h⟩
  · exact .inl h
  refine .inr ⟨remaining, layout, found, ?_⟩
  rcases Outcome.bind_eq_error.1 h with h | ⟨⟨rest, _ | body⟩, found', h⟩
  · exact .inl h
  · cases h
  · refine .inr ⟨rest, body, found', ?_⟩
    cases result : readMembers (ofWords known remaining layout).qualifier body with
    | error e' =>
      simp only [addBody, result, Except.map, Except.error.injEq] at h
      rw [h]
    | ok members =>
      simp only [addBody, result] at h
      cases h

theorem readOver_ne_endless
    (ends : ∀ qualifier body, readMembers qualifier body ≠ .error .endless) :
    readOver table known readMembers statement ≠ .error .endless := by
  intro h
  rcases of_readOver_eq_error h with h | ⟨remaining, layout, -, h | ⟨rest, body, -, h⟩⟩
  · exact lookupWindow_ne_endless table _ _ h
  · exact lookupWindow_ne_endless table _ _ h
  · exact ends _ _ h

theorem exists_readOver (table : SpanTable) (known : List String) :
    ∃ readMembers, Draft.read table known = readOver table known readMembers := by
  cases limit : nestingLimit table with
  | zero => exact ⟨_, funext fun statement => by rw [Draft.read, limit]; rfl⟩
  | succ depth => exact ⟨_, funext fun statement => by rw [Draft.read, limit]; rfl⟩

section BraceFree

variable (free : ∀ word ∈ statement, '{' ∉ word)
include free

theorem lookupWindow_braces_of_free {remaining : List Word} {layout : Option Text}
    (found : lookupWindow table .parentheses statement = .ok (remaining, layout)) :
    lookupWindow table .braces remaining = .ok (remaining, none) := by
  rw [Delimiters.braces_eq]
  refine lookupWindow_of_not_mem '}' fun word mem opens => ?_
  obtain ⟨whole, inside, part⟩ := isInfix_of_lookupWindow found word mem
  exact free whole inside (part.subset opens)

theorem readOver_eq_of_free :
    readOver table known readMembers statement = readOver table known readMembers' statement := by
  refine readOver_congr fun remaining layout found rest body found' => ?_
  rw [lookupWindow_braces_of_free free found] at found'
  cases found'

theorem members_of_readOver_of_free {draft : Draft}
    (h : readOver table known readMembers statement = .ok draft) : draft.members = none := by
  obtain ⟨remaining, layout, rest, body?, found, found', added⟩ := exists_of_readOver h
  rw [lookupWindow_braces_of_free free found, Except.ok.injEq, Prod.mk.injEq] at found'
  obtain ⟨-, rfl⟩ := found'
  obtain rfl := Except.ok.inj added
  exact members_ofWords known _ _

end BraceFree

theorem settle_ne_endless (what : String) (d : Draft) : d.settle what ≠ .error .endless := by
  intro h
  rw [settle, Form.settle] at h
  split at h
  · cases h
  · split at h <;> cases h

variable {readStatement readStatement' : Statement → Except ReadError Draft}
  {inherited : Option Qualifier} {body : Text}

theorem readBody_congr (same : ∀ statement ∈ Statement.ofText body,
    readStatement statement = readStatement' statement) :
    readBody known readStatement inherited body = readBody known readStatement' inherited body := by
  refine Outcome.mapM_congr fun statement mem => ?_
  rw [readMember, readMember, same statement (List.mem_filter.1 mem).1]

theorem readBody_ne_endless (ends : ∀ statement, readStatement statement ≠ .error .endless) :
    readBody known readStatement inherited body ≠ .error .endless := by
  intro h
  obtain ⟨statement, -, h⟩ := Outcome.exists_of_mapM_eq_error h
  rcases Outcome.bind_eq_error.1 h with h | ⟨draft, -, h⟩
  · exact ends statement h
  · exact settle_ne_endless _ _ h

/-- Each member of a body is settled from the draft of a statement, with the inherited qualifier if
it has none of its own. -/
theorem exists_of_mem_readBody {members : List Declaration}
    (h : readBody known readStatement inherited body = .ok members) {member : Declaration}
    (mem : member ∈ members) :
    ∃ statement ∈ Statement.select (Statement.declaresMember known) body, ∃ draft,
      readStatement statement = .ok draft ∧
        SettlesInto { draft with qualifier := draft.qualifier <|> inherited } member := by
  obtain ⟨statement, selected, read⟩ :=
    Outcome.exists_of_mem_right (Outcome.mapM_eq_ok_iff.1 h) mem
  obtain ⟨draft, drafted, settled⟩ := Outcome.bind_eq_ok.1 read
  exact ⟨statement, selected, draft, drafted, settlesInto_of_settle settled⟩

end ShaderSurface.Draft
