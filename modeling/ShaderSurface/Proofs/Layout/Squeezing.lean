import ShaderSurface.Proofs.Layout.Arguments
import ShaderSurface.Proofs.Surface.Layouts

/-!
# Layout arguments without white space

White space may stand only between the names, the values and the signs of layout arguments, never
in them, and a sign parts each two of these. So an accepted text lists the same pairs when its white
space is dropped, which is how a layout is kept in a declaration (`Layout.arguments?_stored`).
-/

namespace ShaderSurface.Layout

open Text

variable {c : Char} {s piece : Text} {pair : String × LayoutValue}
  {pairs : List (String × LayoutValue)}

theorem isBlank_of_isSpace (h : isSpace c = true) : isBlank c = true := by
  have all : ∀ x ∈ [' ', '\t', '\x0c', '\r', '\n'], isBlank x = true := by decide
  have listed : c ∈ [' ', '\t', '\x0c', '\r', '\n'] := by
    simpa [isSpace, or_assoc] using h
  exact all c listed

theorem squeeze_between {before after : Text} (hbefore : IsSpacing before) (nameLike : s.IsNameLike)
    (hafter : IsSpacing after) : squeeze (before ++ s ++ after) = s := by
  have gap {t : Text} (spacing : IsSpacing t) : t.IsGap := fun c mem =>
    isBlank_of_isSpace (spacing c mem)
  rw [squeeze_append, squeeze_append, squeeze_gap (gap hbefore), squeeze_gap (gap hafter),
    squeeze_solid nameLike.isSolid, List.nil_append, List.append_nil]

theorem SpellsItem.squeeze (h : SpellsItem piece pair) : SpellsItem (squeeze piece) pair := by
  have none : IsSpacing [] := List.forall_mem_nil _
  cases h with
  | @flag before name after hbefore isName hafter =>
    have tight := SpellsItem.flag none isName none
    rw [List.nil_append, List.append_nil] at tight
    rwa [squeeze_between hbefore (isNameLike_of_isName isName) hafter]
  | @assignment before name beforeSign afterSign value after v hbefore isName hbeforeSign
      hafterSign spells hafter =>
    have sign : Text.squeeze ['='] = ['='] := by decide
    have tight := SpellsItem.assignment none isName none none spells none
    rw [List.nil_append, List.append_nil, List.nil_append, List.append_nil] at tight
    rw [List.append_cons, squeeze_append, squeeze_append, sign,
      squeeze_between hbefore (isNameLike_of_isName isName) hbeforeSign,
      squeeze_between hafterSign (isNameLike_of_spells spells).1 hafter, ← List.append_cons]
    exact tight

theorem squeeze_intercalate (pieces : List Text) :
    squeeze ([','].intercalate pieces) = [','].intercalate (pieces.map squeeze) := by
  have comma : squeeze [','] = [','] := by decide
  induction pieces with
  | nil => rfl
  | cons piece pieces ih =>
    cases pieces with
    | nil => simp
    | cons next pieces =>
      rw [List.intercalate_cons_cons, squeeze_append, squeeze_append, comma, ih, List.map_cons,
        List.map_cons, List.map_cons, List.intercalate_cons_cons]

theorem Lists.squeeze (h : Lists s pairs) : Lists (squeeze s) pairs := by
  cases h with
  | empty => exact .empty
  | @items pieces pairs ne spelled =>
    rw [squeeze_intercalate]
    refine .items (by simpa using ne) ?_
    rw [List.forall₂_map_left_iff]
    exact spelled.imp fun _ _ spells => spells.squeeze

theorem arguments?_squeeze {table : Keyed String LayoutValue}
    (accepted : arguments? s = some table) : arguments? (squeeze s) = some table := by
  obtain ⟨pairs, lists, rfl⟩ := arguments?_eq_some_iff.1 accepted
  exact arguments?_eq_some_iff.2 ⟨pairs, lists.squeeze, rfl⟩

/-- Arguments that are accepted are accepted without white space, and they are the same. So a
statement with such a text in its first parentheses gets a layout that is accepted with the same
arguments. -/
theorem arguments?_stored {table : Keyed String LayoutValue}
    (accepted : arguments? s = some table) :
    arguments? (squeeze s) = some table ∧
      ∀ (spans : SpanTable) (known : List String) (statement rest : List Word) (draft : Draft),
        Draft.lookupWindow spans .parentheses statement = .ok (rest, some s) →
        Draft.read spans known statement = .ok draft →
        ∃ layout, draft.layout = some layout ∧ layout.toList = squeeze s ∧
          arguments? layout.toList = some table := by
  have kept := arguments?_squeeze accepted
  refine ⟨kept, fun spans known statement rest draft found read => ?_⟩
  obtain ⟨readMembers, nested⟩ := Draft.exists_readOver spans known
  rw [nested] at read
  obtain ⟨rest', text?, found', layout⟩ := Draft.layout_of_readOver read
  obtain ⟨-, rfl⟩ := Prod.mk.inj (Except.ok.inj (found.symm.trans found'))
  exact ⟨_, layout, String.toList_ofList, String.toList_ofList.symm ▸ kept⟩

/-- All kinds of space, and literals in three notations. -/
theorem arguments?_stored_spaced :
    let s := " std140 ,\tbinding = 0x1Fu\n, index= main ,\x0clocation =\r017U".toList
    let table : Keyed String LayoutValue := [("std140", .flag), ("binding", .number 31),
      ("index", .name "main"), ("location", .number 15)]
    let spans : SpanTable := ⟨[s]⟩
    let statement := words "layout(0) out vec4 p".toList
    let rest := words "out vec4 p".toList
    let draft : Draft := {
      qualifier := some .output, type := some (.value (.vector .float .four)), name := some "p"
      layout := some "std140,binding=0x1Fu,index=main,location=017U" }
    arguments? s = some table ∧
      Draft.lookupWindow spans .parentheses statement = .ok (rest, some s) ∧
      Draft.read spans [] statement = .ok draft ∧ arguments? (squeeze s) = some table ∧
      ∃ layout, draft.layout = some layout ∧ layout.toList = squeeze s ∧
        arguments? layout.toList = some table := by
  intro s table spans statement rest draft
  have accepted : arguments? s = some table := by decide +kernel
  have found : Draft.lookupWindow spans .parentheses statement = .ok (rest, some s) := by
    decide +kernel
  have read : Draft.read spans [] statement = .ok draft := by decide +kernel
  obtain ⟨kept, stored⟩ := arguments?_stored accepted
  exact ⟨accepted, found, read, kept, stored spans [] statement rest draft found read⟩

/-- Without white space a text can be accepted that was not: two names become one. -/
example : arguments? "a b".toList = none ∧
    arguments? (squeeze "a b".toList) = some [("ab", .flag)] := by
  decide

end ShaderSurface.Layout
