import ShaderSurface.Proofs.Grammar.Drafts
import ShaderSurface.Proofs.Grammar.Entries
import ShaderSurface.Proofs.Outcome
import ShaderSurface.Proofs.Span.Window

/-!
# The statements of a source as drafts

The layout window of an entry gives the arguments of its item, and the words that are left are its
tokens; the keyword before the parentheses is left as a word too if white space parts it from them.
-/

namespace ShaderSurface.Grammar

open Text Numeral

namespace Item

/-- The item behind its layout arguments, with another text in its braces. -/
def remainder (s : Spacing) (item : Item) (body : Option Text) : Text :=
  spell (item.leading s) ++ (item.last s ++ bracketed '{' '}' body ++ item.trailing s ++
    s.beforeSemicolon.text)

def keywordWords (s : Spacing) (item : Item) : List Word :=
  if item.layout?.isSome ∧ s.beforeParenthesis.text ≠ [] then ["layout".toList] else []

def layoutText (s : Spacing) (item : Item) : Option Text :=
  (item.arguments? s).filter (· ≠ [])

end Item

variable {table : SpanTable} {e : Entry}

theorem Entry.IsHeld.not_mem_remainder (held : e.IsHeld table) {x : Char}
    (parenthesis : x ∈ ['(', ')']) : x ∉ e.item.remainder e.spacing e.body := by
  have facts : ∀ y ∈ ['(', ')'], y ∈ structural ∧ y ≠ '{' ∧ y ≠ '}' := by decide
  obtain ⟨structured, opens, closes⟩ := facts x parenthesis
  simp only [Item.remainder, List.mem_append, not_or]
  exact ⟨(isPlain_spell (e.item.areNames_leading e.spacing)).not_mem structured,
    ⟨⟨(e.item.isPlain_last e.spacing).not_mem structured,
      not_mem_bracketed opens closes fun text mem =>
        (isPlain_of_rel held.body text mem).not_mem structured⟩,
      (e.item.isPlain_trailing e.spacing).not_mem structured⟩,
    e.spacing.beforeSemicolon.isGap.isPlain.not_mem structured⟩

theorem code_of_noLayout (held : e.IsHeld table) (layout : e.item.layout? = none) :
    e.code = e.spacing.start.text ++ e.item.remainder e.spacing e.body := by
  have none : e.arguments = none := by
    have represented := held.arguments
    rw [Item.arguments?, layout, Option.map_none] at represented
    exact SpanTable.eq_none_of_rel represented
  simp [Entry.code, Item.spelling, Item.opening, Item.middle, Item.remainder, layout, none,
    bracketed]

theorem code_of_layout (given : e.item.layout?.isSome) {reference : Text}
    (same : e.arguments = some reference) :
    e.code = e.spacing.start.text ++ ("layout".toList ++
      (e.spacing.beforeParenthesis.text ++ '(' :: (reference ++ ')' ::
        (e.spacing.afterParenthesis.text ++ e.item.remainder e.spacing e.body)))) := by
  simp [Entry.code, Item.spelling, Item.opening, Item.middle, Item.remainder, given, same,
    bracketed]

theorem isNameLike_layout : IsNameLike "layout".toList := by
  decide

theorem lookupWindow_of_noLayout (held : e.IsHeld table) (layout : e.item.layout? = none) :
    Draft.lookupWindow table .parentheses e.statement =
      .ok (words (e.item.remainder e.spacing e.body), none) := by
  rw [Entry.statement, code_of_noLayout held layout, words_gap_append e.spacing.start.isGap,
    Delimiters.parentheses_eq]
  exact Draft.lookupWindow_of_not_mem ')' fun word mem inside =>
    held.not_mem_remainder (by decide) (mem_of_mem_words mem inside)

/-- The layout window gives the arguments, and leaves the keyword if it is a word of its own. -/
theorem lookupWindow_of_layout (held : e.IsHeld table) (writable : table.size ≤ writableBound)
    {text : Text} (layout : e.item.arguments? e.spacing = some text) :
    Draft.lookupWindow table .parentheses e.statement =
      .ok ((if e.spacing.beforeParenthesis.text = [] then [] else ["layout".toList]) ++
        words (e.item.remainder e.spacing e.body), if text = [] then none else some text) := by
  have represented := held.arguments
  rw [layout] at represented
  obtain ⟨reference, same, represents⟩ := SpanTable.exists_of_rel_some represented
  have given : e.item.layout?.isSome = true := by
    simpa [Item.arguments?] using congrArg Option.isSome layout
  have remains : words (e.spacing.afterParenthesis.text ++ e.item.remainder e.spacing e.body) =
      words (e.item.remainder e.spacing e.body) :=
    words_gap_append e.spacing.afterParenthesis.isGap _
  have keyword := isNameLike_layout
  rw [Entry.statement, code_of_layout given same, words_gap_append e.spacing.start.isGap,
    Delimiters.parentheses_eq, ← remains]
  by_cases glued : e.spacing.beforeParenthesis.text = []
  · rw [glued, if_pos rfl, List.nil_append]
    exact Draft.lookupWindow_words writable represents (by decide) (by decide) (by decide)
      (List.forall_mem_nil _) (List.forall_mem_nil _) (keyword.not_mem (by decide))
      (keyword.not_mem (by decide)) keyword.isSolid _
  · rw [if_neg glued, ← List.append_assoc,
      words_append_gap_append glued e.spacing.beforeParenthesis.isGap,
      words_solid (by decide) keyword.isSolid]
    exact Draft.lookupWindow_words writable represents (by decide) (by decide) (by decide)
      (List.forall_mem_singleton.2 (keyword.not_mem (by decide)))
      (List.forall_mem_singleton.2 (keyword.not_mem (by decide))) List.not_mem_nil
      List.not_mem_nil (List.forall_mem_nil _) _

/-- The layout window gives the layout arguments and leaves the other tokens. -/
theorem lookupWindow_parentheses (held : e.IsHeld table) (writable : table.size ≤ writableBound) :
    Draft.lookupWindow table .parentheses e.statement =
      .ok (e.item.keywordWords e.spacing ++ words (e.item.remainder e.spacing e.body),
        e.item.layoutText e.spacing) := by
  have given : e.item.layout?.isSome = (e.item.arguments? e.spacing).isSome := by
    rw [Item.arguments?, Option.isSome_map]
  cases arguments : e.item.arguments? e.spacing with
  | none =>
    have layout : e.item.layout? = none := by simpa [arguments] using given
    rw [lookupWindow_of_noLayout held layout]
    simp [Item.keywordWords, Item.layoutText, layout, arguments]
  | some text =>
    rw [lookupWindow_of_layout held writable arguments]
    rw [arguments] at given
    by_cases glued : e.spacing.beforeParenthesis.text = [] <;> by_cases empty : text = [] <;>
      simp [Item.keywordWords, Item.layoutText, given, arguments, glued, empty, Option.filter]

def Item.keywordName? (s : Spacing) (item : Item) : Option String :=
  if item.layout?.isSome ∧ s.beforeParenthesis.text ≠ [] then some "layout" else none

theorem readWord_layout {known : List String} {d : Draft} (hknown : AreIdentifiers known) :
    d.readWord known "layout".toList = { d with name := d.name <|> some "layout" } := by
  obtain ⟨notKnown, notType, noBracket⟩ :=
    Draft.isFree_of_mem_keywords hknown.areUnreserved (by decide : "layout" ∈ keywords)
  have notOther : Qualifier.ofKeyword? "layout" = none ∧ Precision.ofKeyword? "layout" = none ∧
      "layout" ≠ "centroid" ∧ "layout" ≠ "invariant" := by decide
  rcases d with ⟨_ | _, _ | _, _ | _⟩ <;> simp_all [Draft.readWord]

theorem readWords_keywordWords {known : List String} (hknown : AreIdentifiers known) (s : Spacing)
    (item : Item) (layout : Option String) :
    Draft.readWords known (item.keywordWords s) { layout } =
      { layout, name := item.keywordName? s } := by
  rw [Item.keywordWords, Item.keywordName?]
  split
  · rw [Draft.readWords_cons, readWord_layout hknown]
    rfl
  · rfl

theorem outsideBraces_of_not_mem {word : Word} (opens : '{' ∉ word) (closes : '}' ∉ word) :
    Draft.outsideBraces word = word := by
  simp only [Draft.outsideBraces, takeWhile_ne_of_not_mem opens, cut?_of_not_mem closes]

theorem outsideBraces_append_cons {front : Text} (opens : '{' ∉ front) (closes : '}' ∉ front)
    (rest : Text) : Draft.outsideBraces (front ++ '{' :: rest) = front := by
  simp only [Draft.outsideBraces, takeWhile_ne_append_cons opens, cut?_of_not_mem closes]

theorem map_outsideBraces {words : List Word} (plain : ∀ word ∈ words, word.IsPlain) :
    words.map Draft.outsideBraces = words := by
  have same : words.map Draft.outsideBraces = words.map id := by
    apply List.map_congr_left
    intro word mem
    exact outsideBraces_of_not_mem ((plain word mem).not_mem (by decide))
      ((plain word mem).not_mem (by decide))
  rw [same, List.map_id]

/-- Plain words have neither a layout nor a body, so they alone give the draft. -/
theorem readOver_of_plain {statement : Statement} (plain : ∀ word ∈ statement, word.IsPlain)
    (table : SpanTable) (known : List String)
    (readMembers : Option Qualifier → Text → Except ReadError (List Declaration)) :
    Draft.readOver table known readMembers statement =
      .ok (Draft.readWords known statement {}) := by
  have noLayout := @Draft.lookupWindow_of_not_mem '(' _ table ')' fun word mem =>
    (plain word mem).not_mem (by decide)
  have noBody := @Draft.lookupWindow_of_not_mem '{' _ table '}' fun word mem =>
    (plain word mem).not_mem (by decide)
  rw [Draft.readOver, Delimiters.parentheses_eq, noLayout]
  simp only [Outcome.bind_ok, map_outsideBraces plain, Delimiters.braces_eq, noBody,
    Option.map_none]
  rfl

theorem isPlain_of_mem_words {s : Text} (plain : s.IsPlain) : ∀ word ∈ words s, word.IsPlain :=
  fun _ mem c inside => plain c (mem_of_mem_words mem inside)

theorem isPlain_keywordWords (s : Spacing) (item : Item) :
    ∀ word ∈ item.keywordWords s, word.IsPlain := by
  rw [Item.keywordWords]
  split
  · rw [List.forall_mem_singleton]
    decide
  · exact List.forall_mem_nil _

theorem isPlain_nameWords (s : Spacing) (name : Identifier) (length : Option Digits) :
    ∀ word ∈ nameWords s name length, word.IsPlain := by
  apply isPlain_of_mem_words
  simp only [isPlain_append]
  exact ⟨⟨name.isNameLike.isPlain, isPlain_subscript s length⟩, s.beforeSemicolon.isGap.isPlain⟩

theorem isPlain_leadingWords (s : Spacing) (item : Item) :
    ∀ word ∈ (item.leading s).filterMap (·.1), word.IsPlain := by
  intro word mem
  obtain ⟨token, written, given⟩ := List.mem_filterMap.1 mem
  exact (item.areNames_leading s token written word given).2.isPlain

end ShaderSurface.Grammar
