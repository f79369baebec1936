import ShaderSurface.Proofs.Grammar.Items

/-!
# The drafts of blocks and structs

The reference to a body stands in braces behind the name, in the same word or in the next one. In
both cases the name is read, the braces are passed over, and the window gives the body.
-/

namespace ShaderSurface.Grammar

open Text Numeral

variable {table : SpanTable} {e : Entry} {known : List String} {reference span rest : Text}
  {readBody : Option Qualifier → Text → Except ReadError (List Declaration)}

theorem words_body (represents : table.Represents reference span) (s : Spacing) (i : Identifier)
    (parted : ∀ c ∈ rest.head?, isBlank c = true) :
    ∃ before front, words (i.text ++ s.beforeBrace.text ++ '{' :: (reference ++ '}' :: rest)) =
        before ++ (front ++ '{' :: (reference ++ ['}'])) :: words rest ∧
      ((before = [] ∧ front = i.text) ∨ (before = [i.text] ∧ front = [])) := by
  have brackets : IsSolid ['{'] ∧ IsSolid ['}'] := by decide
  have braced : IsSolid ('{' :: (reference ++ ['}'])) :=
    brackets.1.append (represents.isSolid.append brackets.2)
  have name := i.isNameLike.isSolid
  by_cases glued : s.beforeBrace.text = []
  · refine ⟨[], i.text, ?_, .inl ⟨rfl, rfl⟩⟩
    have whole : i.text ++ s.beforeBrace.text ++ '{' :: (reference ++ '}' :: rest) =
        i.text ++ '{' :: (reference ++ ['}']) ++ rest := by simp [glued]
    rw [whole, words_solid_append (by simp) (name.append braced) parted]
    rfl
  · refine ⟨[i.text], [], ?_, .inr ⟨rfl, rfl⟩⟩
    have whole : i.text ++ s.beforeBrace.text ++ '{' :: (reference ++ '}' :: rest) =
        i.text ++ s.beforeBrace.text ++ ('{' :: (reference ++ ['}']) ++ rest) := by simp
    rw [whole, words_append_gap_append glued s.beforeBrace.isGap, words_solid i.ne_nil name,
      words_solid_append (by simp) braced parted]
    rfl

theorem lookupWindow_body (writable : table.size ≤ writableBound)
    (represents : table.Represents reference span) (s : Spacing) (i : Identifier)
    (parted : ∀ c ∈ rest.head?, isBlank c = true) {leading : List Word}
    (plain : ∀ word ∈ leading, word.IsPlain) :
    ∃ remaining, Draft.lookupWindow table .braces (leading ++
        words (i.text ++ s.beforeBrace.text ++ '{' :: (reference ++ '}' :: rest))) =
      .ok (remaining, if span = [] then none else some span) := by
  obtain ⟨before, front, same, places⟩ := words_body represents s i parted
  have name := i.isNameLike
  have free : (∀ word ∈ leading ++ before, word.IsPlain) ∧ IsPlain front := by
    rcases places with ⟨rfl, rfl⟩ | ⟨rfl, rfl⟩
    · exact ⟨by simpa using plain, name.isPlain⟩
    · exact ⟨List.forall_mem_append.2 ⟨plain, List.forall_mem_singleton.2 name.isPlain⟩,
        isPlain_nil⟩
  rw [same, ← List.append_assoc, Delimiters.braces_eq]
  exact ⟨_, Draft.lookupWindow_of_represents writable represents (by decide) (by decide)
    (fun word mem => (free.1 word mem).not_mem (by decide))
    (fun word mem => (free.1 word mem).not_mem (by decide)) (free.2.not_mem (by decide))
    (free.2.not_mem (by decide)) [] (words rest)⟩

theorem readWords_body (represents : table.Represents reference span) (s : Spacing) (i : Identifier)
    (parted : ∀ c ∈ rest.head?, isBlank c = true) (plain : rest.IsPlain)
    (hknown : AreIdentifiers known) (d : Draft) :
    d.readWords known ((words (i.text ++ s.beforeBrace.text ++
        '{' :: (reference ++ '}' :: rest))).map Draft.outsideBraces) =
      (d.readWord known i.text).readWords known (words rest) := by
  obtain ⟨before, front, same, places⟩ := words_body represents s i parted
  have opens : '{' ∉ i.text := i.isNameLike.isPlain.not_mem (by decide)
  have closes : '}' ∉ i.text := i.isNameLike.isPlain.not_mem (by decide)
  have others := map_outsideBraces (isPlain_of_mem_words plain)
  rw [same, List.map_append, List.map_cons, others]
  rcases places with ⟨rfl, rfl⟩ | ⟨rfl, rfl⟩
  · rw [outsideBraces_append_cons opens closes]
    rfl
  · rw [outsideBraces_append_cons List.not_mem_nil List.not_mem_nil, List.map_singleton,
      outsideBraces_of_not_mem opens closes, List.singleton_append, Draft.readWords_cons,
      Draft.readWords_cons, Draft.readWord_nil hknown]

def Item.ending (s : Spacing) (item : Item) : Text :=
  item.trailing s ++ s.beforeSemicolon.text

theorem Item.isPlain_ending (s : Spacing) (item : Item) : (item.ending s).IsPlain :=
  isPlain_append.2 ⟨item.isPlain_trailing s, s.beforeSemicolon.isGap.isPlain⟩

theorem Item.parted_ending (s : Spacing) (item : Item) :
    ∀ c ∈ (item.ending s).head?, isBlank c = true := by
  have gap (g : Gap) : ∀ c ∈ g.text.head?, isBlank c = true :=
    fun c mem => g.isGap c (List.mem_of_mem_head? mem)
  have space (g : Space) (rest : Text) : ∀ c ∈ (g.text ++ rest).head?, isBlank c = true := by
    intro c mem
    rw [List.head?_append_of_ne_nil _ g.ne_nil] at mem
    exact g.isGap c (List.mem_of_mem_head? mem)
  cases item with
  | block b =>
    simp only [ending, trailing]
    split
    · exact gap s.beforeSemicolon
    · rw [List.append_assoc, List.append_assoc]
      exact space s.afterBrace _
  | var v => exact gap s.beforeSemicolon
  | struct d => exact gap s.beforeSemicolon
  | precision p => exact gap s.beforeSemicolon

def Item.leadingWords (s : Spacing) (item : Item) : List Word :=
  item.keywordWords s ++ (item.leading s).filterMap (·.1)

/-- An item with a body is read into a draft of its words, with the members of its body. -/
theorem readOver_body (held : e.IsHeld table) (writable : table.size ≤ writableBound)
    (hknown : AreIdentifiers known) {i : Identifier} {body : Text} (ne : body ≠ [])
    (last : e.item.last e.spacing = i.text ++ e.spacing.beforeBrace.text)
    (given : e.item.body? e.spacing = some body) :
    Draft.readOver table known readBody e.statement = do
      let draft := Draft.readWords known (words (e.item.ending e.spacing))
        (Draft.readWord known (Draft.readWords known (e.item.leadingWords e.spacing)
          { layout := e.item.layoutName? e.spacing }) i.text)
      let members ← readBody draft.qualifier body
      return { draft with members := some members, type := draft.type <|> some .block } := by
  have represented := held.body
  rw [given] at represented
  obtain ⟨reference, same, represents⟩ := SpanTable.exists_of_rel_some represented
  have parted := e.item.parted_ending e.spacing
  have plain : ∀ word ∈ e.item.leadingWords e.spacing, word.IsPlain :=
    List.forall_mem_append.2 ⟨isPlain_keywordWords e.spacing _, isPlain_leadingWords e.spacing _⟩
  have tokens : e.item.keywordWords e.spacing ++ words (e.item.remainder e.spacing e.body) =
      e.item.leadingWords e.spacing ++ words (i.text ++ e.spacing.beforeBrace.text ++
        '{' :: (reference ++ '}' :: e.item.ending e.spacing)) := by
    rw [Item.remainder, words_spell_append (e.item.areNames_leading e.spacing), last, same]
    simp [Item.leadingWords, Item.ending, bracketed]
  have window := lookupWindow_parentheses held writable
  obtain ⟨remaining, found⟩ := lookupWindow_body writable represents e.spacing i parted plain
  rw [tokens] at window
  rw [Draft.readOver, window]
  simp only [Outcome.bind_ok, found, if_neg ne, List.map_append, Draft.readWords_append,
    map_outsideBraces plain]
  rw [readWords_body represents e.spacing i parted (e.item.isPlain_ending e.spacing) hknown]
  rfl

end ShaderSurface.Grammar
