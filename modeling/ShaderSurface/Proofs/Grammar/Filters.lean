import ShaderSurface.Proofs.Grammar.Records

/-!
# What the statements of items declare

The first words of a statement tell what it declares: an entry declares an input, an output or a
uniform exactly if its item does, and a struct exactly if its item is one.
-/

namespace ShaderSurface

namespace Text

theorem mentions_append {needle : Text} (ne : needle ≠ []) (rest : Text) :
    mentions (needle ++ rest) needle = true := by
  obtain ⟨c, needle, rfl⟩ := List.exists_cons_of_ne_nil ne
  have found : (c :: needle).isPrefixOf (c :: needle ++ rest) = true :=
    List.isPrefixOf_iff_prefix.2 (List.prefix_append _ _)
  rw [mentions, List.cons_append, cut?]
  rw [List.cons_append] at found
  rw [if_pos found]
  rfl

end Text

namespace Statement

variable {word : Word} {rest : Statement}

theorem leading?_of_not_isModifier (h : isModifier word = false) (rest : Statement) :
    leading? (word :: rest) = some word := by
  cases rest with
  | nil => rfl
  | cons next rest => simp [leading?, h]

theorem leading?_of_isModifier (h : isModifier word = true) (ne : rest ≠ []) :
    leading? (word :: rest) = leading? rest := by
  obtain ⟨next, rest, rfl⟩ := List.exists_cons_of_ne_nil ne
  simp [leading?, h]

theorem isStorage_keyword {q : Qualifier} (h : q ≠ .struct) :
    isStorage q.keyword.toList = true := by
  cases q <;> simp_all [isStorage]

theorem declaresInterface_of_leading? {statement : Statement} {q : Qualifier}
    (leads : statement.leading? = some q.keyword.toList) (h : q ≠ .struct) :
    statement.declaresInterface = true := by
  rw [declaresInterface, leads]
  simp [isStorage_keyword h]

end Statement

namespace Grammar

open Text

variable {table : SpanTable} {e : Entry}

def Item.declaration? : Item → Option Declaration
  | var v => some v.declaration
  | block b => some b.declaration
  | _ => none

def Item.struct? : Item → Option Struct
  | struct d => some d
  | _ => none

theorem statement_of_layout (held : e.IsHeld table) (given : e.item.layout?.isSome) :
    ∃ more rest, e.statement = ("layout".toList ++ more) :: rest := by
  have represented := held.arguments
  obtain ⟨arguments, layout⟩ := Option.isSome_iff_exists.1 given
  rw [Item.arguments?, layout, Option.map_some] at represented
  obtain ⟨reference, same, -⟩ := SpanTable.exists_of_rel_some represented
  rw [Entry.statement, code_of_layout given same, words_gap_append e.spacing.start.isGap]
  obtain ⟨more, rest, joined, -⟩ := words_glued (by decide) isNameLike_layout.isSolid
    (e.spacing.beforeParenthesis.text ++ '(' :: (reference ++ ')' ::
      (e.spacing.afterParenthesis.text ++ e.item.remainder e.spacing e.body)))
  exact ⟨more, rest, joined⟩

theorem statement_of_noLayout (held : e.IsHeld table) (layout : e.item.layout? = none) :
    e.statement = (e.item.leading e.spacing).filterMap (·.1) ++
      words (e.item.last e.spacing ++ bracketed '{' '}' e.body ++ e.item.trailing e.spacing ++
        e.spacing.beforeSemicolon.text) := by
  rw [Entry.statement, code_of_noLayout held layout, words_gap_append e.spacing.start.isGap,
    Item.remainder, words_spell_append (e.item.areNames_leading e.spacing)]

theorem leading?_storageWords (invariant centroid : Bool) (q : Qualifier) (rest : List Word) :
    Statement.leading? (storageWords invariant centroid q ++ rest) = some q.keyword.toList := by
  have notModifier : Statement.isModifier q.keyword.toList = false := by
    cases q <;> decide
  have isInvariant : Statement.isModifier "invariant".toList = true := by decide
  have isCentroid : Statement.isModifier "centroid".toList = true := by decide
  have last := Statement.leading?_of_not_isModifier notModifier rest
  have behindCentroid : Statement.leading? ("centroid".toList :: q.keyword.toList :: rest) =
      some q.keyword.toList := by
    rw [Statement.leading?_of_isModifier isCentroid (List.cons_ne_nil _ _), last]
  cases invariant <;> cases centroid
  · exact last
  · exact behindCentroid
  · exact (Statement.leading?_of_isModifier isInvariant (List.cons_ne_nil _ _)).trans last
  · exact (Statement.leading?_of_isModifier isInvariant (List.cons_ne_nil _ _)).trans behindCentroid

theorem keyword_ne_struct {q : Qualifier} (h : q ≠ .struct) :
    q.keyword.toList ≠ "struct".toList := by
  cases q with
  | struct => exact absurd rfl h
  | input => decide
  | output => decide
  | uniform => decide

theorem head?_storageWords (invariant centroid : Bool) {q : Qualifier} (h : q ≠ .struct)
    (rest : List Word) :
    (storageWords invariant centroid q ++ rest).head? ≠ some "struct".toList := by
  have invariantDiffers : some "invariant".toList ≠ some "struct".toList := by decide
  have centroidDiffers : some "centroid".toList ≠ some "struct".toList := by decide
  cases invariant <;> cases centroid
  · exact fun head => keyword_ne_struct h (Option.some.inj head)
  · exact centroidDiffers
  · exact invariantDiffers
  · exact invariantDiffers

theorem declaresInterface_struct (rest : List Word) :
    Statement.declaresInterface ("struct".toList :: rest) = false := by
  have notModifier : Statement.isModifier "struct".toList = false := by decide
  have notInterface : Statement.isStorage "struct".toList = false ∧
      mentions "struct".toList "layout".toList = false ∧
      mentions "struct".toList "precision".toList = false := by decide
  rw [Statement.declaresInterface, Statement.leading?_of_not_isModifier notModifier]
  simp only [notInterface.1, notInterface.2.1, notInterface.2.2]
  rfl

theorem declares_of_layout (more : Text) (rest : List Word) :
    Statement.declaresInterface (("layout".toList ++ more) :: rest) = true ∧
      Statement.declaresStruct (("layout".toList ++ more) :: rest) = false := by
  have apart (word : Word) (differs : word.head? ≠ some 'l') : "layout".toList ++ more ≠ word := by
    rintro rfl
    exact differs rfl
  have notModifier : Statement.isModifier ("layout".toList ++ more) = false := by
    simp only [Statement.isModifier, Bool.or_eq_false_iff, decide_eq_false_iff_not]
    exact ⟨apart _ (by decide), apart _ (by decide)⟩
  constructor
  · rw [Statement.declaresInterface, Statement.leading?_of_not_isModifier notModifier]
    simp only [mentions_append (by decide : "layout".toList ≠ []) more, Bool.or_true, Bool.true_or]
  · simp only [Statement.declaresStruct, List.head?_cons, decide_eq_false_iff_not,
      Option.some.injEq]
    exact apart _ (by decide)

theorem statement_precision {p : Precision} (held : e.IsHeld table) (item : e.item = .precision p) :
    e.statement = ["precision".toList, p.keyword.toList, "float".toList] := by
  have represented := held.body
  rw [item] at represented
  have none := SpanTable.eq_none_of_rel represented
  have float : IsNameLike "float".toList := by decide
  rw [statement_of_noLayout held (by rw [item]; rfl), item, none]
  simp only [Item.last, Item.trailing, bracketed, List.append_nil,
    words_append_gap e.spacing.beforeSemicolon.isGap, words_solid (by decide) float.isSolid]
  rfl

/-- A statement declares an input, an output or a uniform exactly if its item does, and a struct
exactly if its item is one. -/
theorem declares_statement (held : e.IsHeld table) :
    e.statement.declaresInterface = e.item.declaration?.isSome ∧
      e.statement.declaresStruct = e.item.struct?.isSome := by
  -- a layout is the first word and decides alone; elsewhere it is the storage or the keyword
  by_cases given : e.item.layout?.isSome
  · obtain ⟨more, rest, same⟩ := statement_of_layout held given
    rw [same, (declares_of_layout more rest).1, (declares_of_layout more rest).2]
    cases item : e.item with
    | var v => exact ⟨rfl, rfl⟩
    | block b => exact ⟨rfl, rfl⟩
    | struct d => simp [item, Item.layout?] at given
    | precision p => simp [item, Item.layout?] at given
  · have same := statement_of_noLayout held (Option.not_isSome_iff_eq_none.1 given)
    cases item : e.item with
    | var v =>
      rw [item, filterMap_leading_variable, List.append_assoc] at same
      rw [same]
      refine ⟨Statement.declaresInterface_of_leading? (leading?_storageWords _ _ _ _) v.isStorage,
        ?_⟩
      exact decide_eq_false (head?_storageWords _ _ v.isStorage _)
    | block b =>
      rw [item] at same
      have notModifier : Statement.isModifier b.storage.keyword.toList = false := by
        cases b.storage <;> decide
      rw [same]
      refine ⟨Statement.declaresInterface_of_leading?
        (Statement.leading?_of_not_isModifier notModifier _) b.isStorage, ?_⟩
      exact decide_eq_false fun head => keyword_ne_struct b.isStorage (Option.some.inj head)
    | struct d =>
      rw [item] at same
      rw [same]
      exact ⟨declaresInterface_struct _, decide_eq_true rfl⟩
    | precision p =>
      rw [statement_precision held item]
      cases p <;> decide

end Grammar

end ShaderSurface
