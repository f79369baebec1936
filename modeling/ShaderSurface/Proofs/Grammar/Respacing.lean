import ShaderSurface.Proofs.Grammar.Exactness

/-!
# White space between tokens

The white space between the tokens of a plain declaration tells in three places only. Before the
opening parenthesis it makes the layout keyword a word of its own, which is taken for the name; in
parentheses that are empty otherwise it is a layout; and behind the opening bracket it parts the
length from the bracket, so that none is read. Two spacings of a declaration in a source are read
alike exactly if they agree on these places (`Grammar.read_eq_read_iff`). The parts of the draft are
compared one by one, and the draft settles into a declaration or is refused and shown.
-/

namespace ShaderSurface.Grammar

open Text Numeral

/-- The spacings agree on the places where white space tells: before the parenthesis, in empty
parentheses, and before the digits of a length other than zero. -/
structure Variable.ReadAlike (s s' : Spacing) (v : Variable) : Prop where
  keyword : v.layout.isSome → (s.beforeParenthesis.text = [] ↔ s'.beforeParenthesis.text = [])
  arguments : (Item.var v).arguments? s = some [] ↔ (Item.var v).arguments? s' = some []
  length : ∀ n ∈ v.length, n.value? ≠ some 0 →
    (s.afterBracket.text = [] ↔ s'.afterBracket.text = [])

instance (s s' : Spacing) : DecidablePred (Variable.ReadAlike s s') := fun v =>
  decidable_of_iff
    ((v.layout.isSome → (s.beforeParenthesis.text = [] ↔ s'.beforeParenthesis.text = [])) ∧
      ((Item.var v).arguments? s = some [] ↔ (Item.var v).arguments? s' = some []) ∧
      ∀ n ∈ v.length, n.value? ≠ some 0 →
        (s.afterBracket.text = [] ↔ s'.afterBracket.text = []))
    ⟨fun ⟨keyword, arguments, length⟩ => ⟨keyword, arguments, length⟩,
      fun ⟨keyword, arguments, length⟩ => ⟨keyword, arguments, length⟩⟩

namespace Item

variable (s s' : Spacing) (item : Item)

theorem keywordName?_eq_iff :
    item.keywordName? s = item.keywordName? s' ↔
      (item.layout?.isSome →
        (s.beforeParenthesis.text = [] ↔ s'.beforeParenthesis.text = [])) := by
  by_cases given : item.layout?.isSome
  · by_cases tight : s.beforeParenthesis.text = [] <;>
      by_cases tight' : s'.beforeParenthesis.text = [] <;>
        simp [keywordName?, given, tight, tight']
  · simp [keywordName?, given]

theorem layoutName?_eq_iff :
    item.layoutName? s = item.layoutName? s' ↔
      (item.arguments? s = some [] ↔ item.arguments? s' = some []) := by
  have given {s : Spacing} (empty : item.arguments? s = some []) :
      item.layout?.map Arguments.layout ≠ none := by
    obtain ⟨arguments, layout, -⟩ := Option.map_eq_some_iff.1 empty
    simp [layout]
  rw [layoutName?_eq_ite, layoutName?_eq_ite]
  by_cases empty : item.arguments? s = some [] <;> by_cases empty' : item.arguments? s' = some []
  · simp only [empty, empty']
  · simp only [empty, empty', if_true, if_false, iff_false, not_true_eq_false]
    exact (given empty).symm
  · simp only [empty, empty', if_true, if_false, iff_true]
    exact iff_false_intro (given empty')
  · simp only [empty, empty', if_false]

end Item

namespace Variable

variable (s s' : Spacing) (v : Variable)

theorem isFilled_draft : (v.draft s).IsFilled where
  qualifier := rfl
  type := rfl
  name := by
    rw [draft, Item.keywordName?]
    split
    · exact ⟨"layout", rfl, by decide⟩
    · exact ⟨v.name.name, rfl, v.name.name_ne_empty⟩
  struct := Option.some_inj.trans v.type.declared_eq_struct_iff
  notBlock := fun same => v.type.declared_ne_block (Option.some.inj same)
  noBody := rfl

theorem name_draft_eq_iff :
    (v.draft s).name = (v.draft s').name ↔
      (Item.var v).keywordName? s = (Item.var v).keywordName? s' := by
  have apart : v.name.name ≠ "layout" := by
    intro same
    apply v.name.notKeyword
    rw [← Identifier.name, same]
    decide
  simp only [draft, Item.keywordName?]
  split <;> split <;> simp [apart, apart.symm]

theorem amount?_draft_eq_iff :
    (v.draft s).amount? = (v.draft s').amount? ↔
      ∀ n ∈ v.length, n.value? ≠ some 0 →
        (s.afterBracket.text = [] ↔ s'.afterBracket.text = []) := by
  cases length : v.length with
  | none => simp [Draft.amount?, draft, length]
  | some n =>
    have amount (s : Spacing) : (v.draft s).amount? =
        if s.afterBracket.text = [] then n.value? else some 0 := by
      rw [Draft.amount?, draft, length, Option.map_some, Spacing.lengthOf]
      by_cases tight : s.afterBracket.text = []
      · rw [if_pos (List.isEmpty_iff.2 tight), if_pos tight, Digits.read]
        cases n.value? <;> rfl
      · rw [if_neg fun empty => tight (List.isEmpty_iff.1 empty), if_neg tight]
    rw [amount, amount]
    by_cases tight : s.afterBracket.text = [] <;> by_cases tight' : s'.afterBracket.text = [] <;>
      simp [tight, tight', eq_comm]

theorem settle_draft_eq_iff (what : String) :
    (v.draft s).settle what = (v.draft s').settle what ↔ v.ReadAlike s s' := by
  rw [Draft.settle_eq_settle_iff what (v.isFilled_draft s) (v.isFilled_draft s'),
    amount?_draft_eq_iff]
  have others : { v.draft s with length := none } = { v.draft s' with length := none } ↔
      (v.draft s).name = (v.draft s').name ∧
        (Item.var v).layoutName? s = (Item.var v).layoutName? s' := by
    simp [draft]
  rw [others, name_draft_eq_iff, Item.keywordName?_eq_iff, Item.layoutName?_eq_iff]
  constructor
  · rintro ⟨length, keyword, arguments⟩
    exact ⟨keyword, arguments, length⟩
  · rintro ⟨keyword, arguments, length⟩
    exact ⟨length, keyword, arguments⟩

end Variable

theorem StructsInOrder.congr {items items' : List (Item × Spacing)} (h : StructsInOrder items)
    (same : structsIn items' = structsIn items) : StructsInOrder items' where
  distinct := by
    rw [structNames, same]
    exact h.distinct
  ordered := by
    rw [same]
    exact h.ordered

variable {front back : List (Item × Spacing)} {v : Variable}

theorem structsIn_around (front back : List (Item × Spacing)) (v : Variable) (s : Spacing) :
    structsIn (front ++ (.var v, s) :: back) = structsIn (front ++ back) := by
  simp [structsIn, List.filterMap_append, Item.struct?]

variable {table : SpanTable} {before after : List Entry} {e : Entry}

theorem readInterface_around (wellFormed : IsWellFormed (itemsOf before ++ itemsOf after))
    (held : ∀ x ∈ before ++ e :: after, x.IsHeld table) (writable : table.size ≤ writableBound)
    (item : e.item = .var v)
    (isKnown : v.type.IsKnown (structNames (itemsOf before ++ itemsOf after))) :
    (((before ++ e :: after).map Entry.statement).filter Statement.declaresInterface).mapM
        (fun statement => do
          (← Draft.read table (structNames (itemsOf before ++ itemsOf after)) statement).settle
            "declaration") =
      ((v.draft e.spacing).settle "declaration").map fun declaration =>
        before.filterMap (·.item.declaration?) ++
          declaration :: after.filterMap (·.item.declaration?) := by
  obtain ⟨heldBefore, heldVariable, heldAfter⟩ :
      (∀ x ∈ before, x.IsHeld table) ∧ e.IsHeld table ∧ ∀ x ∈ after, x.IsHeld table := by
    rwa [List.forall_mem_append, List.forall_mem_cons] at held
  have declares : e.statement.declaresInterface = true := by
    rw [(declares_statement heldVariable).1, item]
    rfl
  rw [List.map_append, List.map_cons, List.filter_append, List.filter_cons_of_pos declares,
    Outcome.mapM_append_cons
      (readInterface_statements wellFormed
        (fun x mem => List.mem_append_left _ (List.mem_map_of_mem mem)) heldBefore writable)
      (readInterface_statements wellFormed
        (fun x mem => List.mem_append_right _ (List.mem_map_of_mem mem)) heldAfter writable),
    settle_read_var heldVariable writable (areIdentifiers_structNames _) item isKnown]

theorem read_around (wellFormed : IsWellFormed (front ++ back))
    (isKnown : v.type.IsKnown (structNames (front ++ back)))
    (few : 2 * (front.length + back.length + 1) ≤ writableBound) (s : Spacing) (last : Gap) :
    Surface.read (sourceText (front ++ (.var v, s) :: back) last) =
      ((v.draft s).settle "declaration").map fun declaration =>
        front.filterMap (·.1.declaration?) ++ declaration :: back.filterMap (·.1.declaration?) ++
          (structsIn (front ++ back)).map Struct.declaration := by
  obtain ⟨entries, table, parts, size, held, setAside⟩ :=
    setAside_sourceText (front ++ (.var v, s) :: back) last
  have writable : table.size ≤ writableBound := by
    simp only [List.length_append, List.length_cons] at size
    omega
  obtain ⟨before, others, rfl, rfl, parts'⟩ := List.map_eq_append_iff.1 parts
  obtain ⟨e, after, rfl, same, rfl⟩ := List.map_eq_cons_iff.1 parts'
  obtain ⟨item, rfl⟩ := Prod.mk.inj same
  -- a variable is no struct, so what is known of the structs does not depend on it
  have sameStructs : structsIn (itemsOf (before ++ e :: after)) =
      structsIn (itemsOf before ++ itemsOf after) := by
    rw [itemsOf, parts]
    exact structsIn_around _ _ v e.spacing
  have written : ∀ x ∈ before ++ e :: after, x.item.struct?.isSome →
      x.item.IsWritten x.spacing := by
    intro x mem isStruct
    rcases List.mem_append.1 mem with mem | mem
    · exact wellFormed.written _ (List.mem_append_left _ (List.mem_map_of_mem mem))
    · rcases List.mem_cons.1 mem with rfl | mem
      · simp [item, Item.struct?] at isStruct
      · exact wellFormed.written _ (List.mem_append_right _ (List.mem_map_of_mem mem))
  have names : structNames (itemsOf (before ++ e :: after)) =
      structNames (itemsOf before ++ itemsOf after) := by
    rw [structNames, sameStructs, structNames]
  have interface := readInterface_around wellFormed held writable item isKnown
  rw [read_of_structsInOrder setAside (wellFormed.toStructsInOrder.congr sameStructs) held writable
    written, names, interface, structsOf, sameStructs, List.filterMap_map, List.filterMap_map]
  cases (v.draft e.spacing).settle "declaration" <;> rfl

/-- A declaration in a source is read alike in two spacings exactly if they agree where white space
tells. -/
theorem read_eq_read_iff (wellFormed : IsWellFormed (front ++ back))
    (isKnown : v.type.IsKnown (structNames (front ++ back)))
    (few : 2 * (front.length + back.length + 1) ≤ writableBound) (s s' : Spacing)
    (last last' : Gap) :
    Surface.read (sourceText (front ++ (.var v, s) :: back) last) =
        Surface.read (sourceText (front ++ (.var v, s') :: back) last') ↔
      v.ReadAlike s s' := by
  rw [read_around wellFormed isKnown few, read_around wellFormed isKnown few,
    Function.Injective.eq_iff (Outcome.map_injective ?_), v.settle_draft_eq_iff]
  intro x y same
  simpa using same

theorem isGap_blank : IsGap [' '] := by
  decide

def Gap.blank : Gap where
  text := [' ']
  isGap := isGap_blank

def sampleVariable : Variable where
  layout := some { text := "location = 1".toList }
  storage := .output
  type := .value (.vector .float .four)
  name := { text := "shades".toList }
  length := some { text := "3".toList }

/-- White space in the parentheses, before the bracket and after the digits does not tell; before
the parenthesis and after the bracket it does. -/
theorem read_sampleVariable :
    Surface.read "layout(location = 1)out vec4 shades[3];".toList =
        Surface.read "layout( location = 1 ) out vec4 shades [3 ] ;".toList ∧
      Surface.read "layout(location = 1)out vec4 shades[3];".toList ≠
        Surface.read "layout (location = 1)out vec4 shades[3];".toList ∧
      Surface.read "layout(location = 1)out vec4 shades[3];".toList ≠
        Surface.read "layout(location = 1)out vec4 shades[ 3];".toList := by
  have wellFormed : IsWellFormed ([] ++ []) :=
    ⟨⟨List.nodup_nil, by simp [structsIn]⟩, by simp, by simp, by simp⟩
  have few : 2 * (0 + 0 + 1) ≤ writableBound := by decide +kernel
  have alike (s s' : Spacing) :=
    read_eq_read_iff (v := sampleVariable) wellFormed trivial few s s' {} {}
  refine ⟨?_, ?_, ?_⟩
  · apply (alike {} {
      afterOpening := .blank, beforeClosing := .blank, afterParenthesis := .blank
      beforeBracket := .blank, afterLength := .blank, beforeSemicolon := .blank }).2
    decide +kernel
  · intro same
    exact absurd ((alike {} { beforeParenthesis := .blank }).1 same) (by decide +kernel)
  · intro same
    exact absurd ((alike {} { afterBracket := .blank }).1 same) (by decide +kernel)

/-- White space before the parenthesis changes the name that is read. -/
theorem not_forall_read_eq_read :
    ¬ ∀ (v : Variable) (s s' : Spacing), v.type.IsKnown [] →
      Surface.read (sourceText [(.var v, s)] {}) = Surface.read (sourceText [(.var v, s')] {}) := by
  intro alike
  have same := alike sampleVariable {} { beforeParenthesis := .blank } trivial
  revert same
  decide +kernel

end ShaderSurface.Grammar
