import ShaderSurface.Proofs.Grammar.Spelling
import ShaderSurface.Proofs.Source.Comment
import ShaderSurface.Proofs.Statement
import ShaderSurface.Surface

/-!
# The statements of a source

Setting the bracketed spans of a source aside leaves an entry for each item: the item, spelled with
references in the places of its layout arguments and its body. The statements of the code that is
left are the words of the entries (`Grammar.setAside_sourceText`).
-/

namespace ShaderSurface.Grammar

open Text

/-- An item whose bracketed texts are set aside, with what stands in their places. -/
structure Entry where
  item : Item
  spacing : Spacing
  arguments : Option Text
  body : Option Text

namespace Entry

def code (e : Entry) : Text :=
  e.item.spelling e.spacing e.arguments e.body

def statement (e : Entry) : Statement :=
  words e.code

structure IsHeld (table : SpanTable) (e : Entry) : Prop where
  arguments : Option.Rel table.Represents e.arguments (e.item.arguments? e.spacing)
  body : Option.Rel table.Represents e.body (e.item.body? e.spacing)

end Entry

theorem isNameLike_of_represents {table : SpanTable} {reference span : Text}
    (represents : table.Represents reference span) : reference.IsNameLike := by
  cases represents with
  | empty => exact List.forall_mem_nil _
  | stored _ _ => exact isNameLike_of_all_isDigit (Numeral.all_isDigit_decimal _)

theorem isPlain_of_rel {table : SpanTable} {reference span : Option Text}
    (represents : Option.Rel table.Represents reference span) :
    ∀ text ∈ reference, text.IsPlain := by
  cases represents with
  | none => simp
  | some represents =>
    rintro _ ⟨⟩
    exact (isNameLike_of_represents represents).isPlain

namespace Item

def beforeBody (s : Spacing) (item : Item) (arguments : Option Text) : Text :=
  item.opening s ++ bracketed '(' ')' arguments ++ item.middle s

def afterBody (s : Spacing) (item : Item) : Text :=
  item.trailing s ++ s.beforeSemicolon.text ++ [';']

def afterArguments (s : Spacing) (item : Item) (body : Option Text) : Text :=
  item.middle s ++ bracketed '{' '}' body ++ item.afterBody s

variable (s : Spacing) (item : Item) (arguments body : Option Text)

theorem spelling_eq_beforeBody : item.spelling s arguments body ++ [';'] =
    item.beforeBody s arguments ++ bracketed '{' '}' body ++ item.afterBody s := by
  simp only [spelling, beforeBody, afterBody, List.append_assoc]

theorem spelling_eq_opening : item.spelling s arguments body ++ [';'] =
    item.opening s ++ bracketed '(' ')' arguments ++ item.afterArguments s body := by
  simp only [spelling, afterArguments, afterBody, List.append_assoc]

theorem not_mem_beforeBody {x : Char} (brace : x ∈ ['{', '}']) :
    x ∉ item.beforeBody s (item.arguments? s) := by
  have facts : ∀ y ∈ ['{', '}'], y ∈ structural ∧ y ≠ '(' ∧ y ≠ ')' ∧
      y ∈ ['(', ')', '{', '}', '/', '#'] := by decide
  obtain ⟨structured, opens, closes, free⟩ := facts x brace
  simp only [beforeBody, List.mem_append, not_or]
  exact ⟨⟨(item.isPlain_opening s).not_mem structured,
    not_mem_bracketed opens closes (item.not_mem_arguments s free)⟩,
    (item.isPlain_middle s).not_mem structured⟩

theorem not_mem_afterBody {x : Char} (structured : x ∈ structural) (semicolon : x ≠ ';') :
    x ∉ item.afterBody s := by
  simp only [afterBody, List.mem_append, List.mem_singleton, not_or]
  exact ⟨⟨(item.isPlain_trailing s).not_mem structured,
    s.beforeSemicolon.isGap.isPlain.not_mem structured⟩, semicolon⟩

theorem not_mem_afterArguments {x : Char} (parenthesis : x ∈ ['(', ')']) {body : Option Text}
    (plain : ∀ text ∈ body, text.IsPlain) : x ∉ item.afterArguments s body := by
  have facts : ∀ y ∈ ['(', ')'], y ∈ structural ∧ y ≠ '{' ∧ y ≠ '}' ∧ y ≠ ';' := by decide
  obtain ⟨structured, opens, closes, semicolon⟩ := facts x parenthesis
  simp only [afterArguments, List.mem_append, not_or]
  exact ⟨⟨(item.isPlain_middle s).not_mem structured,
    not_mem_bracketed opens closes fun text mem => (plain text mem).not_mem structured⟩,
    item.not_mem_afterBody s structured semicolon⟩

end Item

theorem not_mem_sourceText {x : Char} (comment : x ∈ ['/', '#'])
    (items : List (Item × Spacing)) (last : Gap) : x ∉ sourceText items last := by
  have facts : ∀ y ∈ ['/', '#'], y ∈ structural ∧ y ∉ ['(', ')', '{', '}'] ∧ y ≠ ';' ∧
      y ∈ ['(', ')', '{', '}', '/', '#'] := by decide
  obtain ⟨structured, apart, semicolon, free⟩ := facts x comment
  intro mem
  rcases List.mem_append.1 mem with mem | mem
  · obtain ⟨⟨item, s⟩, -, mem⟩ := List.mem_flatMap.1 mem
    rcases List.mem_append.1 mem with mem | mem
    · exact item.not_mem_spelling s structured apart (item.not_mem_arguments s free)
        (item.not_mem_body s structured semicolon) mem
    · exact semicolon (List.mem_singleton.1 mem)
  · exact last.isGap.isPlain.not_mem structured mem

/-- Setting the spans in braces aside leaves each item with what stands for its body. -/
theorem extract_bodies (items : List (Item × Spacing)) (last : Gap) :
    ∃ bodies : List ((Item × Spacing) × Option Text), ∃ table : SpanTable,
      bodies.map Prod.fst = items ∧ table.size ≤ items.length ∧
      (∀ r ∈ bodies, Option.Rel table.Represents r.2 (r.1.1.body? r.1.2)) ∧
      SpanTable.extract .braces (sourceText items last) {} =
        (bodies.flatMap (fun r => r.1.1.spelling r.1.2 (r.1.1.arguments? r.1.2) r.2 ++ [';']) ++
          last.text, table) := by
  have brace : '{' ∈ structural ∧ '{' ≠ ';' ∧ '}' ∈ structural ∧ '}' ≠ ';' := by decide
  obtain ⟨bodies, table, same, -, size, held, taken⟩ :=
    SpanTable.extract_chunks (o := '{') (c := '}') (by decide)
      (fun x : Item × Spacing => x.1.beforeBody x.2 (x.1.arguments? x.2))
      (fun x => x.1.afterBody x.2) (fun x => x.1.body? x.2)
      (last.isGap.isPlain.not_mem brace.1) items
      (fun x _ => x.1.not_mem_beforeBody x.2 (by decide))
      (fun x _ => x.1.not_mem_afterBody x.2 brace.1 brace.2.1)
      (fun x _ text mem => ⟨x.1.not_mem_body x.2 brace.1 brace.2.1 text mem,
        x.1.not_mem_body x.2 brace.2.2.1 brace.2.2.2 text mem⟩) {}
  refine ⟨bodies, table, same, ?_, held, ?_⟩
  · simpa [SpanTable.size] using size
  · simp only [← Item.spelling_eq_beforeBody] at taken
    rw [Delimiters.braces_eq]
    exact taken

theorem extract_arguments {bodies : List ((Item × Spacing) × Option Text)}
    (plain : ∀ r ∈ bodies, ∀ text ∈ r.2, text.IsPlain) (last : Gap) (table : SpanTable) :
    ∃ entries : List Entry, ∃ later : SpanTable,
      entries.map (fun e => ((e.item, e.spacing), e.body)) = bodies ∧ later.Extends table ∧
      later.size ≤ table.size + bodies.length ∧
      (∀ e ∈ entries, Option.Rel later.Represents e.arguments (e.item.arguments? e.spacing)) ∧
      table.extract .parentheses
          (bodies.flatMap (fun r =>
            r.1.1.spelling r.1.2 (r.1.1.arguments? r.1.2) r.2 ++ [';']) ++ last.text) =
        (entries.flatMap (fun e => e.code ++ [';']) ++ last.text, later) := by
  have parenthesis : '(' ∈ structural := by decide
  obtain ⟨references, later, same, extends', size, held, taken⟩ :=
    SpanTable.extract_chunks (o := '(') (c := ')') (by decide)
      (fun r : (Item × Spacing) × Option Text => r.1.1.opening r.1.2)
      (fun r => r.1.1.afterArguments r.1.2 r.2) (fun r => r.1.1.arguments? r.1.2)
      (last.isGap.isPlain.not_mem parenthesis) bodies
      (fun r _ => (r.1.1.isPlain_opening r.1.2).not_mem parenthesis)
      (fun r mem => r.1.1.not_mem_afterArguments r.1.2 (by decide) (plain r mem))
      (fun r _ text mem => ⟨r.1.1.not_mem_arguments r.1.2 (by decide) text mem,
        r.1.1.not_mem_arguments r.1.2 (by decide) text mem⟩) table
  refine ⟨references.map fun q => ⟨q.1.1.1, q.1.1.2, q.2, q.1.2⟩, later, ?_, extends', size, ?_, ?_⟩
  · rw [← same, List.map_map]
    rfl
  · exact List.forall_mem_map.2 held
  · simp only [← Item.spelling_eq_opening] at taken
    rw [Delimiters.parentheses_eq, List.flatMap_map]
    exact taken

/-- Setting spans aside leaves an entry for each item and its table holds what they stand for. -/
theorem setAside_sourceText (items : List (Item × Spacing)) (last : Gap) :
    ∃ entries : List Entry, ∃ table : SpanTable,
      entries.map (fun e => (e.item, e.spacing)) = items ∧
      table.size ≤ 2 * items.length ∧ (∀ e ∈ entries, e.IsHeld table) ∧
      Surface.setAside (sourceText items last) =
        (entries.flatMap (fun e => e.code ++ [';']) ++ last.text, table) := by
  have stripped : Source.stripComments (sourceText items last) = sourceText items last :=
    Source.stripComments_of_not_mem (not_mem_sourceText (by decide) items last)
      (not_mem_sourceText (by decide) items last)
  obtain ⟨bodies, table, rfl, size, heldBodies, takenBodies⟩ := extract_bodies items last
  obtain ⟨entries, later, rfl, extended, sizeLater, heldArguments, takenArguments⟩ :=
    extract_arguments (fun r mem => isPlain_of_rel (heldBodies r mem)) last table
  refine ⟨entries, later, ?_, ?_, ?_, ?_⟩
  · rw [List.map_map]
    rfl
  · simp only [List.length_map] at size sizeLater ⊢
    omega
  · intro e mem
    have heldBody := heldBodies _ (List.mem_map_of_mem mem)
    exact ⟨heldArguments e mem, SpanTable.rel_represents_mono extended heldBody⟩
  · rw [Surface.setAside, stripped, takenBodies]
    exact takenArguments

theorem Item.exists_mem_last (s : Spacing) (item : Item) :
    ∃ c ∈ item.last s, isBlank c = false := by
  have first (i : Identifier) (rest : Text) : ∃ c ∈ i.text ++ rest, isBlank c = false := by
    obtain ⟨c, text, h⟩ := List.exists_cons_of_ne_nil i.ne_nil
    have mem : c ∈ i.text := by simp [h]
    exact ⟨c, List.mem_append_left rest mem, i.isNameLike.isSolid c mem⟩
  cases item with
  | var v => exact first v.name _
  | block b => exact first b.name _
  | struct d => exact first d.name _
  | precision p => exact ⟨'f', (by decide : 'f' ∈ "float".toList), by decide⟩

theorem Entry.statement_ne_nil (e : Entry) : e.statement ≠ [] := by
  obtain ⟨c, mem, solid⟩ := e.item.exists_mem_last e.spacing
  refine words_ne_nil (c := c) ?_ solid
  simp [code, Item.spelling, Item.middle, mem]

theorem Entry.IsHeld.not_mem_code {table : SpanTable} {e : Entry} (h : e.IsHeld table) :
    ';' ∉ e.code :=
  e.item.not_mem_spelling e.spacing (by decide) (by decide)
    (fun text mem => (isPlain_of_rel h.arguments text mem).not_mem (by decide))
    (fun text mem => (isPlain_of_rel h.body text mem).not_mem (by decide))

theorem ofText_code {table : SpanTable} {entries : List Entry}
    (held : ∀ e ∈ entries, e.IsHeld table) (last : Gap) :
    Statement.ofText (entries.flatMap (fun e => e.code ++ [';']) ++ last.text) =
      entries.map Entry.statement :=
  Statement.ofText_flatMap (fun e mem => (held e mem).not_mem_code)
    (fun e _ => e.statement_ne_nil) (List.forall_mem_nil _) last.isGap

end ShaderSurface.Grammar
