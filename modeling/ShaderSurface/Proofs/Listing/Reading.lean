import ShaderSurface.Proofs.Grammar.Filters
import ShaderSurface.Proofs.Listing.Line

/-!
# Listed declarations are read back

A listing of plain declarations, each on a line of its own that ends in a semicolon, is a source. If
the names of the known structs are neither keywords nor names of built-in types, then reading the
inputs, outputs and uniforms of that source gives back the declarations as they were listed
(`Declaration.readInterface_listed`).
-/

namespace ShaderSurface

open Text Grammar Numeral

namespace Declaration

variable {known : List String} {d : Declaration} {table : SpanTable} {reference : Option Text}

/-- Declarations on lines that end in semicolons. -/
def listed (indent : String) (declarations : List Declaration) : Except ListingError String := do
  let lines ← declarations.mapM (listing indent none)
  return String.join (lines.map (· ++ ";\n"))

theorem listed_eq {ds : List Declaration} (h : ∀ d ∈ ds, d.IsListable known) (indent : String) :
    ∃ text, listed indent ds = .ok text ∧
      text.toList = ds.flatMap fun d => d.line d.layoutText ++ [';', '\n'] := by
  have lines : ds.mapM (listing indent none) =
      .ok (ds.map fun d => String.ofList (d.line d.layoutText)) := by
    have each := Outcome.mapM_map_eq_ok fun d mem => listing_eq (h d mem) indent
    rwa [List.map_id'] at each
  refine ⟨_, Outcome.bind_eq_ok.2 ⟨_, lines, rfl⟩, ?_⟩
  have ends : ";\n".toList = [';', '\n'] := rfl
  simp only [String.toList_join, List.map_map, List.flatMap_map, Function.comp_apply,
    String.toList_append, String.toList_ofList, ends]

def lineDraft (d : Declaration) : Draft :=
  { Draft.ofDeclaration d with
    length := if d.isArray then some (.count d.amount) else none }

theorem line_of_noLayout (layout : d.layout = none) : d.line none = d.lineBack := by
  simp [line, lineFront, layout, bracketed]

theorem line_of_layout {text : String} (layout : d.layout = some text) (reference : Text) :
    d.line (some reference) = "layout".toList ++ '(' :: (reference ++ ')' :: d.lineBack) := by
  simp [line, lineFront, layout, bracketed]

theorem arrayLength_toString {n : Int} (writable : isWritable n = true) :
    ArrayLength.read (toString n).toList = .count n := by
  have solid : IsSolid (toString n).toList := fun c mem =>
    (isSolid_subscript n).1 c (List.mem_cons_of_mem _ (List.mem_append_left _ mem))
  rw [ArrayLength.read_solid (toString_ne_nil n) solid, integer?_toString writable]

theorem readWord_nameWord (i : Identifier) (named : i.name = d.name)
    (writable : isWritable d.amount = true) {draft : Draft} (noName : draft.name = none)
    (noLength : draft.length = none) (typed : draft.type.isSome) :
    Draft.readWord known draft d.nameWord =
      { draft with
        name := some d.name
        length := if d.isArray then some (.count d.amount) else none } := by
  have text : d.name.toList = i.text := by rw [← named, Identifier.name, String.toList_ofList]
  have noBracket : '[' ∉ i.text := i.isNameLike.not_mem (by decide)
  rw [nameWord, text, ← named]
  by_cases array : d.isArray
  · rw [if_pos array, if_pos array]
    have free : Draft.IsFree known draft
        (i.text ++ '[' :: ((toString d.amount).toList ++ [']'])) := by
      refine ⟨fun mem => ?_, .inl typed⟩
      have name := isNameLike_of_mem_keywords _ mem
      rw [String.toList_ofList] at name
      exact name.not_mem (by decide : Layout.isNamePart '[' = false) (by simp)
    have digits : ']' ∉ (toString d.amount).toList := fun mem =>
      absurd (isDigit_of_mem_toString mem) (by decide)
    rw [Draft.readWord_bracket free noBracket, Draft.readSubscript, takeWhile_ne_append_cons digits,
      arrayLength_toString writable, noName, noLength, List.isEmpty_eq_false_iff.2 i.ne_nil]
    rfl
  · rw [if_neg array, if_neg array, List.append_nil]
    rw [Draft.readWord_free ⟨i.notKeyword, .inl typed⟩ noBracket i.ne_nil, noName, ← noLength]
    rfl

namespace IsListable

variable (h : d.IsListable known)
include h

theorem words_lineBack : words d.lineBack = d.lineWords := by
  have joined := words_intercalate fun word mem =>
    ⟨(h.areWords word mem).1, (h.areWords word mem).2.1⟩
  rw [lineBack]
  split
  · rw [words_gap_append (by decide), joined]
  · rw [List.nil_append, joined]

theorem lookupWindow_line (writable : table.size ≤ writableBound)
    (represents : Option.Rel table.Represents reference d.layoutText) :
    Draft.lookupWindow table .parentheses (words (d.line reference)) =
      .ok (d.lineWords, d.layoutText) := by
  rw [Delimiters.parentheses_eq]
  cases layout : d.layout with
  | none =>
    rw [layoutText, layout, Option.map_none] at represents ⊢
    rw [SpanTable.eq_none_of_rel represents, line_of_noLayout layout, h.words_lineBack]
    exact Draft.lookupWindow_of_not_mem ')' fun word mem =>
      (h.areWords word mem).2.2.not_mem (by decide)
  | some text =>
    rw [layoutText, layout, Option.map_some] at represents ⊢
    obtain ⟨reference, rfl, held⟩ := SpanTable.exists_of_rel_some represents
    have keyword := isNameLike_layout
    have window := Draft.lookupWindow_words writable held (by decide : '(' ≠ ')') (by decide)
      (by decide) (List.forall_mem_nil _) (List.forall_mem_nil _) (keyword.not_mem (by decide))
      (keyword.not_mem (by decide)) keyword.isSolid d.lineBack
    rw [if_neg (h.layout text layout).1, List.nil_append, List.nil_append, h.words_lineBack]
      at window
    rw [line_of_layout layout]
    exact window

theorem readWords_lineWords (hknown : AreUnreserved known) :
    Draft.readWords known d.lineWords { layout := d.layout } = d.lineDraft := by
  obtain ⟨type, isKnown, declared, structName, typed⟩ := h.exists_typeName
  obtain ⟨i, named⟩ := h.name.exists_eq
  have words : d.lineWords = storageWords d.isInvariant d.isCentroid d.qualifier ++
      typeWords d.precision type ++ [d.nameWord] := by
    simp [lineWords, typed, typeWords]
  have leading := readWords_leading hknown isKnown d.isInvariant d.isCentroid d.qualifier
    d.precision none d.layout
  rw [words, Draft.readWords_append, leading, Draft.readWords_cons,
    readWord_nameWord i named h.amount rfl rfl rfl, ← declared, ← structName, lineDraft,
    Draft.ofDeclaration, h.noBody]
  rfl

theorem readOver_line (hknown : AreUnreserved known) (writable : table.size ≤ writableBound)
    (represents : Option.Rel table.Represents reference d.layoutText)
    (readMembers : Option Qualifier → Text → Except ReadError (List Declaration)) :
    Draft.readOver table known readMembers (words (d.line reference)) = .ok d.lineDraft := by
  have plain : ∀ word ∈ d.lineWords, word.IsPlain := fun word mem => (h.areWords word mem).2.2
  have noBody := @Draft.lookupWindow_of_not_mem '{' _ table '}' fun word mem =>
    (plain word mem).not_mem (by decide)
  have layout : (d.layoutText.map fun text => String.ofList (squeeze text)) = d.layout := by
    cases given : d.layout with
    | none => rw [layoutText, given]; rfl
    | some text =>
      rw [layoutText, given, Option.map_some, Option.map_some,
        squeeze_solid (h.layout text given).2.1, String.ofList_toList]
  rw [Draft.readOver_eq, h.lookupWindow_line writable represents]
  simp only [Outcome.bind_ok, Delimiters.braces_eq, noBody]
  rw [Draft.addBody, Draft.ofWords, map_outsideBraces plain, layout, h.readWords_lineWords hknown]

theorem settle_lineDraft (what : String) : d.lineDraft.settle what = .ok d := by
  obtain ⟨i, named⟩ := h.name.exists_eq
  have filled : d.name ≠ "" := named ▸ i.name_ne_empty
  have amount : d.lineDraft.amount? = some d.amount := by
    by_cases array : d.isArray
    · simp [Draft.amount?, lineDraft, array]
    · have single : d.amount = 1 := by simpa [isArray] using array
      simp [Draft.amount?, lineDraft, array, single]
  have body : d.type = .block ↔ d.members.isSome := by simp [h.noBlock, h.noBody]
  rw [Draft.settle_of_complete d.lineDraft what rfl rfl rfl filled amount h.struct body]
  cases d
  rfl

theorem declaresInterface_line
    (represents : Option.Rel table.Represents reference d.layoutText) :
    Statement.declaresInterface (words (d.line reference)) = true := by
  cases layout : d.layout with
  | none =>
    rw [layoutText, layout, Option.map_none] at represents
    rw [SpanTable.eq_none_of_rel represents, line_of_noLayout layout, h.words_lineBack, lineWords,
      List.append_assoc, List.append_assoc]
    exact Statement.declaresInterface_of_leading? (leading?_storageWords _ _ _ _) h.storage
  | some text =>
    rw [layoutText, layout, Option.map_some] at represents
    obtain ⟨reference, rfl, held⟩ := SpanTable.exists_of_rel_some represents
    have space : isBlank ' ' = true := by decide
    have blank : ∀ c ∈ d.lineBack.head?, isBlank c = true := by simp [lineBack, layout, space]
    have solid : IsSolid ("layout".toList ++ '(' :: (reference ++ [')'])) := by
      have brackets : IsSolid ['('] ∧ IsSolid [')'] := by decide
      exact isNameLike_layout.isSolid.append (brackets.1.append (held.isSolid.append brackets.2))
    have whole : d.line (some reference) =
        "layout".toList ++ '(' :: (reference ++ [')']) ++ d.lineBack := by
      simp [line_of_layout layout]
    rw [whole, words_solid_append (by simp) solid blank]
    exact (declares_of_layout _ _).1

end IsListable

theorem isPlain_lineFront (d : Declaration) : d.lineFront.IsPlain := by
  rw [lineFront]
  split
  · exact isNameLike_layout.isPlain
  · exact isPlain_nil

theorem isPlain_intercalate {parts : List Word} (h : ∀ word ∈ parts, word.IsPlain) :
    IsPlain ([' '].intercalate parts) := by
  have blank : IsPlain [' '] := by decide
  induction parts with
  | nil => exact isPlain_nil
  | cons word parts ih =>
    obtain ⟨first, others⟩ := List.forall_mem_cons.1 h
    cases parts with
    | nil => rwa [List.intercalate_singleton]
    | cons next parts =>
      rw [List.intercalate_cons_cons]
      exact isPlain_append.2 ⟨isPlain_append.2 ⟨first, blank⟩, ih others⟩

theorem IsListable.isPlain_lineBack (h : d.IsListable known) : d.lineBack.IsPlain := by
  have blank : IsPlain [' '] := by decide
  have words := isPlain_intercalate fun word mem => (h.areWords word mem).2.2
  rw [lineBack]
  split
  · exact isPlain_append.2 ⟨blank, words⟩
  · exact isPlain_append.2 ⟨isPlain_nil, words⟩

theorem IsListable.not_mem_line (h : d.IsListable known) {x : Char} (structured : x ∈ structural)
    (apart : x ≠ '(' ∧ x ≠ ')') {arguments : Option Text} (free : ∀ text ∈ arguments, x ∉ text) :
    x ∉ d.line arguments := by
  simp only [line, List.mem_append, not_or]
  exact ⟨⟨(isPlain_lineFront d).not_mem structured, not_mem_bracketed apart.1 apart.2 free⟩,
    h.isPlain_lineBack.not_mem structured⟩

theorem IsListable.not_mem_layoutText (h : d.IsListable known) {x : Char}
    (reserved : x ∈ ['(', ')', '{', '}', '/', '#']) : ∀ text ∈ d.layoutText, x ∉ text := by
  intro text mem
  obtain ⟨layout, given, rfl⟩ := Option.map_eq_some_iff.1 mem
  exact (h.layout layout given).2.2 x reserved

variable {ds : List Declaration}

theorem setAside_lines (h : ∀ d ∈ ds, d.IsListable known) :
    ∃ references : List (Declaration × Option Text), ∃ table : SpanTable,
      references.map Prod.fst = ds ∧ table.size ≤ ds.length ∧
      (∀ r ∈ references, Option.Rel table.Represents r.2 r.1.layoutText) ∧
      Surface.setAside (ds.flatMap fun d => d.line d.layoutText ++ [';', '\n']) =
        (references.flatMap (fun r => r.1.line r.2 ++ [';', '\n']), table) := by
  have free (x : Char) (mem : x ∈ ['/', '#', '{']) :
      x ∉ ds.flatMap fun d => d.line d.layoutText ++ [';', '\n'] := by
    have facts : ∀ y ∈ ['/', '#', '{'], y ∈ structural ∧ (y ≠ '(' ∧ y ≠ ')') ∧
        y ∈ ['(', ')', '{', '}', '/', '#'] ∧ y ∉ [';', '\n'] := by decide
    obtain ⟨structured, apart, reserved, differs⟩ := facts x mem
    intro inside
    obtain ⟨d, listed, inside⟩ := List.mem_flatMap.1 inside
    rcases List.mem_append.1 inside with inside | inside
    · exact (h d listed).not_mem_line structured apart
        ((h d listed).not_mem_layoutText reserved) inside
    · exact differs inside
  -- stripping and the pass for braces leave the lines alone, so the table is still empty
  have stripped := Source.stripComments_of_not_mem (free '/' (by decide)) (free '#' (by decide))
  have unbraced := @SpanTable.extract_of_not_mem '{' '}' _ (free '{' (by decide)) {}
  have parenthesis : '(' ∈ structural ∧ ')' ∈ structural ∧ '(' ∉ [';', '\n'] := by decide
  obtain ⟨references, table, same, -, size, held, taken⟩ :=
    @SpanTable.extract_chunks '(' ')' _ (by decide) lineFront (fun d => d.lineBack ++ [';', '\n'])
      layoutText [] List.not_mem_nil ds
      (fun d _ => (isPlain_lineFront d).not_mem parenthesis.1)
      (fun d mem => by
        rw [List.mem_append, not_or]
        exact ⟨(h d mem).isPlain_lineBack.not_mem parenthesis.1, parenthesis.2.2⟩)
      (fun d mem text inside => ⟨(h d mem).not_mem_layoutText (by decide) text inside,
        (h d mem).not_mem_layoutText (by decide) text inside⟩) {}
  refine ⟨references, table, same, ?_, held, ?_⟩
  · simpa [SpanTable.size] using size
  · simp only [List.append_nil, ← List.append_assoc] at taken
    rw [Surface.setAside, stripped, Delimiters.braces_eq, unbraced, Delimiters.parentheses_eq]
    exact taken

/-- Listed declarations are read back as they were, if the names of the known structs are neither
keywords nor names of built-in types. -/
theorem readInterface_listed (hknown : AreUnreserved known) (h : ∀ d ∈ ds, d.IsListable known)
    (few : ds.length ≤ writableBound) (indent : String) :
    ∃ text, listed indent ds = .ok text ∧
      Surface.readInterface (Surface.setAside text.toList).2 known
        (Surface.setAside text.toList).1 = .ok ds := by
  obtain ⟨text, isListed, lines⟩ := listed_eq h indent
  obtain ⟨references, table, rfl, size, held, taken⟩ := setAside_lines h
  refine ⟨text, isListed, ?_⟩
  have writable : table.size ≤ writableBound := Nat.le_trans size few
  have listable (r : Declaration × Option Text) (mem : r ∈ references) : r.1.IsListable known :=
    h r.1 (List.mem_map_of_mem mem)
  have declares (r : Declaration × Option Text) (mem : r ∈ references) :
      Statement.declaresInterface (words (r.1.line r.2)) = true :=
    (listable r mem).declaresInterface_line (held r mem)
  have statements : Statement.ofText (references.flatMap (fun r => r.1.line r.2 ++ [';', '\n'])) =
      references.map fun r => words (r.1.line r.2) := by
    have parted := @Statement.ofText_flatMap _ (fun r : Declaration × Option Text => r.1.line r.2)
      references ?_ ?_ ['\n'] [] (by decide) (List.forall_mem_nil _)
    · rwa [List.append_nil] at parted
    · intro r mem
      exact (listable r mem).not_mem_line (by decide) (by decide) fun text inside =>
        (isPlain_of_rel (held r mem) text inside).not_mem (by decide)
    · intro r mem empty
      have declared := declares r mem
      rw [empty] at declared
      cases declared
  have selected : (references.map fun r => words (r.1.line r.2)).filter
      Statement.declaresInterface = references.map fun r => words (r.1.line r.2) := by
    rw [List.filter_eq_self]
    exact List.forall_mem_map.2 declares
  rw [lines, taken, Surface.readInterface, Statement.select, statements, selected]
  refine Outcome.mapM_map_eq_ok fun r mem => ?_
  obtain ⟨readMembers, read⟩ := Draft.exists_readOver table known
  rw [read, (listable r mem).readOver_line hknown writable (held r mem), Outcome.bind_ok,
    (listable r mem).settle_lineDraft]

/-- A listing with layout arguments, flags, a known struct and amounts below one. -/
theorem readInterface_listed_lights :
    let position : Declaration := {
      qualifier := .input, type := .value (.vector .float .three), name := "position"
      layout := some "location=0;", precision := some .high }
    let lights : Declaration := {
      qualifier := .uniform, type := .struct, name := "lights", amount := -4
      structName := some "Light" }
    let color : Declaration := {
      qualifier := .output, type := .value (.scalar .float), name := "color", amount := 0
      isInvariant := true, isCentroid := true }
    let text := "layout(location=0;) in highp vec3 position;\nuniform Light lights[-4];\n" ++
      "invariant centroid out float color[0];\n"
    listed "  " [position, lights, color] = .ok text ∧
      Surface.readInterface (Surface.setAside text.toList).2 ["Light"]
        (Surface.setAside text.toList).1 = .ok [position, lights, color] := by
  intro position lights color text
  have unreserved : AreUnreserved ["Light"] := by
    rw [AreUnreserved, List.forall_mem_singleton]
    decide +kernel
  have listable : ∀ d ∈ [position, lights, color], d.IsListable ["Light"] := by decide +kernel
  have few : [position, lights, color].length ≤ writableBound := by decide +kernel
  have isListed : listed "  " [position, lights, color] = .ok text := by decide +kernel
  obtain ⟨text', isListed', read⟩ := readInterface_listed unreserved listable few "  "
  obtain rfl := Except.ok.inj (isListed.symm.trans isListed')
  exact ⟨isListed, read⟩

end Declaration

end ShaderSurface
