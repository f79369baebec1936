import ShaderSurface.Proofs.Span.Enclosure
import ShaderSurface.Proofs.Surface.Members

/-!
# Where a layout comes from

A declaration of the code has the layout that its first parentheses held in the source, whatever
stands before them. The parentheses of a member are not set aside: a member has a layout only if its
first parentheses hold the place of a text in the table, and its layout is that text, wherever it
comes from (`Surface.layout_of_read`).
-/

namespace ShaderSurface

open Text

namespace Draft

variable {table : SpanTable} {known : List String} {draft : Draft}
  {readMembers : Option Qualifier → Text → Except ReadError (List Declaration)}

theorem layout_of_readOver {statement : Statement}
    (h : readOver table known readMembers statement = .ok draft) :
    ∃ rest text?, lookupWindow table .parentheses statement = .ok (rest, text?) ∧
      draft.layout = text?.map fun text => String.ofList (squeeze text) := by
  obtain ⟨remaining, layout, rest, body?, found, -, added⟩ := exists_of_readOver h
  refine ⟨remaining, layout, found, ?_⟩
  have own := layout_ofWords known remaining layout
  cases body? with
  | none =>
    obtain rfl := Except.ok.inj added
    exact own
  | some body =>
    obtain ⟨members, -, rfl⟩ := Outcome.map_eq_ok.1 added
    exact own

theorem layout_eq_some_iff {s : Text}
    (h : readOver table known readMembers (words s) = .ok draft) (layout : String) :
    draft.layout = some layout ↔
      ∃ inside text, Encloses '(' ')' s inside ∧ inside.IsSolid ∧
        table.lookup [inside] = .ok (some text) ∧ layout = String.ofList (squeeze text) := by
  obtain ⟨rest, text?, found, same⟩ := layout_of_readOver h
  have resolves (text : Text) :
      text? = some text ↔ ∃ inside, Encloses '(' ')' s inside ∧ inside.IsSolid ∧
        table.lookup [inside] = .ok (some text) := by
    rw [← exists_lookupWindow_words_iff (by decide) (by decide) (by decide),
      ← Delimiters.parentheses_eq, found]
    simp
  simp only [same, Option.map_eq_some_iff, resolves]
  constructor
  · rintro ⟨text, ⟨inside, encloses, solid, looked⟩, rfl⟩
    exact ⟨inside, text, encloses, solid, looked, rfl⟩
  · rintro ⟨inside, text, encloses, solid, looked, rfl⟩
    exact ⟨text, ⟨inside, encloses, solid, looked⟩, rfl⟩

end Draft

namespace Surface

open SpanTable

variable {source s : Text} {known : List String} {d : Declaration} {ds : List Declaration}
  {q : Qualifier}

/-- The layout of a text of the code is what the pass over parentheses has set aside of its first
parentheses. -/
def IsCodeLayout (source s : Text) (layout : Option String) : Prop :=
  ∀ l, layout = some l ↔ ∃ reference text, Encloses '(' ')' s reference ∧
    WritesLayout source reference text ∧ l = String.ofList (squeeze text)

/-- The layout of a text of a body is what a word in its first parentheses is looked up as. -/
def IsMemberLayout (source s : Text) (layout : Option String) : Prop :=
  ∀ l, layout = some l ↔ ∃ inside text, Encloses '(' ')' s inside ∧ inside.IsSolid ∧
    (setAside source).2.lookup [inside] = .ok (some text) ∧ l = String.ofList (squeeze text)

/-- The first parentheses in a text of the code, where something stands in them, hold a reference
that the pass over parentheses wrote. -/
theorem exists_writesLayout_of_encloses (mem : s ∈ (setAside source).1.splitOn ';')
    {reference : Text} (ne : reference ≠ []) (encloses : Encloses '(' ')' s reference) :
    ∃ text, WritesLayout source reference text := by
  have bracketed := encloses.isInfix.trans (isInfix_of_mem_splitOn mem)
  obtain ⟨-, -, -, -, -, opens, closes⟩ := encloses
  obtain ⟨text, place, written⟩ := exists_writesReference_of_isInfix (o := '(') (c := ')')
    (by decide) (by decide) (by decide) ne opens closes bracketed
  exact ⟨text, place, written⟩

theorem words_ne_nil_of_readsAs (h : ReadsAs source known (words s) d) : words s ≠ [] := by
  intro empty
  obtain ⟨draft, read, settled⟩ := h
  obtain ⟨readMembers, nested⟩ := Draft.exists_readOver (setAside source).2 known
  rw [nested, empty] at read
  obtain rfl : ({} : Draft) = draft := Except.ok.inj read
  cases settled.qualifier

/-- A reference that stands in the first parentheses of a text that is read is looked up as what
the pass has set aside. -/
theorem lookup_of_writesLayout {reference text : Text}
    (written : WritesLayout source reference text) (encloses : Encloses '(' ')' s reference)
    {draft : Draft}
    {readMembers : Option Qualifier → Text → Except ReadError (List Declaration)}
    (read : Draft.readOver (setAside source).2 known readMembers (words s) = .ok draft) :
    reference.IsSolid ∧ (setAside source).2.lookup [reference] = .ok (some text) := by
  obtain ⟨place, written⟩ := written
  have solid : reference.IsSolid := written.numeral ▸ isSolid_decimal _
  obtain ⟨rest, text?, found, -⟩ := Draft.layout_of_readOver read
  obtain ⟨rest', outcome⟩ := Draft.exists_lookupWindow_words_eq (by decide) (by decide)
    (setAside source).2 encloses solid
  rw [← Delimiters.parentheses_eq, found] at outcome
  obtain ⟨text?, looked⟩ : ∃ text?, (setAside source).2.lookup [reference] = .ok text? := by
    cases looked : (setAside source).2.lookup [reference] with
    | ok text? => exact ⟨text?, rfl⟩
    | error cause =>
      rw [looked] at outcome
      cases outcome
  have held := looked
  rw [written.numeral] at held
  have stored : (setAside source).2.spans[(afterBraces source).2.size + place]? = some text :=
    written.stored
  rw [looked, ← getElem?_of_lookup_decimal held, stored]
  exact ⟨solid, rfl⟩

theorem isCodeLayout_of_readsAs (mem : s ∈ (setAside source).1.splitOn ';')
    (h : ReadsAs source known (words s) d) : IsCodeLayout source s d.layout := by
  obtain ⟨draft, read, settled⟩ := h
  obtain ⟨readMembers, nested⟩ := Draft.exists_readOver (setAside source).2 known
  rw [nested] at read
  intro l
  rw [settled.layout, Draft.layout_eq_some_iff read]
  constructor
  · rintro ⟨reference, text, encloses, solid, looked, rfl⟩
    obtain ⟨word, same, ne, digits⟩ := exists_of_lookup looked
    obtain rfl := List.singleton_inj.1 same
    rw [trim_solid solid] at ne digits
    refine ⟨reference, text, encloses, ?_, rfl⟩
    exact exists_writesReference_of_lookup (o := '(') (c := ')') (by decide) (by decide) (by decide)
      (Extends.refl (setAside source).2) ne digits
      (encloses.isInfix.trans (isInfix_of_mem_splitOn mem)) looked
  · rintro ⟨reference, text, encloses, written, rfl⟩
    have ⟨solid, looked⟩ := lookup_of_writesLayout written encloses read
    exact ⟨reference, text, encloses, solid, looked, rfl⟩

theorem isMemberLayout_of_readsMember (h : ReadsMember source known q (words s) d) :
    IsMemberLayout source s d.layout := by
  obtain ⟨draft, read, settled⟩ := h
  obtain ⟨readMembers, nested⟩ := Draft.exists_readOver (setAside source).2 known
  rw [nested] at read
  intro l
  rw [settled.layout, Draft.layout_eq_some_iff read]

/-- Every declaration is read from a text of the code, and has the layout that the pass over
parentheses has set aside of the first parentheses there. Its members are read from the texts of its
body, in order, and each has the layout that a word in its first parentheses is looked up as. -/
theorem layout_of_read (h : read source = .ok ds) :
    (∀ d ∈ ds, ∃ s ∈ (setAside source).1.splitOn ';', ∃ known, ReadsAs source known (words s) d) ∧
    ∀ s ∈ (setAside source).1.splitOn ';', ∀ known d, ReadsAs source known (words s) d →
      IsCodeLayout source s d.layout ∧
      (∀ reference ≠ [], Encloses '(' ')' s reference →
        ∃ text, WritesLayout source reference text) ∧
      (∀ body, HasBody source (words s) body →
        List.Forall₂ (fun t member => ReadsMember source known d.qualifier (words t) member ∧
            IsMemberLayout source t member.layout)
          (Statement.texts (Statement.declaresMember known) body) d.body) ∧
      ((∀ body, ¬HasBody source (words s) body) → d.body = []) := by
  constructor
  · intro d mem
    obtain ⟨known, statement, inCode, readsAs⟩ := isReadFrom_of_read h mem
    obtain ⟨s, piece, rfl⟩ := List.mem_map.1 (List.mem_filter.1 inCode).1
    exact ⟨s, piece, known, readsAs⟩
  · intro s piece known d readsAs
    have inCode : words s ∈ Statement.ofText (setAside source).1 := by
      refine List.mem_filter.2 ⟨List.mem_map_of_mem piece, ?_⟩
      simpa using words_ne_nil_of_readsAs readsAs
    refine ⟨isCodeLayout_of_readsAs piece readsAs,
      fun reference ne => exists_writesLayout_of_encloses piece ne, fun body hasBody => ?_,
      body_eq_nil inCode readsAs⟩
    have members := forall₂_readsMember inCode readsAs hasBody
    rw [Statement.select_eq_map_texts, List.forall₂_map_left_iff] at members
    exact members.imp fun t member readsMember =>
      ⟨readsMember, isMemberLayout_of_readsMember readsMember⟩

/-- A number in the parentheses of a member is taken for the place of a text: here it is the layout
of another declaration. -/
theorem layout_of_read_elsewhere :
    let source := "layout(location = 3) in vec4 p; uniform B \x7blayout(1) vec4 a;\x7d;".toList
    let vec4 : DeclaredType := .value (.vector .float .four)
    let p : Declaration := {
      qualifier := .input, type := vec4, name := "p", layout := some "location=3" }
    let a : Declaration := {
      qualifier := .uniform, type := vec4, name := "a", layout := some "location=3" }
    let b : Declaration := {
      qualifier := .uniform, type := .block, name := "B", members := some [a] }
    read source = .ok [p, b] ∧
      IsCodeLayout source "layout(1) in vec4 p".toList (some "location=3") ∧
      IsMemberLayout source "layout(1) vec4 a".toList (some "location=3") := by
  intro source vec4 p a b
  have whole : read source = .ok [p, b] := by decide +kernel
  have first : ReadsAs source [] (words "layout(1) in vec4 p".toList) p :=
    readsAs_of_settle "declaration" (by decide +kernel)
  have second : ReadsAs source [] (words " uniform B \x7b0\x7d".toList) b :=
    readsAs_of_settle "declaration" (by decide +kernel)
  have body : HasBody source (words " uniform B \x7b0\x7d".toList) "layout(1) vec4 a;".toList :=
    ⟨words " uniform B \x7b0\x7d".toList, none, ["uniform".toList, "B".toList], by decide +kernel,
      by decide +kernel⟩
  have texts : Statement.texts (Statement.declaresMember []) "layout(1) vec4 a;".toList =
      ["layout(1) vec4 a".toList] := by decide +kernel
  obtain ⟨-, layouts⟩ := layout_of_read whole
  obtain ⟨own, -⟩ := layouts _ (by decide +kernel) [] p first
  obtain ⟨-, -, members, -⟩ := layouts _ (by decide +kernel) [] b second
  have member := members _ body
  rw [texts] at member
  obtain ⟨⟨-, found⟩, -⟩ := List.forall₂_cons.1 member
  exact ⟨whole, own, found⟩

/-- The layout is the one that the text gives behind the word for it, and there is none without that
word. -/
def IsWrittenLayout (s : Text) (layout : Option String) : Prop :=
  (∀ front inside rest, s = front ++ "layout(".toList ++ inside ++ ')' :: rest → ')' ∉ inside →
    squeeze inside ≠ [] → layout = some (String.ofList (squeeze inside))) ∧
  (¬"layout(".toList <:+: s → layout = none)

/-- The layout that is written for a member is lost, and the parentheses of an initial value are
taken for a layout. -/
theorem not_forall_isWrittenLayout :
    (¬∀ (source : Text) (ds : List Declaration), read source = .ok ds →
      ∀ s ∈ (setAside source).1.splitOn ';', ∀ known d, ReadsAs source known (words s) d →
        ∀ body, HasBody source (words s) body →
          List.Forall₂ (fun t member => IsWrittenLayout t member.layout)
            (Statement.texts (Statement.declaresMember known) body) d.body) ∧
    ¬∀ (source : Text) (ds : List Declaration), read source = .ok ds →
      ∀ s ∈ (setAside source).1.splitOn ';', ∀ known d, ReadsAs source known (words s) d →
        ¬"layout(".toList <:+: s → d.layout = none := by
  constructor
  · intro h
    let source := "uniform B \x7blayout(offset=16) vec4 a;\x7d;".toList
    let a : Declaration := {
      qualifier := .uniform, type := .value (.vector .float .four), name := "a" }
    let b : Declaration := {
      qualifier := .uniform, type := .block, name := "B", members := some [a] }
    have whole : read source = .ok [b] := by decide +kernel
    have readsAs : ReadsAs source [] (words "uniform B \x7b0\x7d".toList) b :=
      readsAs_of_settle "declaration" (by decide +kernel)
    have body : HasBody source (words "uniform B \x7b0\x7d".toList)
        "layout(offset=16) vec4 a;".toList :=
      ⟨words "uniform B \x7b0\x7d".toList, none, ["uniform".toList, "B".toList],
        by decide +kernel, by decide +kernel⟩
    have texts : Statement.texts (Statement.declaresMember []) "layout(offset=16) vec4 a;".toList =
        ["layout(offset=16) vec4 a".toList] := by decide +kernel
    have member := h source _ whole _ (by decide +kernel) [] b readsAs _ body
    rw [texts] at member
    obtain ⟨⟨written, -⟩, -⟩ := List.forall₂_cons.1 member
    have lost := written [] "offset=16".toList " vec4 a".toList (by decide) (by decide) (by decide)
    cases lost
  · intro h
    let source := "uniform float x = f(3);".toList
    let x : Declaration := {
      qualifier := .uniform, type := .value (.scalar .float), name := "x", layout := some "3" }
    have whole : read source = .ok [x] := by decide +kernel
    have readsAs : ReadsAs source [] (words "uniform float x = f(0)".toList) x :=
      readsAs_of_settle "declaration" (by decide +kernel)
    have bare := h source _ whole _ (by decide +kernel) [] x readsAs (by decide)
    cases bare

end Surface

end ShaderSurface
