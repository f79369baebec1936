import ShaderSurface.Layout.Slots
import ShaderSurface.Proofs.Grammar.Tokens
import ShaderSurface.Proofs.Keyed
import ShaderSurface.Proofs.Layout.Literals
import ShaderSurface.Proofs.Outcome
import ShaderSurface.Proofs.Text.Cutting

/-!
# The language of layout arguments

Layout arguments are items between commas: a name, or a name with a name or an integer literal
behind an equals sign, with space anywhere between these. Such a text lists pairs of a name and a
value. A text is read exactly if it lists pairs, and then as the table of these pairs; where it
lists none, a slot is refused for the text and for nothing else (`Layout.arguments?_exact`).
-/

namespace ShaderSurface

open Text

namespace Layout

variable {c : Char} {s piece : Text} {v : LayoutValue} {n : Nat} {pair : String × LayoutValue}
  {pairs : List (String × LayoutValue)}

def IsSpacing (s : Text) : Prop :=
  ∀ c ∈ s, isSpace c = true

inductive Spells : Text → LayoutValue → Prop
  | number {s : Text} {n : Nat} (denotes : Denotes s n) : Spells s (.number n)
  | name {s : Text} (isName : isName s = true) : Spells s (.name (String.ofList s))

inductive SpellsItem : Text → String × LayoutValue → Prop
  | flag {before name after : Text} (hbefore : IsSpacing before) (isName : isName name = true)
    (hafter : IsSpacing after) :
    SpellsItem (before ++ name ++ after) (String.ofList name, .flag)
  | assignment {before name beforeSign afterSign value after : Text} {v : LayoutValue}
    (hbefore : IsSpacing before) (isName : isName name = true) (hbeforeSign : IsSpacing beforeSign)
    (hafterSign : IsSpacing afterSign) (spells : Spells value v) (hafter : IsSpacing after) :
    SpellsItem (before ++ name ++ beforeSign ++ '=' :: (afterSign ++ value ++ after))
      (String.ofList name, v)

inductive Lists : Text → List (String × LayoutValue) → Prop
  | empty : Lists [] []
  | items {pieces : List Text} {pairs : List (String × LayoutValue)} (ne : pieces ≠ [])
    (spelled : List.Forall₂ SpellsItem pieces pairs) : Lists ([','].intercalate pieces) pairs

theorem IsSpacing.not_mem (h : IsSpacing s) (solid : isSpace c = false) : c ∉ s :=
  fun mem => Bool.false_ne_true (solid.symm.trans (h c mem))

theorem isSpace_of_isNamePart (h : isNamePart c = true) : isSpace c = false := by
  rw [Bool.eq_false_iff]
  intro space
  have none : ∀ x ∈ [' ', '\t', '\x0c', '\r', '\n'], isNamePart x = false := by decide
  have listed : c ∈ [' ', '\t', '\x0c', '\r', '\n'] := by
    simpa [isSpace, or_assoc] using space
  exact Bool.false_ne_true ((none c listed).symm.trans h)

theorem isNamePart_of_digitValue_lt (h : digitValue c < 16) : isNamePart c = true := by
  have small := toNat_lt_of_digitValue_lt h
  revert h
  refine of_forall_lt c small ?_
  decide +kernel

/-- A literal starts with a digit and is made of characters of names. -/
theorem IsLiteral.isNameLike (h : IsLiteral s) :
    s.IsNameLike ∧ ∃ c rest, s = c :: rest ∧ c.isDigit = true := by
  have ofDigits {base : Nat} (bounded : base ≤ 16) {digits : Text}
      (areDigits : AreDigits base digits) : digits.IsNameLike := fun c mem =>
    isNamePart_of_digitValue_lt (Nat.lt_of_lt_of_le (areDigits.2 c mem) bounded)
  have ofSuffix {suffix : Text} (isSuffix : IsSuffix suffix) : suffix.IsNameLike := by
    rcases isSuffix with rfl | rfl | rfl <;> decide
  have zero : isNamePart '0' = true := by decide
  cases h with
  | @hexadecimal letter digits suffix isLetter areDigits isSuffix =>
    have letterPart : isNamePart letter = true := by rcases isLetter with rfl | rfl <;> decide
    refine ⟨?_, '0', _, rfl, by decide⟩
    exact List.forall_mem_cons.2 ⟨zero, List.forall_mem_cons.2 ⟨letterPart,
      List.forall_mem_append.2 ⟨ofDigits le_rfl areDigits, ofSuffix isSuffix⟩⟩⟩
  | @decimal digits suffix areDigits isSuffix =>
    refine ⟨List.forall_mem_append.2 ⟨ofDigits (by decide) areDigits, ofSuffix isSuffix⟩, ?_⟩
    obtain ⟨c, rest, rfl⟩ := List.exists_cons_of_ne_nil areDigits.1
    exact ⟨c, rest ++ suffix, rfl, (digit_iff c).1.2 (areDigits.2 c List.mem_cons_self)⟩

theorem IsLiteral.isName_eq_false (h : IsLiteral s) : isName s = false := by
  obtain ⟨-, c, rest, rfl, digit⟩ := h.isNameLike
  exact isName_eq_false_of_isDigit digit rest

theorem isNameLike_of_spells (h : Spells s v) : s.IsNameLike ∧ s ≠ [] := by
  cases h with
  | number denotes =>
    obtain ⟨nameLike, c, rest, rfl, -⟩ := denotes.isLiteral.isNameLike
    exact ⟨nameLike, List.cons_ne_nil c rest⟩
  | name isName =>
    refine ⟨isNameLike_of_isName isName, ?_⟩
    rintro rfl
    cases isName

theorem value?_eq_some_iff : value? s = some v ↔ Spells s v := by
  by_cases named : isName s = true
  · rw [value?, if_pos named, Option.some_inj]
    constructor
    · rintro rfl
      exact .name named
    · intro spells
      cases spells with
      | number denotes =>
        exact absurd (denotes.isLiteral.isName_eq_false.symm.trans named) (by decide)
      | name => rfl
  · rw [value?, if_neg named, Option.map_eq_some_iff]
    constructor
    · rintro ⟨n, read, rfl⟩
      exact .number (literal?_eq_some_iff.1 read)
    · intro spells
      cases spells with
      | number denotes => exact ⟨_, literal?_eq_some_iff.2 denotes, rfl⟩
      | name isName => exact absurd isName named

theorem dropWhile_append_append {p : Char → Bool} {front : Text} (hfront : ∀ c ∈ front, p c = true)
    (solid : ∀ c ∈ s, p c = false) (ne : s ≠ []) (rest : Text) :
    (front ++ (s ++ rest)).dropWhile p = s ++ rest := by
  obtain ⟨c, s, rfl⟩ := List.exists_cons_of_ne_nil ne
  rw [List.dropWhile_append_of_pos hfront, List.cons_append,
    List.dropWhile_cons_of_neg (by simp [solid c List.mem_cons_self])]

theorem trimSpace_between {before after : Text} (hbefore : IsSpacing before)
    (nameLike : s.IsNameLike) (ne : s ≠ []) (hafter : IsSpacing after) :
    trimSpace (before ++ s ++ after) = s := by
  have solid : ∀ c ∈ s, isSpace c = false := fun c mem => isSpace_of_isNamePart (nameLike c mem)
  have back : (after.reverse ++ (s.reverse ++ [])).dropWhile isSpace = s.reverse ++ [] :=
    dropWhile_append_append (fun c mem => hafter c (List.mem_reverse.1 mem))
      (fun c mem => solid c (List.mem_reverse.1 mem)) (by simpa using ne) []
  rw [List.append_nil] at back
  rw [trimSpace, List.append_assoc, dropWhile_append_append hbefore solid ne, List.reverse_append,
    back, List.reverse_reverse]

theorem exists_eq_trimSpace (s : Text) :
    ∃ before after, IsSpacing before ∧ IsSpacing after ∧ s = before ++ trimSpace s ++ after :=
  exists_eq_append_dropped isSpace s

theorem ne_nil_of_isName (h : isName s = true) : s ≠ [] := by
  rintro rfl
  cases h

theorem not_mem_around {before after : Text} (hbefore : IsSpacing before) (nameLike : s.IsNameLike)
    (hafter : IsSpacing after) (solid : isSpace c = false) (sign : isNamePart c = false) :
    c ∉ before ++ s ++ after := by
  simp only [List.mem_append, not_or]
  exact ⟨⟨hbefore.not_mem solid, nameLike.not_mem sign⟩, hafter.not_mem solid⟩

theorem item?_eq_some_iff : item? piece = some pair ↔ SpellsItem piece pair := by
  constructor
  · intro read
    have whole : ['='].intercalate (piece.splitOn '=') = piece := List.intercalate_splitOn '='
    rw [item?] at read
    split at read
    · rename_i name parts
      obtain ⟨part, cut, rfl⟩ := List.map_eq_singleton_iff.1 parts
      rw [cut, List.intercalate_singleton] at whole
      by_cases isName : isName (trimSpace part) = true
      · rw [if_pos isName, Option.some_inj] at read
        obtain ⟨before, after, hbefore, hafter, around⟩ := exists_eq_trimSpace part
        have flag := SpellsItem.flag hbefore isName hafter
        rwa [← around, read, whole] at flag
      · rw [if_neg isName] at read
        cases read
    · rename_i name value parts
      obtain ⟨first, others, cut, rfl, last⟩ := List.map_eq_cons_iff.1 parts
      obtain ⟨second, rfl, rfl⟩ := List.map_eq_singleton_iff.1 last
      rw [cut] at whole
      by_cases isName : isName (trimSpace first) = true
      · rw [if_pos isName, Option.map_eq_some_iff] at read
        obtain ⟨v, read, rfl⟩ := read
        obtain ⟨before, beforeSign, hbefore, hbeforeSign, around⟩ := exists_eq_trimSpace first
        obtain ⟨afterSign, after, hafterSign, hafter, around'⟩ := exists_eq_trimSpace second
        have joined : piece = before ++ trimSpace first ++ beforeSign ++
            '=' :: (afterSign ++ trimSpace second ++ after) := by
          rw [← around, ← around', ← whole, List.intercalate_cons_cons]
          simp
        rw [joined]
        exact .assignment hbefore isName hbeforeSign hafterSign (value?_eq_some_iff.1 read) hafter
      · rw [if_neg isName] at read
        cases read
    · cases read
  · intro spells
    -- a name or a literal has no sign in it, so the piece is cut where the sign is, or nowhere
    cases spells with
    | @flag before name after hbefore isName hafter =>
      have noSign := not_mem_around (c := '=') hbefore (isNameLike_of_isName isName) hafter
        (by decide) (by decide)
      rw [item?, List.splitOn_eq_singleton noSign, List.map_singleton,
        trimSpace_between hbefore (isNameLike_of_isName isName) (ne_nil_of_isName isName) hafter]
      exact if_pos isName
    | @assignment before name beforeSign afterSign value after v hbefore isName hbeforeSign
        hafterSign spells hafter =>
      have noSign := not_mem_around (c := '=') hbefore (isNameLike_of_isName isName) hbeforeSign
        (by decide) (by decide)
      obtain ⟨nameLike, ne⟩ := isNameLike_of_spells spells
      have noSign' := not_mem_around (c := '=') hafterSign nameLike hafter (by decide) (by decide)
      rw [item?, List.splitOn_append_cons_self_of_not_mem noSign,
        List.splitOn_eq_singleton noSign', List.map_cons, List.map_singleton,
        trimSpace_between hbefore (isNameLike_of_isName isName) (ne_nil_of_isName isName)
          hbeforeSign, trimSpace_between hafterSign nameLike ne hafter]
      simp only [isName, if_true, value?_eq_some_iff.2 spells, Option.map_some]

theorem SpellsItem.ne_nil (h : SpellsItem piece pair) : piece ≠ [] ∧ ',' ∉ piece := by
  cases h with
  | flag hbefore isName hafter =>
    refine ⟨by simp [ne_nil_of_isName isName], ?_⟩
    exact not_mem_around hbefore (isNameLike_of_isName isName) hafter (by decide) (by decide)
  | assignment hbefore isName hbeforeSign hafterSign spells hafter =>
    refine ⟨by simp, ?_⟩
    have front := not_mem_around (c := ',') hbefore (isNameLike_of_isName isName) hbeforeSign
      (by decide) (by decide)
    have back := not_mem_around (c := ',') hafterSign (isNameLike_of_spells spells).1 hafter
      (by decide) (by decide)
    rw [List.mem_append, List.mem_cons, not_or, not_or]
    exact ⟨front, by decide, back⟩

/-- The pieces between the commas of listed items are the texts of the items. -/
theorem splitOn_intercalate_of_spelled {pieces : List Text} (ne : pieces ≠ [])
    (spelled : List.Forall₂ SpellsItem pieces pairs) :
    ([','].intercalate pieces).splitOn ',' = pieces := by
  apply List.splitOn_intercalate ',' _ ne
  intro piece mem
  obtain ⟨pair, -, spells⟩ := Outcome.exists_of_mem_right spelled.flip mem
  exact spells.ne_nil.2

/-- A text that is not empty lists the pairs for which its pieces between commas are written. -/
theorem lists_iff (ne : s ≠ []) :
    Lists s pairs ↔ List.Forall₂ SpellsItem (s.splitOn ',') pairs := by
  constructor
  · intro lists
    cases lists with
    | empty => exact absurd rfl ne
    | items filled spelled => rwa [splitOn_intercalate_of_spelled filled spelled]
  · intro spelled
    have lists := Lists.items (List.splitOn_ne_nil ',' s) spelled
    rwa [List.intercalate_splitOn] at lists

theorem lists_nil_iff : Lists [] pairs ↔ pairs = [] := by
  constructor
  · intro lists
    generalize empty : ([] : Text) = s at lists
    cases lists with
    | empty => rfl
    | @items pieces pairs filled spelled =>
      have cut := splitOn_intercalate_of_spelled filled spelled
      rw [← empty, List.splitOn_nil] at cut
      rw [← cut] at spelled
      obtain ⟨pair, -, spells⟩ := Outcome.exists_of_mem_right spelled.flip List.mem_cons_self
      exact absurd rfl spells.ne_nil.1
  · rintro rfl
    exact .empty

/-- A text is read exactly if it lists pairs, and then as their table. -/
theorem arguments?_eq_some_iff {table : Keyed String LayoutValue} :
    arguments? s = some table ↔ ∃ pairs, Lists s pairs ∧ table = Keyed.entriesOf pairs := by
  by_cases empty : s = []
  · subst empty
    simp only [lists_nil_iff, exists_eq_left]
    exact Option.some_inj.trans eq_comm
  · have filled := List.isEmpty_eq_false_iff.2 empty
    rw [arguments?, if_neg (by simp [filled]), Option.map_eq_some_iff]
    simp only [Outcome.mapM_eq_some_iff, item?_eq_some_iff, lists_iff empty,
      Keyed.ofPairs_eq_entriesOf]
    exact exists_congr fun pairs => and_congr_right fun _ => eq_comm

theorem arguments?_assignment {name value : Text} (isName : isName name = true)
    (nameLike : value.IsNameLike) (ne : value ≠ []) :
    arguments? (name ++ '=' :: value) =
      (value? value).map fun v => [(String.ofList name, v)] := by
  have nameLike' : name.IsNameLike := isNameLike_of_isName isName
  have trimmed {s : Text} (nameLike : s.IsNameLike) (ne : s ≠ []) : trimSpace s = s := by
    have bare := trimSpace_between (List.forall_mem_nil _) nameLike ne (List.forall_mem_nil _)
    rwa [List.nil_append, List.append_nil] at bare
  have noSign {c : Char} (sign : isNamePart c = false) : c ∉ name ∧ c ∉ value :=
    ⟨nameLike'.not_mem sign, nameLike.not_mem sign⟩
  have single : (name ++ '=' :: value).splitOn ',' = [name ++ '=' :: value] :=
    List.splitOn_eq_singleton (by simp [noSign (c := ',') (by decide)])
  have item : item? (name ++ '=' :: value) = (value? value).map (String.ofList name, ·) := by
    rw [item?, List.splitOn_append_cons_self_of_not_mem (noSign (by decide)).1,
      List.splitOn_eq_singleton (noSign (by decide)).2, List.map_cons, List.map_singleton,
      trimmed nameLike' (ne_nil_of_isName isName), trimmed nameLike ne]
    exact if_pos isName
  rw [arguments?, if_neg (by simp), single]
  cases read : value? value with
  | none => simp [item, read]
  | some v => simp [item, read, Keyed.ofPairs, Keyed.put]

/-- Where the text of a layout lists no pairs, a slot is refused for the text and for nothing else.
-/
theorem given_eq_error_iff (kind : SlotKind) (d : Declaration) (e : AnalysisError) :
    kind.given d = .error e ↔ e = .layout (.unreadable (d.layout.getD "")) ∧
      ∀ pairs, ¬Lists (d.layout.getD "").toList pairs := by
  cases read : arguments? (d.layout.getD "").toList with
  | none =>
    have noPairs : ∀ pairs, ¬Lists (d.layout.getD "").toList pairs := by
      intro pairs lists
      rw [arguments?_eq_some_iff.2 ⟨pairs, lists, rfl⟩] at read
      cases read
    rw [SlotKind.given, read, and_iff_left noPairs, Except.error.injEq]
    exact eq_comm
  | some table =>
    obtain ⟨pairs, lists, -⟩ := arguments?_eq_some_iff.1 read
    rw [SlotKind.given, read]
    exact iff_of_false (by simp) fun h => h.2 pairs lists

/-- The name of a pair, and its value if it is a name, are names of the language. -/
def HasNames (pair : String × LayoutValue) : Prop :=
  isName pair.1.toList = true ∧ ∀ name, pair.2 = .name name → isName name.toList = true

theorem exists_spellsItem (h : HasNames pair) : ∃ piece, SpellsItem piece pair := by
  obtain ⟨name, value⟩ := pair
  obtain ⟨isName, isName'⟩ := h
  have none : IsSpacing [] := List.forall_mem_nil _
  have assigned {s : Text} (spells : Spells s value) :=
    SpellsItem.assignment none isName none none spells none
  rw [String.ofList_toList] at assigned
  cases value with
  | flag =>
    have flag := SpellsItem.flag none isName none
    rw [String.ofList_toList] at flag
    exact ⟨_, flag⟩
  | name other =>
    have spells := Spells.name (isName' other rfl)
    rw [String.ofList_toList] at spells
    exact ⟨_, assigned spells⟩
  | number n => exact ⟨_, assigned (.number (denotes_toDigits n (.inl rfl)).2.1)⟩

theorem exists_lists (h : ∀ pair ∈ pairs, HasNames pair) : ∃ s, Lists s pairs := by
  have items : ∃ pieces, List.Forall₂ SpellsItem pieces pairs := by
    induction pairs with
    | nil => exact ⟨[], .nil⟩
    | cons pair pairs ih =>
      obtain ⟨first, others⟩ := List.forall_mem_cons.1 h
      obtain ⟨piece, spells⟩ := exists_spellsItem first
      obtain ⟨pieces, spelled⟩ := ih others
      exact ⟨piece :: pieces, .cons spells spelled⟩
  obtain ⟨pieces, spelled⟩ := items
  by_cases empty : pieces = []
  · subst empty
    obtain rfl := List.forall₂_nil_left_iff.1 spelled
    exact ⟨[], .empty⟩
  · exact ⟨_, .items empty spelled⟩

/-- The arguments of a layout are read exactly if its text lists pairs, and then as the table of the
pairs; where it lists none, a slot is refused for the text and for nothing else. Pairs with names
are listed by some text, and they are read off every such text if no name is repeated. -/
theorem arguments?_exact (layout : Option String) :
    let s := (layout.getD "").toList
    (layout = none ∨ layout = some "" → arguments? s = some []) ∧
      (∀ table, arguments? s = some table ↔
        ∃ pairs, Lists s pairs ∧ table = Keyed.entriesOf pairs) ∧
      (∀ (kind : SlotKind) (d : Declaration), d.layout = layout → ∀ e,
        kind.given d = .error e ↔
          e = .layout (.unreadable (layout.getD "")) ∧ ∀ pairs, ¬Lists s pairs) ∧
      (∀ pairs, Lists s pairs → (pairs.map (·.1)).Nodup → arguments? s = some pairs) ∧
      ∀ pairs, (∀ pair ∈ pairs, HasNames pair) → ∃ s, Lists s pairs := by
  intro s
  refine ⟨?_, fun table => arguments?_eq_some_iff, ?_, ?_, fun pairs => exists_lists⟩
  · rintro (rfl | rfl) <;> rfl
  · rintro kind d rfl e
    exact given_eq_error_iff kind d e
  · intro pairs lists distinct
    rw [arguments?_eq_some_iff]
    refine ⟨pairs, lists, ?_⟩
    rw [← Keyed.ofPairs_eq_entriesOf, Keyed.ofPairs_of_nodup distinct]

/-- A repeated name, all kinds of literals and space of all kinds. -/
example : arguments? " std140,binding=0x1Fu,\tindex\n= main , location =017U,std140=9".toList =
    some [("std140", .number 9), ("binding", .number 31), ("index", .name "main"),
      ("location", .number 15)] := by
  decide +kernel

end Layout

end ShaderSurface
