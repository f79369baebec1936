import ShaderSurface.Proofs.Span.Chunks
import ShaderSurface.Proofs.Span.Lookup
import ShaderSurface.Proofs.Text.Parts
import ShaderSurface.Span.Window

/-!
# Where references come from

After a pass, no text between its delimiters is the source's own: whatever stands between an opening
and a closing delimiter, without another one between them, is a reference that the pass wrote
(`SpanTable.exists_writesReference`). A pass with other delimiters leaves such bracketed texts as
they are or takes them away, so that it makes up no new ones. A window that stands for a text of the
table is one bracketed text in one word.
-/

namespace ShaderSurface

namespace Delimiters

open Text

variable {o c : Char} {span front back : Text}

theorem free_of_mem_spansIn {code : Text} (h : span ∈ (ofChars o c).spansIn code) :
    span ≠ [] ∧ o ∉ span ∧ c ∉ span := by
  obtain ⟨fragment, piece, found⟩ := List.mem_filterMap.1 h
  obtain ⟨⟨span', rest⟩, cut, rfl⟩ := Option.map_eq_some_iff.1 found
  have opens : o ∉ fragment := by
    rw [ofChars, pieces_singleton] at piece
    exact not_mem_of_mem_splitOn (List.mem_of_mem_tail piece)
  rw [(eq_append_of_span? cut).1, List.mem_append, not_or] at opens
  simp only [span?, ofChars] at cut
  split at cut
  · rename_i first span after closes
    obtain ⟨rfl, -⟩ := Prod.mk.inj (Option.some.inj cut)
    exact ⟨List.cons_ne_nil _ _, opens.1, not_mem_of_cut? closes⟩
  · cases cut

theorem spansIn_append (differ : o ≠ c) (ne : span ≠ []) (ho : o ∉ span) (hc : c ∉ span)
    (front back : Text) :
    (ofChars o c).spansIn (front ++ o :: (span ++ c :: back)) =
      (ofChars o c).spansIn front ++ span :: (ofChars o c).spansIn back := by
  obtain ⟨first, others, pieces⟩ := List.exists_cons_of_ne_nil (List.splitOn_ne_nil o back)
  obtain ⟨start, fragments, pieces'⟩ := List.exists_cons_of_ne_nil (List.splitOn_ne_nil o front)
  have free : o ∉ span ++ [c] := by simp [ho, differ]
  have cut : (span ++ c :: back).splitOn o = (span ++ c :: first) :: others := by
    simpa using splitOn_append_of_not_mem free pieces
  have found := span?_ofChars o ne hc first
  simp only [spansIn, ofChars, pieces_singleton, List.splitOn_append_cons_self, pieces, pieces',
    cut, List.cons_append, List.tail_cons]
  rw [← ofChars, spansOf, List.filterMap_append, ← spansOf, ← spansOf, spansOf_cons_of_span? found]

end Delimiters

namespace SpanTable

open Delimiters Numeral

variable {o c : Char} {code part reference text : Text} {table later : SpanTable}

/-- A pass sets a span of a code aside and writes a reference in its place: the span and the
reference have the same place among the spans before and after, and the reference is the numeral of
the place where the table holds the span. -/
structure WritesReference (d : Delimiters) (code : Text) (table : SpanTable)
    (reference text : Text) (place : Nat) : Prop where
  source : (d.spansIn code)[place]? = some text
  result : (d.spansIn (table.extract d code).1)[place]? = some reference
  numeral : reference = decimal (table.size + place)
  stored : (table.extract d code).2.spans[table.size + place]? = some text

/-- Every span of the result is a reference that the pass wrote. -/
theorem exists_writesReference (ho : o.isDigit = false) (hc : c.isDigit = false)
    (h : reference ∈ (ofChars o c).spansIn (table.extract (ofChars o c) code).1) :
    ∃ text place, WritesReference (ofChars o c) code table reference text place := by
  obtain ⟨place, result⟩ := List.mem_iff_getElem?.1 h
  have numerals := spansIn_extract ho hc code table
  have written := result
  rw [numerals, List.getElem?_map, Option.map_eq_some_iff] at written
  obtain ⟨number, counted, rfl⟩ := written
  obtain ⟨within, rfl⟩ := List.getElem?_eq_some_iff.1 counted
  rw [List.length_range'] at within
  have source := List.getElem?_eq_getElem within
  refine ⟨_, place, source, result, by simp, ?_⟩
  rw [spans_extract, size, List.getElem?_append_right (Nat.le_add_right _ _),
    Nat.add_sub_cancel_left, source]

theorem exists_isInfix_of_mem_extractEach (hc : c ∉ part) (visible : ∃ x ∈ part, x.isDigit = false)
    {fragments : List Text} {piece : Text}
    (mem : piece ∈ (table.extractEach (ofChars o c) fragments).1) (h : part <:+: piece) :
    ∃ fragment ∈ fragments, part <:+: fragment := by
  induction fragments generalizing table with
  | nil => cases mem
  | cons fragment fragments ih =>
    cases found : (ofChars o c).span? fragment with
    | none =>
      rw [extractEach_cons_of_none found] at mem
      rcases List.mem_cons.1 mem with rfl | mem
      · exact ⟨piece, List.mem_cons_self, h⟩
      · obtain ⟨fragment', mem, inside⟩ := ih mem
        exact ⟨fragment', List.mem_cons_of_mem _ mem, inside⟩
    | some pair =>
      rw [extractEach_cons_of_span? found] at mem
      rcases List.mem_cons.1 mem with rfl | mem
      · obtain ⟨whole, after, closes⟩ := eq_append_of_span? found
        rw [closes] at h
        rcases Text.isInfix_or_of_not_mem hc h with numeral | rest
        · obtain ⟨x, inside, notDigit⟩ := visible
          exact absurd (numeral.subset inside) (not_mem_decimal notDigit _)
        · refine ⟨fragment, List.mem_cons_self, rest.trans ?_⟩
          rw [whole, closes]
          exact ((List.suffix_cons c after).trans (List.suffix_append _ _)).isInfix
      · obtain ⟨fragment', mem, inside⟩ := ih mem
        exact ⟨fragment', List.mem_cons_of_mem _ mem, inside⟩

theorem isInfix_of_isInfix_extract (ho : o ∉ part) (hc : c ∉ part)
    (visible : ∃ x ∈ part, x.isDigit = false)
    (h : part <:+: (table.extract (ofChars o c) code).1) : part <:+: code := by
  obtain ⟨first, fragments, cut⟩ := List.exists_cons_of_ne_nil (List.splitOn_ne_nil o code)
  have ne : part ≠ [] := by
    obtain ⟨x, mem, -⟩ := visible
    exact List.ne_nil_of_mem mem
  have piece : ∀ fragment ∈ first :: fragments, fragment <:+: code := by
    rw [← cut]
    exact fun fragment mem => Text.isInfix_of_mem_splitOn mem
  rw [extract_of_splitOn cut] at h
  obtain ⟨whole, mem, inside⟩ := Text.exists_isInfix_of_isInfix_intercalate ne ho h
  rcases List.mem_cons.1 mem with rfl | mem
  · exact inside.trans (piece _ List.mem_cons_self)
  · obtain ⟨fragment, mem, inside⟩ := exists_isInfix_of_mem_extractEach hc visible mem inside
    exact inside.trans (piece fragment (List.mem_cons_of_mem first mem))

/-- Only a single word of digits is looked up as a text. -/
theorem exists_of_lookup {words : List Word} (h : table.lookup words = .ok (some text)) :
    ∃ word, words = [word] ∧ Text.trim word ≠ [] ∧ ∀ x ∈ Text.trim word, Text.isDigit x = true := by
  obtain ⟨word, place, rfl, shows, -⟩ := lookup_eq_some_iff.1 h
  exact ⟨word, rfl, shows.ne_nil, isDigit_of_shows shows⟩

theorem mem_spans_of_lookup {words : List Word} (h : table.lookup words = .ok (some text)) :
    text ∈ table.spans := by
  obtain ⟨word, place, -, -, held⟩ := lookup_eq_some_iff.1 h
  exact List.mem_of_getElem? held

theorem eq_of_number_decimal {n m : Nat} (h : number (decimal n) = .ok m) : n = m := by
  rw [number] at h
  split at h
  · cases h
  · rw [Text.mapM_of_all_isDigit (fun c => Text.decimalValue?_of_isDigit)
      (all_isDigit_decimal n)] at h
    simp only [ofDigits_map, decimal, Nat.ofDigitChars_ten_toDigits, Except.ok.injEq] at h
    exact h

theorem getElem?_of_lookup_decimal {place : Nat} {text? : Option Text}
    (h : table.lookup [decimal place] = .ok text?) : table.spans[place]? = text? := by
  have digits : ∀ x ∈ decimal place, Text.isDigit x = true := fun x mem =>
    Text.isDigit_of_decimalValue?
      (Text.decimalValue?_of_isDigit (List.all_eq_true.1 (all_isDigit_decimal place) x mem))
  rw [lookup_singleton, Text.trim_solid (isSolid_decimal place),
    if_pos ⟨decimal_ne_nil place, digits⟩] at h
  obtain ⟨place', read, same⟩ := Outcome.map_eq_ok.1 h
  obtain rfl := eq_of_number_decimal read
  exact same

theorem exists_writesReference_of_isInfix (ho : o.isDigit = false) (hc : c.isDigit = false)
    (differ : o ≠ c) (ne : reference ≠ []) (opens : o ∉ reference) (closes : c ∉ reference)
    (bracketed : o :: (reference ++ [c]) <:+: (table.extract (ofChars o c) code).1) :
    ∃ text place, WritesReference (ofChars o c) code table reference text place := by
  obtain ⟨front, back, whole⟩ := bracketed
  have whole : front ++ o :: (reference ++ c :: back) = (table.extract (ofChars o c) code).1 := by
    simpa using whole
  apply exists_writesReference ho hc
  rw [← whole, spansIn_append differ ne opens closes]
  exact List.mem_append_right _ List.mem_cons_self

/-- Digits in brackets that show no number are a reference that the pass wrote, so that the table
has too many entries. -/
theorem writableBound_lt_size_extract (ho : Text.isDigit o = false) (hc : Text.isDigit c = false)
    (differ : o ≠ c) (unreadable : IsUnreadable reference)
    (bracketed : o :: (reference ++ [c]) <:+: (table.extract (ofChars o c) code).1) :
    writableBound < (table.extract (ofChars o c) code).2.size := by
  obtain ⟨text, place, written⟩ :=
    exists_writesReference_of_isInfix (Text.isDigit_ascii_eq_false ho)
      (Text.isDigit_ascii_eq_false hc) differ unreadable.ne_nil (unreadable.not_mem ho)
      (unreadable.not_mem hc) bracketed
  obtain ⟨filled, -⟩ := List.getElem?_eq_some_iff.1 written.stored
  rw [written.numeral] at unreadable
  exact Nat.lt_of_le_of_lt (writableBound_le_of_isUnreadable unreadable) filled

/-- Digits in brackets that the table resolves, then or later, are a reference that the pass wrote,
and it resolves to the text that the pass stored for it. -/
theorem exists_writesReference_of_lookup (ho : Text.isDigit o = false)
    (hc : Text.isDigit c = false) (differ : o ≠ c)
    (extended : later.Extends (table.extract (ofChars o c) code).2) (ne : reference ≠ [])
    (digits : ∀ x ∈ reference, Text.isDigit x = true)
    (bracketed : o :: (reference ++ [c]) <:+: (table.extract (ofChars o c) code).1)
    (looked : later.lookup [reference] = .ok (some text)) :
    ∃ place, WritesReference (ofChars o c) code table reference text place := by
  have apart {x : Char} (hx : Text.isDigit x = false) : x ∉ reference :=
    fun mem => Bool.false_ne_true (hx.symm.trans (digits x mem))
  obtain ⟨stored, place, written⟩ :=
    exists_writesReference_of_isInfix (Text.isDigit_ascii_eq_false ho)
      (Text.isDigit_ascii_eq_false hc) differ ne (apart ho) (apart hc) bracketed
  rw [written.numeral] at looked
  have held := getElem?_of_lookup_decimal looked
  rw [extended.getElem? written.stored, Option.some.injEq] at held
  exact ⟨place, held ▸ written⟩

end SpanTable

namespace Window

open Text

variable {o c : Char} {words : List Word} {window : Window}

theorem exists_of_find? {opening closing : Text} (h : find? opening closing words = some window) :
    ∃ (start stop openAt closeAt : Nat) (first last : Word), words[start]? = some first ∧
      words[stop]? = some last ∧ first.position? opening = some openAt ∧
      last.position? closing = some closeAt ∧
      window = {
        inside :=
          if start = stop then [(last.take closeAt).drop (openAt + 1)]
          else
            first.drop (openAt + 1) ::
              ((words.take stop).drop (start + 1) ++ [last.take closeAt])
        remaining :=
          words.take start ++
            (if (last.drop (closeAt + 1)).isEmpty then [] else [last.drop (closeAt + 1)]) ++
            words.drop (stop + 1) } := by
  simp only [find?, Option.bind_eq_bind, Option.bind_eq_some_iff] at h
  obtain ⟨start, -, stop, -, -, -, first, hfirst, last, hlast, openAt, opens, closeAt, closes,
    same⟩ := h
  exact ⟨start, stop, openAt, closeAt, first, last, hfirst, hlast, opens, closes,
    (Option.some.inj same).symm⟩

theorem exists_eq_of_position? {whole word : Word} {openAt closeAt : Nat}
    (opens : whole.position? [o] = some openAt) (closes : whole.position? [c] = some closeAt)
    (same : (whole.take closeAt).drop (openAt + 1) = word) (ne : word ≠ []) :
    ∃ front rest, whole = front ++ o :: (word ++ c :: rest) ∧ o ∉ front ∧
      c ∉ front ++ o :: word := by
  obtain ⟨⟨before, after⟩, cut, rfl⟩ := Option.map_eq_some_iff.1 opens
  obtain ⟨⟨before', after'⟩, cut', rfl⟩ := Option.map_eq_some_iff.1 closes
  have left := eq_of_cut? cut
  have right := eq_of_cut? cut'
  have upTo : whole.take before'.length = before' := by
    rw [right, List.append_assoc, List.take_left]
  rw [upTo] at same
  have longer : (before ++ [o]).length ≤ before'.length := by
    rw [List.length_append, List.length_singleton]
    refine Nat.le_of_not_lt fun short => ne ?_
    rw [← same, List.drop_eq_nil_of_le short.le]
  obtain ⟨more, joined⟩ := List.prefix_of_prefix_length_le ⟨after, left.symm⟩
    ⟨[c] ++ after', by rw [right, List.append_assoc]⟩ longer
  have between : more = word := by
    rw [← same, ← joined, ← List.length_singleton (a := o), ← List.length_append, List.drop_left]
  have whole' : before' = before ++ o :: word := by simp [← joined, between]
  exact ⟨before, after', by simp [right, whole'], not_mem_of_cut? cut,
    whole' ▸ not_mem_of_cut? cut'⟩

theorem isInfix_of_position? {whole word : Word} {openAt closeAt : Nat}
    (opens : whole.position? [o] = some openAt) (closes : whole.position? [c] = some closeAt)
    (same : (whole.take closeAt).drop (openAt + 1) = word) (ne : word ≠ []) :
    o :: (word ++ [c]) <:+: whole := by
  obtain ⟨front, rest, rfl, -⟩ := exists_eq_of_position? opens closes same ne
  exact ⟨front, rest, by simp⟩

theorem exists_isInfix_of_find? {word : Word} (h : find? [o] [c] words = some window)
    (inside : window.inside = [word]) (ne : word ≠ []) :
    ∃ whole ∈ words, o :: (word ++ [c]) <:+: whole := by
  obtain ⟨start, stop, openAt, closeAt, first, last, hfirst, hlast, opens, closes, rfl⟩ :=
    exists_of_find? h
  by_cases apart : start = stop
  · subst apart
    rw [hfirst, Option.some.injEq] at hlast
    subst hlast
    rw [if_pos rfl, List.singleton_inj] at inside
    exact ⟨first, List.mem_of_getElem? hfirst, isInfix_of_position? opens closes inside ne⟩
  · rw [if_neg apart] at inside
    simp at inside

theorem exists_isInfix_of_mem_remaining {opening closing : Text}
    (h : find? opening closing words = some window) {word : Word}
    (mem : word ∈ window.remaining) : ∃ whole ∈ words, word <:+: whole := by
  obtain ⟨start, stop, openAt, closeAt, first, last, hfirst, hlast, opens, closes, rfl⟩ :=
    exists_of_find? h
  rcases List.mem_append.1 mem with mem | mem
  · rcases List.mem_append.1 mem with mem | mem
    · exact ⟨word, List.mem_of_mem_take mem, List.infix_rfl⟩
    · split at mem
      · cases mem
      · obtain rfl := List.mem_singleton.1 mem
        exact ⟨last, List.mem_of_getElem? hlast, (List.drop_suffix _ _).isInfix⟩
  · exact ⟨word, List.mem_of_mem_drop mem, List.infix_rfl⟩

end Window

end ShaderSurface
