import ShaderSurface.Proofs.Span.Reference
import ShaderSurface.Proofs.Text.Cutting
import ShaderSurface.Surface

/-!
# Putting spans back

Setting spans aside loses nothing: the code keeps every delimiter in its place, so cutting the
result at the opening delimiter gives the same fragments with references at their starts. Putting
the stored texts back there gives the original code, and undoing the two passes of a reading in the
opposite order gives the stripped source (`SpanTable.extract_lossless`).
-/

namespace ShaderSurface

namespace Delimiters

def ofChars (opening closing : Char) : Delimiters where
  opening := [opening]
  closing := [closing]
  opening_ne_nil := List.cons_ne_nil opening []

theorem braces_eq : braces = ofChars '{' '}' := rfl

theorem parentheses_eq : parentheses = ofChars '(' ')' := rfl

def spansOf (d : Delimiters) (fragments : List Text) : List Text :=
  fragments.filterMap fun fragment => (d.span? fragment).map (·.1)

def spansIn (d : Delimiters) (code : Text) : List Text :=
  d.spansOf (code.pieces d.opening).tail

/-- Put texts in the places of the spans at the starts of fragments, one after another. -/
def putBack (d : Delimiters) : (fragments texts : List Text) → List Text
  | [], _ => []
  | fragment :: fragments, texts =>
    match d.span? fragment, texts with
    | some (_, rest), text :: texts => (text ++ rest) :: putBack d fragments texts
    | _, texts => fragment :: putBack d fragments texts

def restore (d : Delimiters) (texts : List Text) (code : Text) : Text :=
  match code.pieces d.opening with
  | [] => code
  | first :: fragments => d.opening.intercalate (first :: d.putBack fragments texts)

/-- Put the last texts of a table back into a code, as many as the code has spans, and take them out
of the table. -/
def undo (d : Delimiters) : Text × SpanTable → Text × SpanTable
  | (code, table) =>
    let kept := table.size - (d.spansIn code).length
    (d.restore (table.spans.drop kept) code, ⟨table.spans.take kept⟩)

variable {o c : Char} {fragment span rest : Text}

theorem span?_ofChars (o : Char) (ne : span ≠ []) (h : c ∉ span) (after : Text) :
    (ofChars o c).span? (span ++ c :: after) = some (span, c :: after) := by
  obtain ⟨first, span, rfl⟩ := List.exists_cons_of_ne_nil ne
  rw [span?, ofChars, Text.cut?_append_cons h]
  rfl

theorem eq_append_of_span? (h : (ofChars o c).span? fragment = some (span, rest)) :
    fragment = span ++ rest ∧ ∃ after, rest = c :: after := by
  simp only [span?, ofChars] at h
  split at h
  · rename_i first span' after found
    obtain ⟨rfl, rfl⟩ := Prod.mk.inj (Option.some.inj h)
    refine ⟨?_, after, rfl⟩
    rw [Text.eq_of_cut? found, List.append_assoc]
  · cases h

theorem spansOf_cons_of_span? {d : Delimiters} (h : d.span? fragment = some (span, rest))
    (fragments : List Text) : d.spansOf (fragment :: fragments) = span :: d.spansOf fragments := by
  simp [spansOf, h]

theorem spansOf_cons_of_none {d : Delimiters} (h : d.span? fragment = none)
    (fragments : List Text) : d.spansOf (fragment :: fragments) = d.spansOf fragments := by
  simp [spansOf, h]

theorem putBack_cons_of_span? {d : Delimiters} (h : d.span? fragment = some (span, rest))
    (fragments : List Text) (text : Text) (texts : List Text) :
    d.putBack (fragment :: fragments) (text :: texts) =
      (text ++ rest) :: d.putBack fragments texts := by
  simp [putBack, h]

theorem putBack_cons_of_none {d : Delimiters} (h : d.span? fragment = none)
    (fragments texts : List Text) :
    d.putBack (fragment :: fragments) texts = fragment :: d.putBack fragments texts := by
  cases texts <;> simp [putBack, h]

end Delimiters

namespace SpanTable

open Delimiters Numeral

variable {d : Delimiters} {o c : Char} {fragment span rest : Text}

theorem extractEach_cons_of_span? (h : d.span? fragment = some (span, rest))
    (fragments : List Text) (table : SpanTable) :
    table.extractEach d (fragment :: fragments) =
      ((decimal table.size ++ rest) :: ((table.store span).2.extractEach d fragments).1,
        ((table.store span).2.extractEach d fragments).2) := by
  simp only [extractEach, h]
  rfl

theorem extractEach_cons_of_none (h : d.span? fragment = none) (fragments : List Text)
    (table : SpanTable) :
    table.extractEach d (fragment :: fragments) =
      (fragment :: (table.extractEach d fragments).1, (table.extractEach d fragments).2) := by
  simp only [extractEach, h]

theorem spans_extractEach (d : Delimiters) (fragments : List Text) (table : SpanTable) :
    (table.extractEach d fragments).2.spans = table.spans ++ d.spansOf fragments := by
  induction fragments generalizing table with
  | nil => simp [extractEach, spansOf]
  | cons fragment fragments ih =>
    cases found : d.span? fragment with
    | none => rw [extractEach_cons_of_none found, spansOf_cons_of_none found, ih]
    | some pair =>
      rw [extractEach_cons_of_span? found, spansOf_cons_of_span? found, ih, store,
        List.append_assoc, List.singleton_append]

/-- A reference takes the place of its span: the fragment has the same rest. -/
theorem span?_reference (hc : c.isDigit = false) (n : Nat)
    (h : (ofChars o c).span? fragment = some (span, rest)) :
    (ofChars o c).span? (decimal n ++ rest) = some (decimal n, rest) := by
  obtain ⟨-, after, rfl⟩ := eq_append_of_span? h
  exact span?_ofChars o (decimal_ne_nil n) (not_mem_decimal hc n) after

theorem spansOf_extractEach (hc : c.isDigit = false) (fragments : List Text) (table : SpanTable) :
    (ofChars o c).spansOf (table.extractEach (ofChars o c) fragments).1 =
      (List.range' table.size ((ofChars o c).spansOf fragments).length).map decimal := by
  induction fragments generalizing table with
  | nil => rfl
  | cons fragment fragments ih =>
    cases found : (ofChars o c).span? fragment with
    | none =>
      rw [extractEach_cons_of_none found, spansOf_cons_of_none found, spansOf_cons_of_none found,
        ih]
    | some pair =>
      have written := span?_reference hc table.size found
      rw [extractEach_cons_of_span? found, spansOf_cons_of_span? found,
        spansOf_cons_of_span? written, ih, List.length_cons, List.range'_succ, List.map_cons,
        size_store]

/-- Putting the stored texts back gives the fragments that they were taken from. -/
theorem putBack_extractEach (hc : c.isDigit = false) (fragments : List Text) (table : SpanTable) :
    (ofChars o c).putBack (table.extractEach (ofChars o c) fragments).1
      ((ofChars o c).spansOf fragments) = fragments := by
  induction fragments generalizing table with
  | nil => rfl
  | cons fragment fragments ih =>
    cases found : (ofChars o c).span? fragment with
    | none =>
      rw [extractEach_cons_of_none found, spansOf_cons_of_none found, putBack_cons_of_none found,
        ih]
    | some pair =>
      have written := span?_reference hc table.size found
      rw [extractEach_cons_of_span? found, spansOf_cons_of_span? found,
        putBack_cons_of_span? written, ih, ← (eq_append_of_span? found).1]

theorem not_mem_extractEach (ho : o.isDigit = false) {fragments : List Text}
    (h : ∀ fragment ∈ fragments, o ∉ fragment) (table : SpanTable) :
    ∀ fragment ∈ (table.extractEach (ofChars o c) fragments).1, o ∉ fragment := by
  induction fragments generalizing table with
  | nil => exact h
  | cons fragment fragments ih =>
    obtain ⟨first, others⟩ := List.forall_mem_cons.1 h
    cases found : (ofChars o c).span? fragment with
    | none =>
      rw [extractEach_cons_of_none found]
      exact List.forall_mem_cons.2 ⟨first, ih others table⟩
    | some pair =>
      rw [extractEach_cons_of_span? found]
      refine List.forall_mem_cons.2 ⟨?_, ih others _⟩
      rw [List.mem_append, not_or]
      rw [(eq_append_of_span? found).1, List.mem_append, not_or] at first
      exact ⟨not_mem_decimal ho table.size, first.2⟩

theorem extract_of_splitOn {code first : Text} {fragments : List Text}
    (cut : code.splitOn o = first :: fragments) (table : SpanTable) :
    table.extract (ofChars o c) code =
      ([o].intercalate (first :: (table.extractEach (ofChars o c) fragments).1),
        (table.extractEach (ofChars o c) fragments).2) := by
  have pieces : code.pieces (ofChars o c).opening = first :: fragments := by
    rw [ofChars, Text.pieces_singleton, cut]
  simp only [extract, pieces]
  rfl

theorem pieces_extract (c : Char) (ho : o.isDigit = false) (code : Text) (table : SpanTable) :
    ∃ first fragments, code.pieces (ofChars o c).opening = first :: fragments ∧
      (table.extract (ofChars o c) code).1.pieces (ofChars o c).opening =
        first :: (table.extractEach (ofChars o c) fragments).1 := by
  obtain ⟨first, fragments, cut⟩ := List.exists_cons_of_ne_nil (List.splitOn_ne_nil o code)
  have free : ∀ piece ∈ first :: fragments, o ∉ piece := by
    rw [← cut]
    exact fun piece mem => Text.not_mem_of_mem_splitOn mem
  obtain ⟨freeFirst, freeRest⟩ := List.forall_mem_cons.1 free
  refine ⟨first, fragments, ?_, ?_⟩
  · rw [ofChars, Text.pieces_singleton, cut]
  · rw [extract_of_splitOn cut, ofChars, Text.pieces_singleton,
      List.splitOn_intercalate o _ (List.cons_ne_nil _ _)]
    exact List.forall_mem_cons.2 ⟨freeFirst, not_mem_extractEach ho freeRest table⟩

theorem spans_extract (d : Delimiters) (code : Text) (table : SpanTable) :
    (table.extract d code).2.spans = table.spans ++ d.spansIn code := by
  rw [extract, spansIn]
  split
  · rename_i none
    simp [none, spansOf]
  · rename_i first fragments cut
    rw [cut, List.tail_cons, ← spans_extractEach]

/-- The spans of the result are the references of the stored texts, in order. -/
theorem spansIn_extract (ho : o.isDigit = false) (hc : c.isDigit = false) (code : Text)
    (table : SpanTable) :
    (ofChars o c).spansIn (table.extract (ofChars o c) code).1 =
      (List.range' table.size ((ofChars o c).spansIn code).length).map decimal := by
  obtain ⟨first, fragments, before, behind⟩ := pieces_extract c ho code table
  rw [spansIn, spansIn, before, behind, List.tail_cons, List.tail_cons,
    spansOf_extractEach hc fragments table]

theorem restore_extract (ho : o.isDigit = false) (hc : c.isDigit = false) (code : Text)
    (table : SpanTable) :
    (ofChars o c).restore ((ofChars o c).spansIn code) (table.extract (ofChars o c) code).1 =
      code := by
  obtain ⟨first, fragments, before, behind⟩ := pieces_extract c ho code table
  simp only [restore, behind, spansIn, before, List.tail_cons, putBack_extractEach hc]
  rw [← before, ofChars, Text.pieces_singleton, List.intercalate_splitOn]

theorem undo_extract (ho : o.isDigit = false) (hc : c.isDigit = false) (code : Text)
    (table : SpanTable) :
    (ofChars o c).undo (table.extract (ofChars o c) code) = (code, table) := by
  have references : ((ofChars o c).spansIn (table.extract (ofChars o c) code).1).length =
      ((ofChars o c).spansIn code).length := by
    simp [spansIn_extract ho hc]
  have kept : (table.extract (ofChars o c) code).2.size -
      ((ofChars o c).spansIn code).length = table.spans.length := by
    simp [size, spans_extract]
  simp only [undo, references, kept, spans_extract, List.drop_left, List.take_left,
    restore_extract ho hc]

/-- Setting the spans of any code aside loses nothing and can be undone. The earlier entries of the
table stay and the spans follow them, the references count on from the table's size, and putting the
spans back gives the code; undoing both passes of a reading gives the stripped source; and every
reference that can be written stands for its text from then on, with any gaps around it. -/
theorem extract_lossless (ho : o.isDigit = false) (hc : c.isDigit = false) (code : Text)
    (table : SpanTable) :
    (table.extract (ofChars o c) code).2.spans = table.spans ++ (ofChars o c).spansIn code ∧
      (ofChars o c).spansIn (table.extract (ofChars o c) code).1 =
        (List.range' table.size ((ofChars o c).spansIn code).length).map decimal ∧
      (ofChars o c).restore ((ofChars o c).spansIn code) (table.extract (ofChars o c) code).1 =
        code ∧
      (∀ source, braces.undo (parentheses.undo (Surface.setAside source)) =
        (Source.stripComments source, {})) ∧
      ∀ (earlier later : SpanTable) (span front back : Text),
        isWritable earlier.size = true → later.Extends (earlier.store span).2 →
          front.IsGap → back.IsGap →
            later.lookup [front ++ (earlier.store span).1 ++ back] = .ok (some span) := by
  refine ⟨spans_extract _ code table, spansIn_extract ho hc code table,
    restore_extract ho hc code table, ?_, ?_⟩
  · intro source
    rw [Surface.setAside, parentheses_eq, undo_extract (by decide) (by decide), braces_eq,
      undo_extract (by decide) (by decide)]
  · intro earlier later span front back writable extends' hfront hback
    exact lookup_store writable extends' hfront hback

/-- Nested and empty braces, and a digit that is no reference, in a table that is not empty. -/
theorem extract_lossless_nested :
    ((⟨["float x;".toList]⟩ : SpanTable).extract (ofChars '{' '}')
        "s\x7ba\x7b7\x7d\x7d\x7b\x7d1".toList).2.spans = ["float x;".toList, "7".toList] ∧
      (ofChars '{' '}').restore ["7".toList] "s\x7ba\x7b1\x7d\x7d\x7b\x7d1".toList =
        "s\x7ba\x7b7\x7d\x7d\x7b\x7d1".toList := by
  have ⟨stored, _, restored, _⟩ := extract_lossless (o := '{') (c := '}') (by decide) (by decide)
    "s\x7ba\x7b7\x7d\x7d\x7b\x7d1".toList ⟨["float x;".toList]⟩
  have code : ((⟨["float x;".toList]⟩ : SpanTable).extract (ofChars '{' '}')
      "s\x7ba\x7b7\x7d\x7d\x7b\x7d1".toList).1 = "s\x7ba\x7b1\x7d\x7d\x7b\x7d1".toList := by decide
  have spans : (ofChars '{' '}').spansIn "s\x7ba\x7b7\x7d\x7d\x7b\x7d1".toList =
      ["7".toList] := by decide
  rw [code, spans] at restored
  rw [spans] at stored
  exact ⟨stored, restored⟩

end SpanTable

end ShaderSurface
