import ShaderSurface.Proofs.Span.Restoration

/-!
# Setting the brackets of chunks aside

A code that is put together from chunks, each with at most one bracketed span that holds no bracket,
keeps its chunks when spans are set aside: only the spans are replaced, by references that represent
them in the table (`SpanTable.extract_chunks`).
-/

namespace ShaderSurface

def bracketed (opening closing : Char) : Option Text → Text
  | none => []
  | some span => opening :: (span ++ [closing])

theorem not_mem_bracketed {x opening closing : Char} {span : Option Text} (ho : x ≠ opening)
    (hc : x ≠ closing) (h : ∀ text ∈ span, x ∉ text) : x ∉ bracketed opening closing span := by
  cases span with
  | none => exact List.not_mem_nil
  | some text => simp [bracketed, ho, hc, h text rfl]

namespace Text

theorem intercalate_append_cons (sep s t : Text) (others : List Text) :
    sep.intercalate ((s ++ t) :: others) = s ++ sep.intercalate (t :: others) := by
  cases others with
  | nil => simp
  | cons other others => simp [List.intercalate_cons_cons]

end Text

namespace SpanTable

open Delimiters Numeral

variable {o c : Char}

/-- A reference represents a span that is stored in the table; an empty span represents itself. -/
inductive Represents (table : SpanTable) : (reference span : Text) → Prop
  | empty : Represents table [] []
  | stored {place : Nat} {span : Text} (ne : span ≠ []) (held : table.spans[place]? = some span) :
    Represents table (decimal place) span

theorem Represents.mono {table later : SpanTable} (h : later.Extends table) {reference span : Text}
    (represents : table.Represents reference span) : later.Represents reference span := by
  cases represents with
  | empty => exact .empty
  | stored ne held => exact .stored ne (h.getElem? held)

theorem extract_append {a : Text} (h : o ∉ a) (b : Text) (table : SpanTable) :
    table.extract (ofChars o c) (a ++ b) =
      (a ++ (table.extract (ofChars o c) b).1, (table.extract (ofChars o c) b).2) := by
  obtain ⟨first, others, pieces⟩ := List.exists_cons_of_ne_nil (List.splitOn_ne_nil o b)
  have all := Text.splitOn_append_of_not_mem h pieces
  rw [extract_of_splitOn pieces, extract_of_splitOn all, Text.intercalate_append_cons]

theorem extract_of_not_mem {a : Text} (h : o ∉ a) (table : SpanTable) :
    table.extract (ofChars o c) a = (a, table) := by
  rw [← List.append_nil a, extract_append h]
  rfl

theorem extract_opening {rest first : Text} {others : List Text}
    (pieces : rest.splitOn o = first :: others) (table : SpanTable) :
    table.extract (ofChars o c) (o :: rest) =
      (o :: [o].intercalate (table.extractEach (ofChars o c) (first :: others)).1,
        (table.extractEach (ofChars o c) (first :: others)).2) := by
  have cut : (o :: rest).splitOn o = [] :: first :: others := by
    rw [List.splitOn_cons_eq_if_modifyHead, if_pos (beq_self_eq_true o), pieces]
  have ne : (table.extractEach (ofChars o c) (first :: others)).1 ≠ [] := by
    cases found : (ofChars o c).span? first with
    | none => simp [extractEach_cons_of_none found]
    | some pair => simp [extractEach_cons_of_span? found]
  rw [extract_of_splitOn cut, List.intercalate_cons_of_ne_nil ne]
  rfl

/-- A span between the delimiters is stored, and its reference takes its place. -/
theorem extract_span {span : Text} (differ : o ≠ c) (ne : span ≠ []) (ho : o ∉ span)
    (hc : c ∉ span) (b : Text) (table : SpanTable) :
    table.extract (ofChars o c) (o :: (span ++ c :: b)) =
      (o :: (decimal table.size ++ c :: ((table.store span).2.extract (ofChars o c) b).1),
        ((table.store span).2.extract (ofChars o c) b).2) := by
  obtain ⟨first, others, pieces⟩ := List.exists_cons_of_ne_nil (List.splitOn_ne_nil o b)
  have free : o ∉ span ++ [c] := by simp [ho, differ]
  have cut : (span ++ c :: b).splitOn o = (span ++ c :: first) :: others := by
    simpa using Text.splitOn_append_of_not_mem free pieces
  rw [extract_opening cut, extractEach_cons_of_span? (span?_ofChars o ne hc first)]
  rw [extract_of_splitOn pieces, Text.intercalate_append_cons,
    ← List.singleton_append (x := c) (l := first), Text.intercalate_append_cons]
  rfl

theorem extract_empty (differ : o ≠ c) (b : Text) (table : SpanTable) :
    table.extract (ofChars o c) (o :: c :: b) =
      (o :: c :: (table.extract (ofChars o c) b).1, (table.extract (ofChars o c) b).2) := by
  obtain ⟨first, others, pieces⟩ := List.exists_cons_of_ne_nil (List.splitOn_ne_nil o b)
  have cut : ([c] ++ b).splitOn o = ([c] ++ first) :: others :=
    Text.splitOn_append_of_not_mem (by simp [differ]) pieces
  have none : (ofChars o c).span? ([c] ++ first) = none := by
    simp [span?, ofChars, Text.cut?]
  rw [List.singleton_append] at cut
  rw [extract_opening cut, ← List.singleton_append, extractEach_cons_of_none none]
  rw [extract_of_splitOn pieces, Text.intercalate_append_cons]
  rfl

theorem lookup_of_represents {table : SpanTable} (writable : table.size ≤ writableBound)
    {reference span : Text} (represents : table.Represents reference span) :
    table.lookup [reference] = .ok (if span = [] then none else some span) := by
  cases represents with
  | empty => rfl
  | @stored place span ne held =>
    have filled : place < table.size := (List.getElem?_eq_some_iff.1 held).1
    have writable := isWritable_iff.2 (Nat.lt_of_lt_of_le filled writable)
    have found := lookup_decimal writable (List.forall_mem_nil _) (List.forall_mem_nil _) table
    rw [List.nil_append, List.append_nil] at found
    rw [found, held, if_neg ne]

theorem Represents.isSolid {table : SpanTable} {reference span : Text}
    (represents : table.Represents reference span) : reference.IsSolid := by
  cases represents with
  | empty => exact List.forall_mem_nil _
  | stored _ _ => exact isSolid_decimal _

theorem eq_none_of_rel {table : SpanTable} {reference : Option Text}
    (h : Option.Rel table.Represents reference none) : reference = none := by
  cases h
  rfl

theorem exists_of_rel_some {table : SpanTable} {reference : Option Text} {span : Text}
    (h : Option.Rel table.Represents reference (some span)) :
    ∃ text, reference = some text ∧ table.Represents text span := by
  cases h with
  | some represents => exact ⟨_, rfl, represents⟩

theorem rel_represents_mono {table later : SpanTable} (h : later.Extends table)
    {reference span : Option Text} (represents : Option.Rel table.Represents reference span) :
    Option.Rel later.Represents reference span := by
  cases represents with
  | none => exact .none
  | some represents => exact .some (represents.mono h)

theorem extract_bracketed (differ : o ≠ c) {span : Option Text}
    (free : ∀ text ∈ span, o ∉ text ∧ c ∉ text) (rest : Text) (table : SpanTable) :
    ∃ reference, ∃ later : SpanTable, later.Extends table ∧ later.size ≤ table.size + 1 ∧
      Option.Rel later.Represents reference span ∧
      table.extract (ofChars o c) (bracketed o c span ++ rest) =
        (bracketed o c reference ++ (later.extract (ofChars o c) rest).1,
          (later.extract (ofChars o c) rest).2) := by
  cases span with
  | none => exact ⟨none, table, .refl table, Nat.le_succ _, .none, rfl⟩
  | some text =>
    obtain ⟨ho, hc⟩ := free text rfl
    by_cases ne : text = []
    · subst ne
      exact ⟨some [], table, .refl table, Nat.le_succ _, .some .empty,
        extract_empty differ rest table⟩
    · refine ⟨some (decimal table.size), (table.store text).2, extends_store text table,
        (size_store text table).le, .some (.stored ne (getElem?_store text table)), ?_⟩
      simpa [bracketed] using extract_span differ ne ho hc rest table

variable {α : Type}

/-- Setting spans aside replaces the bracketed span of each chunk by what represents it. -/
theorem extract_chunks (differ : o ≠ c) (before after : α → Text) (span : α → Option Text)
    {last : Text} (hlast : o ∉ last) (chunks : List α) (hbefore : ∀ x ∈ chunks, o ∉ before x)
    (hafter : ∀ x ∈ chunks, o ∉ after x)
    (free : ∀ x ∈ chunks, ∀ text ∈ span x, o ∉ text ∧ c ∉ text) (table : SpanTable) :
    ∃ references : List (α × Option Text), ∃ later : SpanTable,
      references.map Prod.fst = chunks ∧ later.Extends table ∧
      later.size ≤ table.size + chunks.length ∧
      (∀ r ∈ references, Option.Rel later.Represents r.2 (span r.1)) ∧
      table.extract (ofChars o c)
          (chunks.flatMap (fun x => before x ++ bracketed o c (span x) ++ after x) ++ last) =
        (references.flatMap (fun r => before r.1 ++ bracketed o c r.2 ++ after r.1) ++ last,
          later) := by
  induction chunks generalizing table with
  | nil =>
    exact ⟨[], table, rfl, .refl table, Nat.le_add_right _ _, List.forall_mem_nil _,
      extract_of_not_mem hlast table⟩
  | cons x chunks ih =>
    obtain ⟨hx, hbefore⟩ := List.forall_mem_cons.1 hbefore
    obtain ⟨hx', hafter⟩ := List.forall_mem_cons.1 hafter
    obtain ⟨freeFirst, free⟩ := List.forall_mem_cons.1 free
    obtain ⟨reference, middle, extendsTable, sizeMiddle, represents, taken⟩ :=
      extract_bracketed differ freeFirst
      (after x ++ (chunks.flatMap (fun x => before x ++ bracketed o c (span x) ++ after x) ++ last))
      table
    obtain ⟨references, later, same, extendsMiddle, sizeLater, others, rest⟩ :=
      ih hbefore hafter free middle
    refine ⟨(x, reference) :: references, later, by rw [List.map_cons, same],
      extendsMiddle.trans extendsTable, by rw [List.length_cons]; omega,
      List.forall_mem_cons.2 ⟨rel_represents_mono extendsMiddle represents, others⟩, ?_⟩
    rw [extract_append hx', rest] at taken
    simp only [List.flatMap_cons, List.append_assoc] at taken ⊢
    rw [extract_append hx, taken]

end SpanTable

end ShaderSurface
