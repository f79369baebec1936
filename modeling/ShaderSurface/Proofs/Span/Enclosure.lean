import ShaderSurface.Proofs.Declaration.Body

/-!
# What the first delimiters of a text enclose

The words of a text have a window of a single word exactly where the first delimiters of the text
enclose that word. So a window resolves exactly if the first delimiters enclose a word that is
looked up as a text (`Draft.exists_lookupWindow_words_iff`).
-/

namespace ShaderSurface

namespace Text

/-- The first delimiters of a text are an opening one and a closing one, and they enclose a text. -/
def Encloses (o c : Char) (s inside : Text) : Prop :=
  ∃ front rest, s = front ++ o :: (inside ++ c :: rest) ∧ o ∉ front ∧ c ∉ front ∧ o ∉ inside ∧
    c ∉ inside

variable {o c : Char} {s inside : Text}

theorem Encloses.isInfix (h : Encloses o c s inside) : o :: (inside ++ [c]) <:+: s := by
  obtain ⟨front, rest, rfl, -⟩ := h
  exact ⟨front, rest, by simp⟩

end Text

namespace Window

open Text

variable {o c : Char} {s inside : Text} {parts : List Word} {window : Window}

theorem not_mem_of_findIdx? {d : Char} {start : Nat}
    (h : parts.findIdx? (·.mentions [d]) = some start) : ∀ word ∈ parts.take start, d ∉ word := by
  obtain ⟨_, _, earlier⟩ := List.findIdx?_eq_some_iff_getElem.1 h
  intro word mem within
  obtain ⟨i, hi, rfl⟩ := List.mem_take_iff_getElem.1 mem
  have absent := earlier i (by omega)
  rw [mentions_singleton] at absent
  simp [within] at absent

theorem exists_of_inside_eq_singleton (h : find? [o] [c] parts = some window)
    (single : window.inside = [inside]) (ne : inside ≠ []) :
    ∃ before front rest after,
      parts = before ++ (front ++ o :: (inside ++ c :: rest)) :: after ∧
        (∀ word ∈ before, o ∉ word ∧ c ∉ word) ∧ o ∉ front ∧ c ∉ front ++ o :: inside := by
  simp only [find?, Option.bind_eq_bind, Option.bind_eq_some_iff] at h
  obtain ⟨start, opens, stop, closes, -, -, first, hfirst, last, hlast, openAt, atOpen, closeAt,
    atClose, same⟩ := h
  obtain rfl := Option.some.inj same
  by_cases apart : start = stop
  · subst apart
    rw [hfirst, Option.some.injEq] at hlast
    subst hlast
    rw [if_pos rfl, List.singleton_inj] at single
    obtain ⟨front, rest, whole, hfront, hinside⟩ :=
      exists_eq_of_position? atOpen atClose single ne
    obtain ⟨filled, rfl⟩ := List.getElem?_eq_some_iff.1 hfirst
    refine ⟨parts.take start, front, rest, parts.drop (start + 1), ?_, ?_, hfront, hinside⟩
    · rw [← whole, List.getElem_cons_drop, List.take_append_drop]
    · exact fun word mem =>
        ⟨not_mem_of_findIdx? opens word mem, not_mem_of_findIdx? closes word mem⟩
  · rw [if_neg apart] at single
    simp at single

section Words

variable (visible : isBlank o = false ∧ isBlank c = false)
include visible

theorem encloses_of_inside_words (ne : inside ≠ []) (free : o ∉ inside)
    (h : (find? [o] [c] (words s)).map (·.inside) = some [inside]) :
    Encloses o c s inside ∧ inside.IsSolid := by
  obtain ⟨window, found, single⟩ := Option.map_eq_some_iff.1 h
  obtain ⟨before, front, rest, after, same, others, hfront, hinside⟩ :=
    exists_of_inside_eq_singleton found single ne
  have solid : inside.IsSolid := fun x hx =>
    isBlank_eq_false_of_mem_words (same ▸ List.mem_append_right _ List.mem_cons_self) (by simp [hx])
  obtain ⟨front', back, rfl, rfl⟩ := exists_of_words_eq_append_cons same
  -- a delimiter in front of the word would be in one of the words before it
  have apart {d : Char} (solid : isBlank d = false) (absent : ∀ word ∈ words front', d ∉ word) :
      d ∉ front' := by
    intro mem
    obtain ⟨word, inside, mem⟩ := exists_mem_words mem solid
    exact absent word inside mem
  simp only [List.mem_append, List.mem_cons, not_or] at hinside
  refine ⟨⟨front' ++ front, rest ++ back, by simp, ?_, ?_, free, hinside.2.2⟩, solid⟩
  · simp [hfront, apart visible.1 fun word mem => (others word mem).1]
  · simp [hinside.1, apart visible.2 fun word mem => (others word mem).2]

theorem inside_words_of_encloses (differ : o ≠ c) (h : Encloses o c s inside)
    (solid : inside.IsSolid) : (find? [o] [c] (words s)).map (·.inside) = some [inside] := by
  obtain ⟨front, rest, rfl, ho, hc, -, hinside⟩ := h
  obtain ⟨before, last, same, lastSolid, inFront, inWords⟩ := exists_words_append front
  have delimiters : IsSolid [o] ∧ IsSolid [c] :=
    ⟨List.forall_mem_singleton.2 visible.1, List.forall_mem_singleton.2 visible.2⟩
  have solid : IsSolid (last ++ [o] ++ inside ++ [c]) :=
    ((lastSolid.append delimiters.1).append solid).append delimiters.2
  obtain ⟨more, after, joined, -⟩ := words_glued (by simp) solid rest
  have whole : last ++ o :: (inside ++ c :: rest) = last ++ [o] ++ inside ++ [c] ++ rest := by simp
  have first : last ++ [o] ++ inside ++ [c] ++ more = last ++ o :: (inside ++ c :: more) := by simp
  have closes : c ∉ last ++ o :: inside := by
    have : c ∉ last := fun mem => hc (inFront c mem)
    simp [differ.symm, hinside, this]
  rw [same, whole, joined, first,
    find?_append_cons (fun word mem within => ho (inWords word mem o within))
      (fun word mem within => hc (inWords word mem c within)) (fun mem => ho (inFront o mem))
      closes]
  rfl

end Words

end Window

namespace Draft

open Text

variable {o c : Char} {s text : Text} {table : SpanTable}

section Words

variable (visible : isBlank o = false ∧ isBlank c = false) (differ : o ≠ c)
include visible differ

theorem exists_lookupWindow_words_eq (table : SpanTable) {inside : Text}
    (encloses : Encloses o c s inside) (solid : inside.IsSolid) :
    ∃ rest, lookupWindow table (.ofChars o c) (words s) =
      ((table.lookup [inside]).mapError ReadError.reference).map fun text? => (rest, text?) := by
  have single := Window.inside_words_of_encloses visible differ encloses solid
  obtain ⟨window, found, same⟩ := Option.map_eq_some_iff.1 single
  refine ⟨window.remaining, ?_⟩
  rw [lookupWindow, Delimiters.ofChars, found]
  simp only [same]
  cases table.lookup [inside] <;> rfl

/-- A window in a text resolves exactly if the first delimiters enclose a word that is looked up as
a text. -/
theorem exists_lookupWindow_words_iff (notDigit : isDigit o = false) :
    (∃ rest, lookupWindow table (.ofChars o c) (words s) = .ok (rest, some text)) ↔
      ∃ inside, Encloses o c s inside ∧ inside.IsSolid ∧
        table.lookup [inside] = .ok (some text) := by
  constructor
  · rintro ⟨rest, h⟩
    obtain ⟨inside, single, looked, ne, digits, -⟩ := exists_reference_of_lookupWindow
      (fun word mem x hx => isBlank_eq_false_of_mem_words mem hx) h
    have free : o ∉ inside := fun mem => Bool.false_ne_true (notDigit.symm.trans (digits o mem))
    obtain ⟨encloses, solid⟩ := Window.encloses_of_inside_words visible ne free single
    exact ⟨inside, encloses, solid, looked⟩
  · rintro ⟨inside, encloses, solid, looked⟩
    obtain ⟨rest, outcome⟩ := exists_lookupWindow_words_eq visible differ table encloses solid
    rw [looked] at outcome
    exact ⟨rest, outcome⟩

end Words

end Draft

end ShaderSurface
