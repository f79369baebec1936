import Mathlib.Data.Option.Basic
import ShaderSurface.Declaration.Reader
import ShaderSurface.Proofs.Span.Chunks

/-!
# Windows in one word

Where the delimiters stand in one word and in no word before it, the window is the text between
them, and what is left of the word is what follows the closing delimiter. Words without an opening
delimiter have no window.
-/

namespace ShaderSurface

namespace Window

open Text

variable {o c : Char} {words before after : List Word} {front span rest : Text}

theorem findIdx?_mentions_eq_none (h : ∀ word ∈ words, o ∉ word) :
    words.findIdx? (·.mentions [o]) = none := by
  rw [List.findIdx?_eq_none_iff]
  intro word mem
  rw [mentions_singleton]
  simpa using h word mem

theorem find?_of_not_mem (closing : Text) (h : ∀ word ∈ words, o ∉ word) :
    find? [o] closing words = none := by
  rw [find?, findIdx?_mentions_eq_none h]
  rfl

theorem find?_of_not_mem_closing (opening : Text) (h : ∀ word ∈ words, c ∉ word) :
    find? opening [c] words = none := by
  simp [find?, findIdx?_mentions_eq_none h]

theorem findIdx?_mentions (h : ∀ word ∈ before, o ∉ word) {word : Word} (mem : o ∈ word)
    (after : List Word) :
    (before ++ word :: after).findIdx? (·.mentions [o]) = some before.length := by
  have here : word.mentions [o] = true := by
    rw [mentions_singleton]
    simpa using mem
  rw [List.findIdx?_append, findIdx?_mentions_eq_none h, List.findIdx?_cons, if_pos here]
  simp

theorem find?_of_position? (ho : ∀ word ∈ before, o ∉ word) (hc : ∀ word ∈ before, c ∉ word)
    {word : Word} (mem : o ∈ word) (mem' : c ∈ word) {openAt closeAt : Nat}
    (opens : word.position? [o] = some openAt) (closes : word.position? [c] = some closeAt)
    (after : List Word) :
    find? [o] [c] (before ++ word :: after) =
      some {
        inside := [(word.take closeAt).drop (openAt + 1)]
        remaining :=
          before ++ (if (word.drop (closeAt + 1)).isEmpty then [] else [word.drop (closeAt + 1)]) ++
            after } := by
  have start := findIdx?_mentions ho mem after
  have stop := findIdx?_mentions hc mem' after
  simp [find?, start, stop, opens, closes, guard]

theorem find?_append_cons (ho : ∀ word ∈ before, o ∉ word) (hc : ∀ word ∈ before, c ∉ word)
    (hfront : o ∉ front) (hspan : c ∉ front ++ o :: span) (rest : Text) (after : List Word) :
    find? [o] [c] (before ++ (front ++ o :: (span ++ c :: rest)) :: after) =
      some {
        inside := [span]
        remaining := before ++ (if rest.isEmpty then [] else [rest]) ++ after } := by
  have whole : front ++ o :: (span ++ c :: rest) = (front ++ o :: span) ++ c :: rest := by simp
  have opens := position?_append_cons hfront (span ++ c :: rest)
  have closes := position?_append_cons hspan rest
  have inside : ((front ++ o :: (span ++ c :: rest)).take (front ++ o :: span).length).drop
      (front.length + 1) = span := by
    rw [whole, List.take_left, List.drop_append]
    simp
  have remains : (front ++ o :: (span ++ c :: rest)).drop ((front ++ o :: span).length + 1) =
      rest := by
    rw [whole, List.drop_append]
    simp
  rw [← whole] at closes
  rw [find?_of_position? ho hc (by simp) (by simp) opens closes, inside, remains]

end Window

namespace Draft

open SpanTable Delimiters Numeral

variable {o c : Char} {words before after : List Word} {front reference span rest : Text}
  {table : SpanTable}

theorem lookupWindow_of_not_mem (c : Char) (h : ∀ word ∈ words, o ∉ word) :
    lookupWindow table (ofChars o c) words = .ok (words, none) := by
  rw [lookupWindow, ofChars, Window.find?_of_not_mem [c] h]

theorem lookupWindow_of_represents (writable : table.size ≤ writableBound)
    (represents : table.Represents reference span) (differ : o ≠ c) (digit : c.isDigit = false)
    (ho : ∀ word ∈ before, o ∉ word) (hc : ∀ word ∈ before, c ∉ word) (hfront : o ∉ front)
    (hfront' : c ∉ front) (rest : Text) (after : List Word) :
    lookupWindow table (ofChars o c)
        (before ++ (front ++ o :: (reference ++ c :: rest)) :: after) =
      .ok (before ++ (if rest.isEmpty then [] else [rest]) ++ after,
        if span = [] then none else some span) := by
  have hreference : c ∉ reference := by
    cases represents with
    | empty => exact List.not_mem_nil
    | stored _ _ => exact not_mem_decimal digit _
  have hspan : c ∉ front ++ o :: reference := by
    simp [hfront', differ.symm, hreference]
  have found := Window.find?_append_cons ho hc hfront hspan rest after
  rw [lookupWindow, ofChars, found]
  simp only [lookup_of_represents writable represents]
  rfl

/-- A reference between delimiters is taken out of the words of a text, whatever follows it. -/
theorem lookupWindow_words (writable : table.size ≤ writableBound)
    (represents : table.Represents reference span) (differ : o ≠ c) (digit : c.isDigit = false)
    (visible : Text.isBlank o = false ∧ Text.isBlank c = false)
    (ho : ∀ word ∈ before, o ∉ word) (hc : ∀ word ∈ before, c ∉ word) (hfront : o ∉ front)
    (hfront' : c ∉ front) (solid : front.IsSolid) (rest : Text) :
    lookupWindow table (ofChars o c)
        (before ++ Text.words (front ++ o :: (reference ++ c :: rest))) =
      .ok (before ++ Text.words rest, if span = [] then none else some span) := by
  have delimiters : Text.IsSolid [o] ∧ Text.IsSolid [c] :=
    ⟨List.forall_mem_singleton.2 visible.1, List.forall_mem_singleton.2 visible.2⟩
  have solid : Text.IsSolid (front ++ [o] ++ reference ++ [c]) :=
    ((solid.append delimiters.1).append represents.isSolid).append delimiters.2
  obtain ⟨more, after, joined, same⟩ := Text.words_glued (by simp) solid rest
  have whole : front ++ o :: (reference ++ c :: rest) =
      front ++ [o] ++ reference ++ [c] ++ rest := by simp
  have first : front ++ [o] ++ reference ++ [c] ++ more =
      front ++ o :: (reference ++ c :: more) := by simp
  rw [whole, joined, first, same, lookupWindow_of_represents writable represents differ digit ho hc
    hfront hfront' more after, List.append_assoc]

end Draft

end ShaderSurface
