import ShaderSurface.Proofs.Span.Closing
import ShaderSurface.Proofs.Span.Window

/-!
# Windows in a text of words

Words that are joined by blanks make a text. The window that is found among the words is what stands
between the first delimiters of this text, and it is found exactly where the opening one comes
first. There is one exception: where the first delimiters stand in the same word, the closing one
first, a window that holds nothing is found (`Window.find?_follows_iff`). -/

namespace ShaderSurface

namespace Text

variable {o c d : Char} {s front span : Text} {word : Word} {words others : List Word}

/-- What stands between the first opening delimiter of a text and the first closing one, where the
opening one comes first. -/
def Between (o c : Char) (s span : Text) : Prop :=
  ∃ front rest, s = front ++ o :: (span ++ c :: rest) ∧ o ∉ front ∧ c ∉ front ∧ c ∉ span

theorem between_cons_iff (ho : o ≠ d) (hc : c ≠ d) :
    Between o c (d :: s) span ↔ Between o c s span := by
  constructor
  · rintro ⟨front, rest, whole, freeOpening, freeClosing, free⟩
    cases front with
    | nil => exact absurd (List.cons.inj whole).1.symm ho
    | cons first front =>
      obtain ⟨rfl, rfl⟩ := List.cons.inj whole
      exact ⟨front, rest, rfl, mt (List.mem_cons_of_mem d) freeOpening,
        mt (List.mem_cons_of_mem d) freeClosing, free⟩
  · rintro ⟨front, rest, rfl, freeOpening, freeClosing, free⟩
    exact ⟨d :: front, rest, rfl, by simp [ho, freeOpening], by simp [hc, freeClosing], free⟩

theorem between_append_iff (ho : o ∉ front) (hc : c ∉ front) :
    Between o c (front ++ s) span ↔ Between o c s span := by
  induction front with
  | nil => rfl
  | cons d front ih =>
    rw [List.mem_cons, not_or] at ho hc
    rw [List.cons_append, between_cons_iff ho.1 hc.1, ih ho.2 hc.2]

theorem between_opening_iff :
    Between o c (o :: s) span ↔ ∃ rest, s = span ++ c :: rest ∧ c ∉ span := by
  constructor
  · rintro ⟨front, rest, whole, freeOpening, -, free⟩
    cases front with
    | nil => exact ⟨rest, (List.cons.inj whole).2, free⟩
    | cons first front =>
      exact absurd ((List.cons.inj whole).1 ▸ List.mem_cons_self) freeOpening
  · rintro ⟨rest, rfl, free⟩
    exact ⟨[], rest, rfl, List.not_mem_nil, List.not_mem_nil, free⟩

theorem not_between_closing (differ : o ≠ c) : ¬Between o c (c :: s) span := by
  rintro ⟨front, rest, whole, -, freeClosing, -⟩
  cases front with
  | nil => exact differ (List.cons.inj whole).1.symm
  | cons first front => exact freeClosing ((List.cons.inj whole).1 ▸ List.mem_cons_self)

theorem Between.mem (h : Between o c s span) : o ∈ s ∧ c ∈ s := by
  obtain ⟨front, rest, rfl, -⟩ := h
  exact ⟨by simp, by simp⟩

def joined (words : List Word) : Text :=
  [' '].intercalate words

theorem joined_singleton (word : Word) : joined [word] = word :=
  List.intercalate_singleton

theorem joined_cons (ne : words ≠ []) (word : Word) :
    joined (word :: words) = word ++ ' ' :: joined words := by
  obtain ⟨next, words, rfl⟩ := List.exists_cons_of_ne_nil ne
  rw [joined, List.intercalate_cons_cons, List.append_assoc, List.singleton_append, joined]

theorem joined_append_cons (s t : Text) (others : List Word) :
    joined ((s ++ t) :: others) = s ++ joined (t :: others) :=
  intercalate_append_cons [' '] s t others

theorem joined_cons_char (d : Char) (s : Text) (others : List Word) :
    joined ((d :: s) :: others) = d :: joined (s :: others) :=
  joined_append_cons [d] s others

theorem joined_append (words : List Word) (s t : Text) (others : List Word) :
    joined (words ++ (s ++ t) :: others) = joined (words ++ [s]) ++ joined (t :: others) := by
  induction words with
  | nil => rw [List.nil_append, List.nil_append, joined_append_cons, joined_singleton]
  | cons word words ih =>
    rw [List.cons_append, List.cons_append, joined_cons (by simp), joined_cons (by simp), ih,
      List.append_assoc, List.cons_append]

theorem not_mem_joined (blank : d ≠ ' ') (h : ∀ word ∈ words, d ∉ word) : d ∉ joined words := by
  induction words with
  | nil => exact List.not_mem_nil
  | cons word words ih =>
    obtain ⟨first, rest⟩ := List.forall_mem_cons.1 h
    by_cases last : words = []
    · rwa [last, joined_singleton]
    · rw [joined_cons last]
      simp [first, blank, ih rest]

theorem between_joined_append_iff (visible : o ≠ ' ' ∧ c ≠ ' ')
    (free : ∀ word ∈ others, o ∉ word ∧ c ∉ word) (ne : words ≠ []) :
    Between o c (joined (others ++ words)) span ↔ Between o c (joined words) span := by
  induction others with
  | nil => rfl
  | cons other others ih =>
    obtain ⟨first, rest⟩ := List.forall_mem_cons.1 free
    rw [List.cons_append, joined_cons (by simp [ne]), between_append_iff first.1 first.2,
      between_cons_iff visible.1 visible.2, ih rest]

theorem between_joined_iff (visible : o ≠ ' ' ∧ c ≠ ' ')
    (free : ∀ word ∈ others, o ∉ word ∧ c ∉ word)
    (ho : o ∉ front) (hc : c ∉ front) (rest : Text) (words : List Word) :
    Between o c (joined (others ++ (front ++ d :: rest) :: words)) span ↔
      Between o c (d :: joined (rest :: words)) span := by
  rw [between_joined_append_iff visible free (List.cons_ne_nil _ _), joined_append_cons,
    between_append_iff ho hc, joined_cons_char]

end Text

namespace Window

open Text

variable {o c : Char} {words before after : List Word} {front rest : Text}

/-- The window is cut out where the first delimiters of the text stand: what is inside is what
stands between them, and what remains is the words before the one with the opening delimiter, what
follows the closing one in its word, and the words after it. -/
structure IsCutOut (o c : Char) (words : List Word) (window : Window) : Prop where
  inside : Between o c (joined words) (joined window.inside)
  remaining : ∃ earlier front rest after, words = earlier ++ (front ++ c :: rest) :: after ∧
    (∀ word ∈ earlier, c ∉ word) ∧ c ∉ front ∧
    window.remaining =
      words.takeWhile (fun word => o ∉ word) ++ (if rest.isEmpty then [] else [rest]) ++ after

/-- What is found follows the text of the words: a window is cut out where the opening delimiter
comes first, and nothing is found elsewhere. -/
def Follows (o c : Char) (words : List Word) : Option Window → Prop
  | some window => IsCutOut o c words window
  | none => ∀ span, ¬Between o c (joined words) span

/-- The first delimiters of the words stand in the same word, the closing one first. -/
def ClosesFirst (o c : Char) (words : List Word) : Prop :=
  ∃ before front middle rest after,
    words = before ++ (front ++ c :: (middle ++ o :: rest)) :: after ∧
      (∀ word ∈ before, o ∉ word ∧ c ∉ word) ∧ o ∉ front ∧ c ∉ front ∧ o ∉ middle

theorem exists_first_delimiter (o c : Char) (words : List Word) :
    (∀ word ∈ words, o ∉ word ∧ c ∉ word) ∨
      ∃ before front d rest after, words = before ++ (front ++ d :: rest) :: after ∧
        (∀ word ∈ before, o ∉ word ∧ c ∉ word) ∧ o ∉ front ∧ c ∉ front ∧ (d = o ∨ d = c) := by
  induction words with
  | nil => exact .inl (List.forall_mem_nil _)
  | cons word words ih =>
    obtain ⟨front, tail, rfl, ho, hc, none | ⟨rest, first⟩⟩ := Text.exists_first_delimiter o c word
    · subst none
      have here : o ∉ front ++ [] ∧ c ∉ front ++ [] := by simp [ho, hc]
      rcases ih with free | ⟨before, front', d, rest, after, rfl, free, others⟩
      · exact .inl (List.forall_mem_cons.2 ⟨here, free⟩)
      · exact .inr ⟨(front ++ []) :: before, front', d, rest, after, rfl,
          List.forall_mem_cons.2 ⟨here, free⟩, others⟩
    · rcases first with rfl | rfl
      · exact .inr ⟨[], front, o, rest, words, rfl, List.forall_mem_nil _, ho, hc, .inl rfl⟩
      · exact .inr ⟨[], front, c, rest, words, rfl, List.forall_mem_nil _, ho, hc, .inr rfl⟩

theorem exists_first_word (c : Char) (words : List Word) :
    (∀ word ∈ words, c ∉ word) ∨
      ∃ before front rest after, words = before ++ (front ++ c :: rest) :: after ∧
        (∀ word ∈ before, c ∉ word) ∧ c ∉ front := by
  rcases exists_first_delimiter c c words with free |
    ⟨before, front, d, rest, after, same, free, hc, -, delimiter⟩
  · exact .inl fun word mem => (free word mem).1
  · obtain rfl : d = c := delimiter.elim id id
    exact .inr ⟨before, front, rest, after, same, fun word mem => (free word mem).1, hc⟩

/-- The window of delimiters in two words holds what follows the opening one, the words between
them, and what is in front of the closing one. -/
theorem find?_across {middle : List Word} {last back : Text} (ho : ∀ word ∈ before, o ∉ word)
    (hc : ∀ word ∈ before ++ (front ++ o :: rest) :: middle, c ∉ word) (hfront : o ∉ front)
    (hlast : c ∉ last) (after : List Word) :
    find? [o] [c] (before ++ (front ++ o :: rest) :: (middle ++ (last ++ c :: back) :: after)) =
      some {
        inside := rest :: (middle ++ [last])
        remaining := before ++ (if back.isEmpty then [] else [back]) ++ after } := by
  have whole : before ++ (front ++ o :: rest) :: (middle ++ (last ++ c :: back) :: after) =
      (before ++ (front ++ o :: rest) :: middle) ++ (last ++ c :: back) :: after := by simp
  have opening : o ∈ front ++ o :: rest := by simp
  have closing : c ∈ last ++ c :: back := by simp
  have start := findIdx?_mentions ho opening (middle ++ (last ++ c :: back) :: after)
  have stop := findIdx?_mentions hc closing after
  have opens := position?_append_cons hfront rest
  have closes := position?_append_cons hlast back
  have taken : (before ++ (front ++ o :: rest) :: (middle ++ (last ++ c :: back) :: after)).take
      (before.length + (middle.length + 1)) = before ++ (front ++ o :: rest) :: middle := by
    rw [List.take_length_add_append, List.take_succ_cons, List.take_left]
  have inside : (before ++ (front ++ o :: rest) :: middle).drop (before.length + 1) = middle := by
    rw [List.drop_length_add_append]
    rfl
  have remaining : ((before ++ (front ++ o :: rest) :: middle) ++ (last ++ c :: back) :: after).drop
      ((before ++ (front ++ o :: rest) :: middle).length + 1) = after := by
    rw [List.drop_length_add_append]
    rfl
  rw [← whole] at stop remaining
  rw [List.length_append, List.length_cons] at stop remaining
  simp [find?, start, stop, opens, closes, guard, taken, inside, remaining]

/-- Where a word with the closing delimiter comes before all those with the opening one, there is no
window. -/
theorem find?_of_closed {word : Word} (free : ∀ word ∈ before, o ∉ word ∧ c ∉ word)
    (ho : o ∉ word) (hc : c ∈ word) (after : List Word) :
    find? [o] [c] (before ++ word :: after) = none := by
  have stop := findIdx?_mentions (fun word mem => (free word mem).2) hc after
  have nowhere : (before ++ [word]).findIdx? (·.mentions [o]) = none := by
    apply findIdx?_mentions_eq_none
    intro other mem
    rcases List.mem_append.1 mem with mem | mem
    · exact (free other mem).1
    · rwa [List.mem_singleton.1 mem]
  cases start : (before ++ word :: after).findIdx? (·.mentions [o]) with
  | none => simp [find?, start]
  | some start' =>
    have later : before.length < start' := by
      rw [List.append_cons, List.findIdx?_append, nowhere, Option.none_or,
        Option.map_eq_some_iff] at start
      obtain ⟨i, -, rfl⟩ := start
      rw [List.length_append, List.length_singleton]
      omega
    simp [find?, start, stop, guard, later]

/-- Where the first delimiters stand in the same word, the closing one first, the window holds
nothing, and what follows the closing delimiter remains. -/
theorem find?_of_closesFirst {middle : Text} (differ : o ≠ c)
    (free : ∀ word ∈ before, o ∉ word ∧ c ∉ word) (ho : o ∉ front) (hc : c ∉ front)
    (hmiddle : o ∉ middle) (after : List Word) :
    find? [o] [c] (before ++ (front ++ c :: (middle ++ o :: rest)) :: after) =
      some { inside := [[]], remaining := before ++ (middle ++ o :: rest) :: after } := by
  have whole : front ++ c :: (middle ++ o :: rest) = (front ++ c :: middle) ++ o :: rest := by simp
  have opens := position?_append_cons (c := o) (s := front ++ c :: middle)
    (by simp [ho, hmiddle, differ]) rest
  have closes := position?_append_cons hc (middle ++ o :: rest)
  rw [← whole] at opens
  rw [find?_of_position? (fun word mem => (free word mem).1) (fun word mem => (free word mem).2)
    (by simp) (by simp) opens closes]
  simp
  omega

theorem ClosesFirst.exists_mem (h : ClosesFirst o c words) :
    ∃ word ∈ words, o ∈ word ∧ c ∈ word := by
  obtain ⟨before, front, middle, rest, after, rfl, -⟩ := h
  exact ⟨front ++ c :: (middle ++ o :: rest), by simp, by simp, by simp⟩

theorem not_follows_of_closesFirst (visible : o ≠ ' ' ∧ c ≠ ' ') (differ : o ≠ c)
    (h : ClosesFirst o c words) : ¬Follows o c words (find? [o] [c] words) := by
  obtain ⟨before, front, middle, rest, after, rfl, free, ho, hc, hmiddle⟩ := h
  rw [find?_of_closesFirst differ free ho hc hmiddle after]
  intro cutOut
  exact not_between_closing differ ((between_joined_iff visible free ho hc _ after).1 cutOut.inside)

theorem takeWhile_append_cons {word : Word} (free : ∀ word ∈ before, o ∉ word) (mem : o ∈ word)
    (after : List Word) : (before ++ word :: after).takeWhile (fun word => o ∉ word) = before := by
  rw [List.takeWhile_append_of_pos fun word mem => decide_eq_true (free word mem),
    List.takeWhile_cons_of_neg (by simp [mem]), List.append_nil]

theorem follows_within {span back : Text} (visible : o ≠ ' ' ∧ c ≠ ' ') (differ : o ≠ c)
    (free : ∀ word ∈ before, o ∉ word ∧ c ∉ word) (ho : o ∉ front) (hc : c ∉ front)
    (hspan : c ∉ span) (after : List Word) :
    Follows o c (before ++ (front ++ o :: (span ++ c :: back)) :: after)
      (find? [o] [c] (before ++ (front ++ o :: (span ++ c :: back)) :: after)) := by
  have opens : ∀ word ∈ before, o ∉ word := fun word mem => (free word mem).1
  have earlier : ∀ word ∈ before, c ∉ word := fun word mem => (free word mem).2
  have closes : c ∉ front ++ o :: span := by simp [hc, differ.symm, hspan]
  have between : Between o c (o :: joined ((span ++ c :: back) :: after)) span := by
    rw [between_opening_iff, joined_append_cons, joined_cons_char]
    exact ⟨_, rfl, hspan⟩
  rw [find?_append_cons opens earlier ho closes back after]
  constructor
  · rw [between_joined_iff visible free ho hc, joined_singleton]
    exact between
  · refine ⟨before, front ++ o :: span, back, after, by simp, earlier, closes, ?_⟩
    rw [takeWhile_append_cons opens (by simp)]

theorem follows_across {middle : List Word} {last back : Text} (visible : o ≠ ' ' ∧ c ≠ ' ')
    (differ : o ≠ c) (free : ∀ word ∈ before, o ∉ word ∧ c ∉ word) (ho : o ∉ front)
    (hc : c ∉ front) (hrest : c ∉ rest) (hmiddle : ∀ word ∈ middle, c ∉ word) (hlast : c ∉ last)
    (after : List Word) :
    Follows o c (before ++ (front ++ o :: rest) :: (middle ++ (last ++ c :: back) :: after))
      (find? [o] [c]
        (before ++ (front ++ o :: rest) :: (middle ++ (last ++ c :: back) :: after))) := by
  have opens : ∀ word ∈ before, o ∉ word := fun word mem => (free word mem).1
  have earlier : ∀ word ∈ before ++ (front ++ o :: rest) :: middle, c ∉ word :=
    List.forall_mem_append.2 ⟨fun word mem => (free word mem).2,
      List.forall_mem_cons.2 ⟨by simp [hc, differ.symm, hrest], hmiddle⟩⟩
  have span : c ∉ joined (rest :: (middle ++ [last])) :=
    not_mem_joined visible.2 (List.forall_mem_cons.2 ⟨hrest,
      List.forall_mem_append.2 ⟨hmiddle, List.forall_mem_singleton.2 hlast⟩⟩)
  have between : Between o c (o :: joined (rest :: (middle ++ (last ++ c :: back) :: after)))
      (joined (rest :: (middle ++ [last]))) := by
    rw [between_opening_iff, ← List.cons_append, joined_append, joined_cons_char, List.cons_append]
    exact ⟨_, rfl, span⟩
  rw [find?_across opens earlier ho hlast after]
  constructor
  · rw [between_joined_iff visible free ho hc]
    exact between
  · refine ⟨before ++ (front ++ o :: rest) :: middle, last, back, after, by simp, earlier, hlast,
      ?_⟩
    rw [takeWhile_append_cons opens (by simp)]

theorem follows_of_not_closesFirst (visible : o ≠ ' ' ∧ c ≠ ' ') (differ : o ≠ c)
    (order : ¬ClosesFirst o c words) : Follows o c words (find? [o] [c] words) := by
  rcases exists_first_delimiter o c words with free |
    ⟨before, front, d, rest, after, rfl, free, ho, hc, rfl | rfl⟩
  · rw [find?_of_not_mem [c] fun word mem => (free word mem).1]
    exact fun span between =>
      not_mem_joined visible.1 (fun word mem => (free word mem).1) between.mem.1
  · by_cases within : c ∈ rest
    · obtain ⟨span, back, rfl, hspan⟩ := List.eq_append_cons_of_mem within
      exact follows_within visible differ free ho hc hspan after
    rcases exists_first_word c after with none | ⟨middle, last, back, after, rfl, free', hlast⟩
    · have unclosed : ∀ word ∈ before ++ (front ++ d :: rest) :: after, c ∉ word :=
        List.forall_mem_append.2 ⟨fun word mem => (free word mem).2,
          List.forall_mem_cons.2 ⟨by simp [hc, differ.symm, within], none⟩⟩
      rw [find?_of_not_mem_closing [d] unclosed]
      exact fun span between => not_mem_joined visible.2 unclosed between.mem.2
    · exact follows_across visible differ free ho hc within free' hlast after
  · by_cases within : o ∈ rest
    · obtain ⟨middle, rest, rfl, hmiddle⟩ := List.eq_append_cons_of_mem within
      exact absurd ⟨before, front, middle, rest, after, rfl, free, ho, hc, hmiddle⟩ order
    · rw [find?_of_closed free (by simp [ho, differ, within]) (by simp) after]
      exact fun span between =>
        not_between_closing differ ((between_joined_iff visible free ho hc rest after).1 between)

theorem find?_of_blank (solid : ∀ word ∈ words, word.IsSolid) (blank : o = ' ' ∨ c = ' ') :
    find? [o] [c] words = none := by
  have absent : ∀ word ∈ words, ' ' ∉ word :=
    fun word mem inside => Bool.false_ne_true ((solid word mem ' ' inside).symm.trans (by decide))
  rcases blank with rfl | rfl
  · exact find?_of_not_mem [c] absent
  · exact find?_of_not_mem_closing [o] absent

/-- What is found in words follows their text, unless the first delimiters stand in the same word,
the closing one first. A delimiter that is a blank stands in no word but between the words, and the
windows it makes in the text are not found. -/
theorem find?_follows_iff (solid : ∀ word ∈ words, word.IsSolid) (differ : o ≠ c) :
    Follows o c words (find? [o] [c] words) ↔
      ¬ClosesFirst o c words ∧
        (o = ' ' ∨ c = ' ' → ∀ span, ¬Between o c (joined words) span) := by
  by_cases blank : o = ' ' ∨ c = ' '
  · have order : ¬ClosesFirst o c words := by
      intro h
      obtain ⟨word, mem, opens, closes⟩ := h.exists_mem
      rcases blank with rfl | rfl
      · exact Bool.false_ne_true ((solid word mem ' ' opens).symm.trans (by decide))
      · exact Bool.false_ne_true ((solid word mem ' ' closes).symm.trans (by decide))
    rw [find?_of_blank solid blank]
    exact ⟨fun none => ⟨order, fun _ => none⟩, fun h => h.2 blank⟩
  · have visible : o ≠ ' ' ∧ c ≠ ' ' := not_or.1 blank
    exact ⟨fun h => ⟨fun closes => not_follows_of_closesFirst visible differ closes h,
      fun blank' => absurd blank' blank⟩, fun h => follows_of_not_closesFirst visible differ h.1⟩

theorem find?_follows_iff_spanning :
    let words : List Word := ["layout(location".toList, "=".toList, "0)in".toList, "vec3".toList]
    (∀ word ∈ words, word.IsSolid) ∧ '(' ≠ ')' ∧
      find? ['('] [')'] words = some {
        inside := ["location".toList, "=".toList, "0".toList]
        remaining := ["in".toList, "vec3".toList] } ∧
      Follows '(' ')' words (find? ['('] [')'] words) := by
  intro words
  have solid : ∀ word ∈ words, word.IsSolid := by decide
  have differ : '(' ≠ ')' := by decide
  have order : ¬ClosesFirst '(' ')' words := by
    intro h
    obtain ⟨word, mem, both⟩ := h.exists_mem
    exact absurd both ((by decide : ∀ word ∈ words, ¬('(' ∈ word ∧ ')' ∈ word)) word mem)
  exact ⟨solid, differ, by decide, (find?_follows_iff solid differ).2
    ⟨order, fun blank => absurd blank (by decide)⟩⟩

/-- A word in which the closing delimiter comes first has a window. -/
theorem not_forall_follows :
    ¬∀ (o c : Char) (words : List Word), (∀ word ∈ words, word ≠ [] ∧ word.IsSolid) → o ≠ c →
      Follows o c words (find? [o] [c] words) := by
  intro h
  have follows := h '(' ')' ["a)b(c".toList] (by decide) (by decide)
  have found : find? ['('] [')'] ["a)b(c".toList] =
      some { inside := [[]], remaining := ["b(c".toList] } := by decide
  rw [found] at follows
  have between : Between '(' ')' ("a".toList ++ ')' :: "b(c".toList) [] := follows.inside
  rw [between_append_iff (by decide) (by decide)] at between
  exact not_between_closing (by decide) between

end Window

end ShaderSurface
