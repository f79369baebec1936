import Mathlib.Data.List.Induction
import Mathlib.Data.List.TakeWhile
import ShaderSurface.Text.Blank

/-!
# Words and the gaps between them

A gap is a text of white space alone, and a solid text holds none. A gap at an end of a text changes
neither its words nor its trimmed form, and a gap that is not empty parts the words before it from
those after it.
-/

namespace ShaderSurface.Text

/-- A property of the characters of a text is decided along the text, and not for all characters
that there are. -/
instance (priority := high) decidableForallMem (p : Char → Prop) [DecidablePred p] (s : List Char) :
    Decidable (∀ c ∈ s, p c) :=
  List.decidableBAll p s

/-- The text is white space throughout. -/
def IsGap (s : Text) : Prop :=
  ∀ c ∈ s, isBlank c = true

def IsSolid (s : Text) : Prop :=
  ∀ c ∈ s, isBlank c = false

instance : DecidablePred IsGap := fun s => inferInstanceAs (Decidable (∀ c ∈ s, isBlank c = true))

instance : DecidablePred IsSolid :=
  fun s => inferInstanceAs (Decidable (∀ c ∈ s, isBlank c = false))

variable {s t gap : Text} {word : Word}

theorem IsSolid.append (hs : s.IsSolid) (ht : t.IsSolid) : (s ++ t).IsSolid :=
  List.forall_mem_append.2 ⟨hs, ht⟩

theorem IsGap.append (hs : s.IsGap) (ht : t.IsGap) : (s ++ t).IsGap :=
  List.forall_mem_append.2 ⟨hs, ht⟩

theorem mem_of_mem_words (h : word ∈ words s) {c : Char} (mem : c ∈ word) : c ∈ s := by
  have kept : c ∈ squeeze s := by
    rw [← flatten_words]
    exact List.mem_flatten.2 ⟨word, h, mem⟩
  exact (List.mem_filter.1 kept).1

theorem words_blank_cons {c : Char} (blank : isBlank c = true) (s : Text) :
    words (c :: s) = words s := by
  simp [words, List.splitOnP_cons_eq_if_modifyHead, blank]

theorem words_append_blank_cons {c : Char} (blank : isBlank c = true) (s t : Text) :
    words (s ++ c :: t) = words s ++ words t := by
  rw [words, List.splitOnP_append_cons _ _ blank, List.filter_append]
  rfl

theorem words_gap_append (hgap : gap.IsGap) (s : Text) : words (gap ++ s) = words s := by
  induction gap with
  | nil => rfl
  | cons c gap ih =>
    rw [List.cons_append, words_blank_cons (hgap c List.mem_cons_self)]
    exact ih fun d mem => hgap d (List.mem_cons_of_mem c mem)

theorem words_gap (hgap : gap.IsGap) : words gap = [] := by
  rw [← List.append_nil gap, words_gap_append hgap]
  rfl

theorem squeeze_gap (hgap : gap.IsGap) : squeeze gap = [] := by
  rw [← flatten_words, words_gap hgap]
  rfl

theorem words_append_gap_append (ne : gap ≠ []) (hgap : gap.IsGap) (s t : Text) :
    words (s ++ gap ++ t) = words s ++ words t := by
  obtain ⟨c, gap, rfl⟩ := List.exists_cons_of_ne_nil ne
  rw [List.append_assoc, List.cons_append, words_append_blank_cons (hgap c List.mem_cons_self)]
  rw [words_gap_append fun d mem => hgap d (List.mem_cons_of_mem c mem)]

theorem words_append_gap (hgap : gap.IsGap) (s : Text) : words (s ++ gap) = words s := by
  cases gap with
  | nil => rw [List.append_nil]
  | cons c gap =>
    rw [words_append_blank_cons (hgap c List.mem_cons_self)]
    rw [words_gap fun d mem => hgap d (List.mem_cons_of_mem c mem), List.append_nil]

theorem words_solid (ne : s ≠ []) (solid : s.IsSolid) : words s = [s] := by
  rw [words, List.splitOnP_eq_singleton]
  · simpa using ne
  · exact solid

theorem words_intercalate {parts : List Word} (h : ∀ word ∈ parts, word ≠ [] ∧ word.IsSolid) :
    words ([' '].intercalate parts) = parts := by
  induction parts with
  | nil => rfl
  | cons word parts ih =>
    obtain ⟨⟨ne, solid⟩, others⟩ := List.forall_mem_cons.1 h
    cases parts with
    | nil => rw [List.intercalate_singleton, words_solid ne solid]
    | cons next parts =>
      rw [List.intercalate_cons_cons, words_append_gap_append (List.cons_ne_nil _ _) (by decide),
        words_solid ne solid, ih others]
      rfl

theorem squeeze_solid (solid : s.IsSolid) : squeeze s = s := by
  rw [squeeze, List.filter_eq_self]
  intro c mem
  rw [solid c mem]
  rfl

theorem words_solid_append (ne : s ≠ []) (solid : s.IsSolid) {rest : Text}
    (parted : ∀ c ∈ rest.head?, isBlank c = true) : words (s ++ rest) = s :: words rest := by
  cases rest with
  | nil => rw [List.append_nil, words_solid ne solid, words_gap (List.forall_mem_nil _)]
  | cons c rest =>
    have blank := parted c rfl
    rw [words_append_blank_cons blank, words_solid ne solid, words_blank_cons blank]
    rfl

/-- A solid text in front of another one joins the first word, if that is not kept apart. -/
theorem words_glued (ne : s ≠ []) (solid : s.IsSolid) (rest : Text) :
    ∃ more after, words (s ++ rest) = (s ++ more) :: after ∧
      words rest = (if more.isEmpty then [] else [more]) ++ after := by
  have more : IsSolid (rest.takeWhile (!isBlank ·)) := by
    intro c mem
    simpa using List.mem_takeWhile_imp mem
  have parted : ∀ c ∈ (rest.dropWhile (!isBlank ·)).head?, isBlank c = true := by
    intro c mem
    have first := List.head?_dropWhile_not (!isBlank ·) rest
    rw [Option.mem_def.1 mem] at first
    simpa using first
  have joined : rest = rest.takeWhile (!isBlank ·) ++ rest.dropWhile (!isBlank ·) :=
    List.takeWhile_append_dropWhile.symm
  refine ⟨rest.takeWhile (!isBlank ·), words (rest.dropWhile (!isBlank ·)), ?_, ?_⟩
  · rw [← words_solid_append (by simp [ne]) (solid.append more) parted, List.append_assoc,
      ← joined]
  · by_cases none : rest.takeWhile (!isBlank ·) = []
    · rw [none, List.nil_append] at joined
      rw [none, ← joined]
      rfl
    · rw [if_neg (by simpa using none), List.singleton_append,
        ← words_solid_append none more parted, ← joined]

theorem dropWhile_gap (hgap : gap.IsGap) : gap.dropWhile isBlank = [] := by
  rw [← List.append_nil gap, List.dropWhile_append_of_pos hgap]
  rfl

theorem dropWhile_solid (solid : s.IsSolid) : s.dropWhile isBlank = s := by
  cases s with
  | nil => rfl
  | cons c s => exact List.dropWhile_cons_of_neg (by simp [solid c List.mem_cons_self])

theorem trim_gap_append (hgap : gap.IsGap) (s : Text) : trim (gap ++ s) = trim s := by
  rw [trim, List.dropWhile_append_of_pos hgap, trim]

theorem trim_append_gap (hgap : gap.IsGap) (s : Text) : trim (s ++ gap) = trim s := by
  have hback : ∀ c ∈ gap.reverse, isBlank c = true := fun c mem => hgap c (List.mem_reverse.1 mem)
  rw [trim, trim, List.dropWhile_append]
  split
  · rename_i empty
    rw [List.isEmpty_iff.1 empty, dropWhile_gap hgap]
  · rw [List.reverse_append, List.dropWhile_append_of_pos hback]

theorem trim_solid (solid : s.IsSolid) : trim s = s := by
  rw [trim, dropWhile_solid solid, dropWhile_solid, List.reverse_reverse]
  exact fun c mem => solid c (List.mem_reverse.1 mem)

theorem trim_between_gaps {front back : Text} (hfront : front.IsGap) (solid : s.IsSolid)
    (hback : back.IsGap) : trim (front ++ s ++ back) = s := by
  rw [trim_append_gap hback, trim_gap_append hfront, trim_solid solid]

theorem exists_eq_append_dropped (p : Char → Bool) (s : Text) :
    ∃ front back, (∀ c ∈ front, p c = true) ∧ (∀ c ∈ back, p c = true) ∧
      s = front ++ ((s.dropWhile p).reverse.dropWhile p).reverse ++ back := by
  let middle := s.dropWhile p
  refine ⟨s.takeWhile p, (middle.reverse.takeWhile p).reverse,
    fun c mem => List.mem_takeWhile_imp mem,
    fun c mem => List.mem_takeWhile_imp (List.mem_reverse.1 mem), ?_⟩
  have rest : (middle.reverse.dropWhile p).reverse ++ (middle.reverse.takeWhile p).reverse =
      middle := by
    rw [← List.reverse_append, List.takeWhile_append_dropWhile, List.reverse_reverse]
  rw [List.append_assoc, rest, List.takeWhile_append_dropWhile]

theorem exists_mem_words {c : Char} (mem : c ∈ s) (solid : isBlank c = false) :
    ∃ word ∈ words s, c ∈ word := by
  have kept : c ∈ (words s).flatten := by
    rw [flatten_words]
    simp [squeeze, mem, solid]
  simpa using kept

/-- The words of a text in front of another one are kept, except that the last may be continued. -/
theorem exists_words_append (front : Text) :
    ∃ before last, (∀ rest, words (front ++ rest) = before ++ words (last ++ rest)) ∧
      last.IsSolid ∧ (∀ c ∈ last, c ∈ front) ∧ ∀ word ∈ before, ∀ c ∈ word, c ∈ front := by
  induction front using List.reverseRecOn with
  | nil => exact ⟨[], [], by simp, by simp [IsSolid], by simp, by simp⟩
  | append_singleton front c ih =>
    obtain ⟨before, last, same, solid, inFront, inWords⟩ := ih
    by_cases blank : isBlank c = true
    · refine ⟨words front, [], fun rest => ?_, by simp [IsSolid], by simp, ?_⟩
      · simp [words_append_blank_cons blank]
      · exact fun word mem d inside => List.mem_append_left _ (mem_of_mem_words mem inside)
    · refine ⟨before, last ++ [c], fun rest => ?_, ?_, ?_, fun word mem d inside => ?_⟩
      · simpa using same (c :: rest)
      · exact solid.append (by simpa [IsSolid] using blank)
      · intro d mem
        rcases List.mem_append.1 mem with mem | mem
        · exact List.mem_append_left _ (inFront d mem)
        · exact List.mem_append_right _ mem
      · exact List.mem_append_left _ (inWords word mem d inside)

theorem exists_first_word {c : Char} (visible : isBlank c = false) (s : Text) :
    ∃ word rest, c :: s = word ++ rest ∧ word ≠ [] ∧ IsSolid word ∧
      ∀ d ∈ rest.head?, isBlank d = true := by
  refine ⟨(c :: s).takeWhile (!isBlank ·), (c :: s).dropWhile (!isBlank ·),
    List.takeWhile_append_dropWhile.symm, by simp [visible], fun d mem => ?_, fun d mem => ?_⟩
  · simpa using List.mem_takeWhile_imp mem
  · have first := List.head?_dropWhile_not (!isBlank ·) (c :: s)
    rw [Option.mem_def.1 mem] at first
    simpa using first

/-- A word of a text stands in it behind the words before it. -/
theorem exists_of_words_eq_append_cons {before after : List Word}
    (h : words s = before ++ word :: after) :
    ∃ front back, s = front ++ word ++ back ∧ words front = before := by
  -- a whole word is taken off in a step, so the induction is on the length
  induction hn : s.length using Nat.strong_induction_on generalizing s before with
  | _ n ih =>
    cases s with
    | nil => simp [words] at h
    | cons c t =>
      by_cases blank : isBlank c = true
      · rw [words_blank_cons blank] at h
        obtain ⟨front, back, same, wordsFront⟩ := ih t.length (by simp [← hn]) h rfl
        exact ⟨c :: front, back, by simp [same], by rw [words_blank_cons blank, wordsFront]⟩
      · obtain ⟨first, rest, same, ne, solid, parted⟩ := exists_first_word (by simpa using blank) t
        rw [same, words_solid_append ne solid parted] at h
        cases before with
        | nil =>
          obtain ⟨rfl, -⟩ := List.cons.inj h
          exact ⟨[], rest, by simp [same], rfl⟩
        | cons first' before =>
          obtain ⟨rfl, others⟩ := List.cons.inj h
          have shorter : rest.length < n := by
            have := List.length_pos_iff.2 ne
            rw [← hn, same, List.length_append]
            omega
          obtain ⟨front, back, whole, wordsFront⟩ := ih rest.length shorter others rfl
          have parted' : ∀ d ∈ front.head?, isBlank d = true := by
            cases front with
            | nil => simp
            | cons d front => simpa [whole] using parted
          exact ⟨first ++ front, back, by simp [same, whole],
            by rw [words_solid_append ne solid parted', wordsFront]⟩

end ShaderSurface.Text
