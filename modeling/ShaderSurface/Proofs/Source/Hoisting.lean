import ShaderSurface.Proofs.Source.Lines

/-!
# Lines that are moved to the top

Moving a line to the top keeps every line, and the other lines keep their order
(`Source.IsRearranged.hoist`). A line that is on top is not moved again. So a prepared source has
the lines of its parts, with the version directive first and the default precision behind it, and
preparing it once more leaves it as it is (`Source.prepare?_isArranged`). -/

namespace ShaderSurface.Source

open Text

variable {needles others : List Text} {code line : Text} {before after ls : List Text}

def isVersion (line : Text) : Bool :=
  line.mentions "#version ".toList

def setsPrecision (line : Text) : Bool :=
  precisionStatements.any line.mentions

theorem any_version : (fun line => ["#version ".toList].any (mentions line)) = isVersion :=
  funext fun _ => Bool.or_false _

theorem find?_eq_some_iff :
    (lines code).find? (fun line => needles.any line.mentions) = some line ↔
      ∃ before after, IsFirstWith needles code before line after := by
  rw [List.find?_eq_some_iff_append]
  constructor
  · rintro ⟨found, before, after, whole, skipped⟩
    exact ⟨before, after, whole, fun other mem => by simpa using skipped other mem, found⟩
  · rintro ⟨before, after, first⟩
    exact ⟨first.found, before, after, first.lines,
      fun other mem => by simp [first.others other mem]⟩

theorem hoist_of_forall (h : ∀ line ∈ lines code, needles.any line.mentions = false) :
    hoist needles code = code := by
  have skipped : (lines code).dropWhile (fun line => !needles.any line.mentions) = [] := by
    rw [List.dropWhile_eq_nil_iff]
    exact fun line mem => by simp [h line mem]
  simp only [hoist, skipped]

theorem hoist_of_find?_eq_none
    (h : (lines code).find? (fun line => needles.any line.mentions) = none) :
    hoist needles code = code :=
  hoist_of_forall fun line mem => by simpa using List.find?_eq_none.1 h line mem

theorem IsFirstWith.lines_hoist (h : IsFirstWith needles code before line after) :
    Text.lines (Source.hoist needles code) = line :: (before ++ after) := by
  have free : ∀ other ∈ line :: (before ++ after), '\n' ∉ other := by
    intro other mem
    apply not_mem_of_mem_lines (s := code)
    rw [h.lines]
    exact List.perm_middle.mem_iff.2 mem
  obtain ⟨taken, rest⟩ := h.takeWhile_dropWhile
  simp only [Source.hoist, taken, rest]
  exact lines_unlines (List.cons_ne_nil _ _) free

theorem hoist_of_head (h : lines code = line :: after) (found : needles.any line.mentions = true) :
    hoist needles code = code := by
  have first : IsFirstWith needles code [] line after := ⟨h, List.forall_mem_nil _, found⟩
  rw [← unlines_lines (hoist needles code), first.lines_hoist, List.nil_append, ← h, unlines_lines]

theorem head?_hoist
    (h : (lines code).find? (fun line => needles.any line.mentions) = some line) :
    (lines (hoist needles code)).head? = some line := by
  obtain ⟨before, after, first⟩ := find?_eq_some_iff.1 h
  rw [first.lines_hoist]
  rfl

theorem hoist_hoist (needles : List Text) (code : Text) :
    hoist needles (hoist needles code) = hoist needles code := by
  cases search : (lines code).find? fun line => needles.any line.mentions with
  | none =>
    have same := hoist_of_find?_eq_none search
    rw [same, same]
  | some line =>
    obtain ⟨before, after, first⟩ := find?_eq_some_iff.1 search
    exact hoist_of_head first.lines_hoist first.found

theorem IsFirstWith.eq_cons_of_head {top : Text} {rest : List Text}
    (h : IsFirstWith needles code before line after) (whole : Text.lines code = top :: rest)
    (other : needles.any top.mentions = false) : ∃ before', before = top :: before' := by
  cases before with
  | nil =>
    obtain ⟨rfl, -⟩ := List.cons.inj (whole.symm.trans h.lines)
    exact absurd (other.symm.trans h.found) Bool.false_ne_true
  | cons first before =>
    obtain ⟨rfl, -⟩ := List.cons.inj (whole.symm.trans h.lines)
    exact ⟨before, rfl⟩

/-- Two lines on top, each with a needle that the other lacks, change places and change back. -/
theorem hoist_hoist_of_top {first second : Text} {rest : List Text}
    (whole : lines code = first :: second :: rest) (found : others.any first.mentions = true)
    (missing : others.any second.mentions = false) (found' : needles.any second.mentions = true)
    (missing' : needles.any first.mentions = false) :
    hoist others (hoist needles code) = code := by
  have down : IsFirstWith needles code [first] second rest :=
    ⟨whole, List.forall_mem_singleton.2 missing', found'⟩
  have up : IsFirstWith others (hoist needles code) [second] first rest :=
    ⟨down.lines_hoist, List.forall_mem_singleton.2 missing, found⟩
  rw [← unlines_lines (hoist others (hoist needles code)), up.lines_hoist, List.singleton_append,
    ← whole, unlines_lines]

/-- The lines are rearranged by moving at most `count` of them to the top, each of which passes a
test. The others keep their order. -/
structure IsRearranged (test : Text → Bool) (count : Nat) (ls ms : List Text) : Prop where
  perm : ms.Perm ls
  parts : ∃ moved kept, ms = moved ++ kept ∧ moved.length ≤ count ∧
    (∀ line ∈ moved, test line = true) ∧ kept.Sublist ls

namespace IsRearranged

variable {test : Text → Bool} {count : Nat}

theorem refl (test : Text → Bool) (ls : List Text) : IsRearranged test 0 ls ls where
  perm := .refl ls
  parts := ⟨[], ls, rfl, Nat.le_refl 0, List.forall_mem_nil _, List.Sublist.refl ls⟩

/-- Moving the first line with a needle to the top moves at most one line more. -/
theorem hoist (h : IsRearranged test count ls (lines code))
    (passes : ∀ line, needles.any line.mentions = true → test line = true) :
    IsRearranged test (count + 1) ls (lines (Source.hoist needles code)) := by
  obtain ⟨perm, moved, kept, whole, few, tested, sublist⟩ := h
  cases search : (lines code).find? fun line => needles.any line.mentions with
  | none =>
    rw [hoist_of_find?_eq_none search]
    exact ⟨perm, moved, kept, whole, Nat.le_succ_of_le few, tested, sublist⟩
  | some line =>
    obtain ⟨before, after, first⟩ := find?_eq_some_iff.1 search
    have passed := passes line first.found
    rw [first.lines] at perm whole
    rw [first.lines_hoist]
    refine ⟨List.perm_middle.symm.trans perm, ?_⟩
    -- the line is one of those that were moved before, or one of those that kept their order
    rcases List.append_eq_append_iff.1 whole with ⟨rest, rfl, tail⟩ | ⟨rest, rfl, rfl⟩
    · cases rest with
      | nil =>
        obtain rfl : line :: after = kept := by simpa using tail
        exact ⟨line :: before, after, rfl, by simpa using few,
          List.forall_mem_cons.2 ⟨passed, by simpa using tested⟩,
          (List.sublist_cons_self line after).trans sublist⟩
      | cons top rest =>
        obtain ⟨rfl, rfl⟩ := List.cons.inj tail
        refine ⟨line :: (before ++ rest), kept, by simp, ?_, ?_, sublist⟩
        · simp only [List.length_append, List.length_cons] at few ⊢
          omega
        · intro other mem
          exact tested other (List.perm_middle.mem_iff.2 mem)
    · refine ⟨line :: moved, rest ++ after, by simp, Nat.succ_le_succ few,
        List.forall_mem_cons.2 ⟨passed, tested⟩, ?_⟩
      exact ((List.sublist_cons_self line after).append_left rest).trans sublist

end IsRearranged

structure IsArranged (ls ms : List Text) : Prop where
  rearranged : IsRearranged (fun line => isVersion line || setsPrecision line) 2 ls ms
  version : ∀ line ∈ ls, isVersion line = true → ∃ first, ms.head? = some first ∧
    isVersion first = true
  precisionBehind : ∀ line ∈ ls, isVersion line = true → ∀ precision,
    ls.find? setsPrecision = some precision → isVersion precision = false →
      ms[1]? = some precision
  precisionFirst : (∀ line ∈ ls, isVersion line = false) → ∀ precision,
    ls.find? setsPrecision = some precision → ms.head? = some precision

theorem mem_lines_hoist : line ∈ lines (hoist needles code) ↔ line ∈ lines code :=
  ((IsRearranged.refl (fun _ => true) (lines code)).hoist fun _ _ => rfl).perm.mem_iff

theorem exists_find?_isVersion {line : Text} (mem : line ∈ ls) (found : isVersion line = true) :
    ∃ first, ls.find? isVersion = some first :=
  Option.isSome_iff_exists.1 (List.find?_isSome.2 ⟨line, mem, found⟩)

/-- The default precision is moved to the top first, and then the version directive. -/
theorem isArranged_hoist (code : Text) :
    IsArranged (lines code) (lines (hoistVersion (hoistPrecision code))) where
  rearranged :=
    ((IsRearranged.refl _ _).hoist fun line found => Bool.or_eq_true_iff.2 (.inr found)).hoist
      fun line found => Bool.or_eq_true_iff.2 (.inl (any_version ▸ found))
  version := by
    intro line mem found
    obtain ⟨first, search⟩ := exists_find?_isVersion (mem_lines_hoist.2 mem) found
    exact ⟨first, head?_hoist (any_version ▸ search), List.find?_some search⟩
  precisionBehind := by
    intro line mem found precision search other
    obtain ⟨rest, whole⟩ := List.head?_eq_some_iff.1 (head?_hoist search)
    obtain ⟨first, search'⟩ := exists_find?_isVersion (mem_lines_hoist.2 mem) found
    obtain ⟨before, after, isFirst⟩ := find?_eq_some_iff.1 (any_version ▸ search')
    obtain ⟨before, rfl⟩ := isFirst.eq_cons_of_head whole (by simpa [isVersion] using other)
    rw [hoistVersion, hoistPrecision, isFirst.lines_hoist]
    rfl
  precisionFirst := by
    intro none precision search
    have same : hoistVersion (hoistPrecision code) = hoistPrecision code :=
      hoist_of_forall fun line mem => by simpa [isVersion] using none line (mem_lines_hoist.1 mem)
    rw [same]
    exact head?_hoist search

theorem hoist_arranged (code : Text) :
    hoistVersion (hoistPrecision (hoistVersion (hoistPrecision code))) =
      hoistVersion (hoistPrecision code) := by
  cases search : (lines (hoistPrecision code)).find? isVersion with
  | none =>
    have same : hoistVersion (hoistPrecision code) = hoistPrecision code :=
      hoist_of_find?_eq_none (any_version ▸ search)
    rw [same, hoistPrecision, hoistPrecision, hoist_hoist]
    exact same
  | some version =>
    obtain ⟨before, after, first⟩ := find?_eq_some_iff.1 (any_version ▸ search)
    have top := first.lines_hoist
    -- the version directive is on top, so it is enough that the default precision is not moved
    have stays := hoist_of_head top first.found
    cases search' : (lines code).find? setsPrecision with
    | none =>
      have none : hoistPrecision (hoistVersion (hoistPrecision code)) =
          hoistVersion (hoistPrecision code) :=
        hoist_of_forall fun line mem => by
          simpa [setsPrecision] using
            List.find?_eq_none.1 search' line (mem_lines_hoist.1 (mem_lines_hoist.1 mem))
      rw [none]
      exact stays
    | some precision =>
      obtain ⟨rest, whole⟩ := List.head?_eq_some_iff.1 (head?_hoist search')
      cases both : setsPrecision version with
      | true =>
        have kept : hoistPrecision (hoistVersion (hoistPrecision code)) =
          hoistVersion (hoistPrecision code) := hoist_of_head top both
        rw [kept]
        exact stays
      | false =>
        have found : setsPrecision precision = true := List.find?_some search'
        have other : isVersion precision = false := by
          by_contra directive
          rw [hoistPrecision, whole, List.find?_cons_of_pos (by simpa using directive)] at search
          obtain rfl := Option.some.inj search
          exact Bool.false_ne_true (both.symm.trans found)
        obtain ⟨before, rfl⟩ := first.eq_cons_of_head whole (by simpa [isVersion] using other)
        exact hoist_hoist_of_top top first.found (by simpa [isVersion] using other) found both

/-- Preparing a source that is not blank keeps its lines and puts the version directive and the
default precision on top. -/
theorem prepare?_isArranged (parts : List (Option Text)) (filled : trim (merge parts) ≠ []) :
    ∃ code, prepare? parts = some code ∧ IsArranged (lines (merge parts)) (lines code) ∧
      hoistVersion (hoistPrecision code) = code := by
  refine ⟨hoistVersion (hoistPrecision (merge parts)), ?_, isArranged_hoist _, hoist_arranged _⟩
  rw [prepare?, if_neg (by simpa using filled)]

/-- Both lines are moved, past others that hold a version directive or a default precision too. -/
theorem prepare?_isArranged_mixed :
    let parts := [some "in vec3 p;\nprecision lowp float;\n".toList, none,
      some "uniform float a; // #version 100\nprecision highp float;\n#version 300 es".toList]
    let code := ("uniform float a; // #version 100\nprecision lowp float;\nin vec3 p;\n" ++
      "precision highp float;\n#version 300 es").toList
    trim (merge parts) ≠ [] ∧ prepare? parts = some code ∧
      IsArranged (lines (merge parts)) (lines code) ∧
      hoistVersion (hoistPrecision code) = code := by
  intro parts code
  have filled : trim (merge parts) ≠ [] := by decide +kernel
  have prepared : prepare? parts = some code := by decide +kernel
  obtain ⟨code', prepared', arranged, stable⟩ := prepare?_isArranged parts filled
  obtain rfl := Option.some.inj (prepared.symm.trans prepared')
  exact ⟨filled, prepared, arranged, stable⟩

end ShaderSurface.Source
