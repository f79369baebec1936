import ShaderSurface.Declaration.Draft
import ShaderSurface.Layout.Arguments
import ShaderSurface.Proofs.Text.Decimal
import ShaderSurface.Proofs.Text.Words

/-!
# Tokens

A declaration is written with keywords, names of types, identifiers and numerals, with white space
between them. All of these are plain: they hold none of the characters that structure a source.
Except for white space they are solid, so that tokens that are kept apart by white space are the
words of a text (`Grammar.words_spell_append`).
-/

namespace ShaderSurface

namespace Text

/-- The characters that begin or end the parts of a source. -/
def structural : List Char := ['(', ')', '{', '}', '/', '#', ';']

def IsPlain (s : Text) : Prop :=
  ∀ c ∈ s, c ∉ structural

def IsNameLike (s : Text) : Prop :=
  ∀ c ∈ s, Layout.isNamePart c = true

instance : DecidablePred IsPlain := fun s => inferInstanceAs (Decidable (∀ c ∈ s, c ∉ structural))

instance : DecidablePred IsNameLike :=
  fun s => inferInstanceAs (Decidable (∀ c ∈ s, Layout.isNamePart c = true))

variable {s t : Text} {c : Char}

@[simp] theorem isPlain_nil : IsPlain [] :=
  List.forall_mem_nil _

@[simp] theorem isPlain_append : IsPlain (s ++ t) ↔ s.IsPlain ∧ t.IsPlain :=
  List.forall_mem_append

@[simp] theorem isPlain_cons : IsPlain (c :: s) ↔ c ∉ structural ∧ s.IsPlain :=
  List.forall_mem_cons

theorem IsPlain.not_mem (h : s.IsPlain) (hc : c ∈ structural) : c ∉ s :=
  fun mem => h c mem hc

theorem IsGap.isPlain (h : s.IsGap) : s.IsPlain := by
  intro c mem structured
  have solid : ∀ x ∈ structural, isBlank x = false := by decide
  exact Bool.false_ne_true ((solid c structured).symm.trans (h c mem))

theorem toNat_of_isAlpha (h : c.isAlpha = true) : 65 ≤ c.toNat ∧ c.toNat ≤ 122 := by
  rcases Bool.or_eq_true_iff.1 (show (c.isUpper || c.isLower) = true from h) with upper | lower
  · have range : 'A'.val ≤ c.val ∧ c.val ≤ 'Z'.val := of_decide_eq_true upper
    exact ⟨range.1, Nat.le_trans range.2 (by decide)⟩
  · have range : 'a'.val ≤ c.val ∧ c.val ≤ 'z'.val :=
      (Bool.and_eq_true_iff.1 lower).imp of_decide_eq_true of_decide_eq_true
    exact ⟨Nat.le_trans (by decide) range.1, range.2⟩

theorem toNat_of_isNamePart (h : Layout.isNamePart c = true) :
    0x20 < c.toNat ∧ c.toNat < 0x7F := by
  simp only [Layout.isNamePart, Char.isAlphanum, Bool.or_eq_true, decide_eq_true_eq] at h
  rcases h with (letter | digit) | rfl
  · have range := toNat_of_isAlpha letter
    omega
  · have range := Char.isDigit_iff_toNat.1 digit
    simp only [Char.reduceToNat] at range
    omega
  · decide

theorem isBlank_of_isNamePart (h : Layout.isNamePart c = true) : isBlank c = false := by
  have bounds := toNat_of_isNamePart h
  simp only [isBlank, inRanges, blanks, List.any_cons, List.any_nil, Bool.or_false,
    Bool.or_eq_false_iff, Bool.and_eq_false_imp, decide_eq_true_eq, decide_eq_false_iff_not]
  omega

theorem IsNameLike.isSolid (h : s.IsNameLike) : s.IsSolid :=
  fun c mem => isBlank_of_isNamePart (h c mem)

theorem IsNameLike.isPlain (h : s.IsNameLike) : s.IsPlain := by
  intro c mem structured
  have apart : ∀ x ∈ structural, Layout.isNamePart x = false := by decide
  exact Bool.false_ne_true ((apart c structured).symm.trans (h c mem))

theorem IsNameLike.not_mem (h : s.IsNameLike) (hc : Layout.isNamePart c = false) : c ∉ s :=
  fun mem => Bool.false_ne_true (hc.symm.trans (h c mem))

theorem isNameLike_of_isName (h : Layout.isName s = true) : s.IsNameLike := by
  cases s with
  | nil => exact List.forall_mem_nil _
  | cons c rest =>
    rw [Layout.isName, Bool.and_eq_true] at h
    refine List.forall_mem_cons.2 ⟨?_, List.all_eq_true.1 h.2⟩
    have start := h.1
    simp only [Layout.isNameStart, Bool.or_eq_true] at start
    simp only [Layout.isNamePart, Char.isAlphanum, Bool.or_eq_true]
    exact start.imp_left Or.inl

theorem isName_eq_false_of_mem (mem : c ∈ s) (hc : Layout.isNamePart c = false) :
    Layout.isName s = false := by
  rw [Bool.eq_false_iff]
  intro named
  exact (isNameLike_of_isName named).not_mem hc mem

theorem isName_eq_false_of_isDigit (digit : c.isDigit = true) (s : Text) :
    Layout.isName (c :: s) = false := by
  have bounds := Char.isDigit_iff_toNat.1 digit
  simp only [Char.reduceToNat] at bounds
  have notStart : Layout.isNameStart c = false := by
    rw [Layout.isNameStart, Bool.or_eq_false_iff]
    refine ⟨Bool.eq_false_iff.2 fun letter => ?_, decide_eq_false ?_⟩
    · have range := toNat_of_isAlpha letter
      omega
    · rintro rfl
      simp at bounds
  rw [Layout.isName, notStart, Bool.false_and]

theorem isNameLike_of_all_isDigit (h : s.all Char.isDigit = true) : s.IsNameLike := by
  intro c mem
  have digit := List.all_eq_true.1 h c mem
  simp [Layout.isNamePart, Char.isAlphanum, digit]

end Text

namespace ArrayLength

open Text

theorem read_solid {s : Text} (ne : s ≠ []) (solid : s.IsSolid) :
    read s = match Numeral.integer? s with
      | some n => .count n
      | none => .unreadable := by
  rw [read, trim_solid solid]
  simp only [List.isEmpty_eq_false_iff.2 ne]
  rfl

end ArrayLength

namespace Grammar

open Text

/-- White space, perhaps none. -/
structure Gap where
  text : Text := []
  isGap : text.IsGap := by decide

structure Space extends Gap where
  text := [' ']
  ne_nil : text ≠ [] := by decide

def keywords : List String :=
  Qualifier.all.map Qualifier.keyword ++ Precision.all.map Precision.keyword ++
    ["layout", "invariant", "centroid", "precision"]

/-- A declared name, which is neither a keyword nor the name of a built-in type. -/
structure Identifier where
  text : Text
  isName : Layout.isName text = true := by decide
  notKeyword : String.ofList text ∉ keywords := by decide
  notType : ValueType.ofName? (String.ofList text) = none := by decide

structure Digits where
  text : Text
  ne_nil : text ≠ [] := by decide
  all_isDigit : text.all Char.isDigit = true := by decide

/-- The text of layout arguments, which holds no bracket that is set aside and starts no comment or
directive. -/
structure Arguments where
  text : Text
  isFree : ∀ c ∈ ['(', ')', '{', '}', '/', '#'], c ∉ text := by decide

inductive TypeName where
  | value (type : ValueType)
  | struct (name : Identifier)

namespace Identifier

def name (i : Identifier) : String :=
  String.ofList i.text

theorem isNameLike (i : Identifier) : i.text.IsNameLike :=
  isNameLike_of_isName i.isName

theorem ne_nil (i : Identifier) : i.text ≠ [] := by
  intro h
  simpa [h, Layout.isName] using i.isName

end Identifier

namespace Digits

/-- The number that the digits show, unless they are too many. -/
def value? (n : Digits) : Option Int :=
  Numeral.integer? n.text

def IsShort (n : Digits) : Prop :=
  n.text.length ≤ Numeral.maxDigits

instance : DecidablePred IsShort :=
  fun n => inferInstanceAs (Decidable (n.text.length ≤ Numeral.maxDigits))

theorem value?_of_isShort {n : Digits} (h : n.IsShort) :
    n.value? = some ↑(Nat.ofDigitChars 10 n.text 0) := by
  rw [value?, Numeral.integer?_of_all_isDigit n.ne_nil n.all_isDigit]
  exact if_pos h

def read (n : Digits) : ArrayLength :=
  match n.value? with
  | some k => .count k
  | none => .unreadable

theorem isNameLike (n : Digits) : n.text.IsNameLike :=
  isNameLike_of_all_isDigit n.all_isDigit

theorem isSolid (n : Digits) : n.text.IsSolid :=
  n.isNameLike.isSolid

theorem arrayLength_read (n : Digits) : ArrayLength.read n.text = n.read :=
  ArrayLength.read_solid n.ne_nil n.isSolid

end Digits

namespace TypeName

def word : TypeName → Word
  | value type => type.name.toList
  | struct name => name.text

def declared : TypeName → DeclaredType
  | value type => .value type
  | struct _ => .struct

def structName? : TypeName → Option String
  | value _ => none
  | struct name => some name.name

def IsKnown (known : List String) : TypeName → Prop
  | value _ => True
  | struct name => name.name ∈ known

instance (known : List String) : DecidablePred (IsKnown known)
  | value _ => isTrue trivial
  | struct name => inferInstanceAs (Decidable (name.name ∈ known))

end TypeName

theorem isNameLike_of_mem_keywords : ∀ keyword ∈ keywords, IsNameLike keyword.toList := by
  decide

theorem keyword_mem_keywords (q : Qualifier) : q.keyword ∈ keywords := by
  cases q <;> decide

theorem precision_mem_keywords (p : Precision) : p.keyword ∈ keywords := by
  cases p <;> decide

theorem isNameLike_name (type : ValueType) : IsNameLike type.name.toList := by
  have all : ∀ type ∈ ValueType.all, IsNameLike type.name.toList := by decide +kernel
  exact all type (ValueType.mem_all type)

theorem name_ne_nil (type : ValueType) : type.name.toList ≠ [] := by
  have all : ∀ type ∈ ValueType.all, type.name.toList ≠ [] := by decide +kernel
  exact all type (ValueType.mem_all type)

theorem TypeName.isNameLike_word (type : TypeName) : type.word.IsNameLike := by
  cases type with
  | value type => exact isNameLike_name type
  | struct name => exact name.isNameLike

theorem TypeName.word_ne_nil (type : TypeName) : type.word ≠ [] := by
  cases type with
  | value type => exact name_ne_nil type
  | struct name => exact name.ne_nil

/-- Tokens with the white space after each; a token may be left out, and its white space with it. -/
def spell (tokens : List (Option Word × Space)) : Text :=
  tokens.flatMap fun (word?, space) =>
    match word? with
    | some word => word ++ space.text
    | none => []

def AreNames (tokens : List (Option Word × Space)) : Prop :=
  ∀ token ∈ tokens, ∀ word ∈ token.1, word ≠ [] ∧ word.IsNameLike

theorem words_token_append {word : Word} (ne : word ≠ []) (solid : word.IsSolid) (space : Space)
    (rest : Text) : words (word ++ space.text ++ rest) = word :: words rest := by
  rw [words_append_gap_append space.ne_nil space.isGap, words_solid ne solid]
  rfl

theorem words_spell_append {tokens : List (Option Word × Space)} (h : AreNames tokens)
    (rest : Text) : words (spell tokens ++ rest) = tokens.filterMap (·.1) ++ words rest := by
  induction tokens with
  | nil => rfl
  | cons token tokens ih =>
    obtain ⟨first, others⟩ := List.forall_mem_cons.1 h
    obtain ⟨word?, space⟩ := token
    cases word? with
    | none => exact ih others
    | some word =>
      obtain ⟨ne, name⟩ := first word rfl
      rw [spell, List.flatMap_cons, ← spell, List.append_assoc,
        words_token_append ne name.isSolid, ih others]
      rfl

theorem isPlain_spell {tokens : List (Option Word × Space)} (h : AreNames tokens) :
    (spell tokens).IsPlain := by
  intro c mem
  obtain ⟨⟨word?, space⟩, written, mem⟩ := List.mem_flatMap.1 mem
  cases word? with
  | none => cases mem
  | some word =>
    rcases List.mem_append.1 mem with mem | mem
    · exact (h _ written word rfl).2.isPlain c mem
    · exact space.isGap.isPlain c mem

end Grammar

end ShaderSurface
