import Mathlib.Data.List.Basic
import Mathlib.Data.List.Induction
import ShaderSurface.Proofs.Declaration.Naming

/-!
# What a list of words gives

Where the names of the known structs are for the type only and hold no square bracket, a word is for
one part of a declaration at most, so that the order in which the parts are tried does not matter:
a word adds to each open part what it gives to that part (`Draft.readWord_eq_withWord`). So a list
of words gives to each part what its first word for that part gives. The name comes from the first
word that stands before a square bracket, or that is for no part that earlier words have left open
(`Draft.readWords_eq_classified`).
-/

namespace ShaderSurface.Draft

variable {known : List String} {words : List Word} {word : Word} {d : Draft}

def qualifierOf? (word : Word) : Option Qualifier :=
  Qualifier.ofKeyword? (String.ofList word)

def typeOf? (known : List String) (word : Word) : Option (DeclaredType × Option String) :=
  if String.ofList word ∈ known then some (.struct, some (String.ofList word))
  else (ValueType.ofName? (String.ofList word)).map fun type => (.value type, none)

def precisionOf? (word : Word) : Option Precision :=
  Precision.ofKeyword? (String.ofList word)

/-- The array length that a word gives: what stands behind its first opening bracket, up to the
first closing one. -/
def lengthOf? (word : Word) : Option ArrayLength :=
  (word.cut? ['[']).map fun (_, after) => .read (after.takeWhile (· ≠ ']'))

namespace Part

def all : List Part := [qualifier, type, centroid, invariant, precision]

theorem mem_all (part : Part) : part ∈ all := by
  cases part <;> decide

instance (known : List String) (part : Part) (word : Word) : Decidable (part.Fits known word) :=
  inferInstanceAs (Decidable (_ ∨ _ ∧ _))

instance (d : Draft) : (part : Part) → Decidable (part.IsFilled d)
  | qualifier => inferInstanceAs (Decidable (d.qualifier.isSome = true))
  | type => inferInstanceAs (Decidable (d.type.isSome = true))
  | centroid => inferInstanceAs (Decidable (d.isCentroid = true))
  | invariant => inferInstanceAs (Decidable (d.isInvariant = true))
  | precision => inferInstanceAs (Decidable (d.precision.isSome = true))

theorem fits_qualifier_iff : qualifier.Fits known word ↔ (qualifierOf? word).isSome := by
  simp [Fits, mem_keywords_qualifier_iff, qualifierOf?]

theorem fits_type_iff : type.Fits known word ↔ (typeOf? known word).isSome := by
  by_cases mem : String.ofList word ∈ known <;> simp [Fits, mem_keywords_type_iff, typeOf?, mem]

theorem fits_centroid_iff : centroid.Fits known word ↔ String.ofList word = "centroid" := by
  simp [Fits, keywords]

theorem fits_invariant_iff : invariant.Fits known word ↔ String.ofList word = "invariant" := by
  simp [Fits, keywords]

theorem fits_precision_iff : precision.Fits known word ↔ (precisionOf? word).isSome := by
  simp [Fits, mem_keywords_precision_iff, precisionOf?]

end Part

/-- The name that a word gives, where some parts are taken: the text before its first opening
bracket, or the whole word, unless it is for a part that is not taken. -/
def nameOf? (known : List String) (taken : Part → Bool) (word : Word) : Option String :=
  match word.cut? ['['] with
  | some (before, _) => if before.isEmpty then none else some (String.ofList before)
  | none =>
    if word.isEmpty || Part.all.any fun part => decide (part.Fits known word) && !taken part then
      none
    else some (String.ofList word)

def isTakenBy (known : List String) (words : List Word) (part : Part) : Bool :=
  words.any fun word => part.Fits known word

/-- The draft that words give, part by part: what the first word for a part gives to it. -/
def classified (known : List String) (words : List Word) : Draft where
  qualifier := words.findSome? qualifierOf?
  type := (words.findSome? (typeOf? known)).map (·.1)
  name := words.zipIdx.findSome? fun (word, i) =>
    nameOf? known (isTakenBy known (words.take i)) word
  length := words.findSome? lengthOf?
  isInvariant := words.any (String.ofList · == "invariant")
  isCentroid := words.any (String.ofList · == "centroid")
  precision := words.findSome? precisionOf?
  structName := (words.findSome? (typeOf? known)).bind (·.2)

theorem isFilled_classified_iff (words : List Word) (part : Part) :
    part.IsFilled (classified known words) ↔ isTakenBy known words part := by
  rw [isTakenBy, List.any_eq_true]
  cases part with
  | qualifier =>
    simp [Part.IsFilled, classified, List.findSome?_isSome_iff, Part.fits_qualifier_iff]
  | type => simp [Part.IsFilled, classified, List.findSome?_isSome_iff, Part.fits_type_iff]
  | centroid => simp [Part.IsFilled, classified, Part.fits_centroid_iff]
  | invariant => simp [Part.IsFilled, classified, Part.fits_invariant_iff]
  | precision =>
    simp [Part.IsFilled, classified, List.findSome?_isSome_iff, Part.fits_precision_iff]

theorem name_classified_append (before after : List Word) :
    (classified known (before ++ after)).name =
      (classified known before).name.or ((after.zipIdx before.length).findSome? fun (word, i) =>
        nameOf? known (isTakenBy known ((before ++ after).take i)) word) := by
  have earlier : ∀ entry ∈ before.zipIdx,
      nameOf? known (isTakenBy known ((before ++ after).take entry.2)) entry.1 =
        nameOf? known (isTakenBy known (before.take entry.2)) entry.1 := by
    intro entry mem
    rw [List.take_append_of_le_length (by simpa using (List.snd_lt_of_mem_zipIdx mem).le)]
  simp only [classified, List.zipIdx_append, List.findSome?_append, Nat.zero_add]
  congr 1
  rw [← List.head?_filterMap, ← List.head?_filterMap]
  exact congrArg List.head? (List.filterMap_congr earlier)

def withWord (known : List String) (d : Draft) (word : Word) : Draft :=
  { d with
    qualifier := d.qualifier.or (qualifierOf? word)
    type := d.type.or ((typeOf? known word).map (·.1))
    name := d.name.or (nameOf? known (fun part => part.IsFilled d) word)
    length := d.length.or (lengthOf? word)
    isInvariant := d.isInvariant || String.ofList word == "invariant"
    isCentroid := d.isCentroid || String.ofList word == "centroid"
    precision := d.precision.or (precisionOf? word)
    structName :=
      if d.type.isSome then d.structName else ((typeOf? known word).bind (·.2)).or d.structName }

theorem name_classified_concat (words : List Word) (word : Word) :
    (classified known (words ++ [word])).name =
      ((classified known words).withWord known word).name := by
  have taken :
      isTakenBy known words = fun part => decide (part.IsFilled (classified known words)) :=
    funext fun part => by simp [isFilled_classified_iff]
  rw [name_classified_append, withWord, ← taken]
  simp

theorem classified_concat (words : List Word) (word : Word) :
    classified known (words ++ [word]) = (classified known words).withWord known word := by
  have name := @name_classified_concat known words word
  have type : (words ++ [word]).findSome? (typeOf? known) =
      (words.findSome? (typeOf? known)).or (typeOf? known word) := by
    simp [List.findSome?_append]
  rw [classified, withWord, Draft.mk.injEq]
  refine ⟨?_, ?_, name, ?_, ?_, ?_, rfl, ?_, ?_, rfl⟩
  · simp [classified, List.findSome?_append]
  · rw [type, Option.map_or]
    rfl
  · simp [classified, List.findSome?_append]
  · simp [classified]
  · simp [classified]
  · simp [classified, List.findSome?_append]
  · rw [type, classified]
    cases words.findSome? (typeOf? known) <;> simp

/-- What a draft gives is what a later draft gives. -/
structure IsKeptIn (d later : Draft) : Prop where
  qualifier : d.qualifier.isSome → later.qualifier = d.qualifier
  type : d.type.isSome → later.type = d.type
  name : d.name.isSome → later.name = d.name
  length : d.length.isSome → later.length = d.length
  isInvariant : d.isInvariant → later.isInvariant
  isCentroid : d.isCentroid → later.isCentroid
  precision : d.precision.isSome → later.precision = d.precision
  structName : d.structName.isSome → later.structName = d.structName

theorem classified_isKeptIn (before after : List Word) :
    (classified known before).IsKeptIn (classified known (before ++ after)) := by
  have first {α : Type} (f : Word → Option α) (given : (before.findSome? f).isSome) :
      (before ++ after).findSome? f = before.findSome? f := by
    rw [List.findSome?_append, Option.or_of_isSome given]
  constructor
  case qualifier => exact first qualifierOf?
  case type =>
    intro given
    simp only [classified, Option.isSome_map] at given ⊢
    rw [first _ given]
  case name =>
    intro given
    rw [name_classified_append, Option.or_of_isSome given]
  case length => exact first lengthOf?
  case isInvariant =>
    intro given
    simp only [classified, List.any_append] at given ⊢
    rw [given, Bool.true_or]
  case isCentroid =>
    intro given
    simp only [classified, List.any_append] at given ⊢
    rw [given, Bool.true_or]
  case precision => exact first precisionOf?
  case structName =>
    intro given
    simp only [classified] at given ⊢
    rw [first _ (Option.isSome_of_isSome_bind given)]

/-- The names of the known structs hold no square bracket and are for no part but the type. -/
def AreTypesOnly (known : List String) : Prop :=
  ∀ name ∈ known, '[' ∉ name.toList ∧ ∀ part : Part, name ∈ part.keywords → part = .type

theorem withWord_of_taken (taken : ∀ part : Part, part.Fits known word → part.IsFilled d) :
    d.withWord known word =
      { d with
        name := d.name.or (nameOf? known (fun part => part.IsFilled d) word)
        length := d.length.or (lengthOf? word) } := by
  have keeps {α : Type} {x y : Option α} (h : y.isSome → x.isSome) : x.or y = x := by
    cases x <;> cases y <;> simp_all
  have qualifier := keeps fun gives => taken .qualifier (Part.fits_qualifier_iff.2 gives)
  have precision := keeps fun gives => taken .precision (Part.fits_precision_iff.2 gives)
  have invariant : (d.isInvariant || String.ofList word == "invariant") = d.isInvariant := by
    have := fun same => taken .invariant (Part.fits_invariant_iff.2 same)
    cases flag : d.isInvariant <;> simp_all [Part.IsFilled]
  have centroid : (d.isCentroid || String.ofList word == "centroid") = d.isCentroid := by
    have := fun same => taken .centroid (Part.fits_centroid_iff.2 same)
    cases flag : d.isCentroid <;> simp_all [Part.IsFilled]
  have type : d.type.isSome ∨ typeOf? known word = none := by
    cases gives : typeOf? known word with
    | none => exact .inr rfl
    | some pair => exact .inl (taken .type (Part.fits_type_iff.2 (Option.isSome_of_eq_some gives)))
  rw [withWord, qualifier, precision, invariant, centroid]
  rcases type with filled | none
  · obtain ⟨type, filled⟩ := Option.isSome_iff_exists.1 filled
    simp [filled]
  · simp [none]

theorem isFilled_of_gives_none (qualifier : d.qualifier = none → qualifierOf? word = none)
    (type : d.type = none → typeOf? known word = none)
    (centroid : d.isCentroid = false → String.ofList word ≠ "centroid")
    (invariant : d.isInvariant = false → String.ofList word ≠ "invariant")
    (precision : d.precision = none → precisionOf? word = none) (part : Part)
    (fits : part.Fits known word) : part.IsFilled d := by
  by_contra isOpen
  cases part with
  | qualifier =>
    have none := qualifier (Option.not_isSome_iff_eq_none.1 isOpen)
    simp [Part.fits_qualifier_iff, none] at fits
  | type =>
    have none := type (Option.not_isSome_iff_eq_none.1 isOpen)
    simp [Part.fits_type_iff, none] at fits
  | centroid => exact centroid (Bool.eq_false_iff.2 isOpen) (Part.fits_centroid_iff.1 fits)
  | invariant =>
    exact invariant (Bool.eq_false_iff.2 isOpen) (Part.fits_invariant_iff.1 fits)
  | precision =>
    have none := precision (Option.not_isSome_iff_eq_none.1 isOpen)
    simp [Part.fits_precision_iff, none] at fits

/-- A word without square brackets is a name where it is for no open part. -/
theorem nameOf?_of_taken (free : '[' ∉ word)
    (taken : ∀ part : Part, part.Fits known word → part.IsFilled d) :
    nameOf? known (fun part => part.IsFilled d) word =
      if word.isEmpty then none else some (String.ofList word) := by
  have none : (Part.all.any fun part =>
      decide (part.Fits known word) && !decide (part.IsFilled d)) = false := by
    simpa using fun part _ => taken part
  rw [nameOf?, Text.cut?_of_not_mem free, none, Bool.or_false]

section Apart

variable (apart : AreTypesOnly known)
include apart

theorem Part.eq_of_fits {part part' : Part} (h : part.Fits known word)
    (h' : part'.Fits known word) : part = part' := by
  have disjoint : ∀ part ∈ all, ∀ part' ∈ all, ∀ s ∈ part.keywords, s ∈ part'.keywords →
      part = part' := by decide +kernel
  rcases h with h | ⟨rfl, h⟩
  · rcases h' with h' | ⟨rfl, h'⟩
    · exact disjoint part (mem_all part) part' (mem_all part') _ h h'
    · exact (apart _ h').2 part h
  · rcases h' with h' | ⟨rfl, h'⟩
    · exact ((apart _ h).2 part' h').symm
    · rfl

theorem Part.not_mem_of_fits {part : Part} (h : part.Fits known word) : '[' ∉ word := by
  have free : ∀ part ∈ all, ∀ s ∈ part.keywords, '[' ∉ s.toList := by decide +kernel
  rw [← @String.toList_ofList word]
  rcases h with h | ⟨-, h⟩
  · exact free part (mem_all part) _ h
  · exact (apart _ h).1

theorem gives_of_open (d : Draft) {part : Part} (fits : part.Fits known word)
    (isOpen : ¬part.IsFilled d) :
    (part ≠ .qualifier → qualifierOf? word = none) ∧
      (part ≠ .type → typeOf? known word = none) ∧
      (part ≠ .centroid → String.ofList word ≠ "centroid") ∧
      (part ≠ .invariant → String.ofList word ≠ "invariant") ∧
      (part ≠ .precision → precisionOf? word = none) ∧
      lengthOf? word = none ∧ nameOf? known (fun part => part.IsFilled d) word = none := by
  have only {other : Part} (ne : part ≠ other) : ¬other.Fits known word :=
    fun h => ne (Part.eq_of_fits apart fits h)
  have uncut := Text.cut?_of_not_mem (Part.not_mem_of_fits apart fits)
  have blocked : (Part.all.any fun part =>
      decide (part.Fits known word) && !decide (part.IsFilled d)) = true :=
    List.any_eq_true.2 ⟨part, part.mem_all, by simp [fits, isOpen]⟩
  refine ⟨fun ne => ?_, fun ne => ?_, fun ne => mt Part.fits_centroid_iff.2 (only ne),
    fun ne => mt Part.fits_invariant_iff.2 (only ne), fun ne => ?_, ?_, ?_⟩
  · exact Option.not_isSome_iff_eq_none.1 (mt Part.fits_qualifier_iff.2 (only ne))
  · exact Option.not_isSome_iff_eq_none.1 (mt Part.fits_type_iff.2 (only ne))
  · exact Option.not_isSome_iff_eq_none.1 (mt Part.fits_precision_iff.2 (only ne))
  · rw [lengthOf?, uncut, Option.map_none]
  · simp only [nameOf?, uncut, blocked, Bool.or_true, if_true]

/-- A word adds to each open part what it gives to that part. -/
theorem readWord_eq_withWord (d : Draft) (word : Word) :
    readWord known d word = d.withWord known word := by
  have uncut (h : ∀ before after, word.cut? ['['] = some (before, after) → False) : '[' ∉ word :=
    Text.not_mem_of_cut?_eq_none (Option.eq_none_iff_forall_ne_some.2 fun pair => h pair.1 pair.2)
  fun_cases readWord known d word with
  | case1 text q found =>
    obtain ⟨vacant, gives⟩ : d.qualifier = none ∧ qualifierOf? word = some q := Prod.mk.inj found
    have fits : Part.qualifier.Fits known word := Part.fits_qualifier_iff.2 (by simp [gives])
    have others := gives_of_open apart d fits (by simp [Part.IsFilled, vacant])
    simp [withWord, vacant, gives, others]
  | case2 text found =>
    obtain ⟨vacant, mem⟩ : d.type = none ∧ text ∈ known := by simpa using found
    have gives : typeOf? known word = some (.struct, some text) := if_pos mem
    have fits : Part.type.Fits known word := Part.fits_type_iff.2 (by simp [gives])
    have others := gives_of_open apart d fits (by simp [Part.IsFilled, vacant])
    simp [withWord, vacant, gives, others]
  | case3 text notKnown type found =>
    obtain ⟨vacant, named⟩ := Prod.mk.inj found
    have gives : typeOf? known word = some (.value type, none) := by
      rw [typeOf?, if_neg (by simpa [vacant] using notKnown), named, Option.map_some]
    have fits : Part.type.Fits known word := Part.fits_type_iff.2 (by simp [gives])
    have others := gives_of_open apart d fits (by simp [Part.IsFilled, vacant])
    simp [withWord, vacant, gives, others]
  | case4 text _ before after cut =>
    have bracket : '[' ∈ word := by
      rw [Text.eq_of_cut? cut]
      simp
    have taken (part : Part) (fits : part.Fits known word) : part.IsFilled d :=
      absurd bracket (Part.not_mem_of_fits apart fits)
    rw [withWord_of_taken taken]
    simp [readSubscript, nameOf?, lengthOf?, cut, Option.orElse_eq_or]
  | case5 text _ found =>
    obtain ⟨vacant, same⟩ : d.isCentroid = false ∧ String.ofList word = "centroid" := by
      simpa using found
    have fits : Part.centroid.Fits known word := Part.fits_centroid_iff.2 same
    have others := gives_of_open apart d fits (by simp [Part.IsFilled, vacant])
    simp [withWord, same, others]
  | case6 text _ _ found =>
    obtain ⟨vacant, same⟩ : d.isInvariant = false ∧ String.ofList word = "invariant" := by
      simpa using found
    have fits : Part.invariant.Fits known word := Part.fits_invariant_iff.2 same
    have others := gives_of_open apart d fits (by simp [Part.IsFilled, vacant])
    simp [withWord, same, others]
  | case7 text _ _ _ p found =>
    obtain ⟨vacant, gives⟩ : d.precision = none ∧ precisionOf? word = some p := Prod.mk.inj found
    have fits : Part.precision.Fits known word := Part.fits_precision_iff.2 (by simp [gives])
    have others := gives_of_open apart d fits (by simp [Part.IsFilled, vacant])
    simp [withWord, vacant, gives, others]
  | case8 text notKnown notCentroid notInvariant named notQualifier notType cut notPrecision
  | case9 text notKnown notCentroid notInvariant named notQualifier notType cut notPrecision =>
    -- every part that the word is for is filled in, since the word would have gone there
    have taken : ∀ part : Part, part.Fits known word → part.IsFilled d := by
      refine isFilled_of_gives_none (fun vacant => ?_) (fun vacant => ?_) (fun vacant => ?_)
        (fun vacant => ?_) fun vacant => ?_
      · exact Option.eq_none_iff_forall_ne_some.2 fun q gives =>
          notQualifier q (Prod.ext vacant gives)
      · have none : ValueType.ofName? (String.ofList word) = none :=
          Option.eq_none_iff_forall_ne_some.2 fun type named =>
            notType type (Prod.ext vacant named)
        rw [typeOf?, if_neg (by simpa [vacant] using notKnown), none, Option.map_none]
      · simpa [vacant] using notCentroid
      · simpa [vacant] using notInvariant
      · exact Option.eq_none_iff_forall_ne_some.2 fun p gives =>
          notPrecision p (Prod.ext vacant gives)
    have noLength : lengthOf? word = none := by
      rw [lengthOf?, Text.cut?_of_not_mem (uncut cut), Option.map_none]
    rw [withWord_of_taken taken, nameOf?_of_taken (uncut cut) taken, noLength, Option.or_none]
    rcases d with ⟨_, _, _ | _⟩ <;> simp_all [text]

theorem readWords_eq (words : List Word) : readWords known words {} = classified known words := by
  induction words using List.reverseRecOn with
  | nil => rfl
  | append_singleton words word ih =>
    calc readWords known (words ++ [word]) {}
      _ = readWord known (readWords known words {}) word := List.foldl_append
      _ = (classified known words).withWord known word := by rw [ih, readWord_eq_withWord apart]
      _ = classified known (words ++ [word]) := (classified_concat words word).symm

end Apart

/-- Where the names of the known structs are for the type only and hold no square bracket, words
give to each part what the first of them for that part gives, and what words give is kept when more
words follow. -/
theorem readWords_eq_classified (known : List String) (apart : AreTypesOnly known)
    (words : List Word) :
    readWords known words {} = classified known words ∧
      ∀ before after, words = before ++ after →
        (readWords known before {}).IsKeptIn (readWords known words {}) := by
  refine ⟨readWords_eq apart words, fun before after split => ?_⟩
  rw [readWords_eq apart, readWords_eq apart, split]
  exact classified_isKeptIn before after

/-- A repeated qualifier is the name, and what is in the brackets is the length all the same. -/
theorem readWords_repeated_qualifier :
    AreTypesOnly ["Light"] ∧
      readWords ["Light"] (["uniform", "Light", "uniform", "lights[4]", "highp"].map String.toList)
          {} =
        { qualifier := some .uniform, type := some .struct, name := some "uniform",
          length := some (.count 4), precision := some .high, structName := some "Light" } := by
  have noKeyword : ∀ part ∈ Part.all, "Light" ∉ part.keywords := by decide +kernel
  have apart : AreTypesOnly ["Light"] := by
    intro name mem
    obtain rfl := List.mem_singleton.1 mem
    exact ⟨by decide, fun part keyword => absurd keyword (noKeyword part part.mem_all)⟩
  exact ⟨apart, (readWords_eq_classified ["Light"] apart _).1.trans (by decide +kernel)⟩

end ShaderSurface.Draft
