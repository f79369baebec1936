import ShaderSurface.Proofs.Declaration.Filling

/-!
# What names a declaration

A keyword, or the name of a type, fills in a part of a declaration. It becomes the name only where
it stands before a square bracket, or where an earlier word is for the same part
(`Draft.isNaming_of_readWords`).
-/

namespace ShaderSurface.Draft

variable {known : List String} {words : List Word} {word : Word} {d : Draft} {name : String}

inductive Part where
  | qualifier
  | type
  | centroid
  | invariant
  | precision
  deriving DecidableEq, Repr

namespace Part

def keywords : Part → List String
  | qualifier => Qualifier.all.map Qualifier.keyword
  | type => ValueType.all.map ValueType.name
  | centroid => ["centroid"]
  | invariant => ["invariant"]
  | precision => Precision.all.map Precision.keyword

/-- The word is for the part; the name of a known struct is for the type. -/
def Fits (known : List String) (part : Part) (word : Word) : Prop :=
  String.ofList word ∈ part.keywords ∨ part = type ∧ String.ofList word ∈ known

def IsFilled (d : Draft) : Part → Prop
  | qualifier => d.qualifier.isSome
  | type => d.type.isSome
  | centroid => d.isCentroid
  | invariant => d.isInvariant
  | precision => d.precision.isSome

theorem mem_keywords_qualifier_iff {s : String} :
    s ∈ keywords qualifier ↔ (Qualifier.ofKeyword? s).isSome := by
  simp [keywords, Qualifier.ofKeyword?]

theorem mem_keywords_type_iff {s : String} :
    s ∈ keywords type ↔ (ValueType.ofName? s).isSome := by
  simp [keywords, ValueType.ofName?]

theorem mem_keywords_precision_iff {s : String} :
    s ∈ keywords precision ↔ (Precision.ofKeyword? s).isSome := by
  simp [keywords, Precision.ofKeyword?]

end Part

/-- A word that names a draft stands before a square bracket, or all parts that it is for are filled
in. -/
theorem isFilled_of_named_readWord (vacant : d.name = none)
    (h : (readWord known d word).name = some name) :
    (∃ after, word = name.toList ++ '[' :: after) ∨
      word = name.toList ∧ ∀ part : Part, part.Fits known word → part.IsFilled d := by
  revert h
  fun_cases readWord known d word with
  | case4 text _ before after cut =>
    intro h
    have same := Text.eq_of_cut? cut
    rw [List.append_assoc, List.singleton_append] at same
    simp only [readSubscript, vacant, Option.none_or, Option.orElse_eq_orElse, Option.orElse_eq_or]
      at h
    split at h
    · cases h
    · obtain rfl := Option.some.inj h
      exact .inl ⟨after, by rw [String.toList_ofList, same]⟩
  | case8 text notKnown notCentroid notInvariant _ notQualifier notType _ notPrecision =>
    intro h
    obtain rfl := Option.some.inj h
    refine .inr ⟨(String.toList_ofList).symm, fun part fits => ?_⟩
    -- an open part would have taken the word
    by_contra isOpen
    cases part with
    | qualifier =>
      obtain mem | ⟨⟨⟩, -⟩ := fits
      obtain ⟨q, found⟩ := Option.isSome_iff_exists.1 (Part.mem_keywords_qualifier_iff.1 mem)
      exact notQualifier q (Prod.ext (Option.not_isSome_iff_eq_none.1 isOpen) found)
    | type =>
      have vacant := Option.not_isSome_iff_eq_none.1 isOpen
      obtain mem | ⟨-, mem⟩ := fits
      · obtain ⟨type, found⟩ := Option.isSome_iff_exists.1 (Part.mem_keywords_type_iff.1 mem)
        exact notType type (Prod.ext vacant found)
      · exact notKnown (by simp [vacant, text, mem])
    | centroid =>
      obtain mem | ⟨⟨⟩, -⟩ := fits
      exact notCentroid (by simp_all [Part.IsFilled, Part.keywords, text])
    | invariant =>
      obtain mem | ⟨⟨⟩, -⟩ := fits
      exact notInvariant (by simp_all [Part.IsFilled, Part.keywords, text])
    | precision =>
      obtain mem | ⟨⟨⟩, -⟩ := fits
      obtain ⟨p, found⟩ := Option.isSome_iff_exists.1 (Part.mem_keywords_precision_iff.1 mem)
      exact notPrecision p (Prod.ext (Option.not_isSome_iff_eq_none.1 isOpen) found)
  | _ => simp [vacant]

theorem name_readWords (named : d.name = some name) :
    (readWords known words d).name = some name := by
  refine readWords_induction (P := fun later => later.name = some name) ?_ named
  rintro word - middle later kept (_ | _ | _ | _ | _ | _ | _ | ⟨vacant⟩ | _)
  case subscript => simp [readSubscript, kept]
  case name => cases vacant.symm.trans kept
  all_goals exact kept

theorem exists_of_named_readWords (vacant : d.name = none)
    (h : (readWords known words d).name = some name) :
    ∃ before word after, words = before ++ word :: after ∧
      (readWords known before d).name = none ∧
      (readWord known (readWords known before d) word).name = some name := by
  induction words generalizing d with
  | nil => cases vacant.symm.trans h
  | cons word words ih =>
    cases first : (readWord known d word).name with
    | none =>
      obtain ⟨before, word', after, rfl, vacant', named⟩ := ih first h
      exact ⟨word :: before, word', after, rfl, vacant', named⟩
    | some name' =>
      have same : some name' = some name := (name_readWords first).symm.trans h
      exact ⟨[], word, words, rfl, vacant, first.trans same⟩

end ShaderSurface.Draft
