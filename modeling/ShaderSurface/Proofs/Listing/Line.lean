import ShaderSurface.Declaration.Listing
import ShaderSurface.Proofs.Grammar.Drafts
import ShaderSurface.Proofs.Outcome

/-!
# The line of a plain declaration

A declaration without a body is listed as one line: its layout arguments in parentheses, if there
are any, and behind them words that are joined by blanks (`Declaration.listing_eq`). Each of these
words is solid and holds no character that structures a source, whatever the amount is.
-/

namespace ShaderSurface

open Text Grammar

/-- The text may stand as layout arguments in a listing: it is not empty, and there is no white
space in it and no character that ends it, is set aside or starts a comment or a directive. -/
def Text.IsListable (s : Text) : Prop :=
  s ≠ [] ∧ s.IsSolid ∧ ∀ c ∈ ['(', ')', '{', '}', '/', '#'], c ∉ s

instance : DecidablePred Text.IsListable := fun s =>
  inferInstanceAs (Decidable (s ≠ [] ∧ s.IsSolid ∧ ∀ c ∈ ['(', ')', '{', '}', '/', '#'], c ∉ s))

namespace Grammar

/-- The name may be declared: it is an identifier and neither a keyword nor the name of a built-in
type. -/
def IsIdentifier (name : String) : Prop :=
  Layout.isName name.toList = true ∧ name ∉ keywords ∧ ValueType.ofName? name = none

instance : DecidablePred IsIdentifier := fun name =>
  inferInstanceAs (Decidable
    (Layout.isName name.toList = true ∧ name ∉ keywords ∧ ValueType.ofName? name = none))

theorem IsIdentifier.exists_eq {name : String} (h : IsIdentifier name) :
    ∃ i : Identifier, i.name = name := by
  obtain ⟨isName, notKeyword, notType⟩ := h
  rw [← String.ofList_toList (s := name)] at notKeyword notType
  exact ⟨⟨name.toList, isName, notKeyword, notType⟩, String.ofList_toList⟩

end Grammar

namespace Declaration

/-- What is true of an input, an output or a uniform that is no block and whose type is built in or
one of the known structs. -/
structure IsListable (known : List String) (d : Declaration) : Prop where
  storage : d.qualifier ≠ .struct
  noBlock : d.type ≠ .block
  noBody : d.members = none
  struct : d.type = .struct ↔ d.structName.isSome
  structName : ∀ name ∈ d.structName, name ∈ known ∧ IsIdentifier name
  name : IsIdentifier d.name
  amount : Numeral.isWritable d.amount = true
  layout : ∀ text ∈ d.layout, Text.IsListable text.toList

instance (known : List String) : DecidablePred (IsListable known) := fun d =>
  decidable_of_iff
    (d.qualifier ≠ .struct ∧ d.type ≠ .block ∧ d.members = none ∧
      (d.type = .struct ↔ d.structName.isSome) ∧
      (∀ name ∈ d.structName, name ∈ known ∧ IsIdentifier name) ∧ IsIdentifier d.name ∧
      Numeral.isWritable d.amount = true ∧ ∀ text ∈ d.layout, Text.IsListable text.toList) <| by
    constructor
    · rintro ⟨storage, noBlock, noBody, struct, structName, name, amount, layout⟩
      exact { storage, noBlock, noBody, struct, structName, name, amount, layout }
    · rintro ⟨storage, noBlock, noBody, struct, structName, name, amount, layout⟩
      exact ⟨storage, noBlock, noBody, struct, structName, name, amount, layout⟩

def layoutText (d : Declaration) : Option Text :=
  d.layout.map String.toList

def typeWord (d : Declaration) : Word :=
  (d.typeLabel?.getD "").toList

def nameWord (d : Declaration) : Word :=
  d.name.toList ++ if d.isArray then '[' :: ((toString d.amount).toList ++ [']']) else []

def lineWords (d : Declaration) : List Word :=
  storageWords d.isInvariant d.isCentroid d.qualifier ++
    (d.precision.map fun p => p.keyword.toList).toList ++ [d.typeWord] ++ [d.nameWord]

def lineFront (d : Declaration) : Text :=
  if d.layout.isSome then "layout".toList else []

def lineBack (d : Declaration) : Text :=
  (if d.layout.isSome then [' '] else []) ++ [' '].intercalate d.lineWords

def line (d : Declaration) (arguments : Option Text) : Text :=
  d.lineFront ++ bracketed '(' ')' arguments ++ d.lineBack

variable {known : List String} {d : Declaration}

theorem IsListable.exists_typeName (h : d.IsListable known) :
    ∃ type : TypeName, type.IsKnown known ∧ d.type = type.declared ∧
      d.structName = type.structName? ∧ d.typeWord = type.word := by
  cases type : d.type with
  | block => exact absurd type h.noBlock
  | struct =>
    obtain ⟨name, named⟩ := Option.isSome_iff_exists.1 (h.struct.1 type)
    obtain ⟨mem, isName⟩ := h.structName name named
    obtain ⟨i, rfl⟩ := isName.exists_eq
    refine ⟨.struct i, mem, rfl, named, ?_⟩
    simp [typeWord, typeLabel?, isStruct, type, named, TypeName.word, Identifier.name]
  | value type' =>
    have unnamed : d.structName = none := by
      rw [← Option.not_isSome_iff_eq_none, ← h.struct, type]
      simp
    refine ⟨.value type', trivial, rfl, unnamed, ?_⟩
    simp [typeWord, typeLabel?, isStruct, type, DeclaredType.name, TypeName.word]

theorem listedName_eq (writable : Numeral.isWritable d.amount = true) :
    d.listedName = .ok (String.ofList d.nameWord) := by
  unfold listedName nameWord
  split
  · simp [Numeral.text?, writable, String.ofList_append, String.append_assoc]
  · simp

theorem map_leadingWords (filled : ∀ text ∈ d.layout, text ≠ "") :
    (leadingWords none d).map String.toList =
      (d.layoutText.map fun text => "layout".toList ++ bracketed '(' ')' (some text)).toList ++
        (storageWords d.isInvariant d.isCentroid d.qualifier ++
          (d.precision.map fun p => p.keyword.toList).toList) := by
  have kept : d.layout.filter (· ≠ "") = d.layout := by
    cases layout : d.layout with
    | none => rfl
    | some text => simp [Option.filter, filled text layout]
  rw [leadingWords, kept, layoutText]
  cases d.layout <;> cases d.isInvariant <;> cases d.isCentroid <;> cases d.precision <;>
    simp [storageWords, bracketed]

theorem intercalate_eq (filled : ∀ text ∈ d.layout, text ≠ "") :
    " ".intercalate (leadingWords none d ++ [String.ofList d.typeWord] ++
      [String.ofList d.nameWord]) = String.ofList (d.line d.layoutText) := by
  have blank : " ".toList = [' '] := rfl
  apply String.toList_injective
  rw [String.toList_intercalate, List.map_append, List.map_append, map_leadingWords filled, blank,
    String.toList_ofList]
  simp only [List.map_cons, List.map_nil, String.toList_ofList, List.append_assoc]
  cases layout : d.layout with
  | none => simp [line, lineFront, lineBack, layoutText, layout, bracketed, lineWords]
  | some text =>
    simp [line, lineFront, lineBack, layoutText, layout, bracketed, lineWords,
      List.intercalate_cons_of_ne_nil]

theorem headline_eq (h : d.IsListable known) :
    headline none d = .ok (String.ofList (d.line d.layoutText)) := by
  have filled : ∀ text ∈ d.layout, text ≠ "" := by
    rintro text mem rfl
    exact (h.layout "" mem).1 rfl
  obtain ⟨type, -, declared, structName, word⟩ := h.exists_typeName
  rw [← intercalate_eq filled, headline, listedName_eq h.amount, word, declared, structName]
  cases type with
  | value type => simp [TypeName.declared, TypeName.word]
  | struct name =>
    simp [TypeName.declared, TypeName.word, TypeName.structName?, Identifier.name]

/-- A declaration without a body is listed as its line. -/
theorem listing_eq (h : d.IsListable known) (indent : String) :
    listing indent none d = .ok (String.ofList (d.line d.layoutText)) := by
  have same : listing indent none d = headline none d >>= fun line =>
      bodyListing indent d.qualifier d.members >>= fun body => .ok (line ++ body) := by
    cases d
    rfl
  rw [same, headline_eq h, h.noBody, Outcome.bind_ok, bodyListing, Outcome.bind_ok,
    String.append_empty]

theorem areNames_storageWords (invariant centroid : Bool) (q : Qualifier) :
    ∀ word ∈ storageWords invariant centroid q, word ≠ [] ∧ word.IsNameLike := by
  cases invariant <;> cases centroid <;> cases q <;> decide

theorem isSolid_subscript (n : Int) :
    IsSolid ('[' :: ((toString n).toList ++ [']'])) ∧
      IsPlain ('[' :: ((toString n).toList ++ [']'])) := by
  have brackets : ∀ c ∈ ['[', ']', '-'], isBlank c = false ∧ c ∉ structural := by decide
  have each : ∀ c ∈ '[' :: ((toString n).toList ++ [']']), isBlank c = false ∧ c ∉ structural := by
    intro c mem
    rcases List.mem_cons.1 mem with rfl | mem
    · exact brackets '[' (by decide)
    rcases List.mem_append.1 mem with mem | mem
    · rcases Numeral.isDigit_of_mem_toString mem with rfl | digit
      · exact brackets '-' (by decide)
      · have name : IsNameLike [c] := isNameLike_of_all_isDigit (by simp [digit])
        exact ⟨name.isSolid c List.mem_cons_self, name.isPlain c List.mem_cons_self⟩
    · rw [List.mem_singleton.1 mem]
      exact brackets ']' (by decide)
  exact ⟨fun c mem => (each c mem).1, fun c mem => (each c mem).2⟩

theorem IsListable.areWords (h : d.IsListable known) :
    ∀ word ∈ d.lineWords, word ≠ [] ∧ word.IsSolid ∧ word.IsPlain := by
  have ofName {word : Word} (name : word ≠ [] ∧ word.IsNameLike) :
      word ≠ [] ∧ word.IsSolid ∧ word.IsPlain :=
    ⟨name.1, name.2.isSolid, name.2.isPlain⟩
  obtain ⟨type, -, -, -, typed⟩ := h.exists_typeName
  obtain ⟨i, named⟩ := h.name.exists_eq
  have text : d.name.toList = i.text := by rw [← named, Identifier.name, String.toList_ofList]
  simp only [lineWords, List.forall_mem_append, List.forall_mem_singleton, typed]
  refine ⟨⟨⟨fun word mem => ofName (areNames_storageWords _ _ _ word mem), ?_⟩,
    ofName ⟨type.word_ne_nil, type.isNameLike_word⟩⟩, ?_⟩
  · intro word mem
    obtain ⟨p, -, rfl⟩ := Option.map_eq_some_iff.1 (Option.mem_toList.1 mem)
    have all : ∀ p : Precision, p.keyword.toList ≠ [] ∧ IsNameLike p.keyword.toList := by
      intro p
      cases p <;> decide
    exact ofName (all p)
  · rw [nameWord, text]
    obtain ⟨solid, plain⟩ := isSolid_subscript d.amount
    refine ⟨by simp [i.ne_nil], ?_, ?_⟩ <;> split
    · exact i.isNameLike.isSolid.append solid
    · exact i.isNameLike.isSolid.append (List.forall_mem_nil _)
    · exact isPlain_append.2 ⟨i.isNameLike.isPlain, plain⟩
    · exact isPlain_append.2 ⟨i.isNameLike.isPlain, isPlain_nil⟩

end Declaration

end ShaderSurface
