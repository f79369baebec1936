import ShaderSurface.Declaration.Draft
import ShaderSurface.Proofs.Text.Cutting

/-!
# What words fill in

A word fills in one part of a draft that is still open, or is passed over. What holds of a draft and
is kept by every word is kept by a list of words. No word touches the layout or the members.
-/

namespace ShaderSurface.Draft

variable {known : List String} {words : List Word}

/-- What a word can do to a draft, with the part that must be open for it. -/
inductive FillsIn (known : List String) (word : Word) (d : Draft) : Draft → Prop
  | qualifier (vacant : d.qualifier = none) (q : Qualifier) :
    FillsIn known word d { d with qualifier := some q }
  | structName (vacant : d.type = none) (mem : String.ofList word ∈ known) :
    FillsIn known word d { d with type := some .struct, structName := some (String.ofList word) }
  | valueType (vacant : d.type = none) (type : ValueType) :
    FillsIn known word d { d with type := some (.value type) }
  | subscript {before after : Text} (same : word = before ++ '[' :: after) (free : '[' ∉ before) :
    FillsIn known word d (d.readSubscript before after)
  | centroid (vacant : d.isCentroid = false) : FillsIn known word d { d with isCentroid := true }
  | invariant (vacant : d.isInvariant = false) :
    FillsIn known word d { d with isInvariant := true }
  | precision (vacant : d.precision = none) (p : Precision) :
    FillsIn known word d { d with precision := some p }
  | name (vacant : d.name = none) (ne : word ≠ []) (free : '[' ∉ word) :
    FillsIn known word d { d with name := some (String.ofList word) }
  | passed : FillsIn known word d d

theorem fillsIn_readWord (known : List String) (d : Draft) (word : Word) :
    FillsIn known word d (readWord known d word) := by
  have uncut (h : ∀ before after, word.cut? ['['] = some (before, after) → False) : '[' ∉ word :=
    Text.not_mem_of_cut?_eq_none (Option.eq_none_iff_forall_ne_some.2 fun pair => h pair.1 pair.2)
  fun_cases readWord known d word with
  | case1 text q found => exact .qualifier (Prod.mk.inj found).1 q
  | case2 text found =>
    simp only [Bool.and_eq_true, Option.isNone_iff_eq_none, List.contains_iff_mem] at found
    exact .structName found.1 found.2
  | case3 text _ type found => exact .valueType (Prod.mk.inj found).1 type
  | case4 text _ before after cut =>
    have same := Text.eq_of_cut? cut
    rw [List.append_assoc, List.singleton_append] at same
    exact .subscript same (Text.not_mem_of_cut? cut)
  | case5 text _ found => exact .centroid (by simpa using (Bool.and_eq_true_iff.1 found).1)
  | case6 text _ _ found => exact .invariant (by simpa using (Bool.and_eq_true_iff.1 found).1)
  | case7 text _ _ _ p found => exact .precision (Prod.mk.inj found).1 p
  | case8 text _ _ _ found _ _ apart =>
    have vacant := Bool.and_eq_true_iff.1 found
    exact .name (by simpa using vacant.1) (by simpa using vacant.2) (uncut apart)
  | case9 => exact .passed

theorem readWords_induction {P : Draft → Prop} {d : Draft}
    (step : ∀ word ∈ words, ∀ d later, P d → FillsIn known word d later → P later) (start : P d) :
    P (readWords known words d) := by
  induction words generalizing d with
  | nil => exact start
  | cons word words ih =>
    obtain ⟨first, others⟩ := List.forall_mem_cons.1 step
    exact ih others (first d _ start (fillsIn_readWord known d word))

theorem frame_readWords (known : List String) (words : List Word) (d : Draft) :
    (readWords known words d).layout = d.layout ∧
      (readWords known words d).members = d.members := by
  refine readWords_induction (P := fun later => later.layout = d.layout ∧ later.members = d.members)
    ?_ ⟨rfl, rfl⟩
  rintro word - middle later kept (_ | _)
  all_goals exact kept

end ShaderSurface.Draft
