import ShaderSurface.Proofs.Layout.Alignment
import ShaderSurface.Proofs.Outcome

/-!
# Footprints of nested declarations

The footprint of a member comes from the one of its element, whose type decides: a struct's from its
table, a block's from its own members and a built-in one from the catalogue. A footprint that is
found at some depth of nesting is found at every larger one, and it is sound.
-/

namespace ShaderSurface

open Outcome

/-- A property of declarations that each takes over from its members holds of all of them. -/
theorem Declaration.induction {P : Declaration → Prop}
    (step : ∀ d : Declaration, (∀ member ∈ d.body, P member) → P d) (d : Declaration) : P d := by
  refine step d fun member mem => ?_
  have : sizeOf member < sizeOf d := by
    rcases d with ⟨_, _, _, _, _, _, _, _, _, members⟩
    cases members with
    | none => simp [body] at mem
    | some members =>
      have := List.sizeOf_lt_of_mem (show member ∈ members from mem)
      simp only [Declaration.mk.sizeOf_spec, Option.some.sizeOf_spec]
      omega
  exact Declaration.induction step member
termination_by sizeOf d

namespace Std140

variable {structs : StructTable} {ofStruct ofStruct' : Declaration → Except AnalysisError Footprint}
  {d : Declaration} {f : Footprint}

def elementFootprint (ofStruct : Declaration → Except AnalysisError Footprint) (d : Declaration) :
    Except AnalysisError Footprint :=
  match d.type with
  | .struct => ofStruct d
  | .block => do return aggregate (← d.body.mapM (footprintOver ofStruct))
  | .value type =>
    match ofType? type with
    | some footprint => .ok footprint
    | none => .error (.layout (.noSize type.name d.name))

theorem memberFootprints_eq_mapM (members : List Declaration) :
    memberFootprints ofStruct members = members.mapM (footprintOver ofStruct) := by
  induction members with
  | nil => rw [memberFootprints, List.mapM_nil]; rfl
  | cons member members ih => rw [memberFootprints, List.mapM_cons, ih]

theorem footprintOver_eq (d : Declaration) :
    footprintOver ofStruct d = elementFootprint ofStruct d >>= ofElement d := by
  rcases d with ⟨_, type, name, _, _, _, _, _, _, members⟩
  cases type with
  | struct => simp only [footprintOver, elementFootprint]
  | block =>
    have same : bodyFootprints ofStruct members =
        (members.getD []).mapM (footprintOver ofStruct) := by
      cases members with
      | none => rw [bodyFootprints, Option.getD_none, List.mapM_nil]; rfl
      | some members => rw [bodyFootprints, memberFootprints_eq_mapM, Option.getD_some]
    simp only [footprintOver, elementFootprint, Declaration.body, same, bind_assoc, pure_bind]
  | value type =>
    cases found : ofType? type <;>
      simp [footprintOver, elementFootprint, found, bind, Except.bind]

theorem footprintOver_mono (h : ∀ d f, ofStruct d = .ok f → ofStruct' d = .ok f)
    (d : Declaration) :
    ∀ f, footprintOver ofStruct d = .ok f → footprintOver ofStruct' d = .ok f := by
  induction d using Declaration.induction with
  | step d ih =>
    intro f hf
    rw [footprintOver_eq, bind_eq_ok] at hf ⊢
    obtain ⟨element, helement, hf⟩ := hf
    refine ⟨element, ?_, hf⟩
    unfold elementFootprint at helement ⊢
    split at helement
    · exact h d element helement
    · obtain ⟨fs, hfs, same⟩ := bind_eq_ok.1 helement
      exact bind_eq_ok.2 ⟨fs, mapM_mono ih hfs, same⟩
    · exact helement

theorem structFootprint_mono (h : ∀ d f, ofStruct d = .ok f → ofStruct' d = .ok f)
    (hf : structFootprint structs ofStruct d = .ok f) :
    structFootprint structs ofStruct' d = .ok f := by
  unfold structFootprint at hf ⊢
  cases found : structs.structOf? d with
  | none => simp [found] at hf
  | some struct =>
    simp only [found] at hf ⊢
    obtain ⟨fs, hfs, same⟩ := bind_eq_ok.1 hf
    exact bind_eq_ok.2 ⟨fs, mapM_mono (fun member _ => h member) hfs, same⟩

theorem footprintNested_succ (depth : Nat) (d : Declaration) :
    ∀ f, footprintNested structs depth d = .ok f →
      footprintNested structs (depth + 1) d = .ok f := by
  induction depth generalizing d with
  | zero =>
    refine footprintOver_mono (fun d f hf => structFootprint_mono ?_ hf) d
    intro d f impossible
    cases impossible
  | succ depth ih => exact footprintOver_mono (fun d f hf => structFootprint_mono ih hf) d

theorem footprintNested_mono {depth limit : Nat} (h : depth ≤ limit)
    (hf : footprintNested structs depth d = .ok f) : footprintNested structs limit d = .ok f := by
  induction h with
  | refl => exact hf
  | step _ ih => exact footprintNested_succ _ d f ih

end Std140

end ShaderSurface
