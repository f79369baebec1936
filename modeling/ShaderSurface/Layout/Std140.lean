import ShaderSurface.Keyed
import ShaderSurface.Layout.Error

/-!
# The std140 layout of blocks

Each member of a block has a size and an alignment in bytes, its footprint. Members are placed one
after another, each at the lowest multiple of its alignment that is not below the end of the one
before. Array elements and structs are padded to the alignment of a four-component vector.
-/

namespace ShaderSurface

abbrev StructTable := Keyed String Declaration

def StructTable.ofDeclarations (declarations : List Declaration) : StructTable :=
  Keyed.ofPairs ((declarations.filter (·.qualifier = .struct)).map fun d => (d.name, d))

def StructTable.structOf? (structs : StructTable) (d : Declaration) : Option Declaration :=
  d.structName.bind structs.get?

/-- A size and an alignment in bytes. -/
structure Footprint where
  size : Nat
  alignment : Nat
  deriving DecidableEq, Repr, Inhabited

namespace Std140

def vectorAlignment : Nat := 16

/-- Round an offset up to an alignment, a power of two, by clearing the bits below it. -/
def roundUp (offset alignment : Nat) : Nat :=
  let top := offset + alignment - 1
  top ^^^ (top &&& (alignment - 1))

def componentSize : Component → Nat
  | .double => 8
  | _ => 4

/-- The footprint of a built-in type. A sampler has none. -/
def ofType? : ValueType → Option Footprint
  | .scalar component => some ⟨componentSize component, componentSize component⟩
  | .vector component .two => some ⟨2 * componentSize component, 2 * componentSize component⟩
  | .vector component size =>
    some ⟨size.toNat * componentSize component, 4 * componentSize component⟩
  | .square size => some ⟨size.toNat * vectorAlignment, vectorAlignment⟩
  | .matrix columns _ => some ⟨columns.toNat * vectorAlignment, vectorAlignment⟩
  | .sampler .. | .depthSampler .. => none

def offsetsFrom : Nat → List Footprint → List Nat
  | _, [] => []
  | offset, member :: members =>
    let start := roundUp offset member.alignment
    start :: offsetsFrom (start + member.size) members

def endFrom : Nat → List Footprint → Nat
  | offset, [] => offset
  | offset, member :: members => endFrom (roundUp offset member.alignment + member.size) members

/-- The footprint of members taken together. No members take no room. -/
def aggregate (members : List Footprint) : Footprint :=
  match (members.map (·.alignment)).max? with
  | none => ⟨0, vectorAlignment⟩
  | some largest =>
    let alignment := roundUp largest vectorAlignment
    ⟨roundUp (endFrom 0 members) alignment, alignment⟩

def repeated (length : Nat) (element : Footprint) : Footprint :=
  ⟨roundUp element.size vectorAlignment * length, roundUp element.alignment vectorAlignment⟩

/-- The footprint of a member from the one of its element. -/
def ofElement (d : Declaration) (element : Footprint) : Except AnalysisError Footprint :=
  if !d.isArray then .ok element
  else if 1 ≤ d.amount then .ok (repeated d.amount.toNat element)
  else .error (if Numeral.isWritable d.amount then .layout (.emptyArray d.name d.amount)
    else .oversizedInteger)

mutual

/-- The footprint of a member, given those of structs. -/
def footprintOver (ofStruct : Declaration → Except AnalysisError Footprint) :
    Declaration → Except AnalysisError Footprint
  | d@⟨_, .struct, _, _, _, _, _, _, _, _⟩ => do ofElement d (← ofStruct d)
  | d@⟨_, .block, _, _, _, _, _, _, _, members⟩ => do
    ofElement d (aggregate (← bodyFootprints ofStruct members))
  | d@⟨_, .value type, name, _, _, _, _, _, _, _⟩ =>
    match ofType? type with
    | some footprint => ofElement d footprint
    | none => .error (.layout (.noSize type.name name))

def bodyFootprints (ofStruct : Declaration → Except AnalysisError Footprint) :
    Option (List Declaration) → Except AnalysisError (List Footprint)
  | none => .ok []
  | some members => memberFootprints ofStruct members

def memberFootprints (ofStruct : Declaration → Except AnalysisError Footprint) :
    List Declaration → Except AnalysisError (List Footprint)
  | [] => .ok []
  | member :: members => do
    let first ← footprintOver ofStruct member
    return first :: (← memberFootprints ofStruct members)

end

def structFootprint (structs : StructTable)
    (ofMember : Declaration → Except AnalysisError Footprint) (d : Declaration) :
    Except AnalysisError Footprint :=
  match structs.structOf? d with
  | some struct => do return aggregate (← struct.body.mapM ofMember)
  | none => .error (.layout (.unknownStruct d.structName d.name))

def footprintNested (structs : StructTable) :
    (depth : Nat) → Declaration → Except AnalysisError Footprint
  | 0 => footprintOver (structFootprint structs fun _ => .error .endlessStructs)
  | depth + 1 => footprintOver (structFootprint structs (footprintNested structs depth))

/-- The footprint of a member. A struct cannot be inside itself, so structs nest no deeper than
there are structs. -/
def footprint (structs : StructTable) (d : Declaration) : Except AnalysisError Footprint :=
  footprintNested structs structs.length d

def offsets (structs : StructTable) (members : List Declaration) :
    Except AnalysisError (List Nat) := do
  return offsetsFrom 0 (← members.mapM (footprint structs))

def blockSize (structs : StructTable) (members : List Declaration) :
    Except AnalysisError Nat := do
  return roundUp (endFrom 0 (← members.mapM (footprint structs))) vectorAlignment

end Std140

end ShaderSurface
