import ShaderSurface.Json
import ShaderSurface.Precision
import ShaderSurface.Qualifier
import ShaderSurface.ValueType

/-!
# Declarations

A declaration is one entry of a shader's surface: an input, an output, a uniform, an interface block
or a struct. Struct declarations and interface blocks carry their members, which are declarations
too. The record form names the parts of a declaration in a fixed order.
-/

namespace ShaderSurface

/-- An entry of a shader's surface. The amount is the array length, and `1` where there is none; it
is `0` for an array without a size. -/
structure Declaration where
  qualifier : Qualifier
  type : DeclaredType
  name : String
  amount : Int := 1
  isInvariant : Bool := false
  isCentroid : Bool := false
  layout : Option String := none
  precision : Option Precision := none
  structName : Option String := none
  members : Option (List Declaration) := none
  deriving Repr, Inhabited

namespace Declaration

def isArray (d : Declaration) : Bool := d.amount != 1

def isBlock (d : Declaration) : Bool := d.type == .block

def isStruct (d : Declaration) : Bool := d.type == .struct

def isOutput (d : Declaration) : Bool := d.qualifier == .output

/-- The declaration is a uniform of a sampler type. -/
def isTexture (d : Declaration) : Bool := d.qualifier == .uniform && d.type.isSampler

def body (d : Declaration) : List Declaration := d.members.getD []

/-- The number of elements, which is one for an array without a size. -/
def elements (d : Declaration) : Nat := (max d.amount 1).toNat

def typeLabel? (d : Declaration) : Option String :=
  if d.isStruct then d.structName else some d.type.name

def record (qualifier type name amount isInvariant isCentroid layout precision structName
    members : Json) : Json :=
  .object [
    ("qualifier", qualifier),
    ("type", type),
    ("name", name),
    ("amount", amount),
    ("is_invariant", isInvariant),
    ("is_centroid", isCentroid),
    ("layout", layout),
    ("precision", precision),
    ("struct_name", structName),
    ("block", members)]

mutual

def toJson : Declaration → Json
  | ⟨qualifier, type, name, amount, isInvariant, isCentroid, layout, precision, structName,
      members⟩ =>
    record (.text qualifier.keyword) (.text type.name) (.text name) (.int amount)
      (.bool isInvariant) (.bool isCentroid) (.ofText? layout)
      (.ofText? (precision.map Precision.keyword)) (.ofText? structName) (bodyToJson members)

def bodyToJson : Option (List Declaration) → Json
  | none => .null
  | some members => .array (listToJson members)

def listToJson : List Declaration → List Json
  | [] => []
  | d :: ds => d.toJson :: listToJson ds

end

mutual

def decEq : (d e : Declaration) → Decidable (d = e)
  | ⟨qualifier, type, name, amount, isInvariant, isCentroid, layout, precision, structName,
      members⟩,
    ⟨qualifier', type', name', amount', isInvariant', isCentroid', layout', precision', structName',
      members'⟩ =>
    match decEqBody members members' with
    | isTrue sameMembers =>
      if h : qualifier = qualifier' ∧ type = type' ∧ name = name' ∧ amount = amount' ∧
          isInvariant = isInvariant' ∧ isCentroid = isCentroid' ∧ layout = layout' ∧
          precision = precision' ∧ structName = structName' then
        isTrue (by simpa [sameMembers] using h)
      else isFalse (by simpa [sameMembers] using h)
    | isFalse differ => isFalse (by simp [differ])

def decEqBody : (ds es : Option (List Declaration)) → Decidable (ds = es)
  | none, none => isTrue rfl
  | none, some _ => isFalse (by simp)
  | some _, none => isFalse (by simp)
  | some ds, some es =>
    match decEqList ds es with
    | isTrue same => isTrue (by rw [same])
    | isFalse differ => isFalse (by simp [differ])

def decEqList : (ds es : List Declaration) → Decidable (ds = es)
  | [], [] => isTrue rfl
  | [], _ :: _ => isFalse (by simp)
  | _ :: _, [] => isFalse (by simp)
  | d :: ds, e :: es =>
    match decEq d e, decEqList ds es with
    | isTrue same, isTrue rest => isTrue (by rw [same, rest])
    | isFalse differ, _ => isFalse (by simp [differ])
    | _, isFalse differ => isFalse (by simp [differ])

end

instance : DecidableEq Declaration := decEq

end Declaration

end ShaderSurface
