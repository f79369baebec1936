/-!
# Built-in types

The catalogue holds the scalar, vector, matrix and sampler types of the shading language. A type is
known by its name, and no two types of the catalogue share one. A declaration may also stand for a
struct or an interface block; these two markers have names but are no types of the catalogue.
-/

namespace ShaderSurface

/-- The type of a component of a vector. -/
inductive Component where
  | float
  | double
  | int
  | uint
  | bool
  deriving DecidableEq, Repr, Inhabited

inductive Extent where
  | two
  | three
  | four
  deriving DecidableEq, Repr, Inhabited

inductive Texel where
  | float
  | int
  | uint
  deriving DecidableEq, Repr, Inhabited

inductive TextureShape where
  | plane
  | volume
  | cube
  | planes
  deriving DecidableEq, Repr, Inhabited

inductive DepthShape where
  | plane
  | cube
  | planes
  deriving DecidableEq, Repr, Inhabited

/-- A type of the catalogue. A square matrix type has a short name of its own beside the name that
gives columns and rows. -/
inductive ValueType where
  | scalar (component : Component)
  | vector (component : Component) (size : Extent)
  | square (size : Extent)
  | matrix (columns rows : Extent)
  | sampler (texel : Texel) (shape : TextureShape)
  | depthSampler (shape : DepthShape)
  deriving DecidableEq, Repr, Inhabited

namespace Component

def all : List Component := [float, int, uint, bool, double]

def name : Component → String
  | float => "float"
  | double => "double"
  | int => "int"
  | uint => "uint"
  | bool => "bool"

def letter : Component → String
  | float => ""
  | double => "d"
  | int => "i"
  | uint => "u"
  | bool => "b"

end Component

namespace Extent

def all : List Extent := [two, three, four]

def toNat : Extent → Nat
  | two => 2
  | three => 3
  | four => 4

def digit : Extent → String
  | two => "2"
  | three => "3"
  | four => "4"

end Extent

namespace Texel

def all : List Texel := [float, int, uint]

def name : Texel → String
  | float => "float"
  | int => "int"
  | uint => "uint"

def letter : Texel → String
  | float => ""
  | int => "i"
  | uint => "u"

end Texel

namespace TextureShape

def all : List TextureShape := [plane, volume, cube, planes]

def dimension : TextureShape → String
  | plane | planes => "2D"
  | volume => "3D"
  | cube => "Cube"

def isArray : TextureShape → Bool
  | planes => true
  | _ => false

def ending : TextureShape → String
  | plane => "2D"
  | volume => "3D"
  | cube => "Cube"
  | planes => "2DArray"

end TextureShape

namespace DepthShape

def all : List DepthShape := [plane, cube, planes]

def texture : DepthShape → TextureShape
  | plane => .plane
  | cube => .cube
  | planes => .planes

end DepthShape

namespace ValueType

def name : ValueType → String
  | scalar component => component.name
  | vector component size => component.letter ++ "vec" ++ size.digit
  | square size => "mat" ++ size.digit
  | matrix columns rows => "mat" ++ columns.digit ++ "x" ++ rows.digit
  | sampler texel shape => texel.letter ++ "sampler" ++ shape.ending
  | depthSampler shape => "sampler" ++ shape.texture.ending ++ "Shadow"

def all : List ValueType :=
  Component.all.map scalar ++
    Component.all.flatMap (fun component => Extent.all.map (vector component)) ++
    Extent.all.map square ++
    Extent.all.flatMap (fun columns => Extent.all.map (matrix columns)) ++
    Texel.all.flatMap (fun texel => TextureShape.all.map (sampler texel)) ++
    DepthShape.all.map depthSampler

def ofName? (s : String) : Option ValueType :=
  all.find? (·.name = s)

def isSampler : ValueType → Bool
  | sampler .. | depthSampler .. => true
  | _ => false

/-- The number of attribute locations that one element takes: one for each column of a matrix, two
for a long vector of doubles. -/
def locations : ValueType → Nat
  | square size => size.toNat
  | matrix columns _ => columns.toNat
  | vector .double .three | vector .double .four => 2
  | _ => 1

theorem mem_all (t : ValueType) : t ∈ all := by
  rcases t with c | ⟨c, s⟩ | s | ⟨c, r⟩ | ⟨t, s⟩ | s
  · cases c <;> decide
  · cases c <;> cases s <;> decide
  · cases s <;> decide
  · cases c <;> cases r <;> decide
  · cases t <;> cases s <;> decide
  · cases s <;> decide

@[simp] theorem ofName?_name (t : ValueType) : ofName? t.name = some t := by
  have unique : ∀ t ∈ all, ofName? t.name = some t := by decide +kernel
  exact unique t (mem_all t)

theorem name_of_ofName? {s : String} {t : ValueType} (h : ofName? s = some t) : t.name = s := by
  simpa using List.find?_some h

end ValueType

/-- The type of a declaration: a type of the catalogue, or the marker of a struct or a block. -/
inductive DeclaredType where
  | value (type : ValueType)
  | struct
  | block
  deriving DecidableEq, Repr, Inhabited

namespace DeclaredType

def name : DeclaredType → String
  | value type => type.name
  | struct => "struct"
  | block => "block"

def ofName? (s : String) : Option DeclaredType :=
  match ValueType.ofName? s with
  | some type => some (value type)
  | none => if s = "struct" then some struct else if s = "block" then some block else none

def isSampler : DeclaredType → Bool
  | value type => type.isSampler
  | _ => false

def locations : DeclaredType → Nat
  | value type => type.locations
  | _ => 1

@[simp] theorem ofName?_name (t : DeclaredType) : ofName? t.name = some t := by
  cases t with
  | value type => simp [name, ofName?]
  | struct => decide +kernel
  | block => decide +kernel

end DeclaredType

end ShaderSurface
