import ShaderSurface.Layout.Slots
import ShaderSurface.Program.Interface
import ShaderSurface.Program.LeafNames

/-!
# Reflection of a program

Reflection describes all that a host binds: vertex attributes and fragment outputs with locations,
plain uniforms with the names of their leaves, textures with units, uniform blocks with bindings and
std140 offsets, and the structs of both stages. A uniform of both stages is described once, as its
first declaration says.
-/

namespace ShaderSurface

namespace Reflection

structure Attribute where
  name : String
  type : String
  location : Nat
  size : Int
  deriving DecidableEq, Repr

structure Output where
  name : String
  type : String
  location : Nat
  deriving DecidableEq, Repr

/-- A uniform that is neither a texture nor a block. -/
structure Uniform where
  name : String
  type : Option String
  size : Int
  precision : Option Precision
  locations : List String
  deriving DecidableEq, Repr

structure Texture where
  name : String
  type : String
  unit : Nat
  size : Int
  deriving DecidableEq, Repr

structure BlockField where
  name : String
  type : Option String
  offset : Nat
  size : Nat
  deriving DecidableEq, Repr

structure Block where
  name : String
  binding : Nat
  layout : Option String
  fields : List BlockField
  size : Nat
  deriving DecidableEq, Repr

structure StructField where
  name : String
  type : Option String
  size : Int
  deriving DecidableEq, Repr

structure Struct where
  name : String
  fields : List StructField
  deriving DecidableEq, Repr

end Reflection

/-- What a host binds in a program. -/
structure Reflection where
  source : String
  attributes : List Reflection.Attribute
  outputs : List Reflection.Output
  uniforms : List Reflection.Uniform
  textures : List Reflection.Texture
  blocks : List Reflection.Block
  structs : List Reflection.Struct
  deriving DecidableEq, Repr

namespace Reflection

def version : Int := 1

/-- The first declaration of each name. -/
def firstOfEachName : List Declaration → List Declaration
  | [] => []
  | d :: ds => d :: (firstOfEachName ds).filter (·.name ≠ d.name)

def slotOf (slots : Keyed String Nat) (d : Declaration) : Nat :=
  (slots.get? d.name).getD 0

def uniform (structs : StructTable) (d : Declaration) : Except AnalysisError Uniform := do
  return {
    name := d.name
    type := d.typeLabel?
    size := d.amount
    precision := d.precision
    locations := ← leafNames structs "" d }

def block (structs : StructTable) (binding : Nat) (d : Declaration) :
    Except AnalysisError Block := do
  let footprints ← d.body.mapM (Std140.footprint structs)
  let fields := (d.body.zip (footprints.zip (Std140.offsetsFrom 0 footprints))).map
    fun (field, footprint, offset) =>
      { name := field.name, type := field.typeLabel?, offset, size := footprint.size }
  return {
    name := d.name
    binding
    layout := d.layout
    fields
    size := ← Std140.blockSize structs d.body }

def struct (d : Declaration) : Struct where
  name := d.name
  fields := d.body.map fun field =>
    { name := field.name, type := field.typeLabel?, size := field.amount }

def uniformsOf (vertex fragment : List Declaration) : List Declaration :=
  firstOfEachName ((Interface.inputs vertex fragment).filter (·.qualifier = .uniform))

def ofStages (vertex? fragment? : Option (List Declaration)) (source : String) :
    Except AnalysisError Reflection := do
  let (some vertex, some fragment) := (vertex?, fragment?) | throw .missingStage
  let structs := StructTable.ofDeclarations (vertex ++ fragment)
  let attributes := vertex.filter (·.qualifier = .input)
  let locations ← SlotKind.attributeLocation.assign attributes
  let outputs := Interface.outputs fragment
  let outputLocations ← SlotKind.attributeLocation.assign outputs
  let uniforms := uniformsOf vertex fragment
  let plain ← (uniforms.filter fun d => !d.isBlock && !d.isTexture).mapM (uniform structs)
  let textures := uniforms.filter Declaration.isTexture
  let units ← SlotKind.textureUnit.assign textures
  let blocks := uniforms.filter Declaration.isBlock
  let bindings ← SlotKind.blockBinding.assign blocks
  let described ← blocks.mapM fun d => block structs (slotOf bindings d) d
  return {
    source
    attributes := attributes.map fun d =>
      { name := d.name, type := d.type.name, location := slotOf locations d, size := d.amount }
    outputs := outputs.map fun d =>
      { name := d.name, type := d.type.name, location := slotOf outputLocations d }
    uniforms := plain
    textures := textures.map fun d =>
      { name := d.name, type := d.type.name, unit := slotOf units d, size := d.amount }
    blocks := described
    structs := structs.map fun (_, d) => struct d }

def toJson (r : Reflection) : Json :=
  .object [
    ("version", .int version),
    ("source", .text r.source),
    ("attributes", .array (r.attributes.map fun a => .object [
      ("name", .text a.name), ("type", .text a.type), ("location", .int a.location),
      ("size", .int a.size)])),
    ("outputs", .array (r.outputs.map fun o => .object [
      ("name", .text o.name), ("type", .text o.type), ("location", .int o.location)])),
    ("uniforms", .array (r.uniforms.map fun u => .object [
      ("name", .text u.name), ("type", .ofText? u.type), ("size", .int u.size),
      ("precision", .ofText? (u.precision.map Precision.keyword)),
      ("locations", .array (u.locations.map .text))])),
    ("textures", .array (r.textures.map fun t => .object [
      ("name", .text t.name), ("type", .text t.type), ("unit", .int t.unit),
      ("size", .int t.size)])),
    ("uniform_blocks", .array (r.blocks.map fun b => .object [
      ("name", .text b.name), ("binding", .int b.binding), ("layout", .ofText? b.layout),
      ("fields", .array (b.fields.map fun f => .object [
        ("name", .text f.name), ("type", .ofText? f.type), ("offset", .int f.offset),
        ("size", .int f.size)])),
      ("size", .int b.size)])),
    ("structs", .array (r.structs.map fun s => .object [
      ("name", .text s.name),
      ("fields", .array (s.fields.map fun f => .object [
        ("name", .text f.name), ("type", .ofText? f.type), ("size", .int f.size)]))]))]

def text (r : Reflection) : Except AnalysisError String :=
  match r.toJson.render? Json.indented with
  | some s => .ok (s ++ "\n")
  | none => .error .oversizedInteger

end Reflection

end ShaderSurface
