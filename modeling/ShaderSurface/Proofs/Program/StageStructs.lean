import ShaderSurface.Program.Reflection
import ShaderSurface.Proofs.Surface.Closure

/-!
# The structs of a stage in a reflection

A reflection describes the uniforms of both stages with one table of structs, in which the fragment
stage's structs come last and decide. So each uniform of the fragment stage is described with the
structs of its own stage; a uniform of the vertex stage is so described if the fragment stage gives
the same members to all of the structs that the uniform rests on and that it also declares
(`Reflection.isOwnDescription_of_ofStages`). Without that condition it need not be.
-/

namespace ShaderSurface

open Outcome

namespace Reflection

variable {structs structs' : StructTable} {vertex fragment : List Declaration} {d : Declaration}
  {r : Reflection}

/-- The declaration is no output and no output of the program feeds it. -/
def isBound (vertex fragment : List Declaration) (d : Declaration) : Bool :=
  !d.isOutput && !(Interface.outputNames (vertex ++ fragment)).contains d.name

def vertexUniforms (vertex fragment : List Declaration) : List Declaration :=
  firstOfEachName ((vertex.filter (isBound vertex fragment)).filter (·.qualifier = .uniform))

/-- The uniforms that are described as the fragment stage declares them: the vertex stage has none
of their names. -/
def fragmentUniforms (vertex fragment : List Declaration) : List Declaration :=
  (firstOfEachName
    ((fragment.filter (isBound vertex fragment)).filter (·.qualifier = .uniform))).filter
      fun d => d.name ∉ (vertexUniforms vertex fragment).map (·.name)

theorem firstOfEachName_append (ds es : List Declaration) :
    firstOfEachName (ds ++ es) = firstOfEachName ds ++
      (firstOfEachName es).filter fun e => e.name ∉ (firstOfEachName ds).map (·.name) := by
  induction ds with
  | nil => simp [firstOfEachName]
  | cons d ds ih =>
    rw [List.cons_append, firstOfEachName, firstOfEachName, ih, List.filter_append,
      List.filter_filter, List.cons_append]
    congr 2
    refine List.filter_congr fun e _ => ?_
    by_cases same : e.name = d.name
    · simp [same]
    · have apart (name : String) : name ≠ e.name ↔ name ≠ d.name → name ≠ e.name :=
        ⟨fun ne _ => ne, fun h same' => h (same'.trans_ne same) same'⟩
      simp [same, ← apart]

theorem uniformsOf_eq (vertex fragment : List Declaration) :
    uniformsOf vertex fragment =
      vertexUniforms vertex fragment ++ fragmentUniforms vertex fragment := by
  rw [uniformsOf, Interface.inputs, List.filter_append, List.filter_append, firstOfEachName_append]
  rfl

theorem mem_of_mem_firstOfEachName {ds : List Declaration} (mem : d ∈ firstOfEachName ds) :
    d ∈ ds := by
  induction ds with
  | nil => cases mem
  | cons e ds ih =>
    rcases List.mem_cons.1 mem with rfl | mem
    · exact List.mem_cons_self
    · exact List.mem_cons_of_mem e (ih (List.mem_filter.1 mem).1)

theorem mem_vertex_of_mem (mem : d ∈ vertexUniforms vertex fragment) : d ∈ vertex :=
  (List.mem_filter.1 (List.mem_filter.1 (mem_of_mem_firstOfEachName mem)).1).1

theorem mem_fragment_of_mem (mem : d ∈ fragmentUniforms vertex fragment) : d ∈ fragment :=
  (List.mem_filter.1
    (List.mem_filter.1 (mem_of_mem_firstOfEachName (List.mem_filter.1 mem).1)).1).1

structure Uniform.IsOf (structs : StructTable) (d : Declaration) (u : Uniform) : Prop where
  name : u.name = d.name
  locations : leafNames structs "" d = .ok u.locations

structure Block.IsOf (structs : StructTable) (d : Declaration) (b : Block) : Prop where
  name : b.name = d.name
  offsets : Std140.offsets structs d.body = .ok (b.fields.map (·.offset))
  sizes : List.Forall₂
    (fun member field => (Std140.footprint structs member).map (·.size) = .ok field.size)
    d.body b.fields
  size : Std140.blockSize structs d.body = .ok b.size

theorem Uniform.isOf_of_uniform {u : Uniform} (h : uniform structs d = .ok u) :
    u.IsOf structs d := by
  obtain ⟨locations, found, same⟩ := bind_eq_ok.1 h
  obtain rfl := Except.ok.inj same
  exact ⟨rfl, found⟩

def fieldsFrom (offset : Nat) (members : List Declaration) (footprints : List Footprint) :
    List BlockField :=
  (members.zip (footprints.zip (Std140.offsetsFrom offset footprints))).map
    fun (field, footprint, offset) =>
      { name := field.name, type := field.typeLabel?, offset, size := footprint.size }

theorem fieldsFrom_spec {members : List Declaration} {footprints : List Footprint}
    (found : List.Forall₂ (fun member f => Std140.footprint structs member = .ok f)
      members footprints) (offset : Nat) :
    (fieldsFrom offset members footprints).map (·.offset) = Std140.offsetsFrom offset footprints ∧
      List.Forall₂
        (fun member field => (Std140.footprint structs member).map (·.size) = .ok field.size)
        members (fieldsFrom offset members footprints) := by
  induction found generalizing offset with
  | nil => exact ⟨rfl, .nil⟩
  | @cons member f members footprints first _ ih =>
    let start := Std140.roundUp offset f.alignment
    obtain ⟨offsets, sizes⟩ := ih (start + f.size)
    refine ⟨congrArg (start :: ·) offsets, .cons ?_ sizes⟩
    rw [first]
    rfl

theorem Block.isOf_of_block {binding : Nat} {b : Block} (h : block structs binding d = .ok b) :
    b.IsOf structs d := by
  obtain ⟨footprints, found, h⟩ := bind_eq_ok.1 h
  obtain ⟨size, sized, same⟩ := bind_eq_ok.1 h
  obtain rfl := Except.ok.inj same
  obtain ⟨offsets, sizes⟩ := fieldsFrom_spec (mapM_eq_ok_iff.1 found) 0
  refine ⟨rfl, ?_, sizes, sized⟩
  rw [Std140.offsets, found, bind_ok]
  exact congrArg Except.ok offsets.symm

section Agree

variable (agree : structs.AgreeOn structs' d)
include agree

theorem Uniform.IsOf.of_agree {u : Uniform} (h : u.IsOf structs' d) : u.IsOf structs d :=
  { h with locations := leafNames_of_agree agree h.locations }

theorem mapM_footprint_of_agree {footprints : List Footprint}
    (h : d.body.mapM (Std140.footprint structs') = .ok footprints) :
    d.body.mapM (Std140.footprint structs) = .ok footprints :=
  mapM_mono (fun _ mem _ => Std140.footprint_of_agree (agree.onMember mem)) h

theorem Block.IsOf.of_agree {b : Block} (h : b.IsOf structs' d) : b.IsOf structs d := by
  obtain ⟨footprints, found, offsets⟩ := bind_eq_ok.1 h.offsets
  have found' := mapM_footprint_of_agree agree found
  refine { h with offsets := ?_, sizes := ?_, size := ?_ }
  · exact bind_eq_ok.2 ⟨footprints, found', offsets⟩
  · refine forall₂_imp_of_mem (fun member mem field sized => ?_) h.sizes
    obtain ⟨f, footprint, same⟩ := map_eq_ok.1 sized
    exact map_eq_ok.2 ⟨f, Std140.footprint_of_agree (agree.onMember mem) footprint, same⟩
  · have size := h.size
    rw [Std140.blockSize, found] at size
    rwa [Std140.blockSize, found']

end Agree

/-- Each uniform and each block comes from a declaration of one of the stages. All those of the
fragment stage, and those of the vertex stage that pass a test, are described with the structs of
their own stage. -/
def IsOwnDescription (vertex fragment : List Declaration) (test : Declaration → Prop)
    (r : Reflection) : Prop :=
  let plain := List.filter fun d : Declaration => !d.isBlock && !d.isTexture
  let vertexStructs := StructTable.ofDeclarations vertex
  let fragmentStructs := StructTable.ofDeclarations fragment
  ∃ us us' bs bs', r.uniforms = us ++ us' ∧ r.blocks = bs ++ bs' ∧
    List.Forall₂ (fun d u => test d → Uniform.IsOf vertexStructs d u)
      (plain (vertexUniforms vertex fragment)) us ∧
    List.Forall₂ (Uniform.IsOf fragmentStructs) (plain (fragmentUniforms vertex fragment)) us' ∧
    List.Forall₂ (fun d b => test d → Block.IsOf vertexStructs d b)
      ((vertexUniforms vertex fragment).filter Declaration.isBlock) bs ∧
    List.Forall₂ (Block.IsOf fragmentStructs)
      ((fragmentUniforms vertex fragment).filter Declaration.isBlock) bs'

/-- The sections of a description: plain uniforms and blocks are described with the merged table,
textures and blocks with the slots that were assigned to them. -/
theorem sections_of_eq_ok {source : String}
    (h : ofStages (some vertex) (some fragment) source = .ok r) :
    let merged := StructTable.ofDeclarations (vertex ++ fragment)
    let textures := (uniformsOf vertex fragment).filter Declaration.isTexture
    let blocks := (uniformsOf vertex fragment).filter Declaration.isBlock
    ((uniformsOf vertex fragment).filter fun d => !d.isBlock && !d.isTexture).mapM
        (uniform merged) = .ok r.uniforms ∧
      (∃ units, SlotKind.textureUnit.assign textures = .ok units ∧
        r.textures = textures.map fun d =>
          { name := d.name, type := d.type.name, unit := slotOf units d, size := d.amount }) ∧
      ∃ bindings, SlotKind.blockBinding.assign blocks = .ok bindings ∧
        blocks.mapM (fun d => block merged (slotOf bindings d) d) = .ok r.blocks := by
  obtain ⟨locations, -, h⟩ := bind_eq_ok.1 h
  obtain ⟨outputLocations, -, h⟩ := bind_eq_ok.1 h
  obtain ⟨plain, described, h⟩ := bind_eq_ok.1 h
  obtain ⟨units, assigned, h⟩ := bind_eq_ok.1 h
  obtain ⟨bindings, assigned', h⟩ := bind_eq_ok.1 h
  obtain ⟨blocks, described', h⟩ := bind_eq_ok.1 h
  obtain rfl := Except.ok.inj h
  exact ⟨described, ⟨units, assigned, rfl⟩, bindings, assigned', described'⟩

theorem exists_of_ofStages {source : String}
    (h : ofStages (some vertex) (some fragment) source = .ok r) :
    let merged := StructTable.ofDeclarations (vertex ++ fragment)
    List.Forall₂ (Uniform.IsOf merged)
        ((uniformsOf vertex fragment).filter fun d => !d.isBlock && !d.isTexture) r.uniforms ∧
      List.Forall₂ (Block.IsOf merged)
        ((uniformsOf vertex fragment).filter Declaration.isBlock) r.blocks := by
  obtain ⟨described, -, bindings, -, described'⟩ := sections_of_eq_ok h
  exact ⟨(mapM_eq_ok_iff.1 described).imp fun _ _ => Uniform.isOf_of_uniform,
    (mapM_eq_ok_iff.1 described').imp fun _ _ => Block.isOf_of_block⟩

theorem exists_of_stages {α : Type} {R S T : Declaration → α → Prop} (test : Declaration → Bool)
    (ofVertex : ∀ d ∈ vertexUniforms vertex fragment, ∀ x, R d x → S d x)
    (ofFragment : ∀ d ∈ fragmentUniforms vertex fragment, ∀ x, R d x → T d x) {xs : List α}
    (h : List.Forall₂ R ((uniformsOf vertex fragment).filter test) xs) :
    ∃ ys zs, xs = ys ++ zs ∧ List.Forall₂ S ((vertexUniforms vertex fragment).filter test) ys ∧
      List.Forall₂ T ((fragmentUniforms vertex fragment).filter test) zs := by
  rw [uniformsOf_eq, List.filter_append] at h
  have first := List.forall₂_take ((vertexUniforms vertex fragment).filter test).length h
  have rest := List.forall₂_drop ((vertexUniforms vertex fragment).filter test).length h
  rw [List.take_left] at first
  rw [List.drop_left] at rest
  exact ⟨_, _, (List.take_append_drop _ xs).symm,
    forall₂_imp_of_mem (fun d mem => ofVertex d (List.mem_filter.1 mem).1) first,
    forall₂_imp_of_mem (fun d mem => ofFragment d (List.mem_filter.1 mem).1) rest⟩

/-- The uniforms of the fragment stage are described with its own structs, and so are those of the
vertex stage that rest on no struct that the fragment stage declares with other members. -/
theorem isOwnDescription_of_ofStages {vertexSource fragmentSource : Text} {source : String}
    (hvertex : Surface.read vertexSource = .ok vertex)
    (hfragment : Surface.read fragmentSource = .ok fragment)
    (h : ofStages (some vertex) (some fragment) source = .ok r) :
    IsOwnDescription vertex fragment
      ((StructTable.ofDeclarations vertex).SharesOn (StructTable.ofDeclarations fragment)) r := by
  obtain ⟨uniforms, blocks⟩ := exists_of_ofStages h
  have ofVertex : ∀ d ∈ vertexUniforms vertex fragment,
      (StructTable.ofDeclarations vertex).SharesOn (StructTable.ofDeclarations fragment) d →
        (StructTable.ofDeclarations vertex).AgreeOn
          (StructTable.ofDeclarations (vertex ++ fragment)) d := fun d mem =>
    StructTable.agreeOn_append_left (Surface.isClosedOn_of_read hvertex (mem_vertex_of_mem mem))
  have ofFragment : ∀ d ∈ fragmentUniforms vertex fragment,
      (StructTable.ofDeclarations fragment).AgreeOn
        (StructTable.ofDeclarations (vertex ++ fragment)) d := fun d mem =>
    StructTable.agreeOn_append_right
      (Surface.isClosedOn_of_read hfragment (mem_fragment_of_mem mem))
  obtain ⟨us, us', rfl', vertexUniforms, fragmentUniforms⟩ := exists_of_stages _
    (fun d mem u of shared => Uniform.IsOf.of_agree (ofVertex d mem shared) of)
    (fun d mem u of => Uniform.IsOf.of_agree (ofFragment d mem) of) uniforms
  obtain ⟨bs, bs', same', vertexBlocks, fragmentBlocks⟩ := exists_of_stages _
    (fun d mem b of shared => Block.IsOf.of_agree (ofVertex d mem shared) of)
    (fun d mem b of => Block.IsOf.of_agree (ofFragment d mem) of) blocks
  exact ⟨us, us', bs, bs', rfl', same', vertexUniforms, fragmentUniforms, vertexBlocks,
    fragmentBlocks⟩

/-- Both stages declare the struct of a uniform and of a block's member, with the same members. -/
theorem isOwnDescription_shared :
    let vertexSource :=
      "struct L \x7bfloat x; vec3 y;\x7d; uniform L a; uniform B \x7bfloat k; L l;\x7d;".toList
    let fragmentSource := "struct L \x7bfloat x; vec3 y;\x7d; uniform L c[2];".toList
    let members : List Declaration := [
      { qualifier := .struct, type := .value (.scalar .float), name := "x" },
      { qualifier := .struct, type := .value (.vector .float .three), name := "y" }]
    let l : Declaration := {
      qualifier := .struct, type := .block, name := "L", members := some members }
    let a : Declaration := {
      qualifier := .uniform, type := .struct, name := "a", structName := some "L" }
    let b : Declaration := {
      qualifier := .uniform, type := .block, name := "B"
      members := some [
        { qualifier := .uniform, type := .value (.scalar .float), name := "k" },
        { qualifier := .uniform, type := .struct, name := "l", structName := some "L" }] }
    let c : Declaration := {
      qualifier := .uniform, type := .struct, name := "c", amount := 2, structName := some "L" }
    let r : Reflection := {
      source := ""
      attributes := []
      outputs := []
      uniforms := [
        { name := "a", type := some "L", size := 1, precision := none
          locations := ["a.x", "a.y"] },
        { name := "c", type := some "L", size := 2, precision := none
          locations := ["c[0].x", "c[0].y", "c[1].x", "c[1].y"] }]
      textures := []
      blocks := [
        { name := "B", binding := 0, layout := none, size := 48
          fields := [
            { name := "k", type := some "float", offset := 0, size := 4 },
            { name := "l", type := some "L", offset := 16, size := 32 }] }]
      structs := [
        { name := "L"
          fields := [
            { name := "x", type := some "float", size := 1 },
            { name := "y", type := some "vec3", size := 1 }] }] }
    Surface.read vertexSource = .ok [a, b, l] ∧ Surface.read fragmentSource = .ok [c, l] ∧
      ofStages (some [a, b, l]) (some [c, l]) "" = .ok r ∧
      IsOwnDescription [a, b, l] [c, l] ((StructTable.ofDeclarations [a, b, l]).SharesOn
        (StructTable.ofDeclarations [c, l])) r ∧
      ∀ d, (StructTable.ofDeclarations [a, b, l]).SharesOn
        (StructTable.ofDeclarations [c, l]) d := by
  intro vertexSource fragmentSource members l a b c r
  have vertexRead : Surface.read vertexSource = .ok [a, b, l] := by decide +kernel
  have fragmentRead : Surface.read fragmentSource = .ok [c, l] := by decide +kernel
  have reflected : ofStages (some [a, b, l]) (some [c, l]) "" = .ok r := by decide +kernel
  exact ⟨vertexRead, fragmentRead, reflected,
    isOwnDescription_of_ofStages vertexRead fragmentRead reflected,
    StructTable.sharesOn_of_forall (by decide +kernel)⟩

/-- A uniform of the vertex stage whose struct the fragment stage declares with another member is
described with the fragment stage's struct. -/
theorem not_forall_isOwnDescription :
    ¬ ∀ (vertexSource fragmentSource : Text) (vertex fragment : List Declaration) (source : String)
      (r : Reflection), Surface.read vertexSource = .ok vertex →
        Surface.read fragmentSource = .ok fragment →
          ofStages (some vertex) (some fragment) source = .ok r →
            IsOwnDescription vertex fragment (fun _ => True) r := by
  intro h
  let l (member : String) : Declaration := {
    qualifier := .struct, type := .block, name := "L"
    members := some [{ qualifier := .struct, type := .value (.scalar .float), name := member }] }
  let a : Declaration := {
    qualifier := .uniform, type := .struct, name := "a", structName := some "L" }
  let r : Reflection := {
    source := ""
    attributes := []
    outputs := []
    uniforms := [
      { name := "a", type := some "L", size := 1, precision := none, locations := ["a.y"] }]
    textures := []
    blocks := []
    structs := [
      { name := "L", fields := [{ name := "y", type := some "float", size := 1 }] }] }
  have vertexRead : Surface.read "struct L \x7bfloat x;\x7d; uniform L a;".toList =
      .ok [a, l "x"] := by
    decide +kernel
  have fragmentRead : Surface.read "struct L \x7bfloat y;\x7d;".toList = .ok [l "y"] := by
    decide +kernel
  have reflected : ofStages (some [a, l "x"]) (some [l "y"]) "" = .ok r := by decide +kernel
  obtain ⟨us, us', -, -, same, -, uniforms, uniforms', -, -⟩ :=
    h _ _ _ _ _ _ vertexRead fragmentRead reflected
  have plain : (vertexUniforms [a, l "x"] [l "y"]).filter (fun d => !d.isBlock && !d.isTexture) =
      [a] := by decide +kernel
  have plain' : (fragmentUniforms [a, l "x"] [l "y"]).filter (fun d => !d.isBlock && !d.isTexture) =
      [] := by decide +kernel
  rw [plain', List.forall₂_nil_left_iff] at uniforms'
  rw [uniforms', List.append_nil] at same
  rw [plain, ← same, List.forall₂_cons] at uniforms
  have own : leafNames (StructTable.ofDeclarations [a, l "x"]) "" a = .ok ["a.x"] := by
    decide +kernel
  have described := (uniforms.1 trivial).locations
  rw [own] at described
  exact absurd described (by decide)

end Reflection

end ShaderSurface
