import ShaderSurface.Proofs.Program.Sections

/-!
# Bindings in a reflection

A texture or a block is described as its first declaration says, the vertex stage's before the
fragment stage's. So the binding that this declaration gives is the one that is reported
(`Reflection.keepsFirstBinding_of_ofStages`). A binding that only a later declaration gives is not
reported, even where no other declaration of the name gives one.
-/

namespace ShaderSurface

open Outcome

namespace Reflection

variable {vertex fragment ds : List Declaration} {d : Declaration} {r : Reflection}

theorem slotOf_of_hint {kind : SlotKind} {table : Keyed String Nat} {slot : Nat}
    (distinct : (ds.map (·.name)).Nodup) (h : kind.assign ds = .ok table) (mem : d ∈ ds)
    (hint : SlotKind.hint? kind.key d = some slot) : slotOf table d = slot := by
  obtain ⟨i, found⟩ := List.mem_iff_getElem?.1 mem
  have kept := (isFirstFit_of_assign distinct h).hinted i d slot found hint
  simpa [found] using kept

theorem find?_of_firstNamed? {name : String}
    (h : firstNamed? (declaredUniforms vertex fragment) name = some d) :
    (vertex ++ fragment).find? (fun d => d.qualifier = .uniform && d.name = name) = some d := by
  have bound : d ∈ Interface.inputs vertex fragment :=
    (List.mem_filter.1 (List.mem_of_find?_eq_some h)).1
  have notFed : name ∉ Interface.outputNames (vertex ++ fragment) := by
    have kept := (List.mem_filter.1 bound).2
    rw [name_of_firstNamed? h] at kept
    simpa using (Bool.and_eq_true_iff.1 kept).2
  rw [← h, firstNamed?, declaredUniforms, Interface.inputs, List.find?_filter, List.find?_filter]
  congr 1
  funext e
  by_cases same : e.name = name
  · by_cases uniform : e.qualifier = .uniform
    · simp [same, uniform, notFed, Declaration.isOutput]
    · simp [uniform]
  · simp [same]

/-- What is reported under a name is the binding that the first uniform of the name gives, if it
gives one. -/
def KeepsFirstBinding (declarations : List Declaration) (kind : Declaration → Bool) (name : String)
    (slot : Nat) : Prop :=
  ∃ d, declarations.find? (fun d => d.qualifier = .uniform && d.name = name) = some d ∧
    kind d = true ∧ ∀ b, SlotKind.hint? "binding" d = some b → slot = b

/-- A slot that is assigned to the first declaration of a name keeps its binding. -/
theorem keepsFirstBinding_of_assign {kind : Declaration → Bool} {width : Declaration → Nat}
    {table : Keyed String Nat}
    (h : (SlotKind.mk "binding" width).assign
      ((uniformsOf vertex fragment).filter kind) = .ok table)
    (mem : d ∈ (uniformsOf vertex fragment).filter kind) :
    KeepsFirstBinding (vertex ++ fragment) kind d.name (slotOf table d) := by
  obtain ⟨first, isKind⟩ := List.mem_filter.1 mem
  refine ⟨d, find?_of_firstNamed? (mem_firstOfEachName_iff.1 first), isKind, fun b hint => ?_⟩
  exact slotOf_of_hint (nodup_names_filter _ kind) h mem hint

/-- Textures and blocks have the bindings that the first declarations of their names give. -/
theorem keepsFirstBinding_of_ofStages {source : String}
    (h : ofStages (some vertex) (some fragment) source = .ok r) :
    (∀ t ∈ r.textures,
      KeepsFirstBinding (vertex ++ fragment) Declaration.isTexture t.name t.unit) ∧
    ∀ b ∈ r.blocks,
      KeepsFirstBinding (vertex ++ fragment) Declaration.isBlock b.name b.binding := by
  obtain ⟨-, ⟨units, assigned, textures⟩, bindings, assigned', described⟩ := sections_of_eq_ok h
  constructor
  · intro t mem
    rw [textures] at mem
    obtain ⟨d, inside, rfl⟩ := List.mem_map.1 mem
    exact keepsFirstBinding_of_assign assigned inside
  · intro b mem
    obtain ⟨d, inside, found⟩ := exists_of_mem_right (mapM_eq_ok_iff.1 described) mem
    rw [(Block.isOf_of_block found).name, Block.binding_of_block found]
    exact keepsFirstBinding_of_assign assigned' inside

/-- The texture has its binding from the vertex stage, the block from the fragment stage. -/
theorem keepsFirstBinding_given :
    let sampler : DeclaredType := .value (.sampler .float .plane)
    let vertex : List Declaration := [
      { qualifier := .uniform, type := sampler, name := "a", layout := some "binding=3" }]
    let fragment : List Declaration := [
      { qualifier := .uniform, type := sampler, name := "a" },
      { qualifier := .uniform, type := .block, name := "B", layout := some "std140,binding=2"
        members := some [] }]
    let r : Reflection := {
      source := ""
      attributes := []
      outputs := []
      uniforms := []
      textures := [{ name := "a", type := "sampler2D", unit := 3, size := 1 }]
      blocks := [
        { name := "B", binding := 2, layout := some "std140,binding=2", fields := [], size := 0 }]
      structs := [] }
    ofStages (some vertex) (some fragment) "" = .ok r ∧
      KeepsFirstBinding (vertex ++ fragment) Declaration.isTexture "a" 3 ∧
      KeepsFirstBinding (vertex ++ fragment) Declaration.isBlock "B" 2 := by
  intro sampler vertex fragment r
  have reflected : ofStages (some vertex) (some fragment) "" = .ok r := by decide +kernel
  obtain ⟨textures, blocks⟩ := keepsFirstBinding_of_ofStages reflected
  exact ⟨reflected, textures _ List.mem_cons_self, blocks _ List.mem_cons_self⟩

/-- What is reported under a name is the binding that its declarations give, if one of them gives
one, all bindings that are given are the same and all declarations of the name are of the kind. -/
def KeepsBinding (declarations : List Declaration) (kind : Declaration → Bool) (name : String)
    (slot : Nat) : Prop :=
  ∀ b, (∃ d ∈ declarations, d.name = name ∧ SlotKind.hint? "binding" d = some b) →
    (∀ d ∈ declarations, d.name = name → d.qualifier = .uniform ∧ kind d = true) →
    (∀ d ∈ declarations, d.name = name → ∀ b' ∈ SlotKind.hint? "binding" d, b' = b) → slot = b

/-- A binding that only the fragment stage gives is lost if the vertex stage declares the texture
too. -/
theorem not_forall_keepsBinding :
    ¬ ∀ (vertex fragment : List Declaration) (source : String) (r : Reflection),
      ofStages (some vertex) (some fragment) source = .ok r →
        (∀ t ∈ r.textures,
          KeepsBinding (vertex ++ fragment) Declaration.isTexture t.name t.unit) ∧
        ∀ b ∈ r.blocks, KeepsBinding (vertex ++ fragment) Declaration.isBlock b.name b.binding := by
  intro h
  let plain : Declaration := {
    qualifier := .uniform, type := .value (.sampler .float .plane), name := "a" }
  let bound : Declaration := { plain with layout := some "binding=3" }
  let t : Texture := { name := "a", type := "sampler2D", unit := 0, size := 1 }
  let r : Reflection := {
    source := "", attributes := [], outputs := [], uniforms := [], textures := [t], blocks := []
    structs := [] }
  have reflected : ofStages (some [plain]) (some [bound]) "" = .ok r := by decide +kernel
  have kept := (h _ _ _ _ reflected).1 t List.mem_cons_self 3
  have given : SlotKind.hint? "binding" bound = some 3 := by decide +kernel
  have none : SlotKind.hint? "binding" plain = none := by decide +kernel
  have lost : 0 = 3 := by
    refine kept ⟨bound, by simp, rfl, given⟩ ?_ ?_
    · simp [plain, bound, Declaration.isTexture, DeclaredType.isSampler, ValueType.isSampler]
    · simp [given, none]
  cases lost

end Reflection

end ShaderSurface
