import ShaderSurface.Proofs.Program.StageStructs

/-!
# The inputs of a program

A varying is an input of the fragment stage that has the name of an output of the vertex stage. The
host binds no varying, but what it binds is decided by names alone: every declaration that has the
name of an output of either stage is dropped with the varyings, be it an attribute of the vertex
stage or a uniform (`Reflection.inputs_drop_outputNames`). The attributes of a reflection are listed
apart from the inputs, so that an attribute may be listed there and be no input.
-/

namespace ShaderSurface

open Outcome

namespace Interface

variable {vertex fragment : List Declaration} {d : Declaration} {name : String}

def IsOutputName (ds : List Declaration) (name : String) : Prop :=
  ∃ o ∈ ds, o.qualifier = .output ∧ o.name = name

instance (ds : List Declaration) : DecidablePred (IsOutputName ds) := fun name =>
  inferInstanceAs (Decidable (∃ o ∈ ds, o.qualifier = .output ∧ o.name = name))

/-- A declaration of the fragment stage is fed by the vertex stage. -/
def IsVarying (vertex : List Declaration) (d : Declaration) : Prop :=
  d.qualifier = .input ∧ IsOutputName vertex d.name

instance (vertex : List Declaration) : DecidablePred (IsVarying vertex) := fun d =>
  inferInstanceAs (Decidable (d.qualifier = .input ∧ IsOutputName vertex d.name))

/-- The declarations of both stages that are no outputs, without the varyings. -/
def withoutVaryings (vertex fragment : List Declaration) : List Declaration :=
  vertex.filter (fun d => d.qualifier ≠ .output) ++
    fragment.filter fun d => d.qualifier ≠ .output ∧ ¬IsVarying vertex d

theorem mem_outputNames_iff {ds : List Declaration} :
    name ∈ outputNames ds ↔ IsOutputName ds name := by
  simp [outputNames, IsOutputName, Declaration.isOutput, and_assoc]

theorem isOutputName_append {ds es : List Declaration} :
    IsOutputName (ds ++ es) name ↔ IsOutputName ds name ∨ IsOutputName es name := by
  simp only [IsOutputName, List.mem_append, or_and_right, exists_or]

theorem inputs_eq_filter (vertex fragment : List Declaration) :
    inputs vertex fragment = (vertex ++ fragment).filter fun d =>
      d.qualifier ≠ .output ∧ ¬IsOutputName (vertex ++ fragment) d.name := by
  rw [inputs]
  refine List.filter_congr fun d _ => ?_
  rw [Bool.eq_iff_iff]
  simp [Declaration.isOutput, ← mem_outputNames_iff]

/-- A declaration that is no output is an input exactly if no output has its name. -/
theorem mem_inputs_iff (mem : d ∈ vertex ++ fragment) (noOutput : d.qualifier ≠ .output) :
    d ∈ inputs vertex fragment ↔ ¬IsOutputName (vertex ++ fragment) d.name := by
  rw [inputs_eq_filter, List.mem_filter, decide_eq_true_eq]
  exact ⟨fun h => h.2.2, fun unnamed => ⟨mem, noOutput, unnamed⟩⟩

theorem inputs_eq_filter_withoutVaryings (vertex fragment : List Declaration) :
    inputs vertex fragment = (withoutVaryings vertex fragment).filter fun d =>
      ¬IsOutputName (vertex ++ fragment) d.name := by
  rw [inputs_eq_filter, withoutVaryings, List.filter_append, List.filter_append, List.filter_filter,
    List.filter_filter]
  congr 1
  · refine List.filter_congr fun d _ => ?_
    rw [← Bool.decide_and, decide_eq_decide, and_comm]
  · refine List.filter_congr fun d _ => ?_
    rw [← Bool.decide_and, decide_eq_decide]
    -- a varying has the name of an output
    have named : IsVarying vertex d → IsOutputName (vertex ++ fragment) d.name :=
      fun varying => isOutputName_append.2 (.inl varying.2)
    tauto

end Interface

namespace Reflection

variable {vertex fragment : List Declaration} {r : Reflection} {source : String}

structure Attribute.Describes (d : Declaration) (a : Attribute) : Prop where
  name : a.name = d.name
  type : a.type = d.type.name
  size : a.size = d.amount

theorem attributes_of_eq_ok (h : ofStages (some vertex) (some fragment) source = .ok r) :
    List.Forall₂ Attribute.Describes (vertex.filter (·.qualifier = .input)) r.attributes := by
  obtain ⟨locations, -, h⟩ := bind_eq_ok.1 h
  obtain ⟨outputLocations, -, h⟩ := bind_eq_ok.1 h
  obtain ⟨plain, -, h⟩ := bind_eq_ok.1 h
  obtain ⟨units, -, h⟩ := bind_eq_ok.1 h
  obtain ⟨bindings, -, h⟩ := bind_eq_ok.1 h
  obtain ⟨blocks, -, h⟩ := bind_eq_ok.1 h
  obtain rfl := Except.ok.inj h
  rw [List.forall₂_map_right_iff, List.forall₂_same]
  exact fun d _ => ⟨rfl, rfl, rfl⟩

/-- The inputs of a program are what is no output and no varying, without what has the name of an
output of either stage. So an attribute that is listed, and a uniform, is an input exactly if no
output has its name. -/
theorem inputs_drop_outputNames (vertex fragment : List Declaration) :
    let isDropped (d : Declaration) := Interface.IsOutputName (vertex ++ fragment) d.name
    Interface.inputs vertex fragment =
        (Interface.withoutVaryings vertex fragment).filter (¬isDropped ·) ∧
      (∀ source r, ofStages (some vertex) (some fragment) source = .ok r →
        List.Forall₂ (fun d (a : Attribute) => a.Describes d ∧
            (d ∈ Interface.inputs vertex fragment ↔ ¬isDropped d))
          (vertex.filter (·.qualifier = .input)) r.attributes) ∧
      ∀ d ∈ vertex ++ fragment, d.qualifier = .uniform →
        (d ∈ Interface.inputs vertex fragment ↔ ¬isDropped d) := by
  intro isDropped
  refine ⟨Interface.inputs_eq_filter_withoutVaryings vertex fragment, fun source r h => ?_,
    fun d mem uniform => Interface.mem_inputs_iff mem (by simp [uniform])⟩
  refine forall₂_imp_of_mem (fun d mem a describes => ⟨describes, ?_⟩) (attributes_of_eq_ok h)
  obtain ⟨inside, input⟩ := List.mem_filter.1 mem
  have input : d.qualifier = .input := of_decide_eq_true input
  exact Interface.mem_inputs_iff (List.mem_append_left fragment inside) (by simp [input])

/-- An attribute and a uniform have the name of an output of the fragment stage, and an input of
that stage is a varying. -/
theorem inputs_drop_outputNames_shared :
    let vec : DeclaredType := .value (.vector .float .four)
    let position : Declaration := { qualifier := .input, type := vec, name := "position" }
    let color : Declaration := { qualifier := .input, type := vec, name := "color" }
    let tint : Declaration := { qualifier := .uniform, type := vec, name := "tint" }
    let uv : Declaration := { qualifier := .output, type := vec, name := "uv" }
    let vertex := [position, color, tint, uv]
    let fragment : List Declaration := [
      { uv with qualifier := .input },
      { color with qualifier := .output },
      { tint with qualifier := .output }]
    let r : Reflection := {
      source := ""
      attributes := [
        { name := "position", type := "vec4", location := 0, size := 1 },
        { name := "color", type := "vec4", location := 1, size := 1 }]
      outputs := [
        { name := "color", type := "vec4", location := 0 },
        { name := "tint", type := "vec4", location := 1 }]
      uniforms := []
      textures := []
      blocks := []
      structs := [] }
    ofStages (some vertex) (some fragment) "" = .ok r ∧
      Interface.withoutVaryings vertex fragment = [position, color, tint] ∧
      Interface.inputs vertex fragment = [position] ∧
      color ∉ Interface.inputs vertex fragment ∧ tint ∉ Interface.inputs vertex fragment := by
  intro vec position color tint uv vertex fragment r
  have reflected : ofStages (some vertex) (some fragment) "" = .ok r := by decide +kernel
  obtain ⟨inputs, attributes, uniforms⟩ := inputs_drop_outputNames vertex fragment
  have listed := attributes "" r reflected
  have same : vertex.filter (·.qualifier = .input) = [position, color] := by decide +kernel
  rw [same, List.forall₂_cons, List.forall₂_cons] at listed
  refine ⟨reflected, by decide +kernel, inputs.trans (by decide +kernel), ?_, ?_⟩
  · exact fun mem => listed.2.1.2.1 mem (by decide +kernel)
  · exact fun mem => (uniforms tint (by simp [vertex]) rfl).1 mem (by decide +kernel)

/-- An attribute with the name of an output of the fragment stage is no varying, and it is listed,
but it is no input. -/
theorem not_forall_inputs_eq_withoutVaryings :
    ¬ ∀ vertex fragment,
      Interface.inputs vertex fragment = Interface.withoutVaryings vertex fragment := by
  intro h
  let color : Declaration := {
    qualifier := .input, type := .value (.vector .float .four), name := "color" }
  let output : Declaration := { color with qualifier := .output }
  have kept : Interface.withoutVaryings [color] [output] = [color] := by decide +kernel
  have dropped : Interface.inputs [color] [output] = [] := by decide +kernel
  have same := h [color] [output]
  rw [kept, dropped] at same
  cases same

end Reflection

end ShaderSurface
