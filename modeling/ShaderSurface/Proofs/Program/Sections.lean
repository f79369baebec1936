import ShaderSurface.Proofs.Layout.FirstFit
import ShaderSurface.Proofs.Program.StageStructs

/-!
# Sections of a reflection

The uniforms that a host binds are divided into plain uniforms, textures and blocks. The first
declaration of a name, the vertex stage's before the fragment stage's, decides in which section the
name stands and is what its entry describes; so the sections share no name and have every name once
(`Reflection.isPartition_of_ofStages`). Within textures, and within blocks, slots are first fit, so
that two runs meet only where both were given.
-/

namespace ShaderSurface

open Outcome

namespace Reflection

variable {vertex fragment ds : List Declaration} {d : Declaration} {r : Reflection}
  {structs : StructTable}

/-- The uniforms that a host binds, as the stages declare them, one stage after the other. -/
def declaredUniforms (vertex fragment : List Declaration) : List Declaration :=
  (Interface.inputs vertex fragment).filter (·.qualifier = .uniform)

def firstNamed? (ds : List Declaration) (name : String) : Option Declaration :=
  ds.find? (·.name = name)

theorem name_of_firstNamed? {name : String} (h : firstNamed? ds name = some d) : d.name = name := by
  simpa using List.find?_some h

theorem exists_firstNamed? {name : String} (mem : name ∈ ds.map (·.name)) :
    ∃ d, firstNamed? ds name = some d := by
  obtain ⟨d, inside, rfl⟩ := List.mem_map.1 mem
  exact Option.isSome_iff_exists.1 (List.find?_isSome.2 ⟨d, inside, decide_eq_true rfl⟩)

theorem mem_firstOfEachName_iff : d ∈ firstOfEachName ds ↔ firstNamed? ds d.name = some d := by
  induction ds with
  | nil => simp [firstOfEachName, firstNamed?]
  | cons e ds ih =>
    rw [firstOfEachName, List.mem_cons, List.mem_filter, ih, firstNamed?, firstNamed?,
      List.find?_cons]
    by_cases same : e.name = d.name
    · simp [same, eq_comm]
    · have apart : d ≠ e := fun equal => same (congrArg Declaration.name equal.symm)
      simp [same, apart, Ne.symm same]

theorem pairwise_firstOfEachName (ds : List Declaration) :
    ((firstOfEachName ds).map (·.name)).Pairwise fun n m =>
      (ds.map (·.name)).idxOf n < (ds.map (·.name)).idxOf m := by
  induction ds with
  | nil => exact .nil
  | cons d ds ih =>
    have others : ((firstOfEachName ds).filter (·.name ≠ d.name)).map (·.name) =
        ((firstOfEachName ds).map (·.name)).filter (· ≠ d.name) := by
      rw [List.filter_map]
      rfl
    rw [firstOfEachName, List.map_cons, List.map_cons, others]
    refine .cons (fun n mem => ?_) ?_
    · have apart : n ≠ d.name := by simpa using (List.mem_filter.1 mem).2
      rw [List.idxOf_cons_self, List.idxOf_cons_ne _ (Ne.symm apart)]
      exact Nat.succ_pos _
    · refine (ih.filter _).imp_of_mem fun {n m} hn hm before => ?_
      have apart : n ≠ d.name := by simpa using (List.mem_filter.1 hn).2
      have apart' : m ≠ d.name := by simpa using (List.mem_filter.1 hm).2
      rw [List.idxOf_cons_ne _ (Ne.symm apart), List.idxOf_cons_ne _ (Ne.symm apart')]
      exact Nat.succ_lt_succ before

theorem nodup_of_pairwise_idxOf {names all : List String}
    (h : names.Pairwise fun n m => all.idxOf n < all.idxOf m) : names.Nodup := by
  refine h.imp ?_
  rintro n _ before rfl
  exact Nat.lt_irrefl _ before

/-- A section holds an entry for each name whose first declaration is of its kind, in the order in
which the names first come, and the entry describes that declaration. -/
structure IsSection {α : Type} (ds : List Declaration) (kind : Declaration → Bool)
    (name : α → String) (Describes : Declaration → α → Prop) (entries : List α) : Prop where
  ordered : (entries.map name).Pairwise fun n m =>
    (ds.map (·.name)).idxOf n < (ds.map (·.name)).idxOf m
  described : ∀ entry ∈ entries, ∃ d, firstNamed? ds (name entry) = some d ∧ kind d = true ∧
    Describes d entry
  complete : ∀ n d, firstNamed? ds n = some d → kind d = true → n ∈ entries.map name

theorem IsSection.of_forall₂ {α : Type} {kind : Declaration → Bool} (name : α → String)
    {Describes : Declaration → α → Prop} {entries : List α}
    (named : ∀ d entry, Describes d entry → name entry = d.name)
    (h : List.Forall₂ Describes ((firstOfEachName ds).filter kind) entries) :
    IsSection ds kind name Describes entries := by
  have names : entries.map name = ((firstOfEachName ds).filter kind).map (·.name) := by
    have related := h.imp named
    rw [← List.forall₂_eq_eq_eq, List.forall₂_map_left_iff, List.forall₂_map_right_iff]
    exact related.flip
  refine ⟨?_, fun entry mem => ?_, fun n d first isKind => ?_⟩
  · rw [names]
    exact (pairwise_firstOfEachName ds).sublist (List.filter_sublist.map _)
  · obtain ⟨d, selected, describes⟩ := exists_of_mem_right h mem
    obtain ⟨first, isKind⟩ := List.mem_filter.1 selected
    rw [named d entry describes]
    exact ⟨d, mem_firstOfEachName_iff.1 first, isKind, describes⟩
  · obtain rfl := name_of_firstNamed? first
    rw [names]
    exact List.mem_map_of_mem (List.mem_filter.2 ⟨mem_firstOfEachName_iff.2 first, isKind⟩)

def isPlain (d : Declaration) : Bool := !d.isBlock && !d.isTexture

structure Uniform.Describes (structs : StructTable) (d : Declaration) (u : Uniform) : Prop
    extends Uniform.IsOf structs d u where
  type : u.type = d.typeLabel?
  size : u.size = d.amount
  precision : u.precision = d.precision

structure Texture.Describes (d : Declaration) (t : Texture) : Prop where
  name : t.name = d.name
  type : t.type = d.type.name
  size : t.size = d.amount

structure Block.Describes (structs : StructTable) (d : Declaration) (b : Block) : Prop
    extends Block.IsOf structs d b where
  layout : b.layout = d.layout
  fieldNames : b.fields.map (·.name) = d.body.map (·.name)
  fieldTypes : b.fields.map (·.type) = d.body.map (·.typeLabel?)

theorem Uniform.describes_of_uniform {u : Uniform} (h : uniform structs d = .ok u) :
    u.Describes structs d := by
  have of := Uniform.isOf_of_uniform h
  obtain ⟨locations, found, same⟩ := bind_eq_ok.1 h
  obtain rfl := Except.ok.inj same
  exact { of with type := rfl, size := rfl, precision := rfl }

theorem names_fieldsFrom {members : List Declaration} {footprints : List Footprint}
    (same : members.length = footprints.length) (offset : Nat) :
    (fieldsFrom offset members footprints).map (·.name) = members.map (·.name) ∧
      (fieldsFrom offset members footprints).map (·.type) = members.map (·.typeLabel?) := by
  induction members generalizing footprints offset with
  | nil => exact ⟨rfl, rfl⟩
  | cons member members ih =>
    cases footprints with
    | nil => cases same
    | cons f footprints =>
      let start := Std140.roundUp offset f.alignment
      obtain ⟨names, types⟩ := ih (Nat.succ.inj same) (start + f.size)
      exact ⟨congrArg (member.name :: ·) names, congrArg (member.typeLabel? :: ·) types⟩

theorem Block.describes_of_block {binding : Nat} {b : Block} (h : block structs binding d = .ok b) :
    b.Describes structs d := by
  have of := Block.isOf_of_block h
  obtain ⟨footprints, found, h⟩ := bind_eq_ok.1 h
  obtain ⟨size, sized, same⟩ := bind_eq_ok.1 h
  obtain rfl := Except.ok.inj same
  obtain ⟨names, types⟩ := names_fieldsFrom (mapM_eq_ok_iff.1 found).length_eq 0
  exact { of with layout := rfl, fieldNames := names, fieldTypes := types }

theorem Block.binding_of_block {binding : Nat} {b : Block} (h : block structs binding d = .ok b) :
    b.binding = binding := by
  obtain ⟨footprints, -, h⟩ := bind_eq_ok.1 h
  obtain ⟨size, -, same⟩ := bind_eq_ok.1 h
  obtain rfl := Except.ok.inj same
  rfl

theorem map_slotOf {slots : List Nat} (distinct : (ds.map (·.name)).Nodup)
    (same : slots.length = ds.length) :
    ds.map (slotOf ((ds.map (·.name)).zip slots)) = slots := by
  induction ds generalizing slots with
  | nil => exact (List.length_eq_zero_iff.1 same).symm
  | cons d ds ih =>
    cases slots with
    | nil => cases same
    | cons slot slots =>
      obtain ⟨fresh, distinct⟩ := List.nodup_cons.1 distinct
      have here : slotOf (((d :: ds).map (·.name)).zip (slot :: slots)) d = slot := by
        simp [slotOf, Keyed.get?]
      have later : ∀ e ∈ ds, slotOf (((d :: ds).map (·.name)).zip (slot :: slots)) e =
          slotOf ((ds.map (·.name)).zip slots) e := by
        intro e mem
        have apart : d.name ≠ e.name := fun equal => fresh (List.mem_map.2 ⟨e, mem, equal.symm⟩)
        simp [slotOf, Keyed.get?, apart]
      rw [List.map_cons, here, List.map_congr_left later, ih distinct (Nat.succ.inj same)]

/-- The slots that are assigned to declarations with names of their own are first fit. -/
theorem isFirstFit_of_assign {kind : SlotKind} {table : Keyed String Nat}
    (distinct : (ds.map (·.name)).Nodup) (h : kind.assign ds = .ok table) :
    SlotKind.IsFirstFit kind.key kind.width ds (ds.map (slotOf table)) := by
  rw [SlotKind.assign_of_isReadable distinct (SlotKind.isReadable_of_assign h)] at h
  obtain rfl := Except.ok.inj h
  rw [map_slotOf distinct (SlotKind.length_slotsOf kind ds)]
  exact SlotKind.isFirstFit_slotsOf kind ds

theorem nodup_names_filter (ds : List Declaration) (kind : Declaration → Bool) :
    (((firstOfEachName ds).filter kind).map (·.name)).Nodup :=
  nodup_of_pairwise_idxOf ((pairwise_firstOfEachName ds).sublist (List.filter_sublist.map _))

/-- The slots of two entries overlap only if the first declarations of both names have a layout that
gives a binding. A run is as wide as the declaration has elements. -/
def AreApart {α : Type} (ds : List Declaration) (name : α → String) (slot : α → Nat)
    (entries : List α) : Prop :=
  entries.Pairwise fun x y => ∀ d e, firstNamed? ds (name x) = some d →
    firstNamed? ds (name y) = some e →
    ¬ Disjoint (Finset.Ico (slot x) (slot x + (max d.amount 1).toNat))
      (Finset.Ico (slot y) (slot y + (max e.amount 1).toNat)) →
    (SlotKind.hint? "binding" d).isSome ∧ (SlotKind.hint? "binding" e).isSome

theorem AreApart.of_assign {α : Type} {kind : Declaration → Bool} {name : α → String}
    {slot : α → Nat} {entries : List α} {width : Declaration → Nat} {table : Keyed String Nat}
    (elements : width = Declaration.elements)
    (h : (SlotKind.mk "binding" width).assign ((firstOfEachName ds).filter kind) = .ok table)
    (placed : List.Forall₂ (fun d x => name x = d.name ∧ slot x = slotOf table d)
      ((firstOfEachName ds).filter kind) entries) : AreApart ds name slot entries := by
  obtain ⟨-, -, -, overlap⟩ := isFirstFit_of_assign (nodup_names_filter ds kind) h
  rw [AreApart, List.pairwise_iff_getElem]
  intro i j hi hj before d e first first' meet
  have found (k : Nat) (hk : k < entries.length) (d : Declaration)
      (first : firstNamed? ds (name entries[k]) = some d) :
      ((firstOfEachName ds).filter kind)[k]? = some d ∧ slot entries[k] = slotOf table d := by
    have within : k < ((firstOfEachName ds).filter kind).length := placed.length_eq ▸ hk
    obtain ⟨named, placed⟩ := placed.get within hk
    have mem := (List.mem_filter.1 (List.getElem_mem within)).1
    rw [mem_firstOfEachName_iff] at mem
    simp only [List.get_eq_getElem] at named placed
    rw [named, mem] at first
    obtain rfl := Option.some.inj first
    exact ⟨List.getElem?_eq_getElem within, placed⟩
  obtain ⟨hd, slot_d⟩ := found i hi d first
  obtain ⟨he, slot_e⟩ := found j hj e first'
  rw [slot_d, slot_e] at meet
  subst elements
  exact overlap i j d e _ _ (Nat.ne_of_lt before) hd he (by simp [hd]) (by simp [he]) meet

theorem isTexture_eq_false_of_isBlock (h : d.isBlock = true) : d.isTexture = false := by
  have block : d.type = .block := beq_iff_eq.1 h
  rw [Declaration.isTexture, block]
  exact Bool.and_false _

/-- Two sections of kinds that exclude each other share no name. -/
theorem IsSection.disjoint {α β : Type} {kind kind' : Declaration → Bool} {name : α → String}
    {name' : β → String} {Describes : Declaration → α → Prop} {Describes' : Declaration → β → Prop}
    {xs : List α} {ys : List β} (apart : ∀ d, kind d = true → kind' d = false)
    (hx : IsSection ds kind name Describes xs) (hy : IsSection ds kind' name' Describes' ys) :
    ∀ n ∈ xs.map name, ∀ m ∈ ys.map name', n ≠ m := by
  intro n hn m hm same
  obtain ⟨x, inside, rfl⟩ := List.mem_map.1 hn
  obtain ⟨y, inside', rfl⟩ := List.mem_map.1 hm
  obtain ⟨d, first, isKind, -⟩ := hx.described x inside
  obtain ⟨d', first', isKind', -⟩ := hy.described y inside'
  rw [same, first', Option.some.injEq] at first
  rw [first, apart d isKind] at isKind'
  cases isKind'

theorem IsSection.mem_names {α : Type} {kind : Declaration → Bool} {name : α → String}
    {Describes : Declaration → α → Prop} {xs : List α} (h : IsSection ds kind name Describes xs)
    {n : String} (mem : n ∈ xs.map name) : n ∈ ds.map (·.name) := by
  obtain ⟨x, inside, rfl⟩ := List.mem_map.1 mem
  obtain ⟨d, first, -⟩ := h.described x inside
  exact List.mem_map.2 ⟨d, List.mem_of_find?_eq_some first, name_of_firstNamed? first⟩

/-- The three sections of a description divide the uniforms that the host binds, and slots are given
to textures, and to blocks, so that runs are apart. -/
structure IsPartition (vertex fragment : List Declaration) (r : Reflection) : Prop where
  uniforms : IsSection (declaredUniforms vertex fragment) isPlain Uniform.name
    (fun d u => u.Describes (StructTable.ofDeclarations (vertex ++ fragment)) d) r.uniforms
  textures : IsSection (declaredUniforms vertex fragment) Declaration.isTexture Texture.name
    (fun d t => t.Describes d) r.textures
  blocks : IsSection (declaredUniforms vertex fragment) Declaration.isBlock Block.name
    (fun d b => b.Describes (StructTable.ofDeclarations (vertex ++ fragment)) d) r.blocks
  distinct : (r.uniforms.map (·.name) ++ r.textures.map (·.name) ++ r.blocks.map (·.name)).Nodup
  names : ∀ n, n ∈ r.uniforms.map (·.name) ++ r.textures.map (·.name) ++ r.blocks.map (·.name) ↔
    ∃ d ∈ Interface.inputs vertex fragment, d.qualifier = .uniform ∧ d.name = n
  units : AreApart (declaredUniforms vertex fragment) Texture.name Texture.unit r.textures
  bindings : AreApart (declaredUniforms vertex fragment) Block.name Block.binding r.blocks

theorem mem_names_declaredUniforms {n : String} :
    n ∈ (declaredUniforms vertex fragment).map (·.name) ↔
      ∃ d ∈ Interface.inputs vertex fragment, d.qualifier = .uniform ∧ d.name = n := by
  simp [declaredUniforms, and_assoc]

theorem isPartition_of_ofStages {source : String}
    (h : ofStages (some vertex) (some fragment) source = .ok r) :
    IsPartition vertex fragment r := by
  obtain ⟨described, ⟨units, assigned, textures_eq⟩, bindings, assigned', described'⟩ :=
    sections_of_eq_ok h
  rw [mapM_eq_ok_iff] at described described'
  have uniforms := IsSection.of_forall₂ Uniform.name (fun _ _ of => of.name)
    (described.imp fun _ _ => Uniform.describes_of_uniform)
  have blocks := IsSection.of_forall₂ Block.name (fun _ _ of => of.name)
    (described'.imp fun _ _ => Block.describes_of_block)
  have placed : List.Forall₂ (fun d t => Texture.Describes d t ∧ t.unit = slotOf units d)
      ((uniformsOf vertex fragment).filter Declaration.isTexture) r.textures := by
    rw [textures_eq, List.forall₂_map_right_iff, List.forall₂_same]
    exact fun d _ => ⟨⟨rfl, rfl, rfl⟩, rfl⟩
  have textures := IsSection.of_forall₂ Texture.name (fun _ _ of => of.name)
    (placed.imp fun _ _ of => of.1)
  have notBlock : ∀ d, isPlain d = true → d.isBlock = false ∧ d.isTexture = false := by
    simp [isPlain]
  refine ⟨uniforms, textures, blocks, ?_, fun n => ?_, ?_, ?_⟩
  · have plainApart := uniforms.disjoint (fun d plain => (notBlock d plain).2) textures
    have plainApart' := uniforms.disjoint (fun d plain => (notBlock d plain).1) blocks
    have blocksApart := blocks.disjoint (fun d => isTexture_eq_false_of_isBlock) textures
    rw [List.nodup_append, List.nodup_append]
    refine ⟨⟨nodup_of_pairwise_idxOf uniforms.ordered, nodup_of_pairwise_idxOf textures.ordered,
      plainApart⟩, nodup_of_pairwise_idxOf blocks.ordered, fun n mem m mem' => ?_⟩
    rcases List.mem_append.1 mem with mem | mem
    · exact plainApart' n mem m mem'
    · exact (blocksApart m mem' n mem).symm
  · rw [← mem_names_declaredUniforms, List.mem_append, List.mem_append]
    constructor
    · rintro ((mem | mem) | mem)
      · exact uniforms.mem_names mem
      · exact textures.mem_names mem
      · exact blocks.mem_names mem
    · intro mem
      obtain ⟨d, first⟩ := exists_firstNamed? mem
      -- the first declaration of a name decides in which of the sections it is
      cases block : d.isBlock with
      | true => exact .inr (blocks.complete n d first block)
      | false =>
        cases texture : d.isTexture with
        | true => exact .inl (.inr (textures.complete n d first texture))
        | false =>
          exact .inl (.inl (uniforms.complete n d first (by simp [block, texture])))
  · exact AreApart.of_assign rfl assigned (placed.imp fun d t of => ⟨of.1.name, of.2⟩)
  · refine AreApart.of_assign rfl assigned' (described'.imp fun d b described => ?_)
    exact ⟨(Block.isOf_of_block described).name, Block.binding_of_block described⟩

/-- The stages share a name that is a plain uniform in one and a texture in the other; an output of
the vertex stage takes the name of a uniform away; a given unit keeps an array of textures behind
it. -/
theorem isPartition_mixed :
    let sampler : DeclaredType := .value (.sampler .float .plane)
    let vertex : List Declaration := [
      { qualifier := .uniform, type := .value (.scalar .float), name := "a" },
      { qualifier := .uniform, type := sampler, name := "s", amount := 2 },
      { qualifier := .uniform, type := .block, name := "B"
        members := some [
          { qualifier := .uniform, type := .value (.vector .float .four), name := "c" }] },
      { qualifier := .output, type := .value (.scalar .float), name := "o" }]
    let fragment : List Declaration := [
      { qualifier := .uniform, type := sampler, name := "a" },
      { qualifier := .uniform, type := .value (.scalar .float), name := "o" },
      { qualifier := .uniform, type := sampler, name := "t", layout := some "binding=1" }]
    let r : Reflection := {
      source := ""
      attributes := []
      outputs := []
      uniforms := [
        { name := "a", type := some "float", size := 1, precision := none, locations := ["a"] }]
      textures := [
        { name := "s", type := "sampler2D", unit := 2, size := 2 },
        { name := "t", type := "sampler2D", unit := 1, size := 1 }]
      blocks := [
        { name := "B", binding := 0, layout := none, size := 16
          fields := [{ name := "c", type := some "vec4", offset := 0, size := 16 }] }]
      structs := [] }
    ofStages (some vertex) (some fragment) "" = .ok r ∧ IsPartition vertex fragment r := by
  intro sampler vertex fragment r
  have reflected : ofStages (some vertex) (some fragment) "" = .ok r := by decide +kernel
  exact ⟨reflected, isPartition_of_ofStages reflected⟩

end Reflection

end ShaderSurface
