import ShaderSurface.Proofs.Grammar.Filters

/-!
# Reading is exact on the grammar

A well-formed source is read into one declaration for each of its inputs, outputs and uniforms, in
order, followed by one for each of its structs, in order (`Grammar.read_sourceText`). Structs are
read one after another, each knowing those before it, so the induction goes along the entries with
the declarations of the structs that are read already.
-/

namespace ShaderSurface.Grammar

open Text Numeral

namespace Item

def typeNames : Item → List TypeName
  | var v => [v.type]
  | block b => b.members.map fun member => member.1.type
  | struct d => d.members.map fun member => member.1.type
  | precision _ => []

end Item

def structsIn (items : List (Item × Spacing)) : List Struct :=
  items.filterMap (·.1.struct?)

def structNames (items : List (Item × Spacing)) : List String :=
  (structsIn items).map (·.name.name)

/-- The structs have names of their own, and each uses only structs before it. -/
structure StructsInOrder (items : List (Item × Spacing)) : Prop where
  distinct : (structNames items).Nodup
  ordered : ∀ before d after, structsIn items = before ++ d :: after →
    ∀ member ∈ d.members, member.1.type.IsKnown (before.map (·.name.name))

/-- The items can be read: each is written so that its parts are read and uses only types of the
source, the structs are in order, and no block or instance has the name of a struct. -/
structure IsWellFormed (items : List (Item × Spacing)) : Prop extends StructsInOrder items where
  written : ∀ x ∈ items, x.1.IsWritten x.2
  typed : ∀ x ∈ items, ∀ type ∈ x.1.typeNames, type.IsKnown (structNames items)
  apart : ∀ b s, (.block b, s) ∈ items →
    ∀ i ∈ (Item.block b).bodyNames, i.name ∉ structNames items

variable {table : SpanTable} {entries : List Entry}

def itemsOf (entries : List Entry) : List (Item × Spacing) :=
  entries.map fun e => (e.item, e.spacing)

def structsOf (entries : List Entry) : List Declaration :=
  (structsIn (itemsOf entries)).map Struct.declaration

theorem names_structsOf (entries : List Entry) :
    (structsOf entries).map (·.name) = structNames (itemsOf entries) := by
  rw [structsOf, structNames, List.map_map]
  rfl

theorem areIdentifiers_structNames (items : List (Item × Spacing)) :
    AreIdentifiers (structNames items) := by
  intro name mem
  obtain ⟨d, -, same⟩ := List.mem_map.1 mem
  exact ⟨d.name, same⟩

theorem structsIn_itemsOf_append (before after : List Entry) :
    structsIn (itemsOf (before ++ after)) =
      structsIn (itemsOf before) ++ structsIn (itemsOf after) := by
  simp [structsIn, itemsOf, List.filterMap_append]

theorem structsIn_itemsOf_cons {e : Entry} {d : Struct} (item : e.item = .struct d)
    (after : List Entry) : structsIn (itemsOf (e :: after)) = d :: structsIn (itemsOf after) := by
  simp [structsIn, itemsOf, item, Item.struct?]

theorem structsIn_itemsOf_skip {e : Entry} (item : e.item.struct? = none) (after : List Entry) :
    structsIn (itemsOf (e :: after)) = structsIn (itemsOf after) := by
  simp [structsIn, itemsOf, item]

theorem readStruct_statement {before after : List Entry} {e : Entry} {d : Struct}
    (inOrder : StructsInOrder (itemsOf (before ++ e :: after))) (held : e.IsHeld table)
    (writable : table.size ≤ writableBound) (item : e.item = .struct d)
    (written : e.item.IsWritten e.spacing) :
    Surface.readStruct table (structsOf before) e.statement =
      .ok (structsOf (before ++ [e])) := by
  have parts : structsIn (itemsOf (before ++ e :: after)) =
      structsIn (itemsOf before) ++ d :: structsIn (itemsOf after) := by
    rw [structsIn_itemsOf_append, structsIn_itemsOf_cons item]
  have apart : ∀ i ∈ e.item.bodyNames, i.name ∉ structNames (itemsOf before) := by
    have distinct := inOrder.distinct
    rw [structNames, parts, List.map_append, List.map_cons, List.nodup_append] at distinct
    rw [item, Item.bodyNames, List.forall_mem_singleton]
    exact fun mem => distinct.2.2 _ mem _ List.mem_cons_self rfl
  obtain ⟨draft, read, settle⟩ := Outcome.bind_eq_ok.1 (settle_struct held writable
    (areIdentifiers_structNames (itemsOf before)) item written apart
    (inOrder.ordered _ d _ parts))
  have added : structsOf (before ++ [e]) = structsOf before ++ [d.declaration] := by
    rw [structsOf, structsIn_itemsOf_append, structsIn_itemsOf_cons item, List.map_append]
    rfl
  rw [Surface.readStruct, names_structsOf, read, Outcome.bind_ok, settle, Outcome.bind_ok, added]
  rfl

theorem foldlM_readStruct (inOrder : StructsInOrder (itemsOf entries))
    (held : ∀ e ∈ entries, e.IsHeld table) (writable : table.size ≤ writableBound)
    (written : ∀ e ∈ entries, e.item.struct?.isSome → e.item.IsWritten e.spacing)
    (before after : List Entry) (parts : entries = before ++ after) :
    ((after.map Entry.statement).filter Statement.declaresStruct).foldlM
      (Surface.readStruct table) (structsOf before) = .ok (structsOf entries) := by
  -- the fold carries the structs of the entries before, which the next one may have members of
  induction after generalizing before with
  | nil =>
    rw [parts, List.append_nil]
    rfl
  | cons e after ih =>
    have rest := ih (before ++ [e]) (by rw [parts, List.append_assoc, List.singleton_append])
    have mem : e ∈ entries := by simp [parts]
    have declares := (declares_statement (held e mem)).2
    cases item : e.item with
    | struct d =>
      rw [item] at declares
      rw [parts] at inOrder
      rw [List.map_cons, List.filter_cons_of_pos declares, List.foldlM_cons,
        readStruct_statement inOrder (held e mem) writable item
          (written e mem (by rw [item]; rfl)), Outcome.bind_ok]
      exact rest
    | var v | block b | precision p =>
      have skipped : structsOf (before ++ [e]) = structsOf before := by
        rw [structsOf, structsIn_itemsOf_append, structsIn_itemsOf_skip (by rw [item]; rfl)]
        simp [structsOf, structsIn, itemsOf]
      rw [item] at declares
      rw [skipped] at rest
      rw [List.map_cons, List.filter_cons_of_neg (Bool.not_eq_true _ ▸ declares)]
      exact rest

/-- The other declarations of a well-formed source are read with every struct known, in order. -/
theorem readInterface_statements {items : List (Item × Spacing)} (wellFormed : IsWellFormed items)
    (inside : ∀ e ∈ entries, (e.item, e.spacing) ∈ items) (held : ∀ e ∈ entries, e.IsHeld table)
    (writable : table.size ≤ writableBound) :
    ((entries.map Entry.statement).filter Statement.declaresInterface).mapM (fun statement => do
        (← Draft.read table (structNames items) statement).settle "declaration") =
      .ok (entries.filterMap (·.item.declaration?)) := by
  apply Outcome.mapM_filter_map_eq_ok
  intro e mem
  have written := wellFormed.written _ (inside e mem)
  have typed := wellFormed.typed _ (inside e mem)
  have hknown := areIdentifiers_structNames items
  refine ⟨(declares_statement (held e mem)).1, ?_⟩
  intro declaration given
  cases item : e.item with
  | var v =>
    rw [item] at given typed
    obtain rfl := Option.some.inj given
    exact settle_var (held e mem) writable hknown item (typed _ (List.mem_singleton_self _)) written
  | block b =>
    have apart := wellFormed.apart b e.spacing (by rw [← item]; exact inside e mem)
    rw [← item] at apart
    rw [item] at given typed
    obtain rfl := Option.some.inj given
    exact settle_block (held e mem) writable hknown item written apart
      fun member inBody => typed _ (List.mem_map_of_mem inBody)
  | struct d => simp [item, Item.declaration?] at given
  | precision p => simp [item, Item.declaration?] at given

/-- A source whose structs are in order is read as far as its other declarations are. -/
theorem read_of_structsInOrder {source : Text} {last : Gap}
    (setAside : Surface.setAside source =
      (entries.flatMap (fun e => e.code ++ [';']) ++ last.text, table))
    (inOrder : StructsInOrder (itemsOf entries)) (held : ∀ e ∈ entries, e.IsHeld table)
    (writable : table.size ≤ writableBound)
    (written : ∀ e ∈ entries, e.item.struct?.isSome → e.item.IsWritten e.spacing) :
    Surface.read source =
      (((entries.map Entry.statement).filter Statement.declaresInterface).mapM
        (fun statement => do
          (← Draft.read table (structNames (itemsOf entries)) statement).settle
            "declaration")).map (· ++ structsOf entries) := by
  have structs : Surface.readStructs table
      (entries.flatMap (fun e => e.code ++ [';']) ++ last.text) = .ok (structsOf entries) := by
    rw [Surface.readStructs, Statement.select, ofText_code held last]
    exact foldlM_readStruct inOrder held writable written [] entries rfl
  rw [Surface.read, setAside]
  simp only [structs, Outcome.bind_ok, names_structsOf, Surface.readInterface, Statement.select,
    ofText_code held last]
  rfl

/-- A well-formed source is read exactly. -/
theorem read_sourceText {items : List (Item × Spacing)} (wellFormed : IsWellFormed items)
    (few : 2 * items.length ≤ writableBound) (last : Gap) :
    Surface.read (sourceText items last) =
      .ok (items.filterMap (·.1.declaration?) ++ (structsIn items).map Struct.declaration) := by
  obtain ⟨entries, table, rfl, size, held, setAside⟩ := setAside_sourceText items last
  have writable := Nat.le_trans size few
  have written : ∀ e ∈ entries, e.item.struct?.isSome → e.item.IsWritten e.spacing :=
    fun e mem _ => wellFormed.written _ (List.mem_map_of_mem mem)
  have interface := readInterface_statements wellFormed (fun e => List.mem_map_of_mem) held writable
  rw [read_of_structsInOrder setAside wellFormed.toStructsInOrder held writable written, itemsOf,
    interface, List.filterMap_map]
  rfl

/-- A default precision, a struct, an input with a layout, and a block with a member of the struct's
type. -/
def sampleItems : List (Item × Spacing) :=
  [(.precision .medium, {}),
    (.struct {
      name := { text := "Light".toList }
      members := [
        ({ type := .value (.vector .float .three), name := { text := "color".toList } },
          { start := { text := "\n  ".toList } }),
        ({ type := .value (.scalar .float), name := { text := "weights".toList }
           length := some { text := "2".toList } }, {})] }, {}),
    (.var {
      layout := some { text := "location = 0".toList }
      storage := .input
      type := .value (.vector .float .three)
      name := { text := "position".toList } }, {}),
    (.block {
      storage := .uniform
      name := { text := "Scene".toList }
      members := [
        ({ type := .struct { text := "Light".toList }, name := { text := "lights".toList }
           length := some { text := "4".toList } }, {})]
      instance? := some ({ text := "scenes".toList }, some { text := "2".toList }) }, {})]

theorem isWellFormed_sampleItems : IsWellFormed sampleItems where
  distinct := by decide
  ordered := by
    intro before d after parts
    have one : structsIn sampleItems = [_] := rfl
    rw [one] at parts
    cases before with
    | nil =>
      obtain ⟨rfl, -⟩ := List.cons.inj parts
      decide
    | cons d before => simp at parts
  written := by decide
  typed := by decide
  apart := by
    intro b s mem
    simp only [sampleItems, List.mem_cons, Prod.mk.injEq, reduceCtorEq, false_and, false_or,
      Item.block.injEq, List.not_mem_nil, or_false] at mem
    obtain ⟨rfl, rfl⟩ := mem
    decide

theorem read_sampleItems :
    Surface.read ("precision mediump float;struct Light\x7b\n  vec3 color;float weights[2];\x7d;" ++
        "layout(location = 0)in vec3 position;" ++
        "uniform Scene\x7bLight lights[4];\x7d scenes[2];").toList =
      .ok [
        { qualifier := .input, type := .value (.vector .float .three), name := "position"
          layout := some "location=0" },
        { qualifier := .uniform, type := .block, name := "Scene", amount := 2
          members := some [
            { qualifier := .uniform, type := .struct, name := "lights", amount := 4
              structName := some "Light" }] },
        { qualifier := .struct, type := .block, name := "Light"
          members := some [
            { qualifier := .struct, type := .value (.vector .float .three), name := "color" },
            { qualifier := .struct, type := .value (.scalar .float), name := "weights"
              amount := 2 }] }] := by
  have few : 2 * sampleItems.length ≤ writableBound := by decide +kernel
  have read := read_sourceText isWellFormed_sampleItems few {}
  have text : sourceText sampleItems {} =
      ("precision mediump float;struct Light\x7b\n  vec3 color;float weights[2];\x7d;" ++
        "layout(location = 0)in vec3 position;" ++
        "uniform Scene\x7bLight lights[4];\x7d scenes[2];").toList := by decide +kernel
  rw [text] at read
  rw [read]
  decide +kernel

end ShaderSurface.Grammar
