import ShaderSurface.Program.Reflection
import ShaderSurface.Proofs.Declaration.Naming
import ShaderSurface.Proofs.Layout.Failures
import ShaderSurface.Proofs.Surface.Closure

/-!
# Reflection ends

A struct may use the structs before it. So in a source in which no struct with a body takes the name
of an earlier one, following the members of a struct never comes back to it, and it stays so when
the structs of a fragment stage come before those of a vertex stage: what a fragment stage's struct
leads to is the fragment stage's own. Reflection then gives a description or a layout error
(`Reflection.ends_of_read`).

A struct takes the name of an earlier one only where the name stands before a square bracket
(`Draft.exists_bracket_of_readWords`).
-/

namespace ShaderSurface

open Outcome

namespace StructTable

variable {structs own other : StructTable} {ds : List Declaration} {name : String}
  {d struct : Declaration}

theorem mem_of_names {known : List String} (shape : d.Throughout (·.HasShape known))
    (names : Names name d) : name ∈ known := by
  induction names with
  | type _ named =>
    obtain ⟨here, -⟩ := shape
    exact here.structName _ named
  | member _ mem _ ih =>
    obtain ⟨-, members⟩ := shape
    exact ih (members _ mem)

section Or

variable (first : ∀ name, structs.get? name = (own.get? name).or (other.get? name))
  (closed : ∀ outer inner, own.Leads outer inner → (own.get? inner).isSome)
include first

theorem leads_cases {outer inner : String} (h : structs.Leads outer inner) :
    (own.get? outer).isSome ∧ own.Leads outer inner ∨
      own.get? outer = none ∧ other.Leads outer inner := by
  obtain ⟨struct, found, inside⟩ := h
  rw [first] at found
  cases known : own.get? outer with
  | some struct' =>
    rw [known, Option.some_or] at found
    exact .inl ⟨rfl, struct, known.trans found, inside⟩
  | none =>
    rw [known, Option.none_or] at found
    exact .inr ⟨rfl, struct, found, inside⟩

include closed

theorem path_cases {outer inner : String} (path : Relation.TransGen structs.Leads outer inner) :
    (own.get? outer).isSome ∧ (own.get? inner).isSome ∧ Relation.TransGen own.Leads outer inner ∨
      own.get? outer = none ∧ ((own.get? inner).isSome ∨ Relation.TransGen
        (fun outer inner => other.Leads outer inner ∧ own.get? inner = none) outer inner) := by
  have next {inner : String} : (own.get? inner).isSome ∨ own.get? inner = none := by
    cases own.get? inner <;> simp
  -- where the last step starts decides which of the two tables it belongs to
  induction path with
  | single leads =>
    rcases leads_cases first leads with ⟨known, leads⟩ | ⟨unknown, leads⟩
    · exact .inl ⟨known, closed _ _ leads, .single leads⟩
    · exact .inr ⟨unknown, next.imp_right fun outside => .single ⟨leads, outside⟩⟩
  | tail _ leads ih =>
    rcases leads_cases first leads with ⟨known, leads⟩ | ⟨unknown, leads⟩
    · rcases ih with ⟨start, -, path⟩ | ⟨start, -⟩
      · exact .inl ⟨start, closed _ _ leads, path.tail leads⟩
      · exact .inr ⟨start, .inl (closed _ _ leads)⟩
    · rcases ih with ⟨-, known, -⟩ | ⟨start, known | path⟩
      · simp [unknown] at known
      · simp [unknown] at known
      · exact .inr ⟨start, next.imp_right fun outside => path.tail ⟨leads, outside⟩⟩

/-- A table that gives what is in a first table, and what is in a second one otherwise, is acyclic
if the first one is and leads to nothing else, and if the second does not come back to itself
outside of the first. -/
theorem isAcyclic_of_or (ownAcyclic : own.IsAcyclic)
    (otherAcyclic : ∀ name, ¬ Relation.TransGen
      (fun outer inner => other.Leads outer inner ∧ own.get? inner = none) name name) :
    structs.IsAcyclic := by
  intro name cycle
  rcases path_cases first closed cycle with ⟨-, -, cycle⟩ | ⟨unknown, known | cycle⟩
  · exact ownAcyclic name cycle
  · simp [unknown] at known
  · exact otherAcyclic name cycle

end Or

/-- Structs that name only structs before them, and do not take the name of one, are not inside
themselves. -/
theorem isAcyclic_ofDeclarations
    (shape : ∀ before d after, ds = before ++ d :: after →
      d.Throughout (·.HasShape (before.map (·.name))))
    (fresh : ∀ before d after, ds = before ++ d :: after → d.body ≠ [] →
      d.name ∉ before.map (·.name)) : (ofDeclarations ds).IsAcyclic := by
  refine isAcyclic_of_rank (fun name => (ds.map (·.name)).idxOf name) ?_
  rintro outer inner ⟨struct, found, member, mem, names⟩
  obtain ⟨before, after, rfl⟩ := List.append_of_mem (mem_of_get?_ofDeclarations found)
  obtain rfl := name_eq_of_get?_ofDeclarations found
  obtain ⟨-, members⟩ := shape before struct after rfl
  have inside : inner ∈ before.map (·.name) := mem_of_names (members member mem) names
  have unused : struct.name ∉ before.map (·.name) :=
    fresh before struct after rfl (List.ne_nil_of_mem mem)
  calc
    _ = (before.map (·.name)).idxOf inner := by
      rw [List.map_append, List.idxOf_append_of_mem inside]
    _ < (before.map (·.name)).length := List.idxOf_lt_length_of_mem inside
    _ ≤ _ := by
      rw [List.map_append, List.idxOf_append_of_notMem unused]
      exact Nat.le_add_right _ _

end StructTable

namespace Surface

variable {source : Text} {ds : List Declaration}

/-- No struct with a body takes the name of a struct before it. -/
def HasFreshStructs (source : Text) : Prop :=
  ∀ before d after,
    readStructs (setAside source).2 (setAside source).1 = .ok (before ++ d :: after) →
      d.body ≠ [] → d.name ∉ before.map (·.name)

theorem isSome_of_names {table : SpanTable} {code : Text} {structs : List Declaration}
    (read : readStructs table code = .ok structs) {d member : Declaration}
    (shape : d.Throughout (·.HasShape (structs.map (·.name)))) (mem : member ∈ d.body)
    {name : String} (names : StructTable.Names name member) :
    ((StructTable.ofDeclarations structs).get? name).isSome := by
  obtain ⟨-, members⟩ := shape
  obtain ⟨named, inside, rfl⟩ :=
    List.mem_map.1 (StructTable.mem_of_names (members member mem) names)
  exact StructTable.isSome_get?_ofDeclarations inside (qualifier_of_readStructs read inside)

theorem isSome_of_leads (h : read source = .ok ds) {outer inner : String}
    (leads : (StructTable.ofDeclarations ds).Leads outer inner) :
    ((StructTable.ofDeclarations ds).get? inner).isSome := by
  obtain ⟨interface, structs, rfl, read, shape, -⟩ := shape_of_read h
  obtain ⟨struct, found, member, mem, names⟩ := leads
  have inside := isSome_of_names read
    (shape struct (StructTable.mem_of_get?_ofDeclarations found)) mem names
  rw [StructTable.get?_ofDeclarations_append, Option.isSome_or, inside, Bool.true_or]

/-- The structs of a source are not inside themselves, unless one takes the name of another. -/
theorem isAcyclic_of_read (h : read source = .ok ds) (fresh : HasFreshStructs source) :
    (StructTable.ofDeclarations ds).IsAcyclic := by
  obtain ⟨interface, structs, rfl, read, shape, ordered⟩ := shape_of_read h
  refine StructTable.isAcyclic_of_or (StructTable.get?_ofDeclarations_append interface structs)
    ?_ ?_ ?_
  · rintro outer inner ⟨struct, found, member, mem, names⟩
    exact isSome_of_names read (shape struct
      (List.mem_append_right _ (StructTable.mem_of_get?_ofDeclarations found))) mem names
  · refine StructTable.isAcyclic_ofDeclarations ordered fun before d after same => ?_
    exact fresh before d after (same ▸ read)
  · intro name cycle
    obtain ⟨inner, ⟨⟨struct, found, member, mem, names⟩, outside⟩, -⟩ :=
      Relation.TransGen.head'_iff.1 cycle
    have inside := isSome_of_names read (shape struct
      (List.mem_append_left _ (StructTable.mem_of_get?_ofDeclarations found))) mem names
    rw [outside] at inside
    cases inside

theorem isAcyclic_of_stages {vertexSource fragmentSource : Text}
    {vertex fragment : List Declaration}
    (hvertex : read vertexSource = .ok vertex) (hfragment : read fragmentSource = .ok fragment)
    (freshVertex : HasFreshStructs vertexSource) (freshFragment : HasFreshStructs fragmentSource) :
    (StructTable.ofDeclarations (vertex ++ fragment)).IsAcyclic := by
  refine StructTable.isAcyclic_of_or (StructTable.get?_ofDeclarations_append vertex fragment)
    (fun _ _ => isSome_of_leads hfragment) (isAcyclic_of_read hfragment freshFragment) ?_
  exact fun name cycle => isAcyclic_of_read hvertex freshVertex name
    (Relation.TransGen.mono (fun _ _ => And.left) name name cycle)

end Surface

namespace Draft

variable {known : List String} {words : List Word} {d : Draft} {name : String}

theorem type_readWords (notBlock : d.type ≠ some .block) :
    (readWords known words d).type ≠ some .block ∧
      (d.type.isSome → (readWords known words d).type.isSome) := by
  refine readWords_induction
    (P := fun later => later.type ≠ some .block ∧ (d.type.isSome → later.type.isSome)) ?_
    ⟨notBlock, id⟩
  rintro word - middle later kept (_ | ⟨vacant, _⟩ | ⟨vacant, _⟩ | _)
  case structName => exact ⟨by simp, fun _ => rfl⟩
  case valueType => exact ⟨by simp, fun _ => rfl⟩
  all_goals exact kept

theorem exists_bracket_of_readWords (vacant : d.name = none) (notBlock : d.type ≠ some .block)
    (named : (readWords known words d).name = some name) (mem : name ∈ known) :
    (∃ word ∈ words, ∃ after, word = name.toList ++ '[' :: after) ∨
      (readWords known words d).type.isSome := by
  obtain ⟨before, word, after, rfl, vacant', named⟩ := exists_of_named_readWords vacant named
  rcases isFilled_of_named_readWord vacant' named with ⟨rest, same⟩ | ⟨rfl, filled⟩
  · exact .inl ⟨word, List.mem_append_right before List.mem_cons_self, rest, same⟩
  · have given : (readWords known before d).type.isSome :=
      filled .type (.inr ⟨rfl, by simpa using mem⟩)
    right
    have whole : readWords known (before ++ name.toList :: after) d =
        readWords known (name.toList :: after) (readWords known before d) := List.foldl_append
    rw [whole]
    exact (type_readWords (type_readWords notBlock).1).2 given

end Draft

namespace Surface

variable {source : Text}

/-- A struct with a body takes the name of an earlier one only where the name stands before a square
bracket. -/
theorem hasFreshStructs_of_not_mem
    (free : ∀ statement ∈ Statement.select Statement.declaresStruct (setAside source).1,
      ∀ word ∈ statement, '[' ∉ word) : HasFreshStructs source := by
  intro before d after read ne mem
  obtain ⟨statement, selected, draft, read, settled⟩ := isReadFrom_of_readStructs read rfl
  obtain ⟨readMembers, nested⟩ := Draft.exists_readOver (setAside source).2 (before.map (·.name))
  rw [nested] at read
  obtain ⟨words, layout, rest, body?, found, -, added⟩ := Draft.exists_of_readOver read
  cases body? with
  | none =>
    obtain rfl := Except.ok.inj added
    apply ne
    rw [Declaration.body, settled.members, Draft.members_ofWords, Option.getD_none]
  | some body =>
    obtain ⟨members, -, rfl⟩ := map_eq_ok.1 added
    have isBlock : d.type = .block := settled.body.2 (by rw [settled.members]; rfl)
    have typed' := settled.type
    rw [isBlock, Draft.withBody] at typed'
    rcases Draft.exists_bracket_of_readWords rfl (by simp) settled.name mem with
      ⟨word, inside, rest, same⟩ | typed
    · obtain ⟨remaining, kept, rfl⟩ := List.mem_map.1 inside
      have bracket : '[' ∈ Draft.outsideBraces remaining := by simp [same]
      have bracket : '[' ∈ remaining :=
        (List.takeWhile_prefix _).subset ((Draft.isInfix_outsideBraces remaining).subset bracket)
      obtain ⟨word, mem', part⟩ := Draft.isInfix_of_lookupWindow found remaining kept
      exact free statement selected word mem' (part.subset bracket)
    · obtain ⟨type, given⟩ := Option.isSome_iff_exists.1 typed
      have same : (Draft.ofWords (before.map (·.name)) words layout).type = some .block := by
        rw [Draft.ofWords, given] at typed' ⊢
        exact typed'
      exact (Draft.type_readWords (by simp)).1 same

end Surface

theorem SlotKind.exists_layout_of_assign_eq_error {kind : SlotKind} {ds : List Declaration}
    {e : AnalysisError} (h : kind.assign ds = .error e) : ∃ cause, e = .layout cause := by
  rcases bind_eq_error.1 h with h | ⟨_, -, h⟩
  · obtain ⟨d, -, h⟩ := exists_of_mapM_eq_error h
    rw [given] at h
    split at h
    · cases h
    · exact ⟨_, (Except.error.inj h).symm⟩
  · cases h

namespace Reflection

variable {structs : StructTable} {vertex fragment : List Declaration} {d : Declaration}
  {e : AnalysisError}

/-- An error of a block is one of the layout, but for a member's length that cannot be shown. -/
theorem exists_of_block_eq_error (acyclic : structs.IsAcyclic) {binding : Nat}
    (h : block structs binding d = .error e) :
    (∃ cause, e = .layout cause) ∨ e = .oversizedInteger ∧
      ∃ member ∈ d.body, Std140.HoldsIn structs Std140.HasOversizedLength member := by
  rcases bind_eq_error.1 h with h | ⟨footprints, -, h⟩
  · exact (Std140.failsOn_members acyclic d.body).error e h
  rcases bind_eq_error.1 h with h | ⟨size, -, h⟩
  · exact (Std140.failsOn_blockSize acyclic d.body).error e h
  · cases h

/-- Reflecting the surfaces of two sources ends. -/
theorem ends_of_read (vertexSource fragmentSource : Text) (vertex fragment : List Declaration)
    (source : String) (hvertex : Surface.read vertexSource = .ok vertex)
    (hfragment : Surface.read fragmentSource = .ok fragment)
    (freshVertex : Surface.HasFreshStructs vertexSource)
    (freshFragment : Surface.HasFreshStructs fragmentSource) :
    let structs := StructTable.ofDeclarations (vertex ++ fragment)
    structs.IsAcyclic ∧ (∀ path d, ∃ names, leafNames structs path d = .ok names) ∧
      (∀ d, Std140.footprint structs d ≠ .error .endlessStructs) ∧
      ∀ e, ofStages (some vertex) (some fragment) source = .error e →
        (∃ cause, e = .layout cause) ∨ e = .oversizedInteger ∧
          ∃ d ∈ uniformsOf vertex fragment, d.isBlock ∧
            ∃ member ∈ d.body, Std140.HoldsIn structs Std140.HasOversizedLength member := by
  intro structs
  have acyclic : structs.IsAcyclic :=
    Surface.isAcyclic_of_stages hvertex hfragment freshVertex freshFragment
  refine ⟨acyclic, exists_leafNames acyclic, fun d endless => ?_, fun e h => ?_⟩
  · rcases (Std140.failsOn_footprint acyclic d).error _ endless with
      ⟨_, impossible⟩ | ⟨impossible, -⟩
    · cases impossible
    · cases impossible
  -- one case for each part of the description that can fail, in the order in which they are made
  rcases bind_eq_error.1 h with h | ⟨locations, -, h⟩
  · exact .inl (SlotKind.exists_layout_of_assign_eq_error h)
  rcases bind_eq_error.1 h with h | ⟨outputLocations, -, h⟩
  · exact .inl (SlotKind.exists_layout_of_assign_eq_error h)
  rcases bind_eq_error.1 h with h | ⟨plain, -, h⟩
  · obtain ⟨d, -, h⟩ := exists_of_mapM_eq_error h
    obtain ⟨names, found⟩ := exists_leafNames acyclic "" d
    rw [uniform, found] at h
    cases h
  rcases bind_eq_error.1 h with h | ⟨units, -, h⟩
  · exact .inl (SlotKind.exists_layout_of_assign_eq_error h)
  rcases bind_eq_error.1 h with h | ⟨bindings, -, h⟩
  · exact .inl (SlotKind.exists_layout_of_assign_eq_error h)
  rcases bind_eq_error.1 h with h | ⟨described, -, h⟩
  · obtain ⟨d, mem, h⟩ := exists_of_mapM_eq_error h
    obtain ⟨mem, isBlock⟩ := List.mem_filter.1 mem
    exact (exists_of_block_eq_error acyclic h).imp_right fun ⟨same, large⟩ =>
      ⟨same, d, mem, isBlock, large⟩
  · cases h

/-- Both stages declare the struct `A`, and the vertex stage's `B` leads to that of the fragment
stage. -/
theorem ends_of_read_merged :
    let vertexSource := "struct A \x7bfloat x;\x7d; struct B \x7bA a[2];\x7d; uniform B b;".toList
    let fragmentSource := "struct A \x7bvec2 y;\x7d; uniform U \x7bA a;\x7d;".toList
    let a (type : ValueType) (name : String) : Declaration := {
      qualifier := .struct, type := .block, name := "A"
      members := some [{ qualifier := .struct, type := .value type, name }] }
    let b : Declaration := {
      qualifier := .struct, type := .block, name := "B"
      members := some [
        { qualifier := .struct, type := .struct, name := "a", amount := 2
          structName := some "A" }] }
    let uniform : Declaration := {
      qualifier := .uniform, type := .struct, name := "b", structName := some "B" }
    let block : Declaration := {
      qualifier := .uniform, type := .block, name := "U"
      members := some [
        { qualifier := .uniform, type := .struct, name := "a", structName := some "A" }] }
    let vertex := [uniform, a (.scalar .float) "x", b]
    let fragment := [block, a (.vector .float .two) "y"]
    Surface.read vertexSource = .ok vertex ∧ Surface.read fragmentSource = .ok fragment ∧
      Surface.HasFreshStructs vertexSource ∧ Surface.HasFreshStructs fragmentSource ∧
      (StructTable.ofDeclarations (vertex ++ fragment)).IsAcyclic ∧
      leafNames (StructTable.ofDeclarations (vertex ++ fragment)) "" uniform =
        .ok ["b.a[0].y", "b.a[1].y"] := by
  intro vertexSource fragmentSource a b uniform block vertex fragment
  have vertexRead : Surface.read vertexSource = .ok vertex := by decide +kernel
  have fragmentRead : Surface.read fragmentSource = .ok fragment := by decide +kernel
  have freshVertex : Surface.HasFreshStructs vertexSource :=
    Surface.hasFreshStructs_of_not_mem (by decide +kernel)
  have freshFragment : Surface.HasFreshStructs fragmentSource :=
    Surface.hasFreshStructs_of_not_mem (by decide +kernel)
  exact ⟨vertexRead, fragmentRead, freshVertex, freshFragment,
    (ends_of_read _ _ _ _ "" vertexRead fragmentRead freshVertex freshFragment).1,
    by decide +kernel⟩

/-- A struct that takes the name of an earlier one in front of a square bracket is inside itself. -/
theorem not_forall_ends :
    ¬ ∀ (vertexSource fragmentSource : Text) (vertex fragment : List Declaration) (source : String),
      Surface.read vertexSource = .ok vertex → Surface.read fragmentSource = .ok fragment →
        ∀ e, ofStages (some vertex) (some fragment) source = .error e →
          ∃ cause, e = .layout cause := by
  intro h
  let first : Declaration := {
    qualifier := .struct, type := .block, name := "A"
    members := some [{ qualifier := .struct, type := .value (.scalar .float), name := "x" }] }
  let second : Declaration := {
    qualifier := .struct, type := .block, name := "A", amount := 2
    members := some [
      { qualifier := .struct, type := .struct, name := "a", structName := some "A" }] }
  let uniform : Declaration := {
    qualifier := .uniform, type := .struct, name := "u", structName := some "A" }
  have vertexRead : Surface.read
      "struct A \x7bfloat x;\x7d; struct A[2] \x7bA a;\x7d; uniform A u;".toList =
        .ok [uniform, first, second] := by decide +kernel
  have fragmentRead : Surface.read [] = .ok [] := by decide +kernel
  have endless :
      ofStages (some [uniform, first, second]) (some []) "" = .error .endlessStructs := by
    decide +kernel
  obtain ⟨cause, impossible⟩ := h _ _ _ _ _ vertexRead fragmentRead _ endless
  cases impossible

end Reflection

end ShaderSurface
