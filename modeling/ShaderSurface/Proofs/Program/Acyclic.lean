import Mathlib.Logic.Relation
import Mathlib.Order.WellFoundedSet
import ShaderSurface.Proofs.Program.Depth

/-!
# Structs that are not inside themselves

A struct leads to another one if one of its members is of that type, or is a block with such a
member. In a table in which following the members of a struct never comes back to it, what holds of
a struct as soon as it holds of all that it leads to holds of every struct
(`StructTable.IsAcyclic.induction`). So the structs nest no deeper than there are structs in the
table, and the leaf names of every declaration are found (`exists_leafNames`).
-/

namespace ShaderSurface

namespace StructTable

variable {structs : StructTable} {d : Declaration} {depth : Nat}

/-- A declaration has a struct as its type, or it is a block with a member that names the struct. -/
inductive Names (name : String) : Declaration → Prop
  | type {d : Declaration} (isStruct : d.isStruct) (named : d.structName = some name) : Names name d
  | member {d member : Declaration} (isBlock : d.isBlock) (mem : member ∈ d.body)
    (names : Names name member) : Names name d

def Leads (structs : StructTable) (outer inner : String) : Prop :=
  ∃ struct, structs.get? outer = some struct ∧ ∃ member ∈ struct.body, Names inner member

/-- Following the members of a struct never comes back to it. -/
def IsAcyclic (structs : StructTable) : Prop :=
  ∀ name, ¬ Relation.TransGen structs.Leads name name

/-- A number for each name that is lower for the structs that one leads to rules out cycles. -/
theorem isAcyclic_of_rank (rank : String → Nat)
    (lower : ∀ outer inner, structs.Leads outer inner → rank inner < rank outer) :
    structs.IsAcyclic := by
  have below {outer inner : String} (path : Relation.TransGen structs.Leads outer inner) :
      rank inner < rank outer := by
    induction path with
    | single leads => exact lower _ _ leads
    | tail _ leads ih => exact (lower _ _ leads).trans ih
  exact fun name cycle => Nat.lt_irrefl _ (below cycle)

/-- Where finitely many names lead to others, and none back to itself, what holds of a name as soon
as it holds of all that it leads to holds of every name. -/
theorem induction_of_irreflexive {Leads : String → String → Prop} {names : List String}
    (irreflexive : ∀ name, ¬Relation.TransGen Leads name name)
    (finite : ∀ outer inner, Leads outer inner → outer ∈ names) {P : String → Prop}
    (step : ∀ outer, (∀ inner, Leads outer inner → P inner) → P outer) (name : String) :
    P name := by
  let Below (inner outer : String) : Prop := Relation.TransGen Leads outer inner
  have : IsStrictOrder String Below :=
    { irrefl := irreflexive
      trans := fun _ _ _ first second => second.trans first }
  have unknown (name : String) (absent : name ∉ names) : P name :=
    step name fun inner leads => absurd (finite name inner leads) absent
  have known : {name | name ∈ names}.WellFoundedOn Below :=
    (List.finite_toSet names).wellFoundedOn
  -- a name outside of the list leads nowhere, so the induction is over the names in it
  by_cases present : name ∈ names
  · refine known.induction present fun outer _ ih => step outer fun inner leads => ?_
    by_cases present : inner ∈ names
    · exact ih inner present (.single leads)
    · exact unknown inner present
  · exact unknown name present

theorem mem_keys_of_get? {name : String} {struct : Declaration}
    (found : structs.get? name = some struct) : name ∈ structs.keys :=
  List.mem_map_of_mem (Keyed.mem_of_get? found)

theorem IsAcyclic.induction (acyclic : structs.IsAcyclic) {P : String → Prop}
    (step : ∀ outer, (∀ inner, structs.Leads outer inner → P inner) → P outer) (name : String) :
    P name :=
  induction_of_irreflexive acyclic (fun _ _ ⟨_, found, _⟩ => mem_keys_of_get? found) step name

/-- Following the members of the structs that a declaration names ends after a number of steps. -/
def NestsWithin (structs : StructTable) : Nat → Declaration → Prop
  | 0, d => ∀ name struct, Names name d → structs.get? name = some struct → struct.body = []
  | depth + 1, d => ∀ name struct, Names name d → structs.get? name = some struct →
    ∀ member ∈ struct.body, NestsWithin structs depth member

theorem nestsWithin_iff :
    structs.NestsWithin depth d ↔ ∀ name struct, Names name d →
      structs.get? name = some struct → IsWithin structs.NestsWithin depth struct := by
  cases depth <;> rfl

theorem nestsWithin_succ (depth : Nat) (d : Declaration) (h : structs.NestsWithin depth d) :
    structs.NestsWithin (depth + 1) d := by
  induction depth generalizing d with
  | zero =>
    intro name struct names found member mem
    rw [h name struct names found] at mem
    cases mem
  | succ depth ih =>
    exact fun name struct names found member mem => ih member (h name struct names found member mem)

/-- Where the nesting ends, it ends after no more steps than there are structs in the table. -/
theorem nestsWithin_length (h : structs.NestsWithin depth d) :
    structs.NestsWithin structs.length d := by
  refine found_at_length nestsWithin_succ (fun depth depth' within d nests => ?_) h
  rw [nestsWithin_iff] at nests ⊢
  exact fun name struct names found =>
    within (name, struct) (Keyed.mem_of_get? found) (nests name struct names found)

/-- Structs that are not inside themselves nest no deeper than there are structs in the table. -/
theorem IsAcyclic.nestsWithin (acyclic : structs.IsAcyclic) (d : Declaration) :
    structs.NestsWithin structs.length d := by
  have members : ∀ name struct, structs.get? name = some struct →
      ∀ member ∈ struct.body, structs.NestsWithin structs.length member := by
    refine acyclic.induction fun outer ih struct found member mem => ?_
    -- one step more than the members of the structs below, which the table's length bounds again
    have nests : structs.NestsWithin (structs.length + 1) member := fun inner struct' names =>
      ih inner ⟨struct, found, member, mem, names⟩ struct'
    exact nestsWithin_length nests
  have nests : structs.NestsWithin (structs.length + 1) d :=
    fun name struct _ => members name struct
  exact nestsWithin_length nests

theorem exists_names_of_structOf? (isStruct : d.isStruct) {struct : Declaration}
    (found : structs.structOf? d = some struct) :
    ∃ name, Names name d ∧ structs.get? name = some struct := by
  obtain ⟨name, named, found⟩ := Option.bind_eq_some_iff.1 found
  exact ⟨name, .type isStruct named, found⟩

theorem NestsWithin.isWithin (h : structs.NestsWithin depth d) (isStruct : d.isStruct)
    {struct : Declaration} (found : structs.structOf? d = some struct) :
    IsWithin structs.NestsWithin depth struct := by
  obtain ⟨name, names, found⟩ := exists_names_of_structOf? isStruct found
  exact nestsWithin_iff.1 h name struct names found

theorem NestsWithin.onMember (h : structs.NestsWithin depth d) (isBlock : d.isBlock)
    {member : Declaration} (mem : member ∈ d.body) : structs.NestsWithin depth member := by
  rw [nestsWithin_iff] at h ⊢
  exact fun name struct names => h name struct (.member isBlock mem names)

theorem isStruct_of_expanded? {struct : Declaration} (h : structs.expanded? d = some struct) :
    d.isStruct := by
  rw [expanded?] at h
  split at h
  · assumption
  · cases h

end StructTable

variable {structs : StructTable} {d : Declaration}

theorem exists_leafNamesNested {depth : Nat} (nests : structs.NestsWithin depth d)
    (path : String) : ∃ names, leafNamesNested structs depth path d = .ok names := by
  induction depth generalizing d path with
  | zero =>
    exact (hasLeafNames_iff path).2 fun struct expanded =>
      nests.isWithin (StructTable.isStruct_of_expanded? expanded)
        (StructTable.structOf?_of_expanded? expanded)
  | succ depth ih =>
    refine (hasLeafNames_iff path).2 fun struct expanded member mem => ⟨"", ih ?_ ""⟩
    exact nests.isWithin (StructTable.isStruct_of_expanded? expanded)
      (StructTable.structOf?_of_expanded? expanded) member mem

theorem exists_leafNames (acyclic : structs.IsAcyclic) (path : String) (d : Declaration) :
    ∃ names, leafNames structs path d = .ok names :=
  exists_leafNamesNested (acyclic.nestsWithin d) path

end ShaderSurface
