import ShaderSurface.Proofs.Keyed
import ShaderSurface.Proofs.Program.Depth

/-!
# Tables of structs that agree

A table keeps the last struct of each name, so that of two lists of declarations the later one
decides. What is found of a declaration depends on the structs that the declaration rests on and on
nothing else in the table: tables that give those structs the same members agree on its leaf names
(`leafNames_of_agree`) and on its footprint (`footprint_of_agree`).
-/

namespace ShaderSurface

open Outcome

namespace StructTable

variable {ds later : List Declaration} {name : String} {struct : Declaration}

theorem get?_ofDeclarations_append (ds later : List Declaration) (name : String) :
    (ofDeclarations (ds ++ later)).get? name =
      ((ofDeclarations later).get? name).or ((ofDeclarations ds).get? name) := by
  rw [ofDeclarations, List.filter_append, List.map_append, Keyed.get?_ofPairs_append]
  rfl

theorem mem_of_get?_ofDeclarations (h : (ofDeclarations ds).get? name = some struct) :
    struct ∈ ds := by
  obtain ⟨d, kept, same⟩ := List.mem_map.1 (Keyed.mem_of_get?_ofPairs h)
  obtain ⟨-, rfl⟩ := Prod.mk.inj same
  exact (List.mem_filter.1 kept).1

theorem name_eq_of_get?_ofDeclarations (h : (ofDeclarations ds).get? name = some struct) :
    struct.name = name := by
  obtain ⟨d, -, same⟩ := List.mem_map.1 (Keyed.mem_of_get?_ofPairs h)
  obtain ⟨rfl, rfl⟩ := Prod.mk.inj same
  rfl

theorem isSome_get?_ofDeclarations (mem : struct ∈ ds) (qualifier : struct.qualifier = .struct) :
    ((ofDeclarations ds).get? struct.name).isSome :=
  Keyed.isSome_get?_ofPairs
    (List.mem_map.2 ⟨struct, List.mem_filter.2 ⟨mem, by simpa using qualifier⟩, rfl⟩)

/-- The declarations that decide what is found of one: itself, its members, the members of the
struct that it names, and so on. -/
inductive RestsOn (structs : StructTable) : Declaration → Declaration → Prop
  | self (d : Declaration) : RestsOn structs d d
  | member {d member part : Declaration} (mem : member ∈ d.body)
    (rest : RestsOn structs member part) : RestsOn structs d part
  | struct {d struct member part : Declaration} (found : structs.structOf? d = some struct)
    (mem : member ∈ struct.body) (rest : RestsOn structs member part) : RestsOn structs d part

/-- Two tables give the same members to all structs that a declaration rests on in the first. -/
def AgreeOn (structs structs' : StructTable) (d : Declaration) : Prop :=
  ∀ part, structs.RestsOn d part →
    (structs.structOf? part).map Declaration.body = (structs'.structOf? part).map Declaration.body

namespace AgreeOn

variable {structs structs' : StructTable} {d member : Declaration}

theorem onMember (h : structs.AgreeOn structs' d) (mem : member ∈ d.body) :
    structs.AgreeOn structs' member :=
  fun part rest => h part (.member mem rest)

theorem onStruct (h : structs.AgreeOn structs' d) (found : structs.structOf? d = some struct)
    (mem : member ∈ struct.body) : structs.AgreeOn structs' member :=
  fun part rest => h part (.struct found mem rest)

theorem cases (h : structs.AgreeOn structs' d) :
    (structs.structOf? d = none ∧ structs'.structOf? d = none) ∨
      ∃ struct struct', structs.structOf? d = some struct ∧ structs'.structOf? d = some struct' ∧
        struct'.body = struct.body := by
  have same := h d (.self d)
  cases found : structs.structOf? d with
  | none =>
    rw [found, Option.map_none, eq_comm, Option.map_eq_none_iff] at same
    exact .inl ⟨rfl, same⟩
  | some struct =>
    rw [found, Option.map_some, eq_comm, Option.map_eq_some_iff] at same
    obtain ⟨struct', found', same⟩ := same
    exact .inr ⟨struct, struct', rfl, found', same⟩

end AgreeOn

/-- The table has every struct that is named by what a declaration rests on. -/
def IsClosedOn (structs : StructTable) (d : Declaration) : Prop :=
  ∀ part, structs.RestsOn d part → part.structName.isSome → (structs.structOf? part).isSome

/-- A struct that a declaration rests on and that both tables have has the same members in both. -/
def SharesOn (structs structs' : StructTable) (d : Declaration) : Prop :=
  ∀ part, structs.RestsOn d part → ∀ struct struct', structs.structOf? part = some struct →
    structs'.structOf? part = some struct' → struct'.body = struct.body

theorem structOf?_ofDeclarations_append (ds later : List Declaration) (d : Declaration) :
    (ofDeclarations (ds ++ later)).structOf? d =
      ((ofDeclarations later).structOf? d).or ((ofDeclarations ds).structOf? d) := by
  cases named : d.structName with
  | none => simp [structOf?, named]
  | some name => simp [structOf?, named, get?_ofDeclarations_append]

theorem structOf?_eq_none {structs : StructTable} {d : Declaration}
    (unnamed : ¬ d.structName.isSome) : structs.structOf? d = none := by
  rw [Option.not_isSome_iff_eq_none] at unnamed
  rw [structOf?, unnamed, Option.bind_none]

/-- Declarations before do not matter to one whose structs are all there. -/
theorem agreeOn_append_right {d : Declaration} (closed : (ofDeclarations later).IsClosedOn d) :
    (ofDeclarations later).AgreeOn (ofDeclarations (ds ++ later)) d := by
  intro part rest
  by_cases named : part.structName.isSome
  · obtain ⟨struct, found⟩ := Option.isSome_iff_exists.1 (closed part rest named)
    rw [structOf?_ofDeclarations_append, found, Option.some_or]
  · rw [structOf?_eq_none named, structOf?_eq_none named]

/-- Declarations behind do not matter to one whose structs are all there, if they share them. -/
theorem agreeOn_append_left {d : Declaration} (closed : (ofDeclarations ds).IsClosedOn d)
    (shared : (ofDeclarations ds).SharesOn (ofDeclarations later) d) :
    (ofDeclarations ds).AgreeOn (ofDeclarations (ds ++ later)) d := by
  intro part rest
  by_cases named : part.structName.isSome
  · obtain ⟨struct, found⟩ := Option.isSome_iff_exists.1 (closed part rest named)
    rw [structOf?_ofDeclarations_append]
    cases found' : (ofDeclarations later).structOf? part with
    | none => rw [Option.none_or]
    | some struct' =>
      rw [found, Option.some_or, Option.map_some, Option.map_some,
        shared part rest struct struct' found found']
  · rw [structOf?_eq_none named, structOf?_eq_none named]

theorem sharesOn_of_forall {structs structs' : StructTable}
    (h : ∀ entry ∈ structs, ∀ entry' ∈ structs', entry'.1 = entry.1 →
      entry'.2.body = entry.2.body) (d : Declaration) : structs.SharesOn structs' d := by
  intro part _ struct struct' found found'
  obtain ⟨name, named, mem⟩ := mem_of_structOf? found
  obtain ⟨name', named', mem'⟩ := mem_of_structOf? found'
  exact h (name, struct) mem (name', struct') mem' (Option.some.inj (named'.symm.trans named))

end StructTable

variable {structs structs' : StructTable} {d : Declaration}

section LeafNames

variable {ofMember ofMember' : String → Declaration → Except AnalysisError (List String)}
  {path : String} {names : List String}

theorem leafNamesOver_congr (agree : structs.AgreeOn structs' d)
    (same : ∀ member, structs.AgreeOn structs' member →
      ∀ path, ofMember path member = ofMember' path member) (path : String) :
    leafNamesOver structs ofMember path d = leafNamesOver structs' ofMember' path d := by
  simp only [leafNamesOver_eq, StructTable.expanded?]
  by_cases struct : d.isStruct
  · simp only [struct, if_true]
    rcases agree.cases with ⟨found, found'⟩ | ⟨struct, struct', found, found', body⟩
    · simp only [found, found']
    · simp only [found, found', body]
      have elements : ∀ element, struct.body.mapM (ofMember (element ++ ".")) =
          struct.body.mapM (ofMember' (element ++ ".")) := fun element =>
        mapM_congr fun member mem => same member (agree.onStruct found mem) _
      simp only [elements]
  · simp only [struct, Bool.false_eq_true, if_false]

theorem leafNamesNested_congr {depth : Nat} (agree : structs.AgreeOn structs' d) (path : String) :
    leafNamesNested structs depth path d = leafNamesNested structs' depth path d := by
  induction depth generalizing d path with
  | zero => exact leafNamesOver_congr agree (fun _ _ _ => rfl) path
  | succ depth ih => exact leafNamesOver_congr agree (fun _ => ih) path

theorem leafNames_of_agree (agree : structs.AgreeOn structs' d)
    (h : leafNames structs' path d = .ok names) : leafNames structs path d = .ok names := by
  rw [leafNames, ← leafNamesNested_congr agree] at h
  exact leafNames_of_nested h

end LeafNames

namespace Std140

variable {ofStruct ofStruct' : Declaration → Except AnalysisError Footprint} {f : Footprint}

theorem footprintOver_congr (agree : structs.AgreeOn structs' d)
    (same : ∀ part, structs.AgreeOn structs' part → ofStruct part = ofStruct' part) :
    footprintOver ofStruct d = footprintOver ofStruct' d := by
  induction d using Declaration.induction with
  | step d ih =>
    have members : d.body.mapM (footprintOver ofStruct) = d.body.mapM (footprintOver ofStruct') :=
      mapM_congr fun member mem => ih member mem (agree.onMember mem)
    rw [footprintOver_eq, footprintOver_eq, elementFootprint, elementFootprint, same d agree,
      members]

theorem structFootprint_congr {ofMember ofMember' : Declaration → Except AnalysisError Footprint}
    (agree : structs.AgreeOn structs' d)
    (same : ∀ member, structs.AgreeOn structs' member → ofMember member = ofMember' member) :
    structFootprint structs ofMember d = structFootprint structs' ofMember' d := by
  rw [structFootprint, structFootprint]
  rcases agree.cases with ⟨found, found'⟩ | ⟨struct, struct', found, found', body⟩
  · rw [found, found']
  · have members : struct.body.mapM ofMember = struct.body.mapM ofMember' :=
      mapM_congr fun member mem => same member (agree.onStruct found mem)
    simp only [found, found', body, members]

theorem footprintNested_congr {depth : Nat} (agree : structs.AgreeOn structs' d) :
    footprintNested structs depth d = footprintNested structs' depth d := by
  induction depth generalizing d with
  | zero =>
    exact footprintOver_congr agree fun part agree =>
      structFootprint_congr agree fun _ _ => rfl
  | succ depth ih =>
    exact footprintOver_congr agree fun part agree => structFootprint_congr agree fun _ => ih

theorem footprint_of_agree (agree : structs.AgreeOn structs' d)
    (h : footprint structs' d = .ok f) : footprint structs d = .ok f := by
  rw [footprint, ← footprintNested_congr agree] at h
  exact footprint_of_nested h

end Std140

end ShaderSurface
