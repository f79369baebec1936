import Mathlib.Order.Monotone.Basic
import ShaderSurface.Proofs.Keyed
import ShaderSurface.Proofs.Layout.Footprints
import ShaderSurface.Program.LeafNames

/-!
# How deeply structs nest

What is found of a declaration with structs nested to some depth is found with structs nested no
deeper than there are structs in the table, and it is the same. With each step of the depth more
structs of the table have members that are found, or no more are found at any depth; so the number
of structs bounds the number of steps (`StructTable.found_at_length`).
-/

namespace ShaderSurface

namespace StructTable

variable {structs : StructTable} {found : Nat → Declaration → Prop} {d : Declaration}

/-- All members of a struct are found with structs nested to less than a depth. -/
def IsWithin (found : Nat → Declaration → Prop) : Nat → Declaration → Prop
  | 0, struct => struct.body = []
  | depth + 1, struct => ∀ member ∈ struct.body, found depth member

theorem mem_of_structOf? {struct : Declaration} (h : structs.structOf? d = some struct) :
    ∃ name, d.structName = some name ∧ (name, struct) ∈ structs := by
  obtain ⟨name, named, h⟩ := Option.bind_eq_some_iff.1 h
  exact ⟨name, named, Keyed.mem_of_get? h⟩

section

variable (mono : ∀ depth d, found depth d → found (depth + 1) d)
include mono

theorem found_mono {depth depth' : Nat} (le : depth ≤ depth') (h : found depth d) :
    found depth' d := by
  induction le with
  | refl => exact h
  | step _ ih => exact mono _ _ ih

theorem isWithin_mono {depth depth' : Nat} (le : depth ≤ depth') {struct : Declaration}
    (h : IsWithin found depth struct) : IsWithin found depth' struct := by
  cases depth' with
  | zero =>
    obtain rfl := Nat.le_zero.1 le
    exact h
  | succ depth' =>
    cases depth with
    | zero =>
      intro member mem
      rw [show struct.body = [] from h] at mem
      cases mem
    | succ depth =>
      exact fun member mem => found_mono mono (Nat.le_of_succ_le_succ le) (h member mem)

variable (step : ∀ depth depth',
  (∀ entry ∈ structs, IsWithin found depth entry.2 → IsWithin found depth' entry.2) →
    ∀ d, found depth d → found depth' d)
include step

open Classical in
/-- What is found at some depth is found at the depth of the length of the table. -/
theorem found_at_length {depth : Nat} (h : found depth d) : found structs.length d := by
  -- the structs whose members are found grow in number until no more are found
  let within (depth : Nat) := structs.filter fun entry => decide (IsWithin found depth entry.2)
  have grows {depth depth' : Nat} (le : depth ≤ depth') :
      (within depth).Sublist (within depth') := by
    refine List.monotone_filter_right structs fun entry inside => ?_
    exact decide_eq_true (isWithin_mono mono le (of_decide_eq_true inside))
  have monotone : Monotone fun depth => (within depth).length :=
    fun depth depth' le => (grows le).length_le
  have same {depth depth' : Nat} (le : depth ≤ depth')
      (size : (within depth).length = (within depth').length) :
      ∀ entry ∈ structs, IsWithin found depth' entry.2 → IsWithin found depth entry.2 := by
    intro entry mem inside
    have inside : entry ∈ within depth' := List.mem_filter.2 ⟨mem, decide_eq_true inside⟩
    rw [← (grows le).eq_of_length size] at inside
    exact of_decide_eq_true (List.mem_filter.1 inside).2
  have stable (depth : Nat) (size : (within depth).length = (within (depth + 1)).length) :
      (within (depth + 1)).length = (within (depth + 2)).length := by
    refine Nat.le_antisymm (grows (Nat.le_succ _)).length_le ?_
    refine (List.monotone_filter_right structs fun entry inside => ?_).length_le
    refine decide_eq_true fun member mem => ?_
    exact step (depth + 1) depth (same (Nat.le_succ depth) size) member
      (of_decide_eq_true inside member mem)
  rcases Nat.le_total depth structs.length with le | le
  · exact found_mono mono le h
  · have size := Nat.stabilises_of_monotone monotone (fun depth => List.length_filter_le _ _)
      stable le
    exact step depth structs.length (same le size.symm) d h

end

end StructTable

open Outcome

section LeafNames

variable {structs : StructTable} {ofMember ofMember' : String → Declaration →
  Except AnalysisError (List String)} {path : String} {d : Declaration} {names : List String}

theorem elementNames_ne_nil (name : String) (amount : Int) : elementNames name amount ≠ [] := by
  unfold elementNames
  split
  · rename_i several
    simp only [ne_eq, List.map_eq_nil_iff, List.range_eq_nil]
    omega
  · exact List.cons_ne_nil _ _

/-- The struct whose members stand for a declaration. -/
def StructTable.expanded? (structs : StructTable) (d : Declaration) : Option Declaration :=
  if d.isStruct then structs.structOf? d else none

theorem StructTable.structOf?_of_expanded? {struct : Declaration}
    (h : structs.expanded? d = some struct) : structs.structOf? d = some struct := by
  rw [expanded?] at h
  split at h
  · exact h
  · cases h

theorem leafNamesOver_eq (structs : StructTable)
    (ofMember : String → Declaration → Except AnalysisError (List String)) (path : String)
    (d : Declaration) :
    leafNamesOver structs ofMember path d =
      match structs.expanded? d with
      | none => .ok [path ++ d.name]
      | some struct => do
        let perElement ← (elementNames (path ++ d.name) d.amount).mapM fun element =>
          struct.body.mapM (ofMember (element ++ "."))
        return perElement.flatten.flatten :=
  rfl

theorem exists_leafNamesOver_iff :
    (∃ names, leafNamesOver structs ofMember path d = .ok names) ↔
      ∀ struct, structs.expanded? d = some struct →
        ∀ element ∈ elementNames (path ++ d.name) d.amount, ∀ member ∈ struct.body,
          ∃ names, ofMember (element ++ ".") member = .ok names := by
  rw [leafNamesOver_eq]
  cases structs.expanded? d with
  | none => simp
  | some struct =>
    simp only [Option.some.injEq, forall_eq']
    constructor
    · rintro ⟨names, h⟩ element mem
      obtain ⟨perElement, elements, -⟩ := bind_eq_ok.1 h
      exact exists_mapM_eq_ok_iff.1 (exists_mapM_eq_ok_iff.1 ⟨_, elements⟩ element mem)
    · intro h
      obtain ⟨perElement, elements⟩ :=
        exists_mapM_eq_ok_iff.2 fun element mem => exists_mapM_eq_ok_iff.2 (h element mem)
      exact ⟨_, bind_eq_ok.2 ⟨perElement, elements, rfl⟩⟩

theorem leafNamesOver_mono
    (h : ∀ path d names, ofMember path d = .ok names → ofMember' path d = .ok names)
    (hn : leafNamesOver structs ofMember path d = .ok names) :
    leafNamesOver structs ofMember' path d = .ok names := by
  rw [leafNamesOver_eq] at hn ⊢
  cases found : structs.expanded? d with
  | none => simpa only [found] using hn
  | some struct =>
    simp only [found] at hn ⊢
    obtain ⟨perElement, elements, same⟩ := bind_eq_ok.1 hn
    refine bind_eq_ok.2 ⟨perElement, mapM_mono (fun element _ names members => ?_) elements, same⟩
    exact mapM_mono (fun member _ names => h _ member names) members

def leafNamesBelow (structs : StructTable) :
    (depth : Nat) → (path : String) → Declaration → Except AnalysisError (List String)
  | 0 => fun _ _ => .error .endlessStructs
  | depth + 1 => leafNamesNested structs depth

theorem leafNamesNested_eq (structs : StructTable) (depth : Nat) :
    leafNamesNested structs depth = leafNamesOver structs (leafNamesBelow structs depth) := by
  cases depth <;> rfl

theorem leafNamesNested_succ (depth : Nat) (path : String) (d : Declaration) :
    ∀ names, leafNamesNested structs depth path d = .ok names →
      leafNamesNested structs (depth + 1) path d = .ok names := by
  induction depth generalizing path d with
  | zero =>
    intro names
    refine leafNamesOver_mono fun path d names impossible => ?_
    cases impossible
  | succ depth ih => exact fun names => leafNamesOver_mono ih

theorem leafNamesNested_mono {depth limit : Nat} (le : depth ≤ limit)
    (h : leafNamesNested structs depth path d = .ok names) :
    leafNamesNested structs limit path d = .ok names := by
  induction le with
  | refl => exact h
  | step _ ih => exact leafNamesNested_succ _ path d names ih

def HasLeafNames (structs : StructTable) (depth : Nat) (d : Declaration) : Prop :=
  ∃ path names, leafNamesNested structs depth path d = .ok names

theorem isWithin_hasLeafNames_iff {depth : Nat} {struct : Declaration} :
    StructTable.IsWithin (HasLeafNames structs) depth struct ↔
      ∀ member ∈ struct.body,
        ∃ path names, leafNamesBelow structs depth path member = .ok names := by
  cases depth with
  | zero =>
    rw [StructTable.IsWithin, List.eq_nil_iff_forall_not_mem]
    refine forall₂_congr fun member mem => ?_
    simp [leafNamesBelow]
  | succ depth => rfl

theorem exists_leafNamesNested_iff {depth : Nat} (path : String)
    (below : ∀ member, (∃ path names, leafNamesBelow structs depth path member = .ok names) →
      ∀ path, ∃ names, leafNamesBelow structs depth path member = .ok names) :
    (∃ names, leafNamesNested structs depth path d = .ok names) ↔
      ∀ struct, structs.expanded? d = some struct →
        StructTable.IsWithin (HasLeafNames structs) depth struct := by
  obtain ⟨element, rest, some⟩ := List.exists_cons_of_ne_nil
    (elementNames_ne_nil (path ++ d.name) d.amount)
  rw [leafNamesNested_eq, exists_leafNamesOver_iff, some]
  simp only [isWithin_hasLeafNames_iff]
  constructor
  · intro h struct found member mem
    exact ⟨_, h struct found element List.mem_cons_self member mem⟩
  · intro h struct found element' _ member mem
    exact below member (h struct found member mem) _

theorem hasLeafNames_iff {depth : Nat} (path : String) :
    (∃ names, leafNamesNested structs depth path d = .ok names) ↔
      ∀ struct, structs.expanded? d = some struct →
        StructTable.IsWithin (HasLeafNames structs) depth struct := by
  induction depth generalizing d path with
  | zero =>
    refine exists_leafNamesNested_iff path fun member found => ?_
    obtain ⟨_, names, impossible⟩ := found
    cases impossible
  | succ depth ih =>
    refine exists_leafNamesNested_iff path fun member found path => ?_
    obtain ⟨path', found⟩ := found
    exact (ih path).2 ((ih path').1 found)

theorem leafNames_of_nested {depth : Nat}
    (h : leafNamesNested structs depth path d = .ok names) :
    leafNames structs path d = .ok names := by
  have mono (depth : Nat) (d : Declaration) (found : HasLeafNames structs depth d) :
      HasLeafNames structs (depth + 1) d := by
    obtain ⟨path, names, h⟩ := found
    exact ⟨path, names, leafNamesNested_succ depth path d names h⟩
  have step (depth depth' : Nat)
      (within : ∀ entry ∈ structs, StructTable.IsWithin (HasLeafNames structs) depth entry.2 →
        StructTable.IsWithin (HasLeafNames structs) depth' entry.2)
      (d : Declaration) (found : HasLeafNames structs depth d) :
      HasLeafNames structs depth' d := by
    obtain ⟨path, found⟩ := found
    refine ⟨path, (hasLeafNames_iff path).2 fun struct expanded => ?_⟩
    obtain ⟨name, -, mem⟩ :=
      StructTable.mem_of_structOf? (StructTable.structOf?_of_expanded? expanded)
    exact within (name, struct) mem ((hasLeafNames_iff path).1 found struct expanded)
  have found := StructTable.found_at_length mono step ⟨path, names, h⟩
  obtain ⟨path', found⟩ := found
  obtain ⟨names', found⟩ := (hasLeafNames_iff path).2 ((hasLeafNames_iff path').1 found)
  rcases Nat.le_total depth structs.length with le | le
  · exact leafNamesNested_mono le h
  · have same := (leafNamesNested_mono le found).symm.trans h
    rwa [leafNames, found]

end LeafNames

namespace Std140

variable {structs : StructTable} {ofStruct ofStruct' : Declaration → Except AnalysisError Footprint}
  {d : Declaration} {f : Footprint}

theorem exists_ofElement {element : Footprint} (h : ofElement d element = .ok f)
    (element' : Footprint) : ∃ f, ofElement d element' = .ok f := by
  unfold ofElement at h ⊢
  split
  · exact ⟨_, rfl⟩
  · split
    · exact ⟨_, rfl⟩
    · rename_i several empty
      rw [if_neg several, if_neg empty] at h
      cases h

theorem exists_footprintOver (h : ∀ d, (∃ f, ofStruct d = .ok f) → ∃ f, ofStruct' d = .ok f)
    (d : Declaration) :
    (∃ f, footprintOver ofStruct d = .ok f) → ∃ f, footprintOver ofStruct' d = .ok f := by
  induction d using Declaration.induction with
  | step d ih =>
    rintro ⟨f, hf⟩
    rw [footprintOver_eq] at hf
    obtain ⟨element, helement, hf⟩ := bind_eq_ok.1 hf
    have helement' : ∃ element', elementFootprint ofStruct' d = .ok element' := by
      unfold elementFootprint at helement ⊢
      split at helement
      · exact h d ⟨element, helement⟩
      · obtain ⟨members, found, -⟩ := bind_eq_ok.1 helement
        have each := exists_mapM_eq_ok_iff.1 ⟨members, found⟩
        obtain ⟨members', found'⟩ := exists_mapM_eq_ok_iff.2 fun member mem =>
          ih member mem (each member mem)
        exact ⟨_, bind_eq_ok.2 ⟨members', found', rfl⟩⟩
      · exact ⟨element, helement⟩
    obtain ⟨element', helement'⟩ := helement'
    obtain ⟨f', hf'⟩ := exists_ofElement hf element'
    exact ⟨f', by rw [footprintOver_eq, helement', bind_ok, hf']⟩

theorem exists_structFootprint_iff {ofMember : Declaration → Except AnalysisError Footprint} :
    (∃ f, structFootprint structs ofMember d = .ok f) ↔
      ∃ struct, structs.structOf? d = some struct ∧
        ∀ member ∈ struct.body, ∃ f, ofMember member = .ok f := by
  unfold structFootprint
  cases structs.structOf? d with
  | none => simp
  | some struct =>
    simp only [Option.some.injEq, exists_eq_left']
    rw [← exists_mapM_eq_ok_iff]
    constructor
    · rintro ⟨f, hf⟩
      obtain ⟨members, found, -⟩ := bind_eq_ok.1 hf
      exact ⟨members, found⟩
    · rintro ⟨members, found⟩
      exact ⟨_, bind_eq_ok.2 ⟨members, found, rfl⟩⟩

def footprintBelow (structs : StructTable) :
    (depth : Nat) → Declaration → Except AnalysisError Footprint
  | 0 => fun _ => .error .endlessStructs
  | depth + 1 => footprintNested structs depth

theorem footprintNested_eq (structs : StructTable) (depth : Nat) :
    footprintNested structs depth =
      footprintOver (structFootprint structs (footprintBelow structs depth)) := by
  cases depth <;> rfl

def HasFootprint (structs : StructTable) (depth : Nat) (d : Declaration) : Prop :=
  ∃ f, footprintNested structs depth d = .ok f

theorem isWithin_hasFootprint_iff {depth : Nat} {struct : Declaration} :
    StructTable.IsWithin (HasFootprint structs) depth struct ↔
      ∀ member ∈ struct.body, ∃ f, footprintBelow structs depth member = .ok f := by
  cases depth with
  | zero =>
    rw [StructTable.IsWithin, List.eq_nil_iff_forall_not_mem]
    refine forall₂_congr fun member mem => ?_
    simp [footprintBelow]
  | succ depth => rfl

theorem footprint_of_nested {depth : Nat} (h : footprintNested structs depth d = .ok f) :
    footprint structs d = .ok f := by
  have mono (depth : Nat) (d : Declaration) (found : HasFootprint structs depth d) :
      HasFootprint structs (depth + 1) d := by
    obtain ⟨f, h⟩ := found
    exact ⟨f, footprintNested_succ depth d f h⟩
  have step (depth depth' : Nat)
      (within : ∀ entry ∈ structs, StructTable.IsWithin (HasFootprint structs) depth entry.2 →
        StructTable.IsWithin (HasFootprint structs) depth' entry.2)
      (d : Declaration) (found : HasFootprint structs depth d) : HasFootprint structs depth' d := by
    rw [HasFootprint, footprintNested_eq] at found ⊢
    refine exists_footprintOver (fun d found => ?_) d found
    rw [exists_structFootprint_iff] at found ⊢
    obtain ⟨struct, known, members⟩ := found
    obtain ⟨name, -, mem⟩ := StructTable.mem_of_structOf? known
    exact ⟨struct, known, isWithin_hasFootprint_iff.1
      (within (name, struct) mem (isWithin_hasFootprint_iff.2 members))⟩
  have found := StructTable.found_at_length mono step ⟨f, h⟩
  obtain ⟨f', found⟩ := found
  rcases Nat.le_total depth structs.length with le | le
  · exact footprintNested_mono le h
  · have same := (footprintNested_mono le found).symm.trans h
    rwa [footprint, found]

end Std140

end ShaderSurface
