import ShaderSurface.Proofs.Program.Acyclic
import ShaderSurface.Proofs.Text.Cutting
import ShaderSurface.Proofs.Text.Decimal

/-!
# The places of leaves

A leaf of a declaration has a place: the number of an element and the number of a member for each
struct on the way to it. Its name joins the names of the way by points, with the numbers of elements
in square brackets. The leaf names of a declaration are those of all places, in their order. Where
members of a struct have names of their own, without points and brackets, a leaf name also tells the
place, so no two leaves of a program have the same name (`leafNames_of_distinct`).
-/

namespace ShaderSurface

open Text Outcome

/-- The name of an element of a declaration, which is the declaration's if there is one only. -/
def Declaration.elementName (d : Declaration) (i : Nat) : String :=
  if 1 < d.amount then d.name ++ "[" ++ toString i ++ "]" else d.name

theorem elementNames_eq (path : String) (d : Declaration) :
    elementNames (path ++ d.name) d.amount =
      (List.range d.elements).map fun i => path ++ d.elementName i := by
  by_cases several : 1 < d.amount
  · have count : d.elements = d.amount.toNat := by
      rw [Declaration.elements, max_eq_left several.le]
    simp only [elementNames, several, if_true, count, Declaration.elementName, String.append_assoc]
  · have single : d.elements = 1 := by
      rw [Declaration.elements, max_eq_right (not_lt.1 several)]
      rfl
    simp [elementNames, Declaration.elementName, several, single]

def IsUnmarked (name : String) : Prop :=
  '.' ∉ name.toList ∧ '[' ∉ name.toList

instance : DecidablePred IsUnmarked := fun name =>
  inferInstanceAs (Decidable ('.' ∉ name.toList ∧ '[' ∉ name.toList))

namespace StructTable

def Holds (structs : StructTable) (outer inner : String) : Prop :=
  ∃ struct, structs.get? outer = some struct ∧
    ∃ member ∈ struct.body, member.isStruct ∧ member.structName = some inner

def IsLoopFree (structs : StructTable) : Prop :=
  ∀ name, ¬Relation.TransGen structs.Holds name name

/-- The members of each struct have names of their own, which hold no character that joins names. -/
def HasPlainMembers (structs : StructTable) : Prop :=
  ∀ name struct, structs.get? name = some struct →
    (struct.body.map (·.name)).Nodup ∧ ∀ member ∈ struct.body, IsUnmarked member.name

inductive LeafAt (structs : StructTable) : Declaration → (place : List Nat) → (name : String) → Prop
  | single {d : Declaration} (unexpanded : structs.expanded? d = none) : LeafAt structs d [] d.name
  | member {d struct member : Declaration} {i k : Nat} {place : List Nat} {name : String}
    (expanded : structs.expanded? d = some struct) (element : i < d.elements)
    (listed : struct.body[k]? = some member) (leaf : LeafAt structs member place name) :
    LeafAt structs d (i :: k :: place) (d.elementName i ++ "." ++ name)

/-- Exactly the leaves of a declaration are listed, with their places and names, in the order of the
places. -/
structure ListsLeaves (structs : StructTable) (d : Declaration)
    (leaves : List (List Nat × String)) : Prop where
  complete : ∀ place name, (place, name) ∈ leaves ↔ structs.LeafAt d place name
  ordered : leaves.Pairwise fun first second => first.1 < second.1

/-- A declaration that is not expanded has one leaf; one of a struct has, for each element, as many
as the members have together. -/
def HasLeafCount (structs : StructTable) (d : Declaration) (count : Nat) : Prop :=
  match structs.expanded? d with
  | none => count = 1
  | some struct => ∃ perMember, struct.body.mapM (leafNames structs "") = .ok perMember ∧
    count = d.elements * (perMember.map List.length).sum

variable {structs : StructTable} {d struct member : Declaration} {place : List Nat} {name : String}

theorem IsAcyclic.isLoopFree (acyclic : structs.IsAcyclic) : structs.IsLoopFree := by
  have leads : structs.Holds ≤ structs.Leads :=
    fun _ _ ⟨struct, found, member, mem, isStruct, named⟩ =>
      ⟨struct, found, member, mem, .type isStruct named⟩
  exact fun name cycle => acyclic name (Relation.TransGen.mono leads name name cycle)

theorem exists_of_expanded? (h : structs.expanded? d = some struct) :
    ∃ name, d.isStruct ∧ d.structName = some name ∧ structs.get? name = some struct := by
  obtain ⟨name, named, found⟩ := Option.bind_eq_some_iff.1 (structOf?_of_expanded? h)
  exact ⟨name, isStruct_of_expanded? h, named, found⟩

/-- What holds of a declaration as soon as it holds of the members of its struct holds of every
declaration. -/
theorem IsLoopFree.induction (loopFree : structs.IsLoopFree) {P : Declaration → Prop}
    (step : ∀ d, (∀ struct, structs.expanded? d = some struct → ∀ member ∈ struct.body, P member) →
      P d) (d : Declaration) : P d := by
  have members : ∀ name struct, structs.get? name = some struct → ∀ member ∈ struct.body,
      P member := by
    refine induction_of_irreflexive loopFree (fun _ _ ⟨_, found, _⟩ => mem_keys_of_get? found) ?_
    intro outer ih struct found member mem
    refine step member fun struct' expanded => ?_
    obtain ⟨inner, isStruct, named, found'⟩ := exists_of_expanded? expanded
    exact ih inner ⟨struct, found, member, mem, isStruct, named⟩ struct' found'
  refine step d fun struct expanded => ?_
  obtain ⟨name, -, -, found⟩ := exists_of_expanded? expanded
  exact members name struct found

theorem leafAt_of_unexpanded (unexpanded : structs.expanded? d = none) :
    structs.LeafAt d place name ↔ place = [] ∧ name = d.name := by
  constructor
  · intro leaf
    cases leaf with
    | single => exact ⟨rfl, rfl⟩
    | member expanded => cases unexpanded.symm.trans expanded
  · rintro ⟨rfl, rfl⟩
    exact .single unexpanded

theorem leafAt_of_expanded (expanded : structs.expanded? d = some struct) :
    structs.LeafAt d place name ↔ ∃ i k inner member rest, place = i :: k :: inner ∧
      i < d.elements ∧ struct.body[k]? = some member ∧ structs.LeafAt member inner rest ∧
      name = d.elementName i ++ "." ++ rest := by
  constructor
  · intro leaf
    cases leaf with
    | single unexpanded => cases unexpanded.symm.trans expanded
    | member expanded' element listed leaf =>
      obtain rfl := Option.some.inj (expanded.symm.trans expanded')
      exact ⟨_, _, _, _, _, rfl, element, listed, leaf, rfl⟩
  · rintro ⟨i, k, inner, member, rest, rfl, element, listed, leaf, rfl⟩
    exact .member expanded element listed leaf

def leavesOf (d struct : Declaration) (ofMember : Declaration → List (List Nat × String)) :
    List (List Nat × String) :=
  (List.range d.elements).flatMap fun i =>
    struct.body.zipIdx.flatMap fun (member, k) =>
      (ofMember member).map fun (place, name) => (i :: k :: place, d.elementName i ++ "." ++ name)

theorem listsLeaves_single (unexpanded : structs.expanded? d = none) :
    structs.ListsLeaves d [([], d.name)] where
  complete place name := by
    rw [leafAt_of_unexpanded unexpanded, List.mem_singleton, Prod.mk.injEq]
  ordered := List.pairwise_singleton _ _

theorem listsLeaves_leavesOf (expanded : structs.expanded? d = some struct)
    {ofMember : Declaration → List (List Nat × String)}
    (lists : ∀ member ∈ struct.body, structs.ListsLeaves member (ofMember member)) :
    structs.ListsLeaves d (leavesOf d struct ofMember) where
  complete place name := by
    rw [leafAt_of_expanded expanded]
    constructor
    · intro mem
      obtain ⟨i, element, mem⟩ := List.mem_flatMap.1 mem
      obtain ⟨⟨member, k⟩, listed, mem⟩ := List.mem_flatMap.1 mem
      obtain ⟨⟨inner, rest⟩, leaf, same⟩ := List.mem_map.1 mem
      obtain ⟨rfl, rfl⟩ := Prod.mk.inj same
      have listed' : struct.body[k]? = some member := List.mk_mem_zipIdx_iff_getElem?.1 listed
      have leaf' := ((lists member (List.mem_of_getElem? listed')).complete inner rest).1 leaf
      exact ⟨i, k, inner, member, rest, rfl, List.mem_range.1 element, listed', leaf', rfl⟩
    · rintro ⟨i, k, inner, member, rest, rfl, element, listed, leaf, rfl⟩
      have leaf' := ((lists member (List.mem_of_getElem? listed)).complete inner rest).2 leaf
      exact List.mem_flatMap.2 ⟨i, List.mem_range.2 element, List.mem_flatMap.2
        ⟨(member, k), List.mk_mem_zipIdx_iff_getElem?.2 listed, List.mem_map_of_mem leaf'⟩⟩
  ordered := by
    have members : struct.body.zipIdx.Pairwise fun first second => first.2 < second.2 := by
      rw [← List.pairwise_map (f := Prod.snd), List.zipIdx_map_snd]
      exact List.pairwise_lt_range'
    -- places inside of one member, in two members of one element, and in two elements
    refine List.pairwise_flatMap.2 ⟨fun i _ => List.pairwise_flatMap.2 ⟨?_, ?_⟩, ?_⟩
    · rintro ⟨member, k⟩ listed
      have mem := List.mem_of_getElem? (List.mk_mem_zipIdx_iff_getElem?.1 listed)
      refine List.pairwise_map.2 ((lists member mem).ordered.imp fun before => ?_)
      exact List.cons_lt_cons_iff.2 (.inr ⟨rfl, List.cons_lt_cons_iff.2 (.inr ⟨rfl, before⟩)⟩)
    · refine members.imp fun before first inFirst second inSecond => ?_
      obtain ⟨_, -, rfl⟩ := List.mem_map.1 inFirst
      obtain ⟨_, -, rfl⟩ := List.mem_map.1 inSecond
      exact List.cons_lt_cons_iff.2 (.inr ⟨rfl, List.cons_lt_cons_iff.2 (.inl before)⟩)
    · refine List.pairwise_lt_range.imp fun before first inFirst second inSecond => ?_
      obtain ⟨_, -, inFirst⟩ := List.mem_flatMap.1 inFirst
      obtain ⟨_, -, rfl⟩ := List.mem_map.1 inFirst
      obtain ⟨_, -, inSecond⟩ := List.mem_flatMap.1 inSecond
      obtain ⟨_, -, rfl⟩ := List.mem_map.1 inSecond
      exact List.cons_lt_cons_iff.2 (.inl before)

theorem leafNames_of_unexpanded (unexpanded : structs.expanded? d = none) (path : String) :
    leafNames structs path d = .ok [path ++ d.name] := by
  rw [leafNames, leafNamesNested_eq, leafNamesOver_eq, unexpanded]

theorem map_leavesOf {α : Type} (d struct : Declaration)
    (ofMember : Declaration → List (List Nat × String)) (f : String → α) :
    ((leavesOf d struct ofMember).map fun leaf => f leaf.2) =
      (List.range d.elements).flatMap fun i => struct.body.flatMap fun member =>
        (ofMember member).map fun leaf => f (d.elementName i ++ "." ++ leaf.2) := by
  simp only [leavesOf, List.map_flatMap, List.map_map]
  congr 1
  funext i
  conv_rhs => rw [← List.zipIdx_map_fst 0 struct.body, List.flatMap_map]
  rfl

theorem length_leavesOf (d struct : Declaration)
    (ofMember : Declaration → List (List Nat × String)) :
    (leavesOf d struct ofMember).length =
      d.elements * (struct.body.map fun member => (ofMember member).length).sum := by
  rw [← List.length_map fun leaf => id leaf.2, map_leavesOf]
  simp [List.length_flatMap]

section

variable {ofMember : Declaration → List (List Nat × String)} (found : ∀ member ∈ struct.body,
  ∀ path, leafNames structs path member = .ok ((ofMember member).map fun leaf => path ++ leaf.2))

include found

theorem mapM_leafNames (path : String) :
    struct.body.mapM (leafNames structs path) =
      .ok (struct.body.map fun member => (ofMember member).map fun leaf => path ++ leaf.2) := by
  have each : (struct.body.map id).mapM (leafNames structs path) =
      .ok (struct.body.map fun member => (ofMember member).map fun leaf => path ++ leaf.2) :=
    mapM_map_eq_ok fun member mem => found member mem path
  rwa [List.map_id] at each

theorem leafNames_leavesOf (expanded : structs.expanded? d = some struct) (path : String) :
    leafNames structs path d =
      .ok ((leavesOf d struct ofMember).map fun leaf => path ++ leaf.2) := by
  have elements : ((List.range d.elements).map fun i => path ++ d.elementName i).mapM
      (fun element => struct.body.mapM (leafNames structs (element ++ "."))) =
        .ok ((List.range d.elements).map fun i => struct.body.map fun member =>
          (ofMember member).map fun leaf => path ++ d.elementName i ++ "." ++ leaf.2) :=
    mapM_map_eq_ok fun i _ => mapM_leafNames found _
  -- one step more than the table's length, so that the members' own leaf names stand in it
  have deeper : leafNamesNested structs (structs.length + 1) path d =
      leafNamesOver structs (leafNames structs) path d := rfl
  have nested : leafNamesNested structs (structs.length + 1) path d =
      .ok ((leavesOf d struct ofMember).map fun leaf => path ++ leaf.2) := by
    rw [deeper, leafNamesOver_eq, expanded, map_leavesOf]
    simp only [elementNames_eq, elements, bind_ok, List.flatMap_def, List.flatten_flatten,
      List.map_map, String.append_assoc]
    rfl
  exact leafNames_of_nested nested

theorem hasLeafCount_leavesOf (expanded : structs.expanded? d = some struct) :
    structs.HasLeafCount d (leavesOf d struct ofMember).length := by
  rw [HasLeafCount, expanded]
  refine ⟨_, mapM_leafNames found "", ?_⟩
  rw [length_leavesOf, List.map_map]
  simp only [Function.comp_def, List.length_map]

end

/-- Where following struct members ends, the leaf names of a declaration are those of its leaves, in
the order of their places. -/
theorem IsLoopFree.exists_leaves (loopFree : structs.IsLoopFree) (d : Declaration) :
    ∃ leaves, structs.ListsLeaves d leaves ∧ structs.HasLeafCount d leaves.length ∧
      ∀ path, leafNames structs path d = .ok (leaves.map fun leaf => path ++ leaf.2) := by
  induction d using loopFree.induction with
  | step d ih =>
    cases expanded : structs.expanded? d with
    | none =>
      refine ⟨[([], d.name)], listsLeaves_single expanded, ?_, leafNames_of_unexpanded expanded⟩
      rw [HasLeafCount, expanded]
      rfl
    | some struct =>
      choose! ofMember lists _ found using ih struct expanded
      exact ⟨leavesOf d struct ofMember, listsLeaves_leavesOf expanded lists,
        hasLeafCount_leavesOf found expanded, leafNames_leavesOf found expanded⟩

def firstName (name : String) : Text :=
  name.toList.takeWhile fun c => c ≠ '.' ∧ c ≠ '['

theorem toList_elementName_append (d : Declaration) (i : Nat) (rest : String) :
    (d.elementName i ++ "." ++ rest).toList = d.name.toList ++
      if 1 < d.amount then '[' :: (Numeral.decimal i ++ ']' :: '.' :: rest.toList)
      else '.' :: rest.toList := by
  by_cases several : 1 < d.amount <;>
    simp [Declaration.elementName, several, Numeral.decimal]

/-- The name of a leaf of an element tells the element and the rest of the name. -/
theorem elementName_append_injective {i j : Nat} {rest rest' : String} (hi : i < d.elements)
    (hj : j < d.elements)
    (same : d.elementName i ++ "." ++ rest = d.elementName j ++ "." ++ rest') :
    i = j ∧ rest = rest' := by
  have tails := congrArg String.toList same
  rw [toList_elementName_append, toList_elementName_append, List.append_cancel_left_eq] at tails
  by_cases several : 1 < d.amount
  · rw [if_pos several, if_pos several, List.cons_inj_right] at tails
    have noBracket (n : Nat) : ']' ∉ Numeral.decimal n := Numeral.not_mem_decimal (by decide) n
    have numerals := congrArg (fun s => s.takeWhile (· ≠ ']')) tails
    simp only [takeWhile_ne_append_cons (noBracket _)] at numerals
    obtain rfl := Numeral.decimal_injective numerals
    rw [List.append_cancel_left_eq, List.cons_inj_right, List.cons_inj_right] at tails
    exact ⟨rfl, String.toList_inj.1 tails⟩
  · have single : d.elements = 1 := by
      rw [Declaration.elements, max_eq_right (not_lt.1 several)]
      rfl
    rw [if_neg several, if_neg several, List.cons_inj_right] at tails
    exact ⟨by omega, String.toList_inj.1 tails⟩

/-- The name of a leaf starts with the name of the declaration. -/
theorem LeafAt.firstName_eq (leaf : structs.LeafAt d place name) (unmarked : IsUnmarked d.name) :
    firstName name = d.name.toList := by
  have inside : ∀ c ∈ d.name.toList, decide (c ≠ '.' ∧ c ≠ '[') = true := by
    intro c mem
    exact decide_eq_true ⟨ne_of_mem_of_not_mem mem unmarked.1, ne_of_mem_of_not_mem mem unmarked.2⟩
  cases leaf with
  | single => exact List.takeWhile_eq_self_iff.2 inside
  | @member _ _ _ i _ _ rest =>
    rw [firstName, toList_elementName_append, List.takeWhile_append_of_pos inside]
    split <;> simp

theorem LeafAt.place_eq (plain : structs.HasPlainMembers) (leaf : structs.LeafAt d place name)
    {place' : List Nat} (leaf' : structs.LeafAt d place' name) : place = place' := by
  induction leaf generalizing place' with
  | single unexpanded => exact ((leafAt_of_unexpanded unexpanded).1 leaf').1.symm
  | @member d struct member i k place name expanded element listed leaf ih =>
    obtain ⟨i', k', inner, member', rest, rfl, element', listed', leaf', same⟩ :=
      (leafAt_of_expanded expanded).1 leaf'
    obtain ⟨rfl, rfl⟩ := elementName_append_injective element element' same
    obtain ⟨key, -, -, found⟩ := exists_of_expanded? expanded
    obtain ⟨distinct, unmarked⟩ := plain key struct found
    have sameName : member.name = member'.name := by
      rw [← String.toList_inj, ← leaf.firstName_eq (unmarked member (List.mem_of_getElem? listed)),
        ← leaf'.firstName_eq (unmarked member' (List.mem_of_getElem? listed'))]
    obtain rfl : k = k' := by
      have inside : k < (struct.body.map (·.name)).length := by
        rw [List.length_map]
        exact (List.getElem?_eq_some_iff.1 listed).1
      refine (List.getElem?_inj inside distinct).1 ?_
      rw [List.getElem?_map, List.getElem?_map, listed, listed', Option.map_some, Option.map_some,
        sameName]
    obtain rfl := Option.some.inj (listed.symm.trans listed')
    rw [ih leaf']

end StructTable

open StructTable

variable {structs : StructTable} {ds : List Declaration}

/-- Leaf names of declarations with names of their own are all different, and those of each
declaration are the names of its leaves, in the order of their places. -/
theorem leafNames_of_distinct (loopFree : structs.IsLoopFree) (plain : structs.HasPlainMembers)
    (distinct : (ds.map (·.name)).Nodup) (unmarked : ∀ d ∈ ds, IsUnmarked d.name) :
    ∃ perDeclaration, ds.mapM (leafNames structs "") = .ok perDeclaration ∧
      perDeclaration.flatten.Nodup ∧
      List.Forall₂ (fun d names => structs.HasLeafCount d names.length ∧
        ∃ leaves, structs.ListsLeaves d leaves ∧ names = leaves.map (·.2)) ds perDeclaration := by
  choose leaves lists counted found using loopFree.exists_leaves
  let names (d : Declaration) := (leaves d).map (·.2)
  have named (d : Declaration) : leafNames structs "" d = .ok (names d) := by
    simpa [names] using found d ""
  have leafOf {d : Declaration} {name : String} (mem : name ∈ names d) :
      ∃ place, structs.LeafAt d place name := by
    obtain ⟨⟨place, _⟩, leaf, rfl⟩ := List.mem_map.1 mem
    exact ⟨place, ((lists d).complete place _).1 leaf⟩
  refine ⟨ds.map names, ?_, List.nodup_flatten.2 ⟨?_, ?_⟩, ?_⟩
  · rw [mapM_eq_ok_iff, List.forall₂_map_right_iff, List.forall₂_same]
    exact fun d _ => named d
  · intro own mem
    obtain ⟨d, -, rfl⟩ := List.mem_map.1 mem
    -- leaves of one declaration with the same name have the same place
    refine List.pairwise_map.2 ((lists d).ordered.imp_of_mem fun inFirst inSecond before same => ?_)
    have first := ((lists d).complete _ _).1 inFirst
    have second := ((lists d).complete _ _).1 inSecond
    rw [← same] at second
    exact lt_irrefl _ (first.place_eq plain second ▸ before)
  · refine List.pairwise_map.2 ((List.pairwise_map.1 distinct).imp_of_mem ?_)
    intro d e inFirst inSecond apart name first second
    -- a leaf's name starts with the one of its declaration
    obtain ⟨_, leaf⟩ := leafOf first
    obtain ⟨_, leaf'⟩ := leafOf second
    have same := (leaf.firstName_eq (unmarked d inFirst)).symm.trans
      (leaf'.firstName_eq (unmarked e inSecond))
    exact apart (String.toList_inj.1 same)
  · rw [List.forall₂_map_right_iff, List.forall₂_same]
    intro d _
    refine ⟨?_, leaves d, lists d, rfl⟩
    simpa [names] using counted d

theorem leafNames_of_distinct_lights :
    let lamp : Declaration := {
      qualifier := .struct, type := .block, name := "Lamp"
      members := some [{ qualifier := .struct, type := .value (.scalar .float), name := "x" }] }
    let light : Declaration := {
      qualifier := .struct, type := .block, name := "Light"
      members := some [
        { qualifier := .struct, type := .struct, name := "lamp", amount := 2
          structName := some "Lamp" },
        { qualifier := .struct, type := .value (.scalar .float), name := "y" }] }
    let structs : StructTable := [("Lamp", lamp), ("Light", light)]
    let a : Declaration := {
      qualifier := .uniform, type := .struct, name := "a", amount := 2, structName := some "Light" }
    let t : Declaration := {
      qualifier := .uniform, type := .value (.scalar .float), name := "t", amount := 3 }
    structs.IsLoopFree ∧ structs.HasPlainMembers ∧
      [a, t].mapM (leafNames structs "") = .ok [
        ["a[0].lamp[0].x", "a[0].lamp[1].x", "a[0].y",
          "a[1].lamp[0].x", "a[1].lamp[1].x", "a[1].y"],
        ["t"]] ∧
      structs.HasLeafCount a 6 ∧ structs.HasLeafCount t 1 := by
  intro lamp light structs a t
  have entries {name : String} {struct : Declaration} (found : structs.get? name = some struct) :
      (name, struct) = ("Lamp", lamp) ∨ (name, struct) = ("Light", light) := by
    simpa [structs] using Keyed.mem_of_get? found
  have loopFree : structs.IsLoopFree := by
    refine (isAcyclic_of_rank (fun name => if name = "Light" then 1 else 0) ?_).isLoopFree
    rintro outer inner ⟨struct, found, member, mem, names⟩
    rcases entries found with entry | entry <;> obtain ⟨rfl, rfl⟩ := Prod.mk.inj entry
    · obtain rfl := List.mem_singleton.1 mem
      rcases names with ⟨isStruct, -⟩ | ⟨isBlock, -, -⟩
      · cases isStruct
      · cases isBlock
    · rcases List.mem_pair.1 mem with rfl | rfl
      · rcases names with ⟨-, named⟩ | ⟨isBlock, -, -⟩
        · obtain rfl := Option.some.inj named
          decide
        · cases isBlock
      · rcases names with ⟨isStruct, -⟩ | ⟨isBlock, -, -⟩
        · cases isStruct
        · cases isBlock
  have plain : structs.HasPlainMembers := by
    intro name struct found
    rcases entries found with entry | entry <;> obtain ⟨rfl, rfl⟩ := Prod.mk.inj entry <;>
      decide +kernel
  have named : [a, t].mapM (leafNames structs "") = .ok [
      ["a[0].lamp[0].x", "a[0].lamp[1].x", "a[0].y",
        "a[1].lamp[0].x", "a[1].lamp[1].x", "a[1].y"],
      ["t"]] := by decide +kernel
  have distinct : ([a, t].map (·.name)).Nodup := by decide +kernel
  have unmarked : ∀ d ∈ [a, t], IsUnmarked d.name := by decide +kernel
  obtain ⟨perDeclaration, found, -, each⟩ :=
    leafNames_of_distinct loopFree plain distinct unmarked
  obtain rfl := Except.ok.inj (found.symm.trans named)
  obtain ⟨⟨counted, -⟩, each⟩ := List.forall₂_cons.1 each
  obtain ⟨⟨counted', -⟩, -⟩ := List.forall₂_cons.1 each
  exact ⟨loopFree, plain, named, counted, counted'⟩

end ShaderSurface
