import ShaderSurface.Proofs.Program.Acyclic

/-!
# Members without a layout

A member has no layout if its length is below one, if it is of a struct that the table does not
have, or if it is a sampler; and a block, or a struct, has none if one of its members has none. In a
table of structs that are not inside themselves these are all the members without a footprint, and
what they give is a layout error (`Std140.failsOn_isBad`). The one exception is a length below one
with more digits than a number may have to be written: it cannot be shown in the error.
-/

namespace ShaderSurface.Std140

open Outcome

variable {structs : StructTable} {P : Declaration → Prop} {d : Declaration}
  {ofStruct ofMember : Declaration → Except AnalysisError Footprint}

/-- A property holds somewhere in what the layout of a declaration is made of: of the declaration,
of a member of the struct that it is of, or of a member of the block that it is, and so on. -/
inductive HoldsIn (structs : StructTable) (P : Declaration → Prop) : Declaration → Prop
  | here {d : Declaration} (holds : P d) : HoldsIn structs P d
  | struct {d struct member : Declaration} (isStruct : d.isStruct)
    (found : structs.structOf? d = some struct) (mem : member ∈ struct.body)
    (inner : HoldsIn structs P member) : HoldsIn structs P d
  | block {d member : Declaration} (isBlock : d.isBlock) (mem : member ∈ d.body)
    (inner : HoldsIn structs P member) : HoldsIn structs P d

def HoldsInStruct (structs : StructTable) (P : Declaration → Prop) (d : Declaration) : Prop :=
  ∃ struct, structs.structOf? d = some struct ∧ ∃ member ∈ struct.body, HoldsIn structs P member

/-- A declaration has no layout by itself: its length is below one, its struct is unknown or its
type is a sampler. -/
def HasNoLayout (structs : StructTable) (d : Declaration) : Prop :=
  d.amount < 1 ∨ (d.isStruct ∧ structs.structOf? d = none) ∨ d.type.isSampler

def IsBad (structs : StructTable) : Declaration → Prop :=
  HoldsIn structs (HasNoLayout structs)

/-- The struct that a declaration is of is not in the table, or it has a bad member. -/
def HasBadStruct (structs : StructTable) (d : Declaration) : Prop :=
  structs.structOf? d = none ∨ HoldsInStruct structs (HasNoLayout structs) d

def HasOversizedLength (d : Declaration) : Prop :=
  d.amount < 1 ∧ Numeral.isWritable d.amount = false

/-- The computation succeeds unless something is bad, and then it fails with a layout error, or for
a length that is too large for the error's message. -/
structure FailsOn {α : Type} (bad oversized : Prop) (x : Except AnalysisError α) : Prop where
  ok : (∃ a, x = .ok a) ↔ ¬bad
  error : ∀ e, x = .error e → (∃ cause, e = .layout cause) ∨ e = .oversizedInteger ∧ oversized

namespace FailsOn

variable {α β : Type} {bad bad' oversized oversized' : Prop} {x : Except AnalysisError α}

theorem of_iff (h : FailsOn bad oversized x) (iff : bad ↔ bad') (imp : oversized → oversized') :
    FailsOn bad' oversized' x where
  ok := h.ok.trans (not_congr iff)
  error e fails := (h.error e fails).imp_right (And.imp_right imp)

theorem ofOk (a : α) (good : ¬bad) : FailsOn bad oversized (.ok a) where
  ok := iff_of_true ⟨a, rfl⟩ good
  error _ fails := nomatch fails

theorem ofLayout {cause : LayoutError} (h : bad) :
    FailsOn bad oversized (.error (.layout cause) : Except AnalysisError α) where
  ok := iff_of_false (fun ⟨_, found⟩ => nomatch found) (not_not_intro h)
  error _ fails := .inl ⟨cause, (Except.error.inj fails).symm⟩

theorem bind {f : α → Except AnalysisError β} (h : FailsOn bad oversized x)
    (next : ∀ a, FailsOn bad' oversized' (f a)) :
    FailsOn (bad ∨ bad') (oversized ∨ oversized') (x >>= f) where
  ok := by
    rw [not_or, ← h.ok]
    constructor
    · rintro ⟨b, found⟩
      obtain ⟨a, first, second⟩ := bind_eq_ok.1 found
      exact ⟨⟨a, first⟩, (next a).ok.1 ⟨b, second⟩⟩
    · rintro ⟨⟨a, first⟩, good⟩
      obtain ⟨b, second⟩ := (next a).ok.2 good
      exact ⟨b, bind_eq_ok.2 ⟨a, first, second⟩⟩
  error e fails := by
    rcases bind_eq_error.1 fails with first | ⟨a, -, second⟩
    · exact (h.error e first).imp_right (And.imp_right .inl)
    · exact ((next a).error e second).imp_right (And.imp_right .inr)

theorem map (h : FailsOn bad oversized x) (f : α → β) :
    FailsOn bad oversized (do return f (← x)) :=
  (h.bind fun a => ofOk (f a) not_false).of_iff (iff_of_eq (or_false bad)) fun large =>
    large.resolve_right not_false

theorem mapM {bad oversized : Declaration → Prop} {f : Declaration → Except AnalysisError α}
    {members : List Declaration}
    (h : ∀ member ∈ members, FailsOn (bad member) (oversized member) (f member)) :
    FailsOn (∃ member ∈ members, bad member) (∃ member ∈ members, oversized member)
      (members.mapM f) where
  ok := calc
    (∃ results, members.mapM f = .ok results) ↔ ∀ member ∈ members, ∃ a, f member = .ok a :=
      exists_mapM_eq_ok_iff
    _ ↔ ∀ member ∈ members, ¬bad member := forall₂_congr fun member mem => (h member mem).ok
    _ ↔ ¬∃ member ∈ members, bad member := by simp
  error e fails := by
    obtain ⟨member, mem, fails⟩ := exists_of_mapM_eq_error fails
    exact ((h member mem).error e fails).imp_right fun ⟨same, large⟩ => ⟨same, member, mem, large⟩

end FailsOn

theorem holdsIn_iff :
    HoldsIn structs P d ↔ P d ∨
      (d.isStruct ∧ HoldsInStruct structs P d) ∨
      (d.isBlock ∧ ∃ member ∈ d.body, HoldsIn structs P member) := by
  constructor
  · rintro (holds | ⟨isStruct, found, mem, inner⟩ | ⟨isBlock, mem, inner⟩)
    · exact .inl holds
    · exact .inr (.inl ⟨isStruct, _, found, _, mem, inner⟩)
    · exact .inr (.inr ⟨isBlock, _, mem, inner⟩)
  · rintro (holds | ⟨isStruct, _, found, _, mem, inner⟩ | ⟨isBlock, _, mem, inner⟩)
    · exact .here holds
    · exact .struct isStruct found mem inner
    · exact .block isBlock mem inner

theorem holdsInStruct_iff {struct : Declaration} (found : structs.structOf? d = some struct) :
    HoldsInStruct structs P d ↔ ∃ member ∈ struct.body, HoldsIn structs P member := by
  simp [HoldsInStruct, found]

theorem ofType?_eq_none_iff {type : ValueType} : ofType? type = none ↔ type.isSampler := by
  rcases type with _ | ⟨_, _ | _ | _⟩ | _ | _ | _ | _ <;> simp [ofType?, ValueType.isSampler]

theorem isBad_iff :
    IsBad structs d ↔
      (match d.type with
        | .struct => HasBadStruct structs d
        | .block => ∃ member ∈ d.body, IsBad structs member
        | .value type => type.isSampler) ∨ d.amount < 1 := by
  rw [IsBad, holdsIn_iff, HasNoLayout, ← IsBad]
  cases type : d.type <;>
    simp [HasBadStruct, Declaration.isStruct, Declaration.isBlock, DeclaredType.isSampler, type,
      or_comm, or_left_comm]

theorem failsOn_ofElement (d : Declaration) (element : Footprint) :
    FailsOn (d.amount < 1) (HasOversizedLength d) (ofElement d element) := by
  unfold ofElement
  split
  · rename_i single
    have one : d.amount = 1 := by simpa [Declaration.isArray] using single
    exact .ofOk element (by omega)
  split
  · exact .ofOk _ (by omega)
  · rename_i empty
    refine ⟨iff_of_false (fun ⟨_, impossible⟩ => nomatch impossible) (by omega), fun e fails => ?_⟩
    obtain rfl := Except.error.inj fails
    split
    · exact .inl ⟨_, rfl⟩
    · rename_i unwritable
      exact .inr ⟨rfl, by omega, Bool.eq_false_iff.2 unwritable⟩

theorem failsOn_structFootprint
    (members : ∀ struct, structs.structOf? d = some struct → ∀ member ∈ struct.body,
      FailsOn (IsBad structs member) (HoldsIn structs HasOversizedLength member)
        (ofMember member)) :
    FailsOn (HasBadStruct structs d) (HoldsInStruct structs HasOversizedLength d)
      (structFootprint structs ofMember d) := by
  unfold structFootprint
  cases found : structs.structOf? d with
  | none => exact .ofLayout (.inl found)
  | some struct =>
    refine ((FailsOn.mapM (members struct found)).map aggregate).of_iff ?_ ?_
    · simp [HasBadStruct, holdsInStruct_iff found, IsBad, found]
    · exact (holdsInStruct_iff found).2

theorem failsOn_footprintOver {depth : Nat} (nests : structs.NestsWithin depth d)
    (structBelow : ∀ part, structs.NestsWithin depth part → part.isStruct →
      FailsOn (HasBadStruct structs part) (HoldsInStruct structs HasOversizedLength part)
        (ofStruct part)) :
    FailsOn (IsBad structs d) (HoldsIn structs HasOversizedLength d)
      (footprintOver ofStruct d) := by
  induction d using Declaration.induction with
  | step d ih =>
    rw [footprintOver_eq, isBad_iff]
    -- a struct's members are not below the declaration, so the induction does not reach them
    cases type : d.type with
    | struct =>
      have isStruct : d.isStruct := by simp [Declaration.isStruct, type]
      have element : elementFootprint ofStruct d = ofStruct d := by simp [elementFootprint, type]
      rw [element]
      refine ((structBelow d nests isStruct).bind (failsOn_ofElement d)).of_iff Iff.rfl ?_
      rintro (⟨struct, found, member, mem, large⟩ | large)
      · exact .struct isStruct found mem large
      · exact .here large
    | block =>
      have isBlock : d.isBlock := by simp [Declaration.isBlock, type]
      have element : elementFootprint ofStruct d =
          (do return aggregate (← d.body.mapM (footprintOver ofStruct))) := by
        simp [elementFootprint, type]
      have members := FailsOn.mapM fun member mem => ih member mem (nests.onMember isBlock mem)
      rw [element]
      refine ((members.map aggregate).bind (failsOn_ofElement d)).of_iff Iff.rfl ?_
      rintro (⟨member, mem, large⟩ | large)
      · exact .block isBlock mem large
      · exact .here large
    | value valueType =>
      have element : FailsOn valueType.isSampler False (elementFootprint ofStruct d) := by
        cases found : ofType? valueType with
        | none =>
          have fails : elementFootprint ofStruct d =
              .error (.layout (.noSize valueType.name d.name)) := by
            simp [elementFootprint, type, found]
          rw [fails]
          exact .ofLayout (ofType?_eq_none_iff.1 found)
        | some f =>
          have given : elementFootprint ofStruct d = .ok f := by
            simp [elementFootprint, type, found]
          rw [given]
          exact .ofOk f fun sampler => by simp [ofType?_eq_none_iff.2 sampler] at found
      refine (element.bind (failsOn_ofElement d)).of_iff Iff.rfl fun large => ?_
      exact .here (large.resolve_left not_false)

theorem failsOn_footprintNested {depth : Nat} (nests : structs.NestsWithin depth d) :
    FailsOn (IsBad structs d) (HoldsIn structs HasOversizedLength d)
      (footprintNested structs depth d) := by
  induction depth generalizing d with
  | zero =>
    rw [footprintNested_eq]
    refine failsOn_footprintOver nests fun part nests isStruct => failsOn_structFootprint ?_
    intro struct found member mem
    rw [show struct.body = [] from nests.isWithin isStruct found] at mem
    cases mem
  | succ depth ih =>
    rw [footprintNested_eq]
    exact failsOn_footprintOver nests fun part nests isStruct => failsOn_structFootprint
      fun struct found member mem => ih (nests.isWithin isStruct found member mem)

theorem failsOn_footprint (acyclic : structs.IsAcyclic) (d : Declaration) :
    FailsOn (IsBad structs d) (HoldsIn structs HasOversizedLength d) (footprint structs d) :=
  failsOn_footprintNested (acyclic.nestsWithin d)

theorem failsOn_members (acyclic : structs.IsAcyclic) (members : List Declaration) :
    FailsOn (∃ d ∈ members, IsBad structs d)
      (∃ d ∈ members, HoldsIn structs HasOversizedLength d)
      (members.mapM (footprint structs)) :=
  .mapM fun d _ => failsOn_footprint acyclic d

theorem failsOn_blockSize (acyclic : structs.IsAcyclic) (members : List Declaration) :
    FailsOn (∃ d ∈ members, IsBad structs d)
      (∃ d ∈ members, HoldsIn structs HasOversizedLength d) (blockSize structs members) :=
  (failsOn_members acyclic members).map fun members =>
    roundUp (endFrom 0 members) vectorAlignment

/-- Where structs are not inside themselves, the footprint of a member fails exactly if the member
is bad, and the offsets and the size of a block fail exactly if one of its members is bad. The error
is one of the layout, but for a length below one with too many digits to be shown. -/
theorem failsOn_isBad (structs : StructTable) (acyclic : structs.IsAcyclic) :
    (∀ d, FailsOn (IsBad structs d) (HoldsIn structs HasOversizedLength d) (footprint structs d)) ∧
      ∀ members,
        FailsOn (∃ d ∈ members, IsBad structs d)
            (∃ d ∈ members, HoldsIn structs HasOversizedLength d) (offsets structs members) ∧
          FailsOn (∃ d ∈ members, IsBad structs d)
            (∃ d ∈ members, HoldsIn structs HasOversizedLength d) (blockSize structs members) :=
  ⟨failsOn_footprint acyclic, fun members =>
    ⟨(failsOn_members acyclic members).map (offsetsFrom 0), failsOn_blockSize acyclic members⟩⟩

/-- Two elements of a struct have a footprint; a struct with a sampler in it has none. -/
theorem failsOn_isBad_sampler :
    let l : Declaration := {
      qualifier := .struct, type := .block, name := "L"
      members := some [{ qualifier := .struct, type := .value (.scalar .float), name := "x" }] }
    let m : Declaration := {
      qualifier := .struct, type := .block, name := "M"
      members := some [
        { qualifier := .struct, type := .struct, name := "l", structName := some "L" },
        { qualifier := .struct, type := .value (.sampler .float .plane), name := "s" }] }
    let structs : StructTable := [("L", l), ("M", m)]
    let good : Declaration := {
      qualifier := .uniform, type := .struct, name := "a", amount := 2, structName := some "L" }
    let bad : Declaration := {
      qualifier := .uniform, type := .struct, name := "b", structName := some "M" }
    structs.IsAcyclic ∧ footprint structs good = .ok ⟨32, 16⟩ ∧ ¬IsBad structs good ∧
      IsBad structs bad ∧ offsets structs [good, bad] =
        .error (.layout (.noSize "sampler2D" "s")) := by
  intro l m structs good bad
  have acyclic : structs.IsAcyclic := by
    refine StructTable.isAcyclic_of_rank (fun name => if name = "M" then 1 else 0) ?_
    rintro outer inner ⟨struct, found, member, mem, names⟩
    have entry : (outer, struct) = ("L", l) ∨ (outer, struct) = ("M", m) := by
      simpa [structs] using Keyed.mem_of_get? found
    rcases entry with entry | entry <;> obtain ⟨rfl, rfl⟩ := Prod.mk.inj entry
    · obtain rfl := List.mem_singleton.1 mem
      rcases names with ⟨isStruct, -⟩ | ⟨isBlock, -, -⟩
      · cases isStruct
      · cases isBlock
    · rcases List.mem_pair.1 mem with rfl | rfl
      · rcases names with ⟨-, named⟩ | ⟨isBlock, -, -⟩
        · obtain rfl := Option.some.inj named
          decide
        · cases isBlock
      · rcases names with ⟨isStruct, -⟩ | ⟨isBlock, -, -⟩
        · cases isStruct
        · cases isBlock
  have found : footprint structs good = .ok ⟨32, 16⟩ := by decide +kernel
  have fails : footprint structs bad = .error (.layout (.noSize "sampler2D" "s")) := by
    decide +kernel
  obtain ⟨each, -⟩ := failsOn_isBad structs acyclic
  refine ⟨acyclic, found, (each good).ok.1 ⟨_, found⟩, ?_, by decide +kernel⟩
  by_contra notBad
  obtain ⟨_, impossible⟩ := (each bad).ok.2 notBad
  cases fails.symm.trans impossible

/-- A length below one with too many digits fails, though not with a layout error. -/
theorem not_forall_layout :
    ¬ ∀ (structs : StructTable) (d : Declaration), structs.IsAcyclic → IsBad structs d →
      ∃ cause, footprint structs d = .error (.layout cause) := by
  intro h
  let d : Declaration := {
    qualifier := .uniform, type := .value (.scalar .float), name := "a", amount := -10 ^ 4300 }
  have fails : footprint [] d = .error .oversizedInteger := by decide +kernel
  have acyclic : StructTable.IsAcyclic [] :=
    StructTable.isAcyclic_of_rank (fun _ => 0) fun _ _ ⟨_, found, _⟩ => nomatch found
  obtain ⟨cause, other⟩ := h [] d acyclic (.here (.inl (by decide +kernel)))
  cases fails.symm.trans other

end ShaderSurface.Std140
