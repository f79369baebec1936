import ShaderSurface.Layout.Std140
import Mathlib.Data.Nat.Prime.Basic

/-!
# Alignments of footprints

Every alignment is a power of two up to the one of a long vector of doubles, so of two alignments
the smaller one divides the larger. An alignment also divides the stride of an array, although a
stride is rounded to a smaller alignment than the one of such a vector.
-/

namespace ShaderSurface

namespace Std140

/-- The alignment of a four-component vector of double precision, the largest there is. -/
def maxAlignment : Nat := 32

theorem eq_two_pow_of_dvd {a : Nat} (h : a ∣ maxAlignment) : ∃ k ≤ 5, a = 2 ^ k :=
  (Nat.dvd_prime_pow Nat.prime_two).1 (show a ∣ 2 ^ 5 from h)

theorem pos_of_dvd {a : Nat} (h : a ∣ maxAlignment) : 0 < a :=
  Nat.pos_of_dvd_of_pos h (by decide)

theorem dvd_of_le {a b : Nat} (ha : a ∣ maxAlignment) (hb : b ∣ maxAlignment) (h : a ≤ b) :
    a ∣ b := by
  obtain ⟨j, -, rfl⟩ := eq_two_pow_of_dvd ha
  obtain ⟨k, -, rfl⟩ := eq_two_pow_of_dvd hb
  exact pow_dvd_pow 2 ((Nat.pow_le_pow_iff_right (by decide)).1 h)

theorem dvd_vectorAlignment : vectorAlignment ∣ maxAlignment := by decide

section RoundUp

variable {offset alignment multiple : Nat}

/-- Clearing the bits below an alignment rounds down to a multiple of it, since it is a power of
two. -/
theorem roundUp_eq (h : alignment ∣ maxAlignment) (offset : Nat) :
    roundUp offset alignment = (offset + alignment - 1) / alignment * alignment := by
  obtain ⟨k, -, rfl⟩ := eq_two_pow_of_dvd h
  generalize top_eq : offset + 2 ^ k - 1 = top
  calc
    roundUp offset (2 ^ k) = top ^^^ (top &&& (2 ^ k - 1)) := by rw [roundUp, top_eq]
    _ = top >>> k <<< k := by
      apply Nat.eq_of_testBit_eq
      intro i
      rw [Nat.testBit_xor, Nat.testBit_and, Nat.testBit_two_pow_sub_one, Nat.testBit_shiftLeft,
        Nat.testBit_shiftRight]
      by_cases low : i < k
      · simp [low]
      · simp [low, Nat.add_sub_of_le (Nat.le_of_not_lt low), Nat.le_of_not_lt low]
    _ = top / 2 ^ k * 2 ^ k := by rw [Nat.shiftRight_eq_div_pow, Nat.shiftLeft_eq]

theorem le_roundUp (h : alignment ∣ maxAlignment) (offset : Nat) :
    offset ≤ roundUp offset alignment := by
  have positive := pos_of_dvd h
  have division := Nat.div_add_mod (offset + alignment - 1) alignment
  have remainder := Nat.mod_lt (offset + alignment - 1) positive
  rw [Nat.mul_comm] at division
  rw [roundUp_eq h]
  omega

theorem dvd_roundUp (h : alignment ∣ maxAlignment) (offset : Nat) :
    alignment ∣ roundUp offset alignment := by
  rw [roundUp_eq h]
  exact Nat.dvd_mul_left _ _

theorem roundUp_le (h : alignment ∣ maxAlignment) (le : offset ≤ multiple)
    (dvd : alignment ∣ multiple) : roundUp offset alignment ≤ multiple := by
  obtain ⟨k, rfl⟩ := dvd
  have positive := pos_of_dvd h
  have bound : (offset + alignment - 1) / alignment < k + 1 := by
    rw [Nat.div_lt_iff_lt_mul positive, Nat.succ_mul, Nat.mul_comm k]
    omega
  calc
    roundUp offset alignment = (offset + alignment - 1) / alignment * alignment := roundUp_eq h _
    _ ≤ k * alignment := Nat.mul_le_mul_right _ (by omega)
    _ = alignment * k := Nat.mul_comm _ _

theorem roundUp_of_dvd (h : alignment ∣ maxAlignment) (dvd : alignment ∣ offset) :
    roundUp offset alignment = offset :=
  Nat.le_antisymm (roundUp_le h (Nat.le_refl _) dvd) (le_roundUp h offset)

/-- An alignment is raised to the one of a vector, or it is kept. -/
theorem roundUp_cases (h : alignment ∣ maxAlignment) :
    roundUp alignment vectorAlignment = vectorAlignment ∨
      roundUp alignment vectorAlignment = alignment := by
  obtain ⟨k, hk, rfl⟩ := eq_two_pow_of_dvd h
  have all : ∀ k ≤ 5, roundUp (2 ^ k) vectorAlignment = vectorAlignment ∨
      roundUp (2 ^ k) vectorAlignment = 2 ^ k := by decide
  exact all k hk

theorem roundUp_dvd (h : alignment ∣ maxAlignment) :
    roundUp alignment vectorAlignment ∣ maxAlignment := by
  rcases roundUp_cases h with same | same
  · rw [same]
    exact dvd_vectorAlignment
  · rwa [same]

end RoundUp

end Std140

open Std140

/-- The alignment is one of the powers of two, and it divides the stride of an array. -/
structure Footprint.IsSound (f : Footprint) : Prop where
  alignment_dvd : f.alignment ∣ maxAlignment
  dvd_stride : f.alignment ∣ roundUp f.size vectorAlignment

namespace Std140

theorem isSound_of_ofType? {type : ValueType} {f : Footprint} (h : ofType? type = some f) :
    f.IsSound := by
  have all : ∀ type ∈ ValueType.all, ∀ f ∈ ofType? type,
      f.alignment ∣ maxAlignment ∧ f.alignment ∣ roundUp f.size vectorAlignment := by decide
  obtain ⟨alignment_dvd, dvd_stride⟩ := all type (ValueType.mem_all type) f h
  exact ⟨alignment_dvd, dvd_stride⟩

theorem size_pos_of_ofType? {type : ValueType} {f : Footprint} (h : ofType? type = some f) :
    0 < f.size := by
  have all : ∀ type ∈ ValueType.all, ∀ f ∈ ofType? type, 0 < f.size := by decide
  exact all type (ValueType.mem_all type) f h

section Aggregate

variable {members : List Footprint} {f : Footprint}

theorem aggregate_cases (members : List Footprint) :
    members = [] ∧ aggregate members = ⟨0, vectorAlignment⟩ ∨
      ∃ largest ∈ members, (∀ f ∈ members, f.alignment ≤ largest.alignment) ∧
        aggregate members =
          ⟨roundUp (endFrom 0 members) (roundUp largest.alignment vectorAlignment),
            roundUp largest.alignment vectorAlignment⟩ := by
  cases found : (members.map (·.alignment)).max? with
  | none =>
    rw [List.max?_eq_none_iff, List.map_eq_nil_iff] at found
    subst found
    exact .inl ⟨rfl, rfl⟩
  | some alignment =>
    obtain ⟨mem, le⟩ := List.max?_eq_some_iff.1 found
    obtain ⟨largest, inside, rfl⟩ := List.mem_map.1 mem
    refine .inr ⟨largest, inside, fun f hf => le _ (List.mem_map_of_mem hf), ?_⟩
    rw [aggregate, found]

theorem alignment_aggregate_dvd (h : ∀ f ∈ members, f.IsSound) :
    (aggregate members).alignment ∣ maxAlignment := by
  obtain ⟨-, same⟩ | ⟨largest, mem, -, same⟩ := aggregate_cases members
  · rw [same]
    exact dvd_vectorAlignment
  · rw [same]
    exact roundUp_dvd (h largest mem).alignment_dvd

/-- The alignment of an aggregate is a multiple of each member's. -/
theorem dvd_alignment_aggregate (h : ∀ f ∈ members, f.IsSound) (hf : f ∈ members) :
    f.alignment ∣ (aggregate members).alignment := by
  have whole := alignment_aggregate_dvd h
  obtain ⟨rfl, -⟩ | ⟨largest, mem, le, same⟩ := aggregate_cases members
  · cases hf
  · rw [same] at whole ⊢
    exact dvd_of_le (h f hf).alignment_dvd whole
      ((le f hf).trans (le_roundUp dvd_vectorAlignment _))

theorem vectorAlignment_dvd_aggregate (members : List Footprint) :
    vectorAlignment ∣ (aggregate members).alignment := by
  obtain ⟨-, same⟩ | ⟨largest, -, -, same⟩ := aggregate_cases members
  · rw [same]
  · rw [same]
    exact dvd_roundUp dvd_vectorAlignment _

/-- An aggregate has room for its members, and its size is a multiple of its alignment. -/
theorem size_aggregate (h : ∀ f ∈ members, f.IsSound) :
    endFrom 0 members ≤ (aggregate members).size ∧
      (aggregate members).alignment ∣ (aggregate members).size := by
  obtain ⟨rfl, same⟩ | ⟨largest, mem, -, same⟩ := aggregate_cases members
  · exact ⟨Nat.zero_le _, Nat.dvd_zero _⟩
  · have whole := roundUp_dvd (h largest mem).alignment_dvd
    rw [same]
    exact ⟨le_roundUp whole _, dvd_roundUp whole _⟩

theorem isSound_aggregate (h : ∀ f ∈ members, f.IsSound) : (aggregate members).IsSound where
  alignment_dvd := alignment_aggregate_dvd h
  dvd_stride := by
    have whole := (size_aggregate h).2
    rw [roundUp_of_dvd dvd_vectorAlignment ((vectorAlignment_dvd_aggregate members).trans whole)]
    exact whole

end Aggregate

theorem isSound_repeated {f : Footprint} (h : f.IsSound) (length : Nat) :
    (repeated length f).IsSound where
  alignment_dvd := roundUp_dvd h.alignment_dvd
  dvd_stride := by
    have stride : roundUp f.alignment vectorAlignment ∣ roundUp f.size vectorAlignment := by
      rcases roundUp_cases h.alignment_dvd with same | same
      · rw [same]
        exact dvd_roundUp dvd_vectorAlignment _
      · rw [same]
        exact h.dvd_stride
    have multiple : vectorAlignment ∣ roundUp f.size vectorAlignment * length :=
      (dvd_roundUp dvd_vectorAlignment _).mul_right length
    rw [repeated, roundUp_of_dvd dvd_vectorAlignment multiple]
    exact stride.mul_right length

end Std140

end ShaderSurface
