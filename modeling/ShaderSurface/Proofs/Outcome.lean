import Mathlib.Data.List.Forall2

/-!
# Computations that may fail

A sequence of steps succeeds exactly when every step does, and a list is processed exactly when each
of its entries is. These laws take a successful computation apart.
-/

namespace ShaderSurface.Outcome

variable {ε α β γ : Type}

theorem bind_ok (a : α) (f : α → Except ε β) : (Except.ok a >>= f) = f a :=
  rfl

theorem bind_eq_ok {x : Except ε α} {f : α → Except ε β} {b : β} :
    x >>= f = .ok b ↔ ∃ a, x = .ok a ∧ f a = .ok b := by
  cases x with
  | error e => simp [bind, Except.bind]
  | ok a => simp [bind, Except.bind]

theorem bind_eq_error {x : Except ε α} {f : α → Except ε β} {e : ε} :
    x >>= f = .error e ↔ x = .error e ∨ ∃ a, x = .ok a ∧ f a = .error e := by
  cases x with
  | error e' => simp [bind, Except.bind]
  | ok a => simp [bind, Except.bind]

theorem map_eq_ok {x : Except ε α} {f : α → β} {b : β} :
    x.map f = .ok b ↔ ∃ a, x = .ok a ∧ f a = b := by
  cases x <;> simp [Except.map]

theorem eq_ok_of_mapError {ε' : Type} {x : Except ε α} {f : ε → ε'} {a : α}
    (h : x.mapError f = .ok a) : x = .ok a := by
  cases x with
  | error e => cases h
  | ok a' => exact congrArg Except.ok (Except.ok.inj h)

theorem map_injective {f : α → β} (h : Function.Injective f) :
    Function.Injective (Except.map f : Except ε α → Except ε β) := by
  intro x y same
  cases x <;> cases y <;> simp_all [Except.map, h.eq_iff]

theorem mapM_eq_ok_iff {f : α → Except ε β} {xs : List α} {ys : List β} :
    xs.mapM f = .ok ys ↔ List.Forall₂ (fun x y => f x = .ok y) xs ys := by
  induction xs generalizing ys with
  | nil => simp [pure, Except.pure, eq_comm]
  | cons x xs ih =>
    rw [List.mapM_cons, List.forall₂_cons_left_iff]
    simp only [bind_eq_ok, pure, Except.pure, Except.ok.injEq, ih]
    constructor
    · rintro ⟨y, hy, ys', hys, rfl⟩
      exact ⟨y, ys', hy, hys, rfl⟩
    · rintro ⟨y, ys', hy, hys, rfl⟩
      exact ⟨y, hy, ys', hys, rfl⟩

theorem mapM_eq_some_iff {f : α → Option β} {xs : List α} {ys : List β} :
    xs.mapM f = some ys ↔ List.Forall₂ (fun x y => f x = some y) xs ys := by
  induction xs generalizing ys with
  | nil => simp [eq_comm]
  | cons x xs ih =>
    rw [List.mapM_cons, List.forall₂_cons_left_iff]
    simp only [bind, Option.bind_eq_some_iff, pure, Option.some_inj, ih]
    constructor
    · rintro ⟨y, hy, ys', hys, rfl⟩
      exact ⟨y, ys', hy, hys, rfl⟩
    · rintro ⟨y, ys', hy, hys, rfl⟩
      exact ⟨y, hy, ys', hys, rfl⟩

theorem mapM_map_eq_ok {γ : Type} {f : β → Except ε γ} {part : α → β} {result : α → γ} {xs : List α}
    (h : ∀ x ∈ xs, f (part x) = .ok (result x)) : (xs.map part).mapM f = .ok (xs.map result) := by
  induction xs with
  | nil => rfl
  | cons x xs ih =>
    obtain ⟨first, others⟩ := List.forall_mem_cons.1 h
    rw [List.map_cons, List.mapM_cons, first, bind_ok, ih others, bind_ok]
    rfl

theorem mapM_append_of_eq_ok {f : α → Except ε β} {xs zs : List α} {ys : List β}
    (before : xs.mapM f = .ok ys) : (xs ++ zs).mapM f = (zs.mapM f).map (ys ++ ·) := by
  rw [List.mapM_append, before, bind_ok]
  cases zs.mapM f <;> rfl

theorem mapM_append_cons {f : α → Except ε β} {xs zs : List α} {x : α} {ys ws : List β}
    (before : xs.mapM f = .ok ys) (after : zs.mapM f = .ok ws) :
    (xs ++ x :: zs).mapM f = (f x).map fun y => ys ++ y :: ws := by
  rw [List.mapM_append, before, bind_ok, List.mapM_cons, after]
  cases f x <;> rfl

theorem mapM_filter_map_eq_ok {γ : Type} {test : β → Bool} {f : β → Except ε γ} {part : α → β}
    {result? : α → Option γ} {xs : List α}
    (h : ∀ x ∈ xs, test (part x) = (result? x).isSome ∧
      ∀ y ∈ result? x, f (part x) = .ok y) :
    ((xs.map part).filter test).mapM f = .ok (xs.filterMap result?) := by
  induction xs with
  | nil => rfl
  | cons x xs ih =>
    obtain ⟨⟨passes, processed⟩, others⟩ := List.forall_mem_cons.1 h
    cases result : result? x with
    | none =>
      rw [result] at passes
      rw [List.map_cons, List.filter_cons_of_neg (by simp [passes]),
        List.filterMap_cons_none result]
      exact ih others
    | some y =>
      rw [result] at passes
      rw [List.map_cons, List.filter_cons_of_pos (by simp [passes]),
        List.filterMap_cons_some result, List.mapM_cons, processed y result, bind_ok, ih others,
        bind_ok]
      rfl

theorem exists_of_mem_right {R : α → β → Prop} {xs : List α} {ys : List β}
    (h : List.Forall₂ R xs ys) {y : β} (mem : y ∈ ys) : ∃ x ∈ xs, R x y := by
  induction h with
  | nil => cases mem
  | @cons x y' xs ys first _ ih =>
    rcases List.mem_cons.1 mem with rfl | mem
    · exact ⟨x, List.mem_cons_self, first⟩
    · obtain ⟨x', mem', related⟩ := ih mem
      exact ⟨x', List.mem_cons_of_mem x mem', related⟩

theorem forall₂_imp_of_mem {R S : α → β → Prop} {xs : List α} {ys : List β}
    (imp : ∀ x ∈ xs, ∀ y, R x y → S x y) (h : List.Forall₂ R xs ys) : List.Forall₂ S xs ys := by
  have both : List.Forall₂ (fun x y => x ∈ xs ∧ R x y) xs ys :=
    (List.forall₂_and_left xs ys).2 ⟨fun x mem => mem, h⟩
  exact both.imp fun x y related => imp x related.1 y related.2

/-- What follows from each entry's result is gathered along the list. -/
theorem mapM_lift {f : α → Except ε β} {g : α → Except ε γ} {R : β → γ → Prop} {xs : List α}
    {ys : List β} (h : ∀ x ∈ xs, ∀ y, f x = .ok y → ∃ z, g x = .ok z ∧ R y z)
    (hys : xs.mapM f = .ok ys) : ∃ zs, xs.mapM g = .ok zs ∧ List.Forall₂ R ys zs := by
  simp only [mapM_eq_ok_iff] at hys ⊢
  induction hys with
  | nil => exact ⟨[], .nil, .nil⟩
  | cons hy _ ih =>
    obtain ⟨zs, hzs, rest⟩ := ih fun x mem => h x (List.mem_cons_of_mem _ mem)
    obtain ⟨z, hz, first⟩ := h _ List.mem_cons_self _ hy
    exact ⟨z :: zs, .cons hz hzs, .cons first rest⟩

theorem mapM_congr {f g : α → Except ε β} {xs : List α} (h : ∀ x ∈ xs, f x = g x) :
    xs.mapM f = xs.mapM g := by
  induction xs with
  | nil => rfl
  | cons x xs ih =>
    obtain ⟨first, others⟩ := List.forall_mem_cons.1 h
    rw [List.mapM_cons, List.mapM_cons, first, ih others]

theorem exists_mapM_eq_ok_iff {f : α → Except ε β} {xs : List α} :
    (∃ ys, xs.mapM f = .ok ys) ↔ ∀ x ∈ xs, ∃ y, f x = .ok y := by
  induction xs with
  | nil => simp [pure, Except.pure]
  | cons x xs ih =>
    rw [List.forall_mem_cons, ← ih, List.mapM_cons]
    constructor
    · rintro ⟨ys, h⟩
      obtain ⟨y, first, h⟩ := bind_eq_ok.1 h
      obtain ⟨ys', rest, -⟩ := bind_eq_ok.1 h
      exact ⟨⟨y, first⟩, ys', rest⟩
    · rintro ⟨⟨y, first⟩, ys, rest⟩
      exact ⟨y :: ys, by rw [first, bind_ok, rest]; rfl⟩

theorem exists_of_mapM_eq_error {f : α → Except ε β} {xs : List α} {e : ε}
    (h : xs.mapM f = .error e) : ∃ x ∈ xs, f x = .error e := by
  induction xs with
  | nil => cases h
  | cons x xs ih =>
    rw [List.mapM_cons, bind_eq_error] at h
    rcases h with first | ⟨y, -, h⟩
    · exact ⟨x, List.mem_cons_self, first⟩
    · rcases bind_eq_error.1 h with rest | ⟨ys, -, h⟩
      · obtain ⟨x', mem, fails⟩ := ih rest
        exact ⟨x', List.mem_cons_of_mem x mem, fails⟩
      · cases h

theorem exists_of_foldlM_eq_error {f : β → α → Except ε β} {xs : List α} {start : β} {e : ε}
    (h : xs.foldlM f start = .error e) : ∃ b, ∃ x ∈ xs, f b x = .error e := by
  induction xs generalizing start with
  | nil => cases h
  | cons x xs ih =>
    rw [List.foldlM_cons, bind_eq_error] at h
    rcases h with first | ⟨b, -, rest⟩
    · exact ⟨start, x, List.mem_cons_self, first⟩
    · obtain ⟨b, x', mem, fails⟩ := ih rest
      exact ⟨b, x', List.mem_cons_of_mem x mem, fails⟩

theorem mapM_mono {f g : α → Except ε β} {xs : List α} {ys : List β}
    (h : ∀ x ∈ xs, ∀ y, f x = .ok y → g x = .ok y) (hys : xs.mapM f = .ok ys) :
    xs.mapM g = .ok ys := by
  obtain ⟨zs, hzs, same⟩ := mapM_lift (fun x mem y hy => ⟨y, h x mem y hy, Eq.refl y⟩) hys
  rw [List.forall₂_eq_eq_eq] at same
  rwa [same]

end ShaderSurface.Outcome
