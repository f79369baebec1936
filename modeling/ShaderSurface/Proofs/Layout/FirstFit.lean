import Mathlib.Order.Bounds.Basic
import Mathlib.Order.Interval.Finset.Nat
import ShaderSurface.Layout.Slots
import ShaderSurface.Proofs.Outcome

/-!
# First fit around the given slots

The lowest free start of a run is where a search from the first slot on would end: it is free, and
no start below it is. Along a list of declarations, those that have a slot keep it, and each of the
others takes the lowest run that is apart from all given runs, also those further on, and from the
runs of the declarations before it (`SlotKind.assign_firstFit`).
-/

namespace ShaderSurface

namespace SlotRun

variable {taken : List SlotRun} {width : Nat}

def slots (r : SlotRun) : Finset Nat :=
  Finset.Ico r.start r.stop

theorem meets_eq_false_iff_disjoint (r s : SlotRun) :
    r.meets s = false ↔ Disjoint r.slots s.slots := by
  simp only [meets, decide_eq_false_iff_not, slots, Finset.disjoint_left, Finset.mem_Ico]
  constructor
  · intro apart x left right
    omega
  · intro apart common
    exact @apart (max r.start s.start) (by omega) (by omega)

theorem isFree_iff {r : SlotRun} :
    isFree taken r = true ↔ ∀ s ∈ taken, Disjoint r.slots s.slots := by
  simp [isFree, meets_eq_false_iff_disjoint]

/-- Behind all runs that are taken there is room. -/
theorem exists_isFree (taken : List SlotRun) (width : Nat) :
    ∃ start, isFree taken ⟨start, width⟩ = true := by
  have bounded : ∃ bound, ∀ r ∈ taken, r.stop ≤ bound := by
    induction taken with
    | nil => exact ⟨0, by simp⟩
    | cons r rest ih =>
      obtain ⟨bound, below⟩ := ih
      refine ⟨max r.stop bound, List.forall_mem_cons.2 ⟨by omega, fun s mem => ?_⟩⟩
      have := below s mem
      omega
  obtain ⟨bound, below⟩ := bounded
  refine ⟨bound, ?_⟩
  simp only [isFree, List.all_eq_true]
  intro r mem
  have := below r mem
  simp [meets, stop] at this ⊢
  omega

theorem mem_map_stop {start : Nat} (free : isFree taken ⟨start + 1, width⟩ = true)
    (blocked : isFree taken ⟨start, width⟩ = false) : start + 1 ∈ taken.map stop := by
  simp only [isFree, List.all_eq_false, List.all_eq_true] at free blocked
  obtain ⟨r, mem, meets⟩ := blocked
  have apart := free r mem
  refine List.mem_map.2 ⟨r, mem, ?_⟩
  simp [SlotRun.meets, stop] at meets apart ⊢
  omega

theorem isLeast_lowestFree (taken : List SlotRun) (width : Nat) :
    IsLeast {start | isFree taken ⟨start, width⟩ = true} (lowestFree taken width) := by
  have some := exists_isFree taken width
  have least : IsLeast {start | isFree taken ⟨start, width⟩ = true} (Nat.find some) :=
    ⟨Nat.find_spec some, fun start free => Nat.find_min' some free⟩
  have candidate : Nat.find some ∈ 0 :: taken.map stop := by
    cases found : Nat.find some with
    | zero => exact List.mem_cons_self
    | succ start =>
      have free := Nat.find_spec some
      rw [found] at free
      have blocked := Nat.find_min some (show start < Nat.find some by omega)
      exact List.mem_cons_of_mem _ (mem_map_stop free (by simpa using blocked))
  have smallest : ((0 :: taken.map stop).filter fun start => isFree taken ⟨start, width⟩).min? =
      Option.some (Nat.find some) := by
    rw [List.min?_eq_some_iff]
    refine ⟨List.mem_filter.2 ⟨candidate, least.1⟩, fun start mem => ?_⟩
    exact least.2 (List.mem_filter.1 mem).2
  rw [lowestFree, smallest]
  exact least

/-- Try one start after another, as often as allowed. -/
def search (taken : List SlotRun) (width : Nat) : (tries start : Nat) → Option Nat
  | 0, _ => none
  | tries + 1, start =>
    if isFree taken ⟨start, width⟩ then some start else search taken width tries (start + 1)

theorem search_eq_lowestFree {tries start : Nat} (below : start ≤ lowestFree taken width)
    (enough : lowestFree taken width < start + tries) :
    search taken width tries start = some (lowestFree taken width) := by
  obtain ⟨free, least⟩ := isLeast_lowestFree taken width
  induction tries generalizing start with
  | zero => omega
  | succ tries ih =>
    by_cases here : isFree taken ⟨start, width⟩ = true
    · have := least here
      rw [search, if_pos here, le_antisymm below this]
    · have apart : start ≠ lowestFree taken width := by
        rintro rfl
        exact here free
      rw [search, if_neg here, ih (by omega) (by omega)]

end SlotRun

namespace SlotKind

variable {kind : SlotKind} {ds : List Declaration}

def hint? (key : String) (d : Declaration) : Option Nat :=
  (Layout.arguments? (d.layout.getD "").toList).bind fun arguments =>
    (arguments.get? key).bind LayoutValue.number?

/-- The layout of a declaration can be read; one without a layout has no arguments. -/
def IsReadable (d : Declaration) : Prop :=
  (Layout.arguments? (d.layout.getD "").toList).isSome

instance : DecidablePred IsReadable :=
  fun d => inferInstanceAs (Decidable ((Layout.arguments? (d.layout.getD "").toList).isSome = true))

/-- The starts from which the run of the declaration at a place is apart from the runs of all
declarations with a hint and of the declarations before it. -/
def freeStarts (key : String) (width : Declaration → Nat) (ds : List Declaration)
    (slots : List Nat) (i : Nat) (d : Declaration) : Set Nat :=
  {start | ∀ (j : Nat) (other : Declaration) (slot : Nat), ds[j]? = some other →
    slots[j]? = some slot → (hint? key other).isSome ∨ j < i →
    Disjoint (Finset.Ico start (start + width d)) (Finset.Ico slot (slot + width other))}

/-- Slots in the order of the declarations. Hints are kept, every other slot is the lowest free
start, and two runs overlap only if both declarations have a hint. -/
structure IsFirstFit (key : String) (width : Declaration → Nat) (ds : List Declaration)
    (slots : List Nat) : Prop where
  length : slots.length = ds.length
  hinted : ∀ (i : Nat) (d : Declaration) (hint : Nat), ds[i]? = some d → hint? key d = some hint →
    slots[i]? = some hint
  least : ∀ (i : Nat) (d : Declaration), ds[i]? = some d → hint? key d = none →
    ∃ slot, slots[i]? = some slot ∧ IsLeast (freeStarts key width ds slots i d) slot
  overlap : ∀ (i j : Nat) (d other : Declaration) (slot slot' : Nat), i ≠ j → ds[i]? = some d →
    ds[j]? = some other → slots[i]? = some slot → slots[j]? = some slot' →
    ¬ Disjoint (Finset.Ico slot (slot + width d)) (Finset.Ico slot' (slot' + width other)) →
    (hint? key d).isSome ∧ (hint? key other).isSome

/-- Where slots without a hint are free starts, two runs overlap only if both have a hint. -/
theorem hints_of_not_disjoint {key : String} {width : Declaration → Nat} {slots : List Nat}
    (free : ∀ (i : Nat) (d : Declaration) (slot : Nat), ds[i]? = some d → slots[i]? = some slot →
      hint? key d = none → slot ∈ freeStarts key width ds slots i d)
    {i j : Nat} (apart : i ≠ j) {d other : Declaration} {slot slot' : Nat}
    (hd : ds[i]? = some d) (hother : ds[j]? = some other) (hslot : slots[i]? = some slot)
    (hslot' : slots[j]? = some slot')
    (meet : ¬ Disjoint (Finset.Ico slot (slot + width d))
      (Finset.Ico slot' (slot' + width other))) :
    (hint? key d).isSome ∧ (hint? key other).isSome := by
  have forward : hint? key d = none → ¬ ((hint? key other).isSome ∨ j < i) :=
    fun none held => meet (free i d slot hd hslot none j other slot' hother hslot' held)
  have backward : hint? key other = none → ¬ ((hint? key d).isSome ∨ i < j) :=
    fun none held => meet (free j other slot' hother hslot' none i d slot hd hslot held).symm
  rcases hint : hint? key d with _ | n <;> rcases hint' : hint? key other with _ | m
  · have := forward hint
    have := backward hint'
    omega
  · exact absurd (.inl (by simp [hint'])) (forward hint)
  · exact absurd (.inl (by simp [hint])) (backward hint')
  · simp

variable {taken : List SlotRun} {pairs : List (Declaration × Option Nat)}

theorem length_place (kind : SlotKind) (taken : List SlotRun)
    (pairs : List (Declaration × Option Nat)) :
    (kind.place taken pairs).length = pairs.length := by
  fun_induction place kind taken pairs <;> simp_all

theorem getElem?_place_given {i : Nat} {d : Declaration} {slot : Nat}
    (h : pairs[i]? = some (d, some slot)) : (kind.place taken pairs)[i]? = some slot := by
  induction pairs generalizing taken i with
  | nil => simp at h
  | cons pair rest ih =>
    obtain ⟨d', given⟩ := pair
    cases i with
    | zero => cases given <;> simp_all [place]
    | succ i =>
      have found : rest[i]? = some (d, some slot) := by simpa using h
      cases given <;> simp [place, ih found]

/-- The runs of the declarations before a place that have taken a slot on their own. -/
def placedBefore (kind : SlotKind) (pairs : List (Declaration × Option Nat)) (slots : List Nat)
    (i : Nat) (r : SlotRun) : Prop :=
  ∃ j < i, ∃ d, pairs[j]? = some (d, none) ∧ ∃ slot, slots[j]? = some slot ∧
    r = ⟨slot, kind.width d⟩

theorem placedBefore_cons {d : Declaration} {given : Option Nat} {slot : Nat} {slots : List Nat}
    {i : Nat} {r : SlotRun} :
    placedBefore kind ((d, given) :: pairs) (slot :: slots) (i + 1) r ↔
      (given = none ∧ r = ⟨slot, kind.width d⟩) ∨ placedBefore kind pairs slots i r := by
  constructor
  · rintro ⟨j, before, d', found, slot', taken, rfl⟩
    cases j with
    | zero =>
      obtain ⟨rfl, rfl⟩ : d = d' ∧ given = none := by simpa using found
      obtain rfl : slot = slot' := by simpa using taken
      exact .inl ⟨rfl, rfl⟩
    | succ j =>
      exact .inr ⟨j, by omega, d', by simpa using found, slot', by simpa using taken, rfl⟩
  · rintro (⟨rfl, rfl⟩ | ⟨j, before, d', found, slot', taken, rfl⟩)
    · exact ⟨0, by omega, d, by simp, slot, by simp, rfl⟩
    · exact ⟨j + 1, by omega, d', by simpa using found, slot', by simpa using taken, rfl⟩

/-- Every other declaration takes the lowest run that is free of what was taken at the start and of
the runs placed before it. -/
theorem getElem?_place_open {i : Nat} {d : Declaration} (h : pairs[i]? = some (d, none)) :
    ∃ taken', (kind.place taken pairs)[i]? =
        some (SlotRun.lowestFree taken' (kind.width d)) ∧
      ∀ r, r ∈ taken' ↔ r ∈ taken ∨ placedBefore kind pairs (kind.place taken pairs) i r := by
  induction pairs generalizing taken i with
  | nil => simp at h
  | cons pair rest ih =>
    obtain ⟨d', given⟩ := pair
    cases i with
    | zero =>
      obtain ⟨rfl, rfl⟩ : d' = d ∧ given = none := by simpa using h
      exact ⟨taken, by simp [place], fun r => by simp [placedBefore]⟩
    | succ i =>
      have found : rest[i]? = some (d, none) := by simpa using h
      cases given with
      | some slot =>
        obtain ⟨taken', same, mem⟩ := @ih taken i found
        refine ⟨taken', by simpa [place] using same, fun r => ?_⟩
        simp [mem, place, placedBefore_cons]
      | none =>
        obtain ⟨taken', same, mem⟩ :=
          @ih (⟨SlotRun.lowestFree taken (kind.width d'), kind.width d'⟩ :: taken) i found
        refine ⟨taken', by simpa [place] using same, fun r => ?_⟩
        simp only [mem, place, placedBefore_cons, List.mem_cons, true_and]
        tauto

theorem mem_givenRuns {r : SlotRun} :
    r ∈ kind.givenRuns pairs ↔
      ∃ (j : Nat) (d : Declaration) (slot : Nat), pairs[j]? = some (d, some slot) ∧
        r = ⟨slot, kind.width d⟩ := by
  rw [givenRuns, List.mem_filterMap]
  constructor
  · rintro ⟨⟨d, given⟩, mem, same⟩
    obtain ⟨j, found⟩ := List.mem_iff_getElem?.1 mem
    obtain ⟨slot, rfl, rfl⟩ := Option.map_eq_some_iff.1 same
    exact ⟨j, d, slot, found, rfl⟩
  · rintro ⟨j, d, slot, found, rfl⟩
    exact ⟨(d, some slot), List.mem_of_getElem? found, rfl⟩

theorem given_of_isReadable {d : Declaration} (readable : IsReadable d) :
    kind.given d = .ok (hint? kind.key d) := by
  obtain ⟨arguments, found⟩ := Option.isSome_iff_exists.1 readable
  simp [given, hint?, found]

def withHints (key : String) (ds : List Declaration) : List (Declaration × Option Nat) :=
  ds.map fun d => (d, hint? key d)

theorem getElem?_withHints {key : String} {i : Nat} {d : Declaration} {hint : Option Nat} :
    (withHints key ds)[i]? = some (d, hint) ↔ ds[i]? = some d ∧ hint? key d = hint := by
  cases found : ds[i]? with
  | none => simp [withHints, found]
  | some other =>
    simp only [withHints, List.getElem?_map, found, Option.map_some, Option.some.injEq,
      Prod.mk.injEq]
    constructor <;> rintro ⟨rfl, rfl⟩ <;> simp

def slotsOf (kind : SlotKind) (ds : List Declaration) : List Nat :=
  kind.place (kind.givenRuns (withHints kind.key ds)) (withHints kind.key ds)

theorem length_slotsOf (kind : SlotKind) (ds : List Declaration) :
    (kind.slotsOf ds).length = ds.length := by
  simp [slotsOf, length_place, withHints]

/-- If all layouts can be read, every declaration has its slot, in order. -/
theorem assign_of_isReadable (distinct : (ds.map (·.name)).Nodup)
    (readable : ∀ d ∈ ds, IsReadable d) :
    kind.assign ds = .ok ((ds.map (·.name)).zip (kind.slotsOf ds)) := by
  have gathered : ds.mapM kind.given = .ok (ds.map (hint? kind.key)) := by
    have := Outcome.mapM_map_eq_ok fun d mem => @given_of_isReadable kind d (readable d mem)
    rwa [List.map_id'] at this
  have paired : ds.zip (ds.map (hint? kind.key)) = withHints kind.key ds := by
    have := @List.zip_map' _ _ _ id (hint? kind.key) ds
    simpa [withHints] using this
  have keys : (((ds.map (·.name)).zip (kind.slotsOf ds)).map (·.1)).Nodup := by
    rwa [List.map_fst_zip (by simp [length_slotsOf])]
  rw [assign, gathered, Outcome.bind_ok, paired]
  exact congrArg Except.ok (Keyed.ofPairs_of_nodup keys)

theorem getElem?_slotsOf_of_hint {i : Nat} {d : Declaration} {hint : Nat} (hd : ds[i]? = some d)
    (given : hint? kind.key d = some hint) : (kind.slotsOf ds)[i]? = some hint :=
  getElem?_place_given (getElem?_withHints.2 ⟨hd, given⟩)

theorem isReadable_of_assign {table : Keyed String Nat} (h : kind.assign ds = .ok table) :
    ∀ d ∈ ds, IsReadable d := by
  obtain ⟨given, gathered, -⟩ := Outcome.bind_eq_ok.1 h
  intro d mem
  obtain ⟨slot?, found⟩ := Outcome.exists_mapM_eq_ok_iff.1 ⟨given, gathered⟩ d mem
  rw [SlotKind.given] at found
  split at found
  · rename_i arguments readable
    rw [IsReadable, readable]
    rfl
  · cases found

theorem freeStarts_eq {i : Nat} {d : Declaration}
    (mem : ∀ r, r ∈ taken ↔ r ∈ kind.givenRuns (withHints kind.key ds) ∨
      placedBefore kind (withHints kind.key ds) (kind.slotsOf ds) i r) :
    freeStarts kind.key kind.width ds (kind.slotsOf ds) i d =
      {start | SlotRun.isFree taken ⟨start, kind.width d⟩ = true} := by
  ext start
  rw [Set.mem_ofPred, SlotRun.isFree_iff]
  constructor
  · intro free r inside
    rcases (mem r).1 inside with given | ⟨j, before, other, found, slot, held, rfl⟩
    · obtain ⟨j, other, slot, found, rfl⟩ := mem_givenRuns.1 given
      obtain ⟨hother, hint⟩ := getElem?_withHints.1 found
      exact free j other slot hother (getElem?_slotsOf_of_hint hother hint) (.inl (by simp [hint]))
    · exact free j other slot (getElem?_withHints.1 found).1 held (.inr before)
  · intro free j other slot hother hslot held
    apply free ⟨slot, kind.width other⟩
    rw [mem]
    cases hint : hint? kind.key other with
    | some n =>
      obtain rfl : n = slot := by simpa [getElem?_slotsOf_of_hint hother hint] using hslot
      exact .inl (mem_givenRuns.2 ⟨j, other, n, getElem?_withHints.2 ⟨hother, hint⟩, rfl⟩)
    | none =>
      have before : j < i := by simpa [hint] using held
      exact .inr ⟨j, before, other, getElem?_withHints.2 ⟨hother, hint⟩, slot, hslot, rfl⟩

theorem isLeast_slotsOf {i : Nat} {d : Declaration} (hd : ds[i]? = some d)
    (hint : hint? kind.key d = none) :
    ∃ slot, (kind.slotsOf ds)[i]? = some slot ∧
      IsLeast (freeStarts kind.key kind.width ds (kind.slotsOf ds) i d) slot := by
  obtain ⟨taken, same, mem⟩ := getElem?_place_open (getElem?_withHints.2 ⟨hd, hint⟩)
  refine ⟨_, same, ?_⟩
  rw [freeStarts_eq mem]
  exact SlotRun.isLeast_lowestFree taken (kind.width d)

/-- The slots of declarations are first fit. -/
theorem isFirstFit_slotsOf (kind : SlotKind) (ds : List Declaration) :
    IsFirstFit kind.key kind.width ds (kind.slotsOf ds) where
  length := length_slotsOf kind ds
  hinted _ _ _ hd given := getElem?_slotsOf_of_hint hd given
  least _ _ hd hint := isLeast_slotsOf hd hint
  overlap i j d other slot slot' apart hd hother hslot hslot' meet := by
    refine hints_of_not_disjoint (fun i d slot hd hslot hint => ?_) apart hd hother hslot hslot'
      meet
    obtain ⟨slot', same, least⟩ := isLeast_slotsOf hd hint
    obtain rfl : slot = slot' := by simpa [hslot] using same
    exact least.1

/-- Declarations with names of their own and layouts that can be read are assigned slots by first
fit: a search from the first slot on ends, hints are kept, and every other declaration gets the
lowest slot from which its run is apart from all hinted runs and from the runs before it. -/
theorem assign_firstFit (distinct : (ds.map (·.name)).Nodup)
    (readable : ∀ d ∈ ds, IsReadable d) :
    (∀ taken width, ∃ tries, SlotRun.search taken width tries 0 =
      some (SlotRun.lowestFree taken width)) ∧
    (∃ slots, attributeLocation.assign ds = .ok ((ds.map (·.name)).zip slots) ∧
      IsFirstFit "location" (fun d => d.type.locations * (max d.amount 1).toNat) ds slots) ∧
    (∃ slots, textureUnit.assign ds = .ok ((ds.map (·.name)).zip slots) ∧
      IsFirstFit "binding" (fun d => (max d.amount 1).toNat) ds slots) ∧
    (∃ slots, blockBinding.assign ds = .ok ((ds.map (·.name)).zip slots) ∧
      IsFirstFit "binding" (fun d => (max d.amount 1).toNat) ds slots) := by
  refine ⟨fun taken width => ?_, ?_, ?_, ?_⟩
  · exact ⟨SlotRun.lowestFree taken width + 1,
      SlotRun.search_eq_lowestFree (Nat.zero_le _) (by omega)⟩
  · exact ⟨_, assign_of_isReadable distinct readable, isFirstFit_slotsOf attributeLocation ds⟩
  · exact ⟨_, assign_of_isReadable distinct readable, isFirstFit_slotsOf textureUnit ds⟩
  · exact ⟨_, assign_of_isReadable distinct readable, isFirstFit_slotsOf blockBinding ds⟩

/-- A hint further on leaves a gap of two slots in front: a matrix of three columns is placed behind
it, and a vector after the matrix in the gap. -/
theorem assign_firstFit_gap :
    let ds : List Declaration := [
      { qualifier := .input, type := .value (.square .three), name := "m" },
      { qualifier := .input, type := .value (.vector .float .three), name := "v" },
      { qualifier := .input, type := .value (.vector .double .four), name := "h", amount := 2
        layout := some "location=2" }]
    attributeLocation.assign ds = .ok [("m", 6), ("v", 0), ("h", 2)] ∧
      ∃ slots, attributeLocation.assign ds = .ok ((ds.map (·.name)).zip slots) ∧
        IsFirstFit "location" (fun d => d.type.locations * (max d.amount 1).toNat) ds slots := by
  intro ds
  have distinct : (ds.map (·.name)).Nodup := by decide
  have readable : ∀ d ∈ ds, IsReadable d := by decide
  exact ⟨by decide, (assign_firstFit distinct readable).2.1⟩

end SlotKind

end ShaderSurface
