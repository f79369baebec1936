import ShaderSurface.Proofs.Layout.Leaves

/-!
# Soundness of the std140 placement

Leaves tile a range of bytes when they are aligned, stand in order without overlap and stay inside
the range. Moving a tiling by a multiple of all its alignments keeps it, and so does putting tilings
of consecutive ranges together. By induction over the nesting, the leaves of a member tile the bytes
of its footprint, and from this the main result follows for a whole block.
-/

namespace ShaderSurface.Std140

open Outcome

/-- The leaves are aligned and stand in order within the bytes from `start` to `stop`. -/
structure Tiles (start stop : Nat) (leaves : List Leaf) : Prop where
  aligned : ∀ leaf ∈ leaves, leaf.footprint.alignment ∣ leaf.offset
  ordered : leaves.Pairwise fun first second => first.stop ≤ second.offset
  start_le : ∀ leaf ∈ leaves, start ≤ leaf.offset
  le_stop : ∀ leaf ∈ leaves, leaf.stop ≤ stop

namespace Tiles

variable {start middle stop : Nat} {leaves others : List Leaf}

theorem nil (start stop : Nat) : Tiles start stop [] where
  aligned := by simp
  ordered := .nil
  start_le := by simp
  le_stop := by simp

theorem widen {start' stop' : Nat} (h : Tiles start stop leaves) (hstart : start' ≤ start)
    (hstop : stop ≤ stop') : Tiles start' stop' leaves where
  aligned := h.aligned
  ordered := h.ordered
  start_le leaf mem := Nat.le_trans hstart (h.start_le leaf mem)
  le_stop leaf mem := Nat.le_trans (h.le_stop leaf mem) hstop

theorem append (h : Tiles start middle leaves) (h' : Tiles middle stop others)
    (hstart : start ≤ middle) (hstop : middle ≤ stop) : Tiles start stop (leaves ++ others) where
  aligned leaf mem := by
    rcases List.mem_append.1 mem with mem | mem
    · exact h.aligned leaf mem
    · exact h'.aligned leaf mem
  ordered := by
    refine List.pairwise_append.2 ⟨h.ordered, h'.ordered, fun first mem second mem' => ?_⟩
    exact Nat.le_trans (h.le_stop first mem) (h'.start_le second mem')
  start_le leaf mem := by
    rcases List.mem_append.1 mem with mem | mem
    · exact h.start_le leaf mem
    · exact Nat.le_trans hstart (h'.start_le leaf mem)
  le_stop leaf mem := by
    rcases List.mem_append.1 mem with mem | mem
    · exact Nat.le_trans (h.le_stop leaf mem) hstop
    · exact h'.le_stop leaf mem

theorem shift {base : Nat} (h : Tiles start stop leaves)
    (hbase : ∀ leaf ∈ leaves, leaf.footprint.alignment ∣ base) :
    Tiles (base + start) (base + stop) (leaves.map (·.shift base)) where
  aligned := by
    simp only [List.forall_mem_map, Leaf.offset_shift, Leaf.footprint_shift]
    exact fun leaf mem => Nat.dvd_add (hbase leaf mem) (h.aligned leaf mem)
  ordered := by
    simp only [List.pairwise_map, Leaf.offset_shift, Leaf.stop_shift]
    exact h.ordered.imp (Nat.add_le_add_left · base)
  start_le := by
    simp only [List.forall_mem_map, Leaf.offset_shift]
    exact fun leaf mem => Nat.add_le_add_left (h.start_le leaf mem) base
  le_stop := by
    simp only [List.forall_mem_map, Leaf.stop_shift]
    exact fun leaf mem => Nat.add_le_add_left (h.le_stop leaf mem) base

end Tiles

/-- The leaves tile the bytes of a footprint, and its alignment is enough for all of them. -/
structure Fits (f : Footprint) (leaves : List Leaf) : Prop extends Tiles 0 f.size leaves where
  dvd_alignment : ∀ leaf ∈ leaves, leaf.footprint.alignment ∣ f.alignment

/-- A footprint's leaves fit into it wherever its alignment allows it to start. -/
theorem Fits.tiles_shift {f : Footprint} {leaves : List Leaf} (h : Fits f leaves) {base : Nat}
    (hbase : f.alignment ∣ base) : Tiles base (base + f.size) (leaves.map (·.shift base)) :=
  h.toTiles.shift fun leaf mem => (h.dvd_alignment leaf mem).trans hbase

theorem fits_leaf (leaf : Leaf) (h : leaf.offset = 0) : Fits leaf.footprint [leaf] where
  aligned := by simp [h]
  ordered := List.pairwise_singleton _ _
  start_le := by simp
  le_stop := by simp [Leaf.stop, h]
  dvd_alignment := by simp

/-- Elements one stride apart tile the bytes of the whole array. -/
theorem tiles_array {f : Footprint} {leaves : List Leaf} {stride : Nat} (h : Fits f leaves)
    (hdvd : f.alignment ∣ stride) (hle : f.size ≤ stride) (length : Nat) :
    Tiles 0 (stride * length)
      ((List.range length).flatMap fun i => leaves.map (·.shift (i * stride))) := by
  induction length with
  | zero => exact .nil 0 _
  | succ length ih =>
    have last := h.tiles_shift (hdvd.mul_left length)
    rw [List.range_succ, List.flatMap_append, List.flatMap_singleton, Nat.mul_comm stride] at *
    refine ih.append (last.widen (Nat.le_refl _) ?_) (Nat.zero_le _) ?_ <;> rw [Nat.succ_mul]
    · exact Nat.add_le_add_left hle _
    · exact Nat.le_add_right _ _

theorem le_endFrom {fs : List Footprint} (h : ∀ f ∈ fs, f.IsSound) (start : Nat) :
    start ≤ endFrom start fs := by
  induction fs generalizing start with
  | nil => exact Nat.le_refl start
  | cons f fs ih =>
    have alignment_dvd := (h f List.mem_cons_self).alignment_dvd
    calc
      start ≤ roundUp start f.alignment + f.size :=
        Nat.le_trans (le_roundUp alignment_dvd start) (Nat.le_add_right _ _)
      _ ≤ endFrom start (f :: fs) := ih (fun f mem => h f (List.mem_cons_of_mem _ mem)) _

theorem tiles_members {fs : List Footprint} {leaves : List (List Leaf)}
    (hfits : List.Forall₂ Fits fs leaves) (hsound : ∀ f ∈ fs, f.IsSound) (start : Nat) :
    Tiles start (endFrom start fs) (((offsetsFrom start fs).zip leaves).flatMap
      fun (base, leaves) => leaves.map (·.shift base)) := by
  induction hfits generalizing start with
  | nil => exact .nil start start
  | @cons f first fs rest hfirst _ ih =>
    have sound := hsound f List.mem_cons_self
    have others : ∀ f ∈ fs, f.IsSound := fun f mem => hsound f (List.mem_cons_of_mem _ mem)
    have before := le_roundUp sound.alignment_dvd start
    have here := hfirst.tiles_shift (dvd_roundUp sound.alignment_dvd start)
    rw [offsetsFrom, List.zip_cons_cons, List.flatMap_cons, endFrom]
    refine (here.widen before (Nat.le_refl _)).append (ih others _) ?_ (le_endFrom others _)
    exact Nat.le_trans before (Nat.le_add_right _ _)

theorem fits_aggregate {fs : List Footprint} {leaves : List (List Leaf)}
    (hfits : List.Forall₂ Fits fs leaves) (hsound : ∀ f ∈ fs, f.IsSound) :
    Fits (aggregate fs) (((offsetsFrom 0 fs).zip leaves).flatMap
      fun (base, leaves) => leaves.map (·.shift base)) where
  toTiles := (tiles_members hfits hsound 0).widen (Nat.le_refl 0) (size_aggregate hsound).1
  dvd_alignment leaf mem := by
    obtain ⟨⟨base, inner⟩, inner_mem, leaf_mem⟩ := List.mem_flatMap.1 mem
    obtain ⟨original, original_mem, rfl⟩ := List.mem_map.1 leaf_mem
    obtain ⟨f, hf, fits⟩ := exists_of_mem_right hfits (List.of_mem_zip inner_mem).2
    exact (fits.dvd_alignment original original_mem).trans (dvd_alignment_aggregate hsound hf)

section Nesting

variable {structs : StructTable} {d : Declaration} {f : Footprint}

/-- A declaration has a sound footprint, and leaves that tile it. -/
def HasFittingLeaves (footprint : Declaration → Except AnalysisError Footprint)
    (leaves : Declaration → Except AnalysisError (List Leaf)) (d : Declaration) : Prop :=
  ∀ f, footprint d = .ok f → f.IsSound ∧ ∃ ls, leaves d = .ok ls ∧ Fits f ls

theorem fits_placed {ofMember : Declaration → Except AnalysisError Footprint}
    {leavesOf : Declaration → Except AnalysisError (List Leaf)} {members : List Declaration}
    {fs : List Footprint} (hfs : members.mapM ofMember = .ok fs)
    (hfull : ∀ member ∈ members, ∀ f, ofMember member = .ok f → footprint structs member = .ok f)
    (h : ∀ member ∈ members, HasFittingLeaves ofMember leavesOf member) :
    (aggregate fs).IsSound ∧ ∃ ls, (members.mapM leavesOf >>= placed structs members) = .ok ls ∧
      Fits (aggregate fs) ls := by
  obtain ⟨leaves, hleaves, fits⟩ := mapM_lift (fun member mem f hf => (h member mem f hf).2) hfs
  have hsound : ∀ f ∈ fs, f.IsSound := by
    intro f mem
    obtain ⟨member, member_mem, hf⟩ := exists_of_mem_right (mapM_eq_ok_iff.1 hfs) mem
    exact (h member member_mem f hf).1
  have hoffsets : offsets structs members = .ok (offsetsFrom 0 fs) :=
    bind_eq_ok.2 ⟨fs, mapM_mono hfull hfs, rfl⟩
  refine ⟨isSound_aggregate hsound, _, ?_, fits_aggregate fits hsound⟩
  exact bind_eq_ok.2 ⟨leaves, hleaves, bind_eq_ok.2 ⟨_, hoffsets, rfl⟩⟩

theorem fits_arranged {element : Footprint} {ls : List Leaf} (hsound : element.IsSound)
    (hfits : Fits element ls) (hf : ofElement d element = .ok f)
    (hfull : footprint structs d = .ok f) :
    f.IsSound ∧ ∃ ls', arranged structs d ls = .ok ls' ∧ Fits f ls' := by
  unfold ofElement at hf
  cases isArray : d.isArray with
  | false =>
    simp only [isArray, Bool.not_false, if_true, Except.ok.injEq] at hf
    subst hf
    exact ⟨hsound, ls, bind_eq_ok.2 ⟨element, hfull, by simp [isArray, pure, Except.pure]⟩, hfits⟩
  | true =>
    simp only [isArray, Bool.not_true, Bool.false_eq_true, if_false] at hf
    split at hf
    case isFalse => cases hf
    rename_i length_pos
    cases hf
    have stride : (repeated d.amount.toNat element).size / d.amount.toNat =
        roundUp element.size vectorAlignment :=
      Nat.mul_div_cancel _ (by omega)
    have sound := isSound_repeated hsound d.amount.toNat
    refine ⟨sound, _, bind_eq_ok.2 ⟨_, hfull, rfl⟩, ?_, ?_⟩
    · rw [if_pos isArray, stride]
      exact tiles_array hfits hsound.dvd_stride (le_roundUp dvd_vectorAlignment _) _
    · rw [if_pos isArray]
      intro leaf mem
      obtain ⟨i, -, mem⟩ := List.mem_flatMap.1 mem
      obtain ⟨original, original_mem, rfl⟩ := List.mem_map.1 mem
      refine (hfits.dvd_alignment original original_mem).trans ?_
      exact dvd_of_le hsound.alignment_dvd sound.alignment_dvd (le_roundUp dvd_vectorAlignment _)

theorem leavesOver_fits {ofStruct : Declaration → Except AnalysisError Footprint}
    {leavesOfStruct : Declaration → Except AnalysisError (List Leaf)}
    (hstruct : ∀ d, HasFittingLeaves ofStruct leavesOfStruct d)
    (hfull : ∀ d f, footprintOver ofStruct d = .ok f → footprint structs d = .ok f)
    (d : Declaration) :
    HasFittingLeaves (footprintOver ofStruct) (leavesOver structs leavesOfStruct) d := by
  induction d using Declaration.induction with
  | step d ih =>
    intro f hf
    obtain ⟨element, helement, hrest⟩ := bind_eq_ok.1 (footprintOver_eq d ▸ hf)
    have fitting : element.IsSound ∧
        ∃ ls, elementLeaves structs leavesOfStruct d = .ok ls ∧ Fits element ls := by
      unfold elementFootprint at helement
      unfold elementLeaves
      cases htype : d.type with
      | struct =>
        simp only [htype] at helement ⊢
        exact hstruct d element helement
      | block =>
        simp only [htype] at helement ⊢
        obtain ⟨fs, hfs, same⟩ := bind_eq_ok.1 helement
        cases same
        exact fits_placed hfs (fun member _ => hfull member) ih
      | value type =>
        cases found : ofType? type with
        | none => simp [htype, found] at helement
        | some footprint =>
          simp only [htype, found, Except.ok.injEq] at helement
          subst helement
          simp only [leaf?_eq_some found]
          exact ⟨isSound_of_ofType? found, _, rfl, fits_leaf ⟨0, type, footprint, found⟩ rfl⟩
    obtain ⟨sound, ls, hls, fits⟩ := fitting
    obtain ⟨sound', ls', hls', fits'⟩ := fits_arranged sound fits hrest (hfull d f hf)
    exact ⟨sound', ls', leavesOver_eq d ▸ bind_eq_ok.2 ⟨ls, hls, hls'⟩, fits'⟩

theorem structLeaves_fits {ofMember : Declaration → Except AnalysisError Footprint}
    {leavesOf : Declaration → Except AnalysisError (List Leaf)}
    (hfull : ∀ d f, ofMember d = .ok f → footprint structs d = .ok f)
    (h : ∀ d, HasFittingLeaves ofMember leavesOf d) (d : Declaration) :
    HasFittingLeaves (structFootprint structs ofMember) (structLeaves structs leavesOf) d := by
  intro f hf
  unfold structFootprint at hf
  unfold structLeaves
  cases found : structs.structOf? d with
  | none => simp [found] at hf
  | some struct =>
    simp only [found] at hf ⊢
    obtain ⟨fs, hfs, same⟩ := bind_eq_ok.1 hf
    cases same
    exact fits_placed hfs (fun member _ => hfull member) fun member _ => h member

/-- At every depth, a member that has a footprint has leaves that tile it. -/
theorem leavesNested_fits {depth : Nat} (h : depth ≤ structs.length) (d : Declaration) :
    HasFittingLeaves (footprintNested structs depth) (leavesNested structs depth) d := by
  induction depth generalizing d with
  | zero =>
    refine leavesOver_fits (fun d => structLeaves_fits ?_ ?_ d)
      (fun d f => footprintNested_mono h) d
    · intro d f impossible
      cases impossible
    · intro d f impossible
      cases impossible
  | succ depth ih =>
    have lower : depth ≤ structs.length := Nat.le_of_succ_le h
    refine leavesOver_fits (fun d => structLeaves_fits ?_ (ih lower) d)
      (fun d f => footprintNested_mono h) d
    exact fun d f => footprintNested_mono lower

end Nesting

theorem packed_offsetsFrom {fs : List Footprint} (h : ∀ f ∈ fs, f.IsSound) (stop : Nat) :
    Packed stop fs (offsetsFrom stop fs) := by
  induction fs generalizing stop with
  | nil => exact .nil stop
  | cons f fs ih =>
    have alignment_dvd := (h f List.mem_cons_self).alignment_dvd
    refine .cons ⟨⟨dvd_roundUp alignment_dvd stop, le_roundUp alignment_dvd stop⟩, ?_⟩
      (ih (fun f mem => h f (List.mem_cons_of_mem _ mem)) _)
    rintro multiple ⟨dvd, le⟩
    exact roundUp_le alignment_dvd le dvd

/-- A block is laid out soundly. Its members stand at the least offsets that their alignments allow;
each leaf is aligned for its own type, the leaves stand one after another in the order of their
declaration, and all of them end within the block, whose size is a multiple of a vector's. -/
structure SoundLayout (structs : StructTable) (members : List Declaration) (starts : List Nat)
    (footprints : List Footprint) (leaves : List Leaf) (size : Nat) : Prop where
  footprints_eq : members.mapM (footprint structs) = .ok footprints
  packed : Packed 0 footprints starts
  leaves_eq : blockLeaves structs members = .ok leaves
  aligned : ∀ leaf ∈ leaves, leaf.footprint.alignment ∣ leaf.offset
  increasing : leaves.Pairwise fun first second =>
    first.offset < second.offset ∧ first.stop ≤ second.offset
  size_eq : blockSize structs members = .ok size
  dvd_size : vectorAlignment ∣ size
  inside : ∀ leaf ∈ leaves, leaf.stop ≤ size

/-- A block whose members have offsets is laid out soundly down to its leaves. -/
theorem exists_soundLayout {structs : StructTable} {members : List Declaration}
    {starts : List Nat} (h : offsets structs members = .ok starts) :
    ∃ footprints leaves size, SoundLayout structs members starts footprints leaves size := by
  obtain ⟨fs, hfs, same⟩ := bind_eq_ok.1 h
  cases same
  have fitting (member : Declaration) :
      HasFittingLeaves (footprint structs) (leaves structs) member :=
    leavesNested_fits (Nat.le_refl _) member
  have hsound : ∀ f ∈ fs, f.IsSound := by
    intro f mem
    obtain ⟨member, -, hf⟩ := exists_of_mem_right (mapM_eq_ok_iff.1 hfs) mem
    exact (fitting member f hf).1
  obtain ⟨inner, hinner, fits⟩ := mapM_lift (fun member _ f hf => (fitting member f hf).2) hfs
  have tiles := tiles_members fits hsound 0
  exact ⟨fs, _, _, {
    footprints_eq := hfs
    packed := packed_offsetsFrom hsound 0
    leaves_eq := bind_eq_ok.2 ⟨inner, hinner, bind_eq_ok.2 ⟨_, h, rfl⟩⟩
    aligned := tiles.aligned
    increasing := tiles.ordered.imp fun {first _} le => ⟨first.offset_lt_stop.trans_le le, le⟩
    size_eq := bind_eq_ok.2 ⟨fs, hfs, rfl⟩
    dvd_size := dvd_roundUp dvd_vectorAlignment _
    inside := fun leaf mem => (tiles.le_stop leaf mem).trans (le_roundUp dvd_vectorAlignment _) }⟩

/-- A struct with a long vector of doubles, used in the array of another struct. -/
def nestedStructs : StructTable :=
  .ofDeclarations [
    { qualifier := .struct, type := .block, name := "Inner", members := some [
      { qualifier := .struct, type := .value (.vector .double .three), name := "axis" },
      { qualifier := .struct, type := .value (.scalar .float), name := "weights", amount := 2 }] },
    { qualifier := .struct, type := .block, name := "Outer", members := some [
      { qualifier := .struct, type := .value (.scalar .int), name := "count" },
      { qualifier := .struct, type := .struct, name := "parts", amount := 2,
        structName := some "Inner" }] }]

def nestedMembers : List Declaration :=
  [{ qualifier := .uniform, type := .value (.vector .float .three), name := "first" },
    { qualifier := .uniform, type := .struct, name := "groups", amount := 3,
      structName := some "Outer" },
    { qualifier := .uniform, type := .value (.square .four), name := "last" }]

theorem exists_soundLayout_nested :
    offsets nestedStructs nestedMembers = .ok [0, 32, 512] ∧
      ∃ footprints leaves size, SoundLayout nestedStructs nestedMembers [0, 32, 512]
        footprints leaves size :=
  ⟨by decide, exists_soundLayout (by decide)⟩

end ShaderSurface.Std140
