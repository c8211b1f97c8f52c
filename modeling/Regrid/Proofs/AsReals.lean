import Mathlib
import Regrid.Proofs.Series
import Regrid.Proofs.Worlds
/-!
# AsReals — integers seen as the real numbers they stand for

A sampler estimates the real numbers that cells stand for, so that a volume of integers and the volume of these real
numbers show the same inside the field of view (`View.values_asReals`).  Outside of it the two may differ: the mark for
a missing cell of an integer type is zero, and the one for a real number is not a number.
-/
namespace Regrid

variable {α : Type} [Scalar α]

theorem Tensor.get?_map {β γ : Type} (f : β → γ) (t : Tensor β) (index : List Nat) :
    (t.map f).get? index = (t.get? index).map f := by
  unfold get?
  change (t.shape.offset? index).bind (fun k => (t.cells.map f)[k]?) = _
  cases t.shape.offset? index with
  | none => rfl
  | some k => exact Vector.getElem?_map

theorem Tensor.map_scalar_double (t : Tensor α) : t.map (Dtype.scalar (.real .double)) = t := by
  obtain ⟨shape, cells⟩ := t
  exact congrArg (mk shape) (Vector.map_id cells)

theorem Dtype.isNumeric_of_double_or_int {d : Dtype} (h : d = .real .double ∨ ∃ t, d = .int t) : d.IsNumeric := by
  obtain rfl | ⟨t, rfl⟩ := h
  · exact isNumeric_double
  · trivial

/-- **A volume as the real numbers its cells stand for.** -/
def Volume.asReals (x : Volume α) : Volume α := ⟨.real .double, x.cells.map x.dtype.scalar⟩

namespace Volume

variable {x : Volume α}

theorem cell?_asReals (index : List Nat) : x.asReals.cell? index = (x.cell? index).map x.dtype.scalar :=
  Tensor.get?_map _ _ _

variable [Scalar.Lawful α]

theorem toReals_eq (h : x.dtype.IsNumeric) : x.toReals = .ok (x.cells.map x.dtype.scalar) :=
  Tensor.mapM_eq_map (Dtype.convert_double h) x.cells

/-- **Reading a volume as real numbers** gives those that its cells stand for. -/
theorem cast_double (h : x.dtype.IsNumeric) : x.cast (.real .double) = .ok x.asReals :=
  congrArg (fun y : Except (Fault α) (Tensor α) => do return (⟨.real .double, ← y⟩ : Volume α)) (toReals_eq h)

theorem toReals_asReals (h : x.dtype.IsNumeric) : x.asReals.toReals = x.toReals := by
  have hreals := toReals_eq (x := x.asReals) Dtype.isNumeric_double
  rw [toReals_eq h, hreals]
  exact congrArg Except.ok (Tensor.map_scalar_double _)

end Volume

theorem Source.ofKernel_asReals [Scalar.Lawful α] {x : Volume α} (h : x.dtype.IsNumeric) (kernel : Kernel) :
    ofKernel x.asReals kernel = ofKernel x kernel := by
  cases kernel with
  | nearest | linear => rfl
  | cubic => rw [ofKernel, ofKernel, Volume.toReals_asReals h]

namespace Sampler

variable {s : Sampler α}

/-- **The sampler of the real numbers** that the cells of a volume stand for. -/
def asReals (s : Sampler α) : Sampler α := { s with volume := s.volume.asReals }

theorem dtype_asReals (s : Sampler α) : s.asReals.dtype = .real .double := by
  obtain ⟨volume, extent, source, fallback, grid, name⟩ := s
  cases source <;> rfl

/-- **The estimates of integers** are those of the real numbers they stand for. -/
theorem estimate_asReals (h : s.volume.dtype.IsNumeric) (place : List Nat) (p : Point α) :
    s.asReals.estimate place p = s.estimate place p := by
  obtain ⟨volume, extent, source, fallback, grid, name⟩ := s
  have hread : ∀ index, (volume.asReals.cell? index).elim (.error .indexOutside : Except (Fault α) α) .ok =
      (volume.cell? index).elim (.error .indexOutside) volume.dtype.toScalar := by
    intro index
    rw [Volume.cell?_asReals]
    cases volume.cell? index with
    | none => rfl
    | some x => exact (Dtype.toScalar_eq h x).symm
  rw [estimate_eq_getD, estimate_eq_getD]
  cases source with
  | nearest =>
    simp only [sample, asReals, Source.sample, dtype, Source.dtype]
    cases Kernel.nearestVoxel? extent.spatial p with
    | none => rfl
    | some voxel =>
      simp only [Volume.cell?_asReals]
      cases volume.cell? (voxel.toList ++ place) <;> rfl
  | linear =>
    exact congrArg (fun read => ((Kernel.linearAt extent.spatial read p).toOption.map id).getD Scalar.nan)
      (funext fun voxel => hread (voxel.toList ++ place))
  | cubic c => rfl

/-- **A number as it is stored beside values of a type.** -/
def besideNumber (d : Dtype) (n : Number α) : Except (Fault α) α := do
  let e ← numberDtype d n
  return e.scalar (← cellOfNumber n e)

theorem merged_number {n : Number α} (hfallback : s.fallback = some (.number n)) (hn : ∀ b, n ≠ .bool b) :
    s.merged = besideNumber s.dtype n := by
  unfold merged
  rw [hfallback]
  cases n with
  | bool b => exact absurd rfl (hn b)
  | int | real => rfl

theorem merged_bool {b : Bool} (hfallback : s.fallback = some (.number (.bool b))) :
    s.merged = Reading.toReal (.given (.number (.bool b))) := by
  unfold merged outside
  rw [hfallback]

theorem besideNumber_int [Scalar.Lawful α] {t : IntType} {k : Int} (hk : t.holds k = true) :
    besideNumber (.int t) (.int k : Number α) = besideNumber (.real .double) (.int k) := by
  have hrange := Dtype.between_minimum_maximum (Dtype.range_of_holds hk)
  have hwrap : (t.wrap k).val = k := IntType.residue_eq_self hk
  have hint : besideNumber (.int t) (.int k : Number α) = .ok (Scalar.ofInt k) := by
    simp only [besideNumber, numberDtype, cellOfNumber, Number.toInt, ok_bind, hrange, if_true]
    exact congrArg (fun m : Int => Except.ok (Scalar.ofInt m)) hwrap
  have hdouble : besideNumber (.real .double) (.int k : Number α) = .ok (Scalar.ofInt k) := by
    simp only [besideNumber, numberDtype, cellOfNumber, ok_bind, hrange, if_true]
    exact congrArg Except.ok (Scalar.Lawful.storeInt_double k)
  rw [hint, hdouble]

/-- **A number beside integers** that can store it is the same as beside the real numbers they stand for. -/
theorem merged_asReals [Scalar.Lawful α] {n : Number α} (hfallback : s.fallback = some (.number n))
    (hdtype : s.volume.dtype = .real .double ∨ ∃ t, s.volume.dtype = .int t)
    (hholds : ∀ t k, s.dtype = .int t → n = .int k → t.holds k = true) : s.asReals.merged = s.merged := by
  have hfallback' : s.asReals.fallback = some (.number n) := hfallback
  obtain ⟨b, rfl⟩ | hn := exists_or_forall_not fun b => n = .bool b
  · rw [merged_bool hfallback, merged_bool hfallback']
  · rw [merged_number hfallback hn, merged_number hfallback' hn, dtype_asReals]
    obtain hdouble | ⟨t, hint⟩ : s.dtype = .real .double ∨ ∃ t, s.dtype = .int t := by
      obtain hd | hd := s.dtype_cases
      · rwa [hd]
      · exact .inl hd
    · rw [hdouble]
    · rw [hint]
      cases n with
      | bool b => exact absurd rfl (hn b)
      | real x => rfl
      | int k => exact (besideNumber_int (hholds t k hint rfl)).symm

theorem make_asReals [Scalar.Lawful α] {x : Volume α} (h : x.dtype.IsNumeric) (kernel : Kernel)
    (fallback : Option (Literal α)) (grid : Option (Grid α)) (name : Literal α) :
    make kernel x.asReals fallback grid name = asReals <$> make kernel x fallback grid name := by
  have hshape : x.asReals.shape = x.shape := rfl
  unfold make
  rw [hshape, Source.ofKernel_asReals h]
  cases Extent.ofShape? x.shape with
  | none => rfl
  | some extent =>
    cases grid with
    | none => cases Source.ofKernel x kernel <;> rfl
    | some g =>
      by_cases hgrid : g.shape = x.shape
      · simp only [hgrid, ne_eq, not_true_eq_false, if_false]
        cases Source.ofKernel x kernel <;> rfl
      · simp only [hgrid, ne_eq, not_false_eq_true, if_true]
        rfl

theorem asReals_sound [Scalar.Lawful α] (h : s.Sound) : s.asReals.Sound where
  shape := h.shape
  positive := h.positive
  numeric := Dtype.isNumeric_double
  stored x _ := Dtype.stored_double (α := α) x
  fallback := h.fallback

end Sampler

namespace View

variable {v : View α}

/-- **The view of the real numbers** that the cells of a volume stand for. -/
def asReals (v : View α) : View α := { v with sampler := v.sampler.asReals }

theorem samples_asReals (h : v.sampler.volume.dtype.IsNumeric) (place voxel : List Nat) :
    v.asReals.samples place voxel = v.samples place voxel := by
  have hcounted : v.asReals.counted? place = v.counted? place := by
    funext p
    have hestimate := Sampler.estimate_asReals h place p
    have hvalid : v.asReals.sampler.valid p = v.sampler.valid p := rfl
    unfold counted?
    rw [hvalid]
    change (if v.sampler.valid p && Scalar.isFinite (v.sampler.asReals.estimate place p) then
      some (v.sampler.asReals.estimate place p) else none) = _
    rw [hestimate]
  unfold samples
  rw [hcounted]
  rfl

/-- **The value of a voxel in a block** is the same for the real numbers that integers stand for. -/
theorem blockValue_asReals (h : v.sampler.volume.dtype.IsNumeric) (m : α) (place voxel : List Nat) :
    v.asReals.blockValue m place voxel = v.blockValue m place voxel := by
  have hestimate := Sampler.estimate_asReals h place (v.target voxel)
  unfold blockValue
  rw [samples_asReals h]
  change (if v.plan.active = true then _ else if v.sampler.valid (v.target voxel) = true then
    v.sampler.asReals.estimate place (v.target voxel) else m) = _
  rw [hestimate]
  rfl

/-- **The value under a cursor** is the same for the real numbers that integers stand for, if samples are added with
double precision and the fallbacks are alike. -/
theorem cursorValue_asReals (h : v.sampler.volume.dtype.IsNumeric) (hprecision : sumPrecision v.sampler.dtype = .double)
    (houtside : v.asReals.sampler.outside.toReal = v.sampler.outside.toReal) (place voxel : List Nat) :
    v.asReals.cursorValue place voxel = v.cursorValue place voxel := by
  have hestimate := Sampler.estimate_asReals h place (v.target voxel)
  have hprecision' : sumPrecision v.asReals.sampler.dtype = .double :=
    congrArg sumPrecision (Sampler.dtype_asReals v.sampler)
  unfold cursorValue
  rw [samples_asReals h, houtside, hprecision, hprecision']
  change (if v.plan.active = true then _ else if v.sampler.valid (v.target voxel) = true then
    Except.ok (v.sampler.asReals.estimate place (v.target voxel)) else _) = _
  rw [hestimate]
  rfl

open Walk

variable [Capacity]

theorem fst_perform_resampleReals_of_noRoom {f : Fault α}
    (hroom : (Shape.reserve v.extent.toShape : Except (Fault α) Unit) = .error f) (c : Cursor α) :
    (perform v.resampleReals c).1 = (Shape.reserveLattice v.extent.spatial.toList : Except (Fault α) Unit) >>=
      fun _ => .error f := by
  unfold resampleReals
  cases hlattice : (Shape.reserveLattice v.extent.spatial.toList : Except (Fault α) Unit) with
  | error g => rw [perform_bind_error (perform_lift _ c)]; rfl
  | ok _ => rw [perform_bind_ok (perform_lift _ c), hroom, perform_bind_error (perform_lift _ c)]; rfl

theorem values_asReals_of_noRoom {f : Fault α}
    (hroom : (Shape.reserve v.extent.toShape : Except (Fault α) Unit) = .error f) (vectorize : Bool) :
    v.asReals.values vectorize = v.values vectorize := by
  cases vectorize with
  | false => exact (copyReals_of_noRoom (v := v.asReals) hroom _).trans (copyReals_of_noRoom hroom _).symm
  | true =>
    exact (fst_perform_resampleReals_of_noRoom (v := v.asReals) hroom _).trans
      (fst_perform_resampleReals_of_noRoom hroom _).symm

variable [Scalar.Lawful α]

/-- **A volume of integers shows what the real numbers show** that they stand for, if the fallbacks are alike. -/
theorem values_asReals (hs : v.sampler.Sound) (hprecision : sumPrecision v.sampler.dtype = .double) {vectorize : Bool}
    (hmerged : vectorize = true → v.asReals.sampler.merged = v.sampler.merged)
    (houtside : vectorize = false → v.asReals.sampler.outside.toReal = v.sampler.outside.toReal) :
    v.asReals.values vectorize = v.values vectorize := by
  have hs' := Sampler.asReals_sound hs
  cases hroom : (Shape.reserve v.extent.toShape : Except (Fault α) Unit) with
  | error f => exact values_asReals_of_noRoom hroom vectorize
  | ok _ =>
    cases vectorize with
    | false =>
      have hv : v.Sound := ⟨hs, hroom⟩
      have hv' : v.asReals.Sound := ⟨hs', hroom⟩
      refine (fst_perform_copyReals hv'.room v.asReals.start_axes).trans
        (Eq.trans ?_ (fst_perform_copyReals hroom v.start_axes).symm)
      refine Tensor.buildM_congr (m := Except (Fault α)) fun voxel (h : v.extent.toShape.Inside voxel) => ?_
      rw [hv.readAt_eq h, hv'.readAt_eq h, cursorValue_asReals hs.numeric hprecision (houtside rfl)]
    | true =>
      refine (fst_perform_resampleReals (v := v.asReals) hroom v.asReals.start_axes).trans
        (Eq.trans ?_ (fst_perform_resampleReals hroom v.start_axes).symm)
      refine congrArg (v.gather <$> ·) (Tensor.buildM_congr (m := Except (Fault α)) fun place hplace => ?_)
      cases hm : v.sampler.merged with
      | error f =>
        rw [blockAt_of_error hs hplace hm]
        exact blockAt_of_error (v := v.asReals) hs' hplace ((hmerged rfl).trans hm)
      | ok m =>
        have hblock := blockAt_eq (v := v.asReals) hs' hplace ((hmerged rfl).trans hm)
        rw [blockAt_eq hs hplace hm, hblock]
        exact congrArg (fun value => Except.ok (Tensor.build v.extent.spatial.toList value))
          (funext fun voxel => blockValue_asReals hs.numeric m place voxel)

section Volume

variable [LinearSolver α] {x : Volume α} {input reference : Grid α} {transform oversample order : Literal α}
  {fallback : Option (Literal α)}

/-- **A volume of integers is viewed** like the real numbers that they stand for. -/
theorem ofVolume_asReals (h : x.dtype.IsNumeric) :
    ofVolume x.asReals (some input) (some reference) transform oversample order fallback =
      asReals <$> ofVolume x (some input) (some reference) transform oversample order fallback := by
  unfold ofVolume
  simp only [pure_bind, map_bind]
  refine bind_congr fun kernel => ?_
  rw [Sampler.make_asReals h]
  cases hs : Sampler.make kernel x fallback (some input) .null with
  | error f => rfl
  | ok s =>
    have hshape : input.shape = s.volume.shape := by
      obtain ⟨_, _, -, hgrid, -, rfl⟩ := Sampler.make_eq_ok.1 hs
      exact hgrid input rfl
    have hshape' : input.shape = s.asReals.volume.shape := hshape
    simp only [Functor.map, Except.map, ok_bind]
    rw [ofSampler_eq hshape', ofSampler_eq hshape]
    cases mappingOf input reference transform with
    | error f => rfl
    | ok mapping =>
      simp only [ok_bind]
      cases OversamplingPlan.plan mapping oversample with
      | error f => rfl
      | ok plan =>
        simp only [ok_bind]
        cases plan.active with
        | false => rfl
        | true => cases (Shape.reserveLattice plan.factors.toList : Except (Fault α) Unit) <;> rfl

end Volume

end View

end Regrid
