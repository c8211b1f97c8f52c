import Mathlib
import Regrid.Proofs.AsReals
import Regrid.Proofs.Counting
import Regrid.Workspace.Output
/-!
# Marks — integers and the real numbers they stand for, apart from missing voxels

Without a fallback the mark for a missing voxel is zero beside integers and not a number beside real numbers.  Apart
from that an array of integers is resliced like the real numbers they stand for (`resliceArray_bind_asReals`), and where
integers are stored the marks are not told apart (`Writer.StoresIntegers.ignoresMarks`).
-/
namespace Regrid

variable {α : Type} [Scalar α]

/-- **The mark beside integers** is zero. -/
theorem Reading.toReal_missing_int [Scalar.Lawful α] (t : IntType) :
    (Reading.cell (Dtype.missing (.int t))).toReal = .ok (Scalar.ofInt 0 : α) := by
  have hwrap : (t.wrap 0).val = 0 := by cases t <;> rfl
  exact congrArg Except.ok ((Scalar.Lawful.storeInt_double _).trans (congrArg Scalar.ofInt hwrap))

namespace View

/-- **A view that shows no fallback**: several samples are averaged in each voxel, or each one lies in the field of
view. -/
def ShowsNoFallback (v : View α) : Prop :=
  v.plan.active = true ∨ ∀ voxel, v.extent.toShape.Inside voxel → v.sampler.valid (v.target voxel) = true

theorem ShowsNoFallback.blockValue_eq {v : View α} (h : v.ShowsNoFallback) {voxel : List Nat}
    (hvoxel : v.extent.toShape.Inside voxel) (m m' : α) :
    v.blockValue m (voxel.drop 3) voxel = v.blockValue m' (voxel.drop 3) voxel := by
  unfold blockValue
  obtain hactive | hvalid := h
  · rw [if_pos hactive, if_pos hactive]
  · rw [if_pos (hvalid voxel hvoxel), if_pos (hvalid voxel hvoxel)]

theorem values_regridded [Capacity] {v : View α} {input reference : Grid α}
    (h : reference.extent.spatial = v.reference.extent.spatial) (vectorize : Bool) :
    (v.regridded input reference).values vectorize = v.values vectorize := by
  unfold values
  rw [copyReals_regridded h, resampleReals_regridded h]
  rfl

variable {v : View α}

theorem dtype_int [Capacity] {x : Volume α} [LinearSolver α] {input reference : Grid α} {o : ReslicingOptions α}
    {t : IntType} (hv : o.view x input (some reference) = .ok v) (h : v.sampler.dtype = .int t) :
    x.dtype = .int t ∧ Kernel.ofLiteral o.order = .ok .nearest := by
  obtain ⟨_, kernel, sampler, -, hkernel, hsampler, hview⟩ := ofVolume_eq_ok.1 hv
  obtain ⟨extent, source, -, -, hsource, rfl⟩ := Sampler.make_eq_ok.1 hsampler
  obtain ⟨-, hs, -⟩ := ofSampler_eq_ok.1 hview
  rw [hs] at h
  cases kernel with
  | nearest =>
    cases hsource
    exact ⟨h, hkernel⟩
  | linear => cases hsource; cases h
  | cubic =>
    obtain ⟨t, -, hpure⟩ := bind_eq_ok.1 hsource
    cases hpure
    cases h

variable [Scalar.Lawful α]

/-- **Without a fallback** the mark for a missing cell stands outside of the field of view. -/
theorem values_of_default [Capacity] (hv : v.Sound) (hprecision : sumPrecision v.sampler.dtype = .double)
    (hfallback : v.sampler.fallback = none) {m : α}
    (hm : (Reading.cell (Dtype.missing v.sampler.volume.dtype)).toReal = .ok m) (vectorize : Bool) :
    v.values vectorize = .ok (Tensor.build v.extent.toShape fun voxel => v.blockValue m (voxel.drop 3) voxel) := by
  have houtside : v.sampler.outside.toReal = .ok m := by
    unfold Sampler.outside
    rw [hfallback, hm]
  have hmerged : v.sampler.merged = .ok m := by
    unfold Sampler.merged
    rw [hfallback, houtside]
  exact hv.values_eq hprecision hmerged houtside vectorize

/-- **What follows from the values of a view does not tell the marks for missing cells apart**: one that is not a
number, and zero. -/
def IgnoresMarks {β : Type} (next : Volume α → Except (Fault α) β) : Prop :=
  ∀ (s : Shape) (f f' : List Nat → α),
    (∀ index, f index = f' index ∨ f index = Scalar.nan ∧ f' index = Scalar.ofInt 0) →
    next ⟨.real .double, Tensor.build s f⟩ = next ⟨.real .double, Tensor.build s f'⟩

omit [Scalar.Lawful α] in
theorem blockValue_mark (v : View α) (place voxel : List Nat) :
    v.blockValue Scalar.nan place voxel = v.blockValue (Scalar.ofInt 0) place voxel ∨
        v.blockValue Scalar.nan place voxel = Scalar.nan ∧
          v.blockValue (Scalar.ofInt 0) place voxel = Scalar.ofInt 0 := by
  unfold blockValue
  split
  · exact .inl rfl
  · split
    · exact .inl rfl
    · exact .inr ⟨rfl, rfl⟩

/-- **What follows from integers** follows from the real numbers they stand for: if a fallback is given that the blocks
can store beside the integers, if no fallback is shown, or if the marks for missing cells are not told apart. -/
theorem values_bind_asReals [Capacity] {β : Type} (hs : v.sampler.Sound)
    (hdtype : v.sampler.volume.dtype = .real .double ∨ ∃ t, v.sampler.volume.dtype = .int t) (vectorize : Bool)
    (next : Volume α → Except (Fault α) β) (hnumber : ∀ k t, v.sampler.fallback = some (.number (.int k)) →
      v.sampler.dtype = .int t → vectorize = true → t.holds k = true)
    (hdefault : v.sampler.fallback = none →
      v.sampler.volume.dtype = .real .double ∨ IgnoresMarks next ∨ v.ShowsNoFallback) :
    (v.asReals.values vectorize >>= fun t => next ⟨.real .double, t⟩) =
      v.values vectorize >>= fun t => next ⟨.real .double, t⟩ := by
  have hprecision := sumPrecision_double hdtype
  cases hfallback : v.sampler.fallback with
  | some l =>
    obtain ⟨n, rfl⟩ := hs.fallback l hfallback
    have hsame : v.asReals.values vectorize = v.values vectorize := by
      refine values_asReals hs hprecision (fun hvectorize => ?_) fun _ => ?_
      · exact Sampler.merged_asReals hfallback hdtype fun t k ht hn =>
          hnumber k t (hn ▸ hfallback) ht hvectorize
      · have hfallback' : v.asReals.sampler.fallback = some (.number n) := hfallback
        unfold Sampler.outside
        rw [hfallback, hfallback']
    rw [hsame]
  | none =>
    have hfallback' : v.asReals.sampler.fallback = none := hfallback
    obtain hdouble | ⟨t, hint⟩ := hdtype
    · have hsame : v.asReals.sampler.outside.toReal = v.sampler.outside.toReal := by
        unfold Sampler.outside
        rw [hfallback, hfallback', hdouble]
        rfl
      rw [values_asReals hs hprecision (fun _ => ?_) fun _ => hsame]
      unfold Sampler.merged
      rw [hfallback, hfallback', hsame]
    · cases hroom : (Shape.reserve v.extent.toShape : Except (Fault α) Unit) with
      | error f => rw [values_asReals_of_noRoom hroom]
      | ok _ =>
        have hv : v.Sound := ⟨hs, hroom⟩
        have hv' : v.asReals.Sound := ⟨Sampler.asReals_sound hs, hroom⟩
        have hzero : (Reading.cell (Dtype.missing v.sampler.volume.dtype)).toReal = .ok (Scalar.ofInt 0 : α) := by
          rw [hint, Reading.toReal_missing_int]
        have hnan : (Reading.cell (Dtype.missing v.asReals.sampler.volume.dtype)).toReal = .ok (Scalar.nan : α) :=
          congrArg Except.ok (Scalar.Lawful.narrow_double _)
        have hprecision' : sumPrecision v.asReals.sampler.dtype = .double :=
          congrArg sumPrecision (Sampler.dtype_asReals v.sampler)
        rw [values_of_default hv hprecision hfallback hzero,
          values_of_default (v := v.asReals) hv' hprecision' hfallback' hnan, ok_bind, ok_bind]
        simp only [blockValue_asReals hs.numeric]
        obtain hdouble | hmarks | hnone := hdefault hfallback
        · rw [hint] at hdouble
          cases hdouble
        · exact hmarks _ _ _ fun voxel => blockValue_mark v (voxel.drop 3) voxel
        · refine congrArg (fun t => next ⟨.real .double, t⟩) (Tensor.build_congr fun voxel hvoxel => ?_)
          exact hnone.blockValue_eq hvoxel _ _

end View

section Reslicing

variable [Scalar.Lawful α] [LinearSolver α] {x : Volume α} {input input' reference : Grid α}
  {o : ReslicingOptions α}

omit [Scalar α] [Scalar.Lawful α] [LinearSolver α] in
theorem Literal.IsFallback.eq_of_given? {l l' : Literal α} (h : l.IsFallback) (hgiven : l.given? = some l') :
    l = l' := by
  obtain rfl | ⟨n, rfl⟩ := h
  · cases hgiven
  · exact Option.some.inj hgiven

omit [Scalar α] [Scalar.Lawful α] [LinearSolver α] in
theorem Literal.IsFallback.eq_null {l : Literal α} (h : l.IsFallback) (hgiven : l.given? = none) : l = .null := by
  obtain rfl | ⟨n, rfl⟩ := h
  · rfl
  · cases hgiven

/-- **Integers are resliced** like the real numbers they stand for, between grids that differ in nothing but their voxel
sizes, up to the marks for missing cells. -/
theorem resliceArray_bind_asReals [Capacity] {β : Type} (next : Volume α → Except (Fault α) β)
    (hdtype : x.dtype = .real .double ∨ ∃ t, x.dtype = .int t) (hpositive : ∀ n ∈ x.shape, 0 < n)
    (ho : o.dtype = .null) (hfallback : o.fallback.IsFallback)
    (hextent : input'.extent = input.extent) (htransform : input'.transform = input.transform)
    (hnumber : ∀ k t, o.vectorize = true → o.fallback = .number (.int k) → x.dtype = .int t →
      Kernel.ofLiteral o.order = .ok .nearest → t.holds k = true)
    (hdefault : o.fallback = .null → x.dtype = .real .double ∨ View.IgnoresMarks next ∨
      ∀ v, o.view x input (some reference) = .ok v → v.ShowsNoFallback) :
    resliceArray x.asReals input' (some reference) o >>= next = resliceArray x input (some reference) o >>= next := by
  have hnumeric := Dtype.isNumeric_of_double_or_int hdtype
  have hstored : ∀ y ∈ x.cells.toList, x.dtype.Stored y := by
    obtain ⟨d, cells⟩ := x
    obtain rfl | ⟨t, rfl⟩ := hdtype
    · exact fun y _ => Dtype.stored_double (α := α) y
    · exact fun y _ => Dtype.stored_int t y
  have hmapping : View.mappingOf input' reference o.transform = View.mappingOf input reference o.transform := by
    unfold View.mappingOf View.mappingBetween
    rw [htransform]
  have hview' : o.view x.asReals input' (some reference) =
      (fun v => v.asReals.regridded input' reference) <$> o.view x input (some reference) := by
    unfold ReslicingOptions.view
    rw [View.ofVolume_regridded o.oversample o.order o.fallback.given? hextent hmapping, View.ofVolume_asReals hnumeric,
      Functor.map_map]
  unfold resliceArray
  rw [hview']
  cases hv : o.view x input (some reference) with
  | error f => rfl
  | ok v =>
    have hsound := View.sound_sampler_of_ofVolume hnumeric hstored hpositive hfallback.exists_number hv
    obtain ⟨hvolume, hgiven⟩ := View.sampler_of_ofVolume hv
    have hevaluate : ∀ w : View α,
        o.evaluate w >>= next = w.values o.vectorize >>= fun t => next ⟨.real .double, t⟩ := by
      intro w
      rw [ReslicingOptions.evaluate_eq, ho, bind_assoc]
      rfl
    have hspatial : reference.extent.spatial = v.asReals.reference.extent.spatial :=
      congrArg (·.extent.spatial) (Option.some.inj (View.toShape_of_ofVolume hv).1)
    simp only [Functor.map, Except.map, ok_bind]
    rw [hevaluate, hevaluate, View.values_regridded hspatial]
    refine View.values_bind_asReals hsound (by rwa [hvolume]) o.vectorize next (fun k t hk ht hvectorize => ?_)
      fun hnone => ?_
    · obtain ⟨hint, hnearest⟩ := View.dtype_int hv ht
      exact hnumber k t hvectorize (hfallback.eq_of_given? (hgiven.symm.trans hk)) hint hnearest
    · rw [hvolume]
      obtain hdouble | hmarks | hshown := hdefault (hfallback.eq_null (hgiven.symm.trans hnone))
      · exact .inl hdouble
      · exact .inr (.inl hmarks)
      · exact .inr (.inr (hshown v hv))

end Reslicing

/-- **A converter stores integers only**, whichever type it is asked for and the values had. -/
def Writer.StoresIntegers (dtype : Literal α) (known : Dtype) : Prop :=
  ∀ (t : Tensor α) (e : Dtype), outputDtype ⟨.real .double, t⟩ [dtype] (.ok (some known)) = .ok e → e.isInteger = true

/-- **Where integers are stored** the marks for missing cells are not told apart, as both become zero. -/
theorem Writer.StoresIntegers.ignoresMarks [Scalar.Lawful α] [Scalar.Counting α] {dtype : Literal α} {known : Dtype}
    (h : StoresIntegers dtype known) :
    View.IgnoresMarks fun y : Volume α => Writer.convert y [dtype] (.ok (some known)) := by
  intro s f f' hf
  have hsame : ∀ t t' : Tensor α, outputDtype ⟨.real .double, t⟩ [dtype] (.ok (some known)) =
      outputDtype ⟨.real .double, t'⟩ [dtype] (.ok (some known)) := fun t t' => rfl
  simp only [convert]
  rw [hsame (Tensor.build s f) (Tensor.build s f')]
  cases he : outputDtype ⟨.real .double, Tensor.build s f'⟩ [dtype] (.ok (some known)) with
  | error g => rfl
  | ok e =>
    have hinteger := h _ e he
    simp only [ok_bind]
    rw [Volume.toStored_reals, Volume.toStored_reals, Tensor.mapM_build_eq, Tensor.mapM_build_eq]
    refine congrArg _ (Tensor.buildM_congr (m := Except (Fault α)) fun index _ => ?_)
    obtain heq | ⟨hnan, hzero⟩ := hf index
    · rw [heq]
    · rw [hnan, hzero, Dtype.storeReal_nan hinteger]

end Regrid
