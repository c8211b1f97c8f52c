import Mathlib
import Regrid.Proofs.Evaluation
import Regrid.Proofs.Mapping
import Regrid.Proofs.Values
import Regrid.Proofs.Written
/-!
# Worlds — the same lattices in other world coordinates

World coordinates only relate two grids to each other.  A view keeps of them the mapping between the lattices; its
walks read neither the transforms of its grids nor their voxel sizes (`View.ofVolume_regridded`).  So nothing that a
view shows depends on the world coordinates in which the volume and the reference are given
(`View.ofVolume_in_other_worlds`).
-/
namespace RealMatrix

variable {a w : RealMatrix 4 4}

/-- **A step has a length** if its column is not zero; that of an affine matrix ends in zero. -/
theorem stepLength_pos_iff (ha : a.IsAffine) (i : Fin 3) : 0 < a.stepLength i ↔ (fun k => a k i.castSucc) ≠ 0 := by
  rw [stepLength, Real.sqrt_pos]
  constructor
  · intro h hzero
    have hentry : ∀ k : Fin 3, a k.castSucc i.castSucc = 0 := fun k => congrFun hzero k.castSucc
    simp [hentry] at h
  · intro h
    refine lt_of_le_of_ne (Finset.sum_nonneg fun k _ => sq_nonneg _) fun hzero => h (funext fun k => ?_)
    have hall := (Finset.sum_eq_zero_iff_of_nonneg fun k _ => sq_nonneg _).1 hzero.symm
    refine Fin.lastCases ?_ (fun k => ?_) k
    · exact (ha _).trans (if_neg (Fin.castSucc_lt_last i).ne)
    · exact pow_eq_zero_iff two_ne_zero |>.1 (hall k (Finset.mem_univ k))

/-- **Other world coordinates** keep the axes that have a length. -/
theorem stepLength_mul_pos_iff (hw : w.IsAffine) (hdet : w.det ≠ 0) (ha : a.IsAffine) (i : Fin 3) :
    0 < stepLength (w * a) i ↔ 0 < a.stepLength i := by
  have hunit : IsUnit w := (Matrix.isUnit_iff_isUnit_det w).2 (isUnit_iff_ne_zero.2 hdet)
  have hcolumn : (fun k => (w * a) k i.castSucc) = w.mulVec fun k => a k i.castSucc := rfl
  rw [stepLength_pos_iff (hw.mul ha), stepLength_pos_iff ha, hcolumn, ne_eq, ne_eq,
    (Matrix.mulVec_injective_of_isUnit hunit).eq_iff' (Matrix.mulVec_zero w)]

end RealMatrix

namespace Regrid

open Exact RealMatrix

/-- **A grid can be made in other world coordinates** exactly if it can be made in the given ones. -/
theorem Grid.exists_make_mul {A W : RealMatrix 4 4} (hW : W.IsAffine) (hdet : W.det ≠ 0) (hA : A.IsAffine)
    (sizes : List Int) : (∃ g, make sizes none (some (affine (W * A))) = .ok g) ↔
      ∃ g, make sizes none (some (affine A)) = .ok g := by
  have hmake : ∀ a : RealMatrix 4 4, make sizes none (some (affine a)) =
      (Extent.ofSizes sizes >>= fun e => complete e none (some (affine a)) : Except (Fault Exact) (Grid Exact)) :=
    fun _ => rfl
  have hcomplete : ∀ (a : RealMatrix 4 4) (e : Extent), (∃ g, complete e none (some (affine a)) = .ok g) ↔
      ∀ i, 0 < a.stepLength i := by
    intro a e
    have hlengths : positiveSpacing ((columnLengths (matrix a)).toList ++ List.replicate e.series.length 1) = true ↔
        ∀ i, 0 < a.stepLength i := positiveSpacing_columnLengths
    rw [← hlengths]
    refine ⟨fun ⟨g, hg⟩ => ?_, fun h => ⟨_, if_pos h⟩⟩
    by_contra hzero
    cases (if_neg hzero).symm.trans hg
  rw [hmake, hmake]
  cases (Extent.ofSizes sizes : Except (Fault Exact) Extent) with
  | error f => rw [error_bind, error_bind]
  | ok e =>
    rw [ok_bind, ok_bind, hcomplete, hcomplete]
    exact forall_congr' (stepLength_mul_pos_iff hW hdet hA)

namespace Sampler

variable {α : Type} [Scalar α] {s : Sampler α} {grid : Grid α}

/-- **The same sampler with another grid.** -/
def regridded (s : Sampler α) (grid : Grid α) : Sampler α := { s with grid := some grid }

theorem tryWeights_regridded (last : List Nat) (points : Points α) :
    (s.regridded grid).tryWeights last points = s.tryWeights last points := by
  unfold tryWeights
  refine congrArg points.toList.forM (funext fun p => ?_)
  have hsample : (s.regridded grid).sample last p = s.sample last p := rfl
  cases h : s.sample last p with
  | ok x => rw [hsample.trans h]
  | error f =>
    rw [hsample.trans h]
    cases f <;> rfl

theorem valuesAt_regridded (series : List (Literal α)) (points : Points α) :
    (s.regridded grid).valuesAt series points = s.valuesAt series points := by
  unfold valuesAt
  simp only [tryWeights_regridded]
  rfl

theorem make_regridded {volume : Volume α} {grid' : Grid α} (kernel : Kernel) (fallback : Option (Literal α))
    (hextent : grid'.extent = grid.extent) : make kernel volume fallback (some grid') .null =
      (·.regridded grid') <$> make kernel volume fallback (some grid) .null := by
  have hshape : grid'.shape = grid.shape := congrArg Extent.toShape hextent
  unfold make
  cases Extent.ofShape? volume.shape with
  | none => rfl
  | some extent =>
    simp only [hshape]
    by_cases h : grid.shape = volume.shape
    · simp only [h, ne_eq, not_true_eq_false, if_false]
      cases Source.ofKernel volume kernel <;> rfl
    · simp only [h, ne_eq, not_false_eq_true, if_true]
      rfl

end Sampler

namespace View

section Regridded

variable {α : Type} [Scalar α] {input input' reference reference' : Grid α} {v : View α}

/-- **The same view between other grids** of the same lattices. -/
def regridded (v : View α) (input reference : Grid α) : View α :=
  { v with sampler := v.sampler.regridded input, reference }

theorem addSamples_regridded (series : List (Literal α)) (voxels : Points α) :
    (v.regridded input reference).addSamples series voxels = v.addSamples series voxels := by
  funext sums offset
  unfold addSamples
  simp only [regridded, Sampler.valuesAt_regridded]
  rfl

variable [Capacity]

theorem copyReals_regridded (h : reference.extent.spatial = v.reference.extent.spatial) :
    (v.regridded input reference).copyReals = v.copyReals := by
  obtain ⟨sampler, ⟨⟨spatial, series⟩, spacing, transform⟩, mapping, plan⟩ := v
  obtain ⟨⟨spatial', series'⟩, spacing', transform'⟩ := reference
  obtain rfl : spatial' = spatial := h
  rfl

theorem resampleReals_regridded (h : reference.extent.spatial = v.reference.extent.spatial) :
    (v.regridded input reference).resampleReals = v.resampleReals := by
  have hplain : (v.regridded input reference).plainBlock = v.plainBlock := by
    funext series voxels
    unfold plainBlock
    simp only [regridded, Sampler.valuesAt_regridded]
  have haveraged : (v.regridded input reference).averagedBlock = v.averagedBlock := by
    funext series voxels
    unfold averagedBlock
    simp only [addSamples_regridded]
    rfl
  have hextent : (v.regridded input reference).extent = v.extent := by
    unfold extent
    rw [← h]
    rfl
  unfold resampleReals
  rw [hplain, haveraged, hextent]
  rfl

variable [LinearSolver α] {volume : Volume α} {transform transform' : Literal α}

/-- **The mapping between two grids**, with a transform as it is written. -/
def mappingOf (input reference : Grid α) (transform : Literal α) : Except (Fault α) (AffineTransform α) := do
  mappingBetween input reference (← AffineTransform.ofLiteral transform)

theorem ofSampler_eq {sampler : Sampler α} (hshape : input.shape = sampler.volume.shape)
    (transform oversample : Literal α) : ofSampler sampler (some input) (some reference) transform oversample =
      mappingOf input reference transform >>= fun mapping => do
        let plan ← OversamplingPlan.plan mapping oversample
        if plan.active then Shape.reserveLattice plan.factors.toList
        return ⟨sampler, reference, mapping, plan⟩ := by
  unfold ofSampler mappingOf
  simp [hshape]

/-- **Grids of the same lattices with the same mapping** make the same view, or fail with the same fault. -/
theorem ofVolume_regridded (oversample order : Literal α) (fallback : Option (Literal α))
    (hextent : input'.extent = input.extent)
    (hmapping : mappingOf input' reference' transform' = mappingOf input reference transform) :
    ofVolume volume (some input') (some reference') transform' oversample order fallback =
      (·.regridded input' reference') <$>
        ofVolume volume (some input) (some reference) transform oversample order fallback := by
  unfold ofVolume
  simp only [pure_bind, map_bind]
  refine bind_congr fun kernel => ?_
  rw [Sampler.make_regridded kernel fallback hextent]
  cases hs : Sampler.make kernel volume fallback (some input) .null with
  | error f => rfl
  | ok s =>
    have hshape : input.shape = s.volume.shape := by
      obtain ⟨_, _, -, hgrid, -, rfl⟩ := Sampler.make_eq_ok.1 hs
      exact hgrid input rfl
    have hshape' : input'.shape = (s.regridded input').volume.shape :=
      (congrArg Extent.toShape hextent).trans hshape
    simp only [Functor.map, Except.map, ok_bind]
    rw [ofSampler_eq hshape', ofSampler_eq hshape, hmapping]
    -- from the mapping on, the steps look at nothing that the grids could change
    cases mappingOf input reference transform with
    | error f => rfl
    | ok mapping =>
      simp only [ok_bind]
      cases OversamplingPlan.plan mapping oversample with
      | error f => rfl
      | ok plan =>
        simp only [ok_bind]
        cases plan.active with
        | false => rfl
        | true => cases (Shape.reserveLattice plan.factors.toList : Except (Fault α) Unit) <;> rfl

end Regridded

/-- **Two outcomes show the same**: the same fault, or views with the same mapping, the same plan, and walks that give
the same values of every type and leave the same cursor, wherever they start. -/
def ShowSame [Capacity] {α : Type} [Scalar α] : Except (Fault α) (View α) → Except (Fault α) (View α) → Prop
  | .ok v, .ok w => v.mapping = w.mapping ∧ v.plan = w.plan ∧ v.start = w.start ∧ ∀ (dtype : Literal α) (c : Cursor α),
      Walk.perform (v.copy dtype) c = Walk.perform (w.copy dtype) c ∧
      Walk.perform (v.resample dtype) c = Walk.perform (w.resample dtype) c
  | .error e, .error f => e = f
  | _, _ => False

theorem showSame_regridded [Capacity] {α : Type} [Scalar α] [LinearSolver α] {volume : Volume α}
    {input input' reference reference' : Grid α} {transform transform' : Literal α} (oversample order : Literal α)
    (fallback : Option (Literal α)) (hextent : input'.extent = input.extent)
    (hspatial : reference'.extent.spatial = reference.extent.spatial)
    (hmapping : mappingOf input' reference' transform' = mappingOf input reference transform) :
    ShowSame (ofVolume volume (some input) (some reference) transform oversample order fallback)
      (ofVolume volume (some input') (some reference') transform' oversample order fallback) := by
  rw [ofVolume_regridded oversample order fallback hextent hmapping]
  cases hv : ofVolume volume (some input) (some reference) transform oversample order fallback with
  | error f => exact rfl
  | ok v =>
    have hreference : reference = v.reference := Option.some.inj (toShape_of_ofVolume hv).1
    have hsizes : reference'.extent.spatial = v.reference.extent.spatial := by rw [hspatial, hreference]
    refine ⟨rfl, rfl, rfl, fun dtype c => ⟨?_, ?_⟩⟩
    · rw [copy, copy, copyReals_regridded hsizes]
    · rw [resample, resample, resampleReals_regridded hsizes]

section Exact

variable [LinearSolver Exact] [LinearSolver.Accurate] {A C T B : RealMatrix 4 4}

/-- **A system in other world coordinates** has the same solution. -/
theorem solve_mul {W : RealMatrix 4 4} (hA : A.det ≠ 0) (hW : W.det ≠ 0) :
    (affine (W * A)).solve (affine (W * C)) = (affine A).solve (affine C) := by
  have hproduct : (W * A).det ≠ 0 := by
    rw [Matrix.det_mul]
    exact mul_ne_zero hW hA
  have hunit : IsUnit (W * A) := (Matrix.isUnit_iff_isUnit_det _).2 (isUnit_iff_ne_zero.2 hproduct)
  obtain ⟨D, hD, hsolve⟩ := solve_of_det_ne_zero (C := C) hA
  obtain ⟨D', hD', hsolve'⟩ := solve_of_det_ne_zero (C := W * C) hproduct
  have hsame : W * A * D' = W * A * D := by rw [hD', Matrix.mul_assoc, hD]
  rw [hsolve, hsolve', hunit.mul_left_cancel hsame]

omit [LinearSolver.Accurate] in
theorem mappingOf_affine {input reference : Grid Exact} {transform : Literal Exact}
    (hinput : input.transform = affine A) (hreference : reference.transform = affine B)
    (htransform : AffineTransform.ofLiteral transform = .ok (affine T)) :
    mappingOf input reference transform = (affine A).solve (affine (T * B)) := by
  rw [mappingOf, htransform, ok_bind, mappingBetween, hinput, hreference, compose_affine]

/-- **World coordinates do not matter.**  Let the transforms of a volume, of a reference grid and between their worlds
be affine, the first of them not singular, and let the worlds of both grids be given other coordinates by affine
matrices that are not singular.  Grids can be made in the other coordinates exactly if they can be made in the given
ones.  With the transform between the other worlds, every view of the volume keeps its mapping, its plan and all its
values, whatever the voxel sizes of the grids, and what fails keeps its fault.  So it is if the transform between the
worlds is made a part of the reference grid, even where it is singular. -/
theorem ofVolume_in_other_worlds [Capacity] {W V : RealMatrix 4 4} (hA : A.IsAffine) (hB : B.IsAffine)
    (hdet : A.det ≠ 0) (hW : W.IsAffine) (hWdet : W.det ≠ 0) (hV : V.IsAffine) (hVdet : V.det ≠ 0)
    {input input' reference reference' moved : Grid Exact} {transform transform' : Literal Exact}
    (hinput : input.transform = affine A) (hreference : reference.transform = affine B)
    (htransform : AffineTransform.ofLiteral transform = .ok (affine T))
    (hinput' : input'.extent = input.extent ∧ input'.transform = affine (W * A))
    (hreference' : reference'.extent.spatial = reference.extent.spatial ∧ reference'.transform = affine (V * B))
    (htransform' : AffineTransform.ofLiteral transform' = .ok (affine (W * T * V⁻¹)))
    (hmoved : moved.extent.spatial = reference.extent.spatial ∧ moved.transform = affine (T * B))
    (volume : Volume Exact) (oversample order : Literal Exact) (fallback : Option (Literal Exact)) :
    (∀ sizes, (∃ g, Grid.make sizes none (some (affine (W * A))) = .ok g) ↔
      ∃ g, Grid.make sizes none (some (affine A)) = .ok g) ∧
    (∀ sizes, (∃ g, Grid.make sizes none (some (affine (V * B))) = .ok g) ↔
      ∃ g, Grid.make sizes none (some (affine B)) = .ok g) ∧
    ShowSame (ofVolume volume (some input) (some reference) transform oversample order fallback)
      (ofVolume volume (some input') (some reference') transform' oversample order fallback) ∧
    ShowSame (ofVolume volume (some input) (some reference) transform oversample order fallback)
      (ofVolume volume (some input) (some moved) .null oversample order fallback) := by
  have hproduct : W * T * V⁻¹ * (V * B) = W * (T * B) := by
    have hunit : IsUnit V.det := isUnit_iff_ne_zero.2 hVdet
    rw [Matrix.mul_assoc (W * T), Matrix.nonsing_inv_mul_cancel_left _ _ hunit, Matrix.mul_assoc]
  refine ⟨Grid.exists_make_mul hW hWdet hA, Grid.exists_make_mul hV hVdet hB, ?_, ?_⟩
  · refine showSame_regridded oversample order fallback hinput'.1 hreference'.1 ?_
    rw [mappingOf_affine hinput'.2 hreference'.2 htransform', mappingOf_affine hinput hreference htransform, hproduct,
      solve_mul hdet hWdet]
  · refine showSame_regridded oversample order fallback rfl hmoved.1 ?_
    rw [mappingOf_affine hinput hmoved.2 ofLiteral_null, mappingOf_affine hinput hreference htransform,
      Matrix.one_mul]

end Exact

/-- **A single voxel** seen through a turn, with turned coordinates of its world and a stretched world of the
reference. -/
theorem ofVolume_in_other_worlds_turned :
    let other (a : RealMatrix 4 4) : Grid Exact := ⟨unitGrid.extent, [1, 1, 1], affine a⟩
    let view (a b : RealMatrix 4 4) (transform : Literal Exact) : Except (Fault Exact) (View Exact) :=
      ofVolume unitSampler.volume (some (other a)) (some (other b)) transform .null (.number (.int 0)) none
    (∃ v, view 1 1 (.ofMatrix turn) = .ok v) ∧
      ShowSame (view 1 1 (.ofMatrix turn)) (view (turn * 1) (stretch * 1) (.ofMatrix (turn * turn * stretch⁻¹))) ∧
      ShowSame (view 1 1 (.ofMatrix turn)) (view 1 (turn * 1) .null) := by
  intro other view
  have hdet : turn.det ≠ 0 := by
    simp [turn, Matrix.det_succ_row_zero, Fin.sum_univ_succ, Fin.succAbove]
  have hlength : ∀ i, turn.stepLength i ≤ 1 := by
    intro i
    fin_cases i <;> simp [turn, stepLength, Fin.sum_univ_succ]
  have horder : Kernel.ofLiteral (.number (.int 0) : Literal Exact) = .ok .nearest := by
    simp [Kernel.ofLiteral, Kernel.ofDegree?, Number.toScalar]
  obtain ⟨plan, hplan, hinactive⟩ : ∃ plan, OversamplingPlan.plan (affine turn) .null = .ok plan ∧
      plan.active = false :=
    OversamplingPlan.exists_inactive (fun i => sampleCount_of_stepLength_le_one (hlength i)) (.inl rfl)
  have hother : ∀ a : RealMatrix 4 4, (other a).transform = affine a := fun _ => rfl
  have hshape : (other 1).shape = unitSampler.volume.shape := rfl
  have hsource : Source.ofKernel unitSampler.volume .nearest = .ok .nearest := rfl
  have hview : ∃ v, view 1 1 (.ofMatrix turn) = .ok v :=
    ⟨_, ofVolume_affine hshape (hother 1) (by simp) (hother 1) (AffineTransform.ofLiteral_ofMatrix turn)
      ((Matrix.one_mul turn).trans (Matrix.mul_one turn).symm) horder hsource hplan fun h => by
        rw [hinactive] at h
        cases h⟩
  have hwritten : AffineTransform.ofLiteral (.ofMatrix (turn * turn * stretch⁻¹)) =
      .ok (affine (turn * turn * stretch⁻¹)) := AffineTransform.ofLiteral_ofMatrix _
  have hinput : (other (turn * 1)).extent = (other 1).extent ∧ (other (turn * 1)).transform = affine (turn * 1) :=
    ⟨rfl, hother _⟩
  have hreference : (other (stretch * 1)).extent.spatial = (other 1).extent.spatial ∧
      (other (stretch * 1)).transform = affine (stretch * 1) := ⟨rfl, hother _⟩
  have hmoved : (other (turn * 1)).extent.spatial = (other 1).extent.spatial ∧
      (other (turn * 1)).transform = affine (turn * 1) := ⟨rfl, hother _⟩
  have hone : (1 : RealMatrix 4 4).det ≠ 0 := by simp
  have hall := ofVolume_in_other_worlds isAffine_one isAffine_one hone isAffine_turn hdet isAffine_stretch
    det_stretch_ne_zero (hother 1) (hother 1) (AffineTransform.ofLiteral_ofMatrix turn) hinput hreference hwritten
    hmoved unitSampler.volume .null (.number (.int 0)) none
  exact ⟨hview, hall.2.2⟩

end View

end Regrid
