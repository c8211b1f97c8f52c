import Mathlib
import Regrid.Proofs.Values
import Regrid.Proofs.Written
/-!
# Refinement — oversampling is averaging a finer reslicing

Several samples in each output voxel are the values of a reslicing onto a grid that is as many times finer: the samples
of the plan lie at the centres of its voxels, and what is outside the field of view or not finite counts as zero in the
average.
-/
namespace Regrid

open Exact RealMatrix

/-- **A grid refines another**: along each axis it has a number of voxels in each voxel of the other, whose outer
corner it keeps in place. -/
structure Grid.Refines (refined g : Grid Exact) (f : Fin 3 → ℕ) : Prop where
  spatial : refined.extent.spatial = Vector.ofFn fun i => f i * g.extent.spatial.get i
  transform : refined.transform = g.transform.compose (Placement.resizingTransform (point fun i => 1 / (f i : ℝ)))

section Refined

variable [LinearSolver Exact] [LinearSolver.Accurate] {cells : Tensor Exact} {input reference refined : Grid Exact}
  {A T B : RealMatrix 4 4} {o : ReslicingOptions Exact} {kernel : Kernel} {plan : OversamplingPlan}

/-- **A reslicing with one sample per voxel** and no number outside the field of view. -/
def ReslicingOptions.plain (o : ReslicingOptions Exact) (vectorize : Bool) : ReslicingOptions Exact :=
  { o with oversample := .number (.int 1), fallback := .number (.real .nan), vectorize }

omit [LinearSolver Exact] [LinearSolver.Accurate] in
/-- **The positions of samples** are those of the voxels of a finer view. -/
theorem View.samplePosition_eq_target {D : RealMatrix 4 4} {v w : View Exact} (hv : v.mapping = affine D)
    (hw : w.mapping = affine (D * resizing fun i => 1 / (v.plan.factors.get i : ℝ))) (voxel : Vector Nat 3)
    (place : List Nat) (step : Fin 3 → ℕ) : v.samplePosition (voxel.toList ++ place) step =
      w.target ((blockVoxel v.plan.factors.get step voxel).toList ++ place) := by
  rw [samplePosition, point_append, centre_add_offset, target_append, hv, hw, centre, apply_affine, apply_affine,
    apply_affine, act_mul (isAffine_resizing _)]

/-- **Oversampling is averaging a finer reslicing.**  A volume of double precision without empty axes, whose grid has a
matrix that is not singular, is resliced with several samples per voxel, as many as are asked for.  Each output voxel is
the mean over a block of voxels of the reslicing with one sample per voxel onto the grid that is as many times finer, in
which what is not finite counts as zero.  Without room for the finer array there is no such reslicing. -/
theorem resliceArray_oversampled [Capacity] (hpositive : ∀ n ∈ cells.shape, 0 < n) (hshape : input.shape = cells.shape)
    (hinput : input.transform = affine A) (hdet : A.det ≠ 0) (hsizes : ∀ i, 0 < reference.extent.spatial.get i)
    (hreference : reference.transform = affine B)
    (htransform : AffineTransform.ofLiteral o.transform = .ok (affine T))
    (horder : Kernel.ofLiteral o.order = .ok kernel) (hfallback : o.fallback.IsFallback) (hdtype : o.dtype = .null)
    (hgiven : o.oversample.isGiven = true) (hplan : OversamplingPlan.ofRequest o.oversample = .ok plan)
    (hsome : ∃ i, plan.factors.get i ≠ 1) (hrefined : refined.Refines reference plan.factors.get) (vectorize : Bool) :
    ((Shape.reserve (refined.extent.spatial.toList ++ input.extent.series) : Except (Fault Exact) Unit) = .ok () →
      ∃ t h : Tensor Exact,
        resliceArray ⟨.real .double, cells⟩ input (some reference) o = .ok ⟨.real .double, t⟩ ∧
        resliceArray ⟨.real .double, cells⟩ input (some refined) (o.plain vectorize) = .ok ⟨.real .double, h⟩ ∧
        t.shape = reference.extent.spatial.toList ++ input.extent.series ∧
        h.shape = refined.extent.spatial.toList ++ input.extent.series ∧
        ∀ (voxel : Vector Nat 3) (place : List Nat), Shape.Inside reference.extent.spatial.toList voxel.toList →
          Shape.Inside input.extent.series place → ∃ cell : (Fin 3 → ℕ) → Exact,
            (∀ step : Fin 3 → ℕ, (∀ i, step i < plan.factors.get i) →
              h.get? ((blockVoxel plan.factors.get step voxel).toList ++ place) = some (cell step)) ∧
            t.get? (voxel.toList ++ place) = some (finite (blockMean plan.factors.get cell))) ∧
    ∀ f, (Shape.reserve (refined.extent.spatial.toList ++ input.extent.series) : Except (Fault Exact) Unit) = .error f →
      ∃ g, resliceArray ⟨.real .double, cells⟩ input (some refined) (o.plain vectorize) = .error g := by
  let volume : Volume Exact := ⟨.real .double, cells⟩
  let R : RealMatrix 4 4 := resizing fun i => 1 / (plan.factors.get i : ℝ)
  let D : RealMatrix 4 4 := A⁻¹ * (T * B)
  have hD : A * D = T * B := Matrix.mul_nonsing_inv_cancel_left A (T * B) (isUnit_iff_ne_zero.2 hdet)
  have hDR : A * (D * R) = T * (B * R) := by
    rw [← Matrix.mul_assoc, hD, Matrix.mul_assoc]
  have hfine : refined.transform = affine (B * R) := by
    rw [hrefined.transform, hreference, Placement.resizingTransform_point, compose_affine]
  obtain ⟨source, hsource, -⟩ := Source.exists_ofKernel cells kernel
  -- both views read the same volume, and differ in their mappings and plans
  let v : View Exact := ⟨⟨volume, input.extent, source, o.fallback.given?, some input, .text ""⟩, reference,
    affine D, plan⟩
  let w : View Exact := ⟨⟨volume, input.extent, source, some (.number (.real .nan)), some input, .text ""⟩, refined,
    affine (D * R), .single⟩
  have hwview : (o.plain vectorize).view volume input (some refined) = .ok w :=
    View.ofVolume_affine hshape hinput hdet hfine htransform hDR horder hsource
      OversamplingPlan.ofRequest_one fun h => by cases h
  have hseries : ∀ n ∈ input.extent.series, 0 < n := by
    intro n hn
    rw [← hshape] at hpositive
    exact hpositive n (List.mem_append_right _ hn)
  constructor
  · intro hroom
    rw [hrefined.spatial] at hroom
    obtain ⟨hvroom, hproom⟩ := Shape.reserve_of_mul hsizes plan.positive hseries hroom
    have hvplan : OversamplingPlan.plan (affine D) o.oversample = .ok plan := by
      rw [OversamplingPlan.plan, if_pos hgiven, hplan]
    have hvview : o.view volume input (some reference) = .ok v :=
      View.ofVolume_affine hshape hinput hdet hreference htransform hD horder hsource hvplan
        fun _ => Shape.reserveLattice_eq_ok hproom
    have hwroom : (Shape.reserve w.extent.toShape : Except (Fault Exact) Unit) = .ok () := by
      rw [← hrefined.spatial] at hroom
      exact hroom
    have hfallback' : (o.plain vectorize).fallback.IsFallback := .inr ⟨_, rfl⟩
    refine ⟨_, _, resliceArray_eq_build hpositive hfallback hdtype hvview hvroom,
      resliceArray_eq_build hpositive hfallback' hdtype hwview hwroom, rfl, rfl, fun voxel place hvoxel hplace => ?_⟩
    refine ⟨fun step => w.seen place (w.target ((blockVoxel plan.factors.get step voxel).toList ++ place)),
      fun step hstep => ?_, ?_⟩
    · have hblock : Shape.Inside refined.extent.spatial.toList (blockVoxel plan.factors.get step voxel).toList := by
        rw [hrefined.spatial]
        exact inside_blockVoxel (fun i => by rw [Vector.get_ofFn]) hstep hvoxel
      have hread := Tensor.get?_build_append (e := w.extent) hblock hplace (w.blockValue .nan)
      exact hread.trans (congrArg some (View.blockValue_nan rfl _))
    · have hactive : v.plan.active = true := OversamplingPlan.active_iff.2 hsome
      have hread := Tensor.get?_build_append (e := v.extent) hvoxel hplace (v.blockValue o.fallback.outsideValue)
      rw [View.blockValue_of_active hactive] at hread
      refine hread.trans ?_
      refine congrArg (some ∘ finite) (blockMean_congr fun step _ => congrArg toReal ?_)
      have hposition := View.samplePosition_eq_target (v := v) (w := w) rfl rfl voxel place step
      rw [hposition]
      exact View.seen_congr (v := v) (w := w) rfl rfl rfl _
  · exact fun f hroom => resliceArray_of_noRoom hwview hroom

end Refined

/-- **A voxel of double length, sampled twice**, is the mean of two voxels. -/
theorem resliceArray_oversampled_two_samples :
    let volume : Volume Exact := ⟨.real .double, Tensor.build [2, 1, 1] fun index =>
      if index = [0, 0, 0] then finite 3 else .nan⟩
    let input : Grid Exact := ⟨⟨triple 2 1 1, []⟩, [1, 1, 1], affine 1⟩
    let reference : Grid Exact := ⟨⟨triple 1 1 1, []⟩, [2, 1, 1], affine (resizing ![2, 1, 1])⟩
    let refined : Grid Exact := ⟨⟨triple 2 1 1, []⟩, [1, 1, 1], affine (resizing ![2, 1, 1] * resizing ![1 / 2, 1, 1])⟩
    let o : ReslicingOptions Exact := ⟨.null, .number (.int 0), .list [.number (.int 2), .number (.int 1),
      .number (.int 1)], .null, .null, true⟩
    ∃ (t h : Tensor Exact) (x y : Exact),
      resliceArray volume input (some reference) o = .ok ⟨.real .double, t⟩ ∧
      resliceArray volume input (some refined) (o.plain false) = .ok ⟨.real .double, h⟩ ∧
      h.get? [0, 0, 0] = some x ∧ h.get? [1, 0, 0] = some y ∧
      t.get? [0, 0, 0] = some (finite ((x.toReal + y.toReal) / 2)) := by
  intro volume input reference refined o
  let plan : OversamplingPlan := ⟨triple 2 1 1, by decide⟩
  have horder : Kernel.ofLiteral (.number (.int 0) : Literal Exact) = .ok .nearest := by
    simp [Kernel.ofLiteral, Kernel.ofDegree?, Number.toScalar]
  have hrefined : refined.Refines reference plan.factors.get := by
    refine ⟨rfl, ?_⟩
    have hfactors : (fun i => 1 / (plan.factors.get i : ℝ)) = ![1 / 2, 1, 1] := by
      funext i
      fin_cases i <;> simp [plan, triple, Vector.get]
    rw [hfactors, Placement.resizingTransform_point]
    exact (compose_affine _ _).symm
  obtain ⟨t, h, ht, hh, -, -, hvalues⟩ := (@resliceArray_oversampled _ _ volume.cells input reference refined _ _ _ o _
    plan _ (by decide) rfl rfl (by simp) (by decide) rfl ofLiteral_null horder (.inl rfl) rfl rfl
    (OversamplingPlan.ofRequest_factors plan) ⟨0, by decide⟩ hrefined false).1 rfl
  obtain ⟨cell, hcell, hmean⟩ := hvalues (triple 0 0 0) [] (Shape.inside_iff_get.2 (by decide)) .nil
  refine ⟨t, h, cell ![0, 0, 0], cell ![1, 0, 0], ht, hh, hcell ![0, 0, 0] (by decide), hcell ![1, 0, 0] (by decide),
    hmean.trans ?_⟩
  have hblock : blockMean plan.factors.get cell = ((cell ![0, 0, 0]).toReal + (cell ![1, 0, 0]).toReal) / 2 := by
    simp [blockMean, plan, triple, Vector.get, Finset.sum_range_succ]
  rw [hblock]

end Regrid
