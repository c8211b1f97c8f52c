import Mathlib
import Regrid.Proofs.Placing
import Regrid.Proofs.Values
/-!
# Arrays — tools on arrays of double precision

A tool on an array gives the values of a view of it (`Tool.exists_perform_finish`).  An array that is given without an
orientation has unit voxels, and the origin at its centre: its transform is a translation, which is not singular.  An
orientation that is given may be not singular and still make no grid (`Tool.exchange`).
-/
namespace RealMatrix

/-- **The matrix of a translation.** -/
def translation (t : Fin 3 → ℝ) : RealMatrix 4 4 := parts 1 t

variable (t : Fin 3 → ℝ)

theorem isAffine_translation : (translation t).IsAffine := isAffine_parts _ _

theorem act_translation (x : Fin 3 → ℝ) : (translation t).act x = x + t := by
  funext i
  rw [translation, act_parts]
  simp [Matrix.one_apply]

theorem det_translation_ne_zero : (translation t).det ≠ 0 := by
  have hinverse : translation t * translation (-t) = 1 := by
    refine ((isAffine_translation t).mul (isAffine_translation (-t))).eq_of_act isAffine_one fun x => ?_
    rw [act_mul (isAffine_translation (-t)), act_translation, act_translation, act_one, neg_add_cancel_right]
  refine isUnit_iff_ne_zero.1 (IsUnit.of_mul_eq_one (translation (-t)).det ?_)
  rw [← Matrix.det_mul, hinverse, Matrix.det_one]

theorem stepLength_translation (i : Fin 3) : (translation t).stepLength i = 1 := by
  have hentry : ∀ k : Fin 3, translation t k.castSucc i.castSucc = if k = i then 1 else 0 := by
    intro k
    rw [translation, parts_castSucc, Matrix.one_apply]
  simp only [stepLength, hentry]
  simp

theorem stepLength_translation_pos (i : Fin 3) : 0 < (translation t).stepLength i :=
  stepLength_pos (isAffine_translation t) (det_translation_ne_zero t) i

end RealMatrix

namespace Regrid

open Exact RealMatrix

/-- **An array is centred on the origin** by a translation. -/
theorem Shape.exists_centring (s : Shape) : ∃ t, (s.centring : Matrix 4 4 Exact) = matrix (translation t) := by
  let t : Fin 3 → ℝ := fun i => -((s[i.val]?).getD 1 : ℕ) / 2 + 1 / 2
  refine ⟨t, ?_⟩
  unfold centring centringMatrix
  refine congrArg Matrix.ofFn (funext fun i => funext fun j => ?_)
  refine Fin.lastCases ?_ (fun j => ?_) j
  · refine Fin.lastCases ?_ (fun i => ?_) i
    · have hentry : translation t (Fin.last 3) (Fin.last 3) = 1 := isAffine_translation t _
      rw [hentry]
      simp
    · have hentry : translation t i.castSucc (Fin.last 3) = t i := parts_last 1 t i
      rw [hentry]
      simp [t, finite_div]
  · have hcolumn : ¬(j.castSucc = Fin.last 3 ∧ i.val < 3) := fun h => (Fin.castSucc_lt_last j).ne h.1
    rw [dif_neg hcolumn]
    refine Fin.lastCases ?_ (fun i => ?_) i
    · have hentry : translation t (Fin.last 3) j.castSucc = 0 :=
        (isAffine_translation t _).trans (if_neg (Fin.castSucc_lt_last j).ne)
      rw [hentry, if_neg (Fin.castSucc_lt_last j).ne', ofNat_eq, Nat.cast_zero]
    · have hentry : translation t i.castSucc j.castSucc = if i = j then 1 else 0 := by
        rw [translation, parts_castSucc, Matrix.one_apply]
      rw [hentry]
      by_cases h : i = j
      · simp [h]
      · simp [h]

theorem Task.exists_perform_gridOf {α : Type} [Scalar α] {h : Header α} {g : Grid α} (hg : (Grid.ofHeader h).1 = .ok g)
    (w : Workspace α) : ∃ w', Task.perform (gridOf h) w = (.ok g, w') := by
  unfold gridOf
  cases hheader : Grid.ofHeader h with
  | mk grid mismatch =>
    rw [hheader] at hg
    obtain rfl : grid = .ok g := hg
    cases mismatch with
    | false => exact ⟨w, rfl⟩
    | true => exact ⟨_, rfl⟩

/-- **A view shows an array** with a kernel: a matrix leads from a lattice of these sizes to the array. -/
structure View.Shows [Capacity] (v : View Exact) (cells : Tensor Exact) (e : Extent) (kernel : Kernel)
    (D : RealMatrix 4 4) (m : Vector Nat 3) : Prop where
  sound : v.Sound
  volume : v.sampler.volume = ⟨.real .double, cells⟩
  extent : v.sampler.extent = e
  source : Source.ofKernel ⟨.real .double, cells⟩ kernel = .ok v.sampler.source
  sizes : v.reference.extent.spatial = m
  mapping : v.mapping = affine D

namespace View.Shows

variable [Capacity] {v : View Exact} {cells : Tensor Exact} {e : Extent} {kernel : Kernel} {D : RealMatrix 4 4}
  {m : Vector Nat 3}

theorem not_cubic (h : v.Shows cells e kernel D m) (hkernel : kernel ≠ .cubic) :
    ∀ coefficients, v.sampler.source ≠ .cubic coefficients := by
  obtain ⟨source, hsource, hcubic⟩ := Source.exists_ofKernel cells kernel
  rw [Except.ok.inj (h.source.symm.trans hsource)]
  exact hcubic hkernel

theorem nearest (h : v.Shows cells e .nearest D m) : v.sampler.source = .nearest :=
  (Except.ok.inj (h.source.symm.trans rfl : Except.ok v.sampler.source = .ok .nearest))

end View.Shows

/-- **Options that leave arrays alone**: no transform, a number outside the field of view if anything, and no writer. -/
structure ToolOptions.Plain (o : ToolOptions Exact) : Prop where
  transform : o.transform = .null
  fallback : o.fallback.IsFallback
  writer : o.writer = .none
  surplus : o.surplus = false

namespace Tool

/-- **The last steps of a tool on an array** give the values of a view of it. -/
theorem exists_perform_finish [Capacity] [LinearSolver Exact] [LinearSolver.Accurate] (tool : Tool)
    (stored : Tensor Exact) (input reference : Grid Exact) {o : ToolOptions Exact} {cells : Tensor Exact} {e : Extent}
    {A D : RealMatrix 4 4} {kernel : Kernel} {plan : OversamplingPlan} (ho : o.Plain) (hcells : cells.shape = e.toShape)
    (hpositive : ∀ n ∈ e.toShape, 0 < n)
    (hextent : input.extent = e) (hinput : input.transform = affine A) (hdet : A.det ≠ 0)
    (hreference : reference.transform = affine (A * D))
    (horder : Kernel.ofLiteral (o.order.orElse (.number (.int 1))) = .ok kernel)
    (hplan : OversamplingPlan.plan (affine D) o.oversample = .ok plan)
    (hlattice : plan.active = true → (Shape.reserveLattice plan.factors.toList : Except (Fault Exact) Unit) = .ok ())
    (hroom : (Shape.reserve (reference.extent.spatial.toList ++ e.series) : Except (Fault Exact) Unit) = .ok ())
    (w : Workspace Exact) :
    ∃ (v : View Exact) (t : Tensor Exact), v.Shows cells e kernel D reference.extent.spatial ∧ v.plan = plan ∧
      (Task.perform (tool.finish o (.array ⟨.real .double, stored⟩) (Info.ofArray ⟨.real .double, stored⟩)
        ⟨.real .double, cells⟩ input reference) w).1 = .ok (.array ⟨.real .double, t⟩) ∧
      t.shape = reference.extent.spatial.toList ++ e.series ∧
      ∀ (voxel : Vector Nat 3) (place : List Nat), Shape.Inside reference.extent.spatial.toList voxel.toList →
        Shape.Inside e.series place →
        t.get? (voxel.toList ++ place) = some (v.blockValue o.fallback.outsideValue place (voxel.toList ++ place)) := by
  obtain ⟨source, hsource, -⟩ := Source.exists_ofKernel cells kernel
  have hidentity : AffineTransform.ofLiteral o.reslicing.transform = .ok (affine 1) := by
    rw [show o.reslicing.transform = .null from ho.transform]
    exact ofLiteral_null
  have hshape : input.shape = cells.shape := by
    rw [Grid.shape, hextent, hcells]
  have hcellsPositive : ∀ n ∈ cells.shape, 0 < n := by rwa [hcells]
  subst hextent
  let v : View Exact := ⟨⟨⟨.real .double, cells⟩, input.extent, source, o.fallback.given?, some input, .text ""⟩,
    reference, affine D, plan⟩
  have hview : o.reslicing.view ⟨.real .double, cells⟩ input (some reference) = .ok v :=
    View.ofVolume_affine hshape hinput hdet hreference hidentity (Matrix.one_mul _).symm horder hsource hplan
      hlattice
  have hsound : v.Sound := o.reslicing.sound_of_double hcellsPositive ho.fallback hview hroom
  refine ⟨v, Tensor.build v.extent.toShape fun voxel => v.blockValue o.fallback.outsideValue (voxel.drop 3) voxel,
    ⟨hsound, rfl, rfl, hsource, rfl, rfl⟩, rfl, ?_, rfl, fun voxel place hvoxel hplace => ?_⟩
  · rw [fst_perform_finish_array ho.writer, resliceArray_eq_build hcellsPositive ho.fallback rfl hview hroom, ok_bind,
      Volume.toStored_double]
    rfl
  · exact Tensor.get?_build_append (e := v.extent) hvoxel hplace (v.blockValue o.fallback.outsideValue)

theorem exists_orientation {o : ToolOptions Exact} (h : o.inputAffine = .null) (x : Volume Exact) :
    ∃ t, orientation o (Info.ofArray x) = .ok (affine (translation t)) := by
  obtain ⟨t, ht⟩ := Shape.exists_centring x.shape.padded
  refine ⟨t, ?_⟩
  rw [orientation, h]
  exact congrArg (fun m => Except.ok (AffineTransform.mk m)) ht

/-- **The grid of an array** that is resliced without an orientation. -/
theorem exists_inputGrid {x : Volume Exact} {e : Extent} (hshape : x.padded.shape = e.toShape)
    (hpositive : ∀ n ∈ e.toShape, 0 < n) (w : Workspace Exact) : ∃ spacing t w',
      Task.perform (reslice.inputGrid x.padded (Info.ofArray x) .null) w =
        (.ok ⟨e, spacing, affine (translation t)⟩, w') := by
  obtain ⟨t, ht⟩ := Shape.exists_centring x.shape.padded
  obtain ⟨spacing, hmake⟩ := Grid.exists_make_usableZooms (Grid.ofSizes_toShape hpositive)
    (Grid.positiveSpacing_affine (stepLength_translation_pos t)) (List.replicate x.shape.padded.length 1)
  refine ⟨spacing, t, Task.exists_perform_gridOf (g := ⟨e, spacing, affine (translation t)⟩) ?_ w⟩
  change Grid.make (x.padded.shape.map Int.ofNat) (Grid.usableZooms? (List.replicate x.shape.padded.length 1))
    (some ⟨x.shape.padded.centring⟩) = _
  rw [hshape, ht]
  exact hmake

/-- **The matrix that exchanges the first axis and the translation.** -/
def exchange : RealMatrix 4 4 := !![0, 0, 0, 1; 0, 1, 0, 0; 0, 0, 1, 0; 1, 0, 0, 0]

theorem det_exchange_ne_zero : exchange.det ≠ 0 := by
  simp [exchange, Matrix.det_succ_row_zero, Fin.sum_univ_succ, Fin.succAbove]

theorem stepLength_exchange : exchange.stepLength 0 = 0 := by
  simp [exchange, stepLength, Fin.sum_univ_succ]

end Tool

end Regrid
