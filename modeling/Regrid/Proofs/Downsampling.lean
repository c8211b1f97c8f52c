import Mathlib
import Regrid.Proofs.Arrays
import Regrid.Proofs.Values
import Regrid.Proofs.Written
/-!
# Downsampling — output voxels are means of blocks

Downsampling an array by whole factors gives the mean of a block of voxels in each output voxel, in exact arithmetic:
the mapping between the grids scales about the outer corner of the first voxel, so that the samples that the estimate
asks for lie at the centres of the voxels of a block.
-/
namespace Regrid

open Exact RealMatrix

section Blocks

variable [LinearSolver Exact] [LinearSolver.Accurate] {cells : Tensor Exact} {e : Extent} {f : Fin 3 → ℕ}
  {A : RealMatrix 4 4} {order : Literal Exact} {kernel : Kernel}

/-- **Reslicing an array onto the grid of its blocks** gives their means. -/
theorem resliceArray_blocks [Capacity] (spacing spacing' : List Exact) (hcells : cells.shape = e.toShape)
    (hseries : ∀ n ∈ e.series, 0 < n) (hroom : (Shape.reserve cells.shape : Except (Fault Exact) Unit) = .ok ())
    (hf : ∀ i, 1 ≤ f i ∧ f i ≤ e.spatial.get i ∧ f i ≤ 999) (hsome : ∃ i, f i ≠ 1) (hdet : A.det ≠ 0)
    (horder : Kernel.ofLiteral order = .ok kernel) (hkernel : kernel ≠ .cubic) (vectorize : Bool) :
    ∃ t : Tensor Exact,
      resliceArray ⟨.real .double, cells⟩ ⟨e, spacing, affine A⟩
        (some ⟨e.blocks f, spacing', affine (A * resizing fun i => (f i : ℝ))⟩)
        ⟨.null, order, .null, .null, .null, vectorize⟩ = .ok ⟨.real .double, t⟩ ∧
      t.shape = (e.blocks f).spatial.toList ++ e.series ∧
      ∀ (voxel : Vector Nat 3) (place : List Nat), Shape.Inside (e.blocks f).spatial.toList voxel.toList →
        Shape.Inside e.series place → ∃ cell : (Fin 3 → ℕ) → Exact,
          (∀ step : Fin 3 → ℕ, (∀ i, step i < f i) →
            cells.get? ((blockVoxel f step voxel).toList ++ place) = some (cell step)) ∧
          t.get? (voxel.toList ++ place) = some (finite (blockMean f cell)) := by
  have hspatial : (Shape.reserve e.spatial.toList : Except (Fault Exact) Unit) = .ok () := by
    rw [hcells] at hroom
    exact Shape.reserve_of_append hroom
  obtain ⟨v, hview, hreference, hextent, hsource, hmapping, hfactors⟩ :=
    View.exists_resizing spacing spacing' hcells hspatial hf hdet horder hkernel
  have hblocks : v.extent = ⟨(e.blocks f).spatial, e.series⟩ := by
    rw [View.extent, hreference, hextent]
  have hpositive : ∀ n ∈ cells.shape, 0 < n := by
    rw [hcells, Extent.toShape]
    exact List.forall_mem_append.2 ⟨forall_mem_toList.2 fun i => (hf i).1.trans (hf i).2.1, hseries⟩
  have hblocksRoom : (Shape.reserve v.extent.toShape : Except (Fault Exact) Unit) = .ok () := by
    rw [hcells] at hroom
    rw [hblocks]
    refine Shape.reserve_of_le (List.forall_mem_append.2 ⟨forall_mem_toList.2 fun i => ?_, hseries⟩)
      (List.rel_append (forall₂_toList.2 fun i => ?_) (List.forall₂_refl _)) hroom
    · rw [Extent.blocks, Vector.get_ofFn]
      exact Nat.div_pos (hf i).2.1 (hf i).1
    · rw [Extent.blocks, Vector.get_ofFn]
      exact Nat.div_le_self _ _
  have hactive : v.plan.active = true := OversamplingPlan.active_iff.2 (by simpa only [hfactors] using hsome)
  obtain ⟨hvolume, hfallback⟩ := View.sampler_of_ofVolume hview
  have hsound : v.Sound := by
    refine View.sound_of_ofVolume ?_ (fun x _ => Dtype.stored_double (α := Exact) x) ?_ ?_ hview hblocksRoom
    · exact Dtype.isNumeric_double
    · exact hpositive
    · intro l hl
      cases hl
  obtain ⟨t, hshape, hevaluate, hvalues⟩ := hsound.evaluate_blocks hvolume hfallback hsource hactive hmapping hfactors
    fun i => by
      rw [hreference, hextent, Extent.blocks, Vector.get_ofFn]
      exact Nat.mul_div_le _ _
  obtain ⟨hcopy, hresample⟩ := hevaluate v.start v.start_axes
  refine ⟨t, ?_, ?_, ?_⟩
  · have hevaluated : ReslicingOptions.evaluate ⟨.null, order, .null, .null, .null, vectorize⟩ v =
        .ok ⟨.real .double, t⟩ := by
      rw [ReslicingOptions.evaluate_eq]
      cases vectorize with
      | false => exact congrArg (fun r => r.1 >>= fun t => View.store t .null) hcopy
      | true => exact congrArg (fun r => r.1 >>= fun t => View.store t .null) hresample
    have hresliced : ReslicingOptions.view ⟨.null, order, .null, .null, .null, vectorize⟩ ⟨.real .double, cells⟩
        ⟨e, spacing, affine A⟩ (some ⟨e.blocks f, spacing', affine (A * resizing fun i => (f i : ℝ))⟩) = .ok v := hview
    rw [resliceArray, hresliced, ok_bind, hevaluated]
  · rw [hshape, hblocks, Extent.toShape]
  · rwa [hblocks] at hvalues

end Blocks

namespace Tool

section Means

variable [LinearSolver Exact] [LinearSolver.Accurate] [Capacity] {cells : Tensor Exact} {e : Extent} {f : Fin 3 → ℕ}
  {A : RealMatrix 4 4} {factor orientation order vectorize : Literal Exact} {kernel : Kernel}

/-- **The options of a downsampling** that leave the oversampling and the output shape open. -/
def downsampling (factor orientation order vectorize : Literal Exact) : ToolOptions Exact :=
  { ToolOptions.none with factor, inputAffine := orientation, order, vectorize }

omit [LinearSolver.Accurate] in
/-- **Downsampling** an array with an orientation is reslicing it onto the grid of the blocks that fit into it. -/
theorem fst_perform_downsample (hcells : cells.shape = e.toShape) (hf : ∀ i, 1 ≤ f i ∧ f i ≤ e.spatial.get i)
    (hfactor : Placement.factorsOfRequest .downsample factor = .ok (point fun i => (f i : ℝ)))
    (hgiven : orientation.isGiven = true) (horientation : AffineTransform.ofLiteral orientation = .ok (affine A))
    (hscalable : Placement.checkScalable orientation = .ok ()) (w : Workspace Exact) :
    (Task.perform (downsample.run .none (downsampling factor orientation order vectorize)
      (.array ⟨.real .double, cells⟩)) w).1 = (do
        let input ← Grid.make (e.toShape.map Int.ofNat) none (some (affine A))
        let reference ← Grid.make ((e.blocks f).toShape.map Int.ofNat) none
          (some (input.transform.compose (affine (resizing fun i => (f i : ℝ)))))
        let y ← resliceArray ⟨.real .double, cells⟩ input (some reference)
          (downsampling factor orientation order vectorize).reslicing
        return .array (← y.toStored (.real .double))) := by
  let x : Volume Exact := ⟨.real .double, cells⟩
  have haxes : 3 ≤ x.shape.length := by
    rw [show x.shape = e.toShape from hcells, Extent.length_toShape]
    exact Nat.le_add_right 3 _
  have hinfo : (Info.ofArray x).shape = e.toShape := (Info.shape_ofArray haxes).trans hcells
  have hsizes : Placement.fittingSizes e.toShape (point fun i => (f i : ℝ)) =
      .ok ((e.blocks f).toShape.map Int.ofNat) := by
    rw [Placement.fittingSizes_natCast hf, Extent.blocks, Extent.toShape, List.append_nil]
  have hplacement : Placement.ofResizing downsample (downsampling factor orientation order vectorize)
      (Info.ofArray x) = .ok (Placement.ofFactor (point fun i => (f i : ℝ)) fun _ =>
        .ok ((e.blocks f).toShape.map Int.ofNat)) := by
    change (do
      let factor ← Placement.factorsOfRequest downsample factor
      Placement.checkScalable orientation
      return Placement.ofFactor factor (← Placement.resizedSizes .null (Info.ofArray x).shape factor)) = _
    rw [hfactor, ok_bind, hscalable, ok_bind, hinfo, Placement.resizedSizes]
    simp only [Literal.isGiven, Bool.false_eq_true, if_false, hsizes]
    rfl
  rw [fst_perform_run_resizing (by decide) (by decide), hplacement, ok_bind,
    fst_perform_resliceTo haxes rfl rfl hgiven]
  simp only [show (downsampling factor orientation order vectorize).inputAffine = orientation from rfl, horientation,
    ok_bind, Placement.ofFactor, Placement.resizingTransform_point, show x.shape = e.toShape from hcells]
  rfl

/-- **Downsampling gives the means of blocks.**  An array without empty axes, for which there is room, is downsampled by
whole factors that are not all one, do not exceed its spatial sizes and are below a thousand.  Its orientation may be
any matrix that is not singular, as long as the steps along its axes have lengths.  As many output voxels are made
along each axis as blocks fit, and each has the sum of the finite voxels of its block, divided by the number of all of
them. -/
theorem downsample_eq_blockMean (hcells : cells.shape = e.toShape) (hseries : ∀ n ∈ e.series, 0 < n)
    (hroom : (Shape.reserve cells.shape : Except (Fault Exact) Unit) = .ok ())
    (hf : ∀ i, 1 ≤ f i ∧ f i ≤ e.spatial.get i ∧ f i ≤ 999) (hsome : ∃ i, f i ≠ 1)
    (hdet : A.det ≠ 0) (hlengths : ∀ i, 0 < A.stepLength i)
    (hfactor : Placement.factorsOfRequest .downsample factor = .ok (point fun i => (f i : ℝ)))
    (hgiven : orientation.isGiven = true) (horientation : AffineTransform.ofLiteral orientation = .ok (affine A))
    (hscalable : Placement.checkScalable orientation = .ok ())
    (horder : Kernel.ofLiteral (order.orElse (.number (.int 1))) = .ok kernel) (hkernel : kernel ≠ .cubic)
    (vectorize : Literal Exact) (w : Workspace Exact) :
    ∃ t : Tensor Exact,
      (Task.perform (downsample.run .none (downsampling factor orientation order vectorize)
        (.array ⟨.real .double, cells⟩)) w).1 = .ok (.array ⟨.real .double, t⟩) ∧
      t.shape = (Vector.ofFn fun i => e.spatial.get i / f i).toList ++ e.series ∧
      ∀ (voxel : Vector Nat 3) (place : List Nat),
        Shape.Inside (Vector.ofFn fun i => e.spatial.get i / f i).toList voxel.toList →
        Shape.Inside e.series place → ∃ cell : (Fin 3 → ℕ) → Exact,
          (∀ step : Fin 3 → ℕ, (∀ i, step i < f i) →
            cells.get? ((blockVoxel f step voxel).toList ++ place) = some (cell step)) ∧
          t.get? (voxel.toList ++ place) = some (finite (blockMean f cell)) := by
  have hpositive : ∀ n ∈ e.toShape, 0 < n :=
    List.forall_mem_append.2 ⟨forall_mem_toList.2 fun i => (hf i).1.trans (hf i).2.1, hseries⟩
  have hblocks : ∀ n ∈ (e.blocks f).toShape, 0 < n := by
    refine List.forall_mem_append.2 ⟨forall_mem_toList.2 fun i => ?_, List.forall_mem_nil _⟩
    rw [Extent.blocks, Vector.get_ofFn]
    exact Nat.div_pos (hf i).2.1 (hf i).1
  have hscaled : ∀ i, 0 < stepLength (A * resizing fun i => (f i : ℝ)) i := by
    intro i
    rw [stepLength_mul_resizing A fun _ => Nat.cast_nonneg _]
    exact mul_pos (Nat.cast_pos.2 (hf i).1) (hlengths i)
  obtain ⟨spacing, hinput⟩ := Grid.make_affine hpositive hlengths
  obtain ⟨spacing', hreference⟩ := Grid.make_affine hblocks hscaled
  obtain ⟨t, ht, hshape, hvalues⟩ := resliceArray_blocks spacing spacing' hcells hseries hroom hf hsome hdet horder
    hkernel (!vectorize.isGiven || vectorize.isTrue)
  refine ⟨t, ?_, hshape, hvalues⟩
  rw [fst_perform_downsample hcells (fun i => ⟨(hf i).1, (hf i).2.1⟩) hfactor hgiven horientation hscalable, hinput,
    ok_bind, compose_affine, hreference, ok_bind]
  have hresliced : resliceArray ⟨.real .double, cells⟩ ⟨e, spacing, affine A⟩
      (some ⟨e.blocks f, spacing', affine (A * resizing fun i => (f i : ℝ))⟩)
      (downsampling factor orientation order vectorize).reslicing = .ok ⟨.real .double, t⟩ := ht
  rw [hresliced, ok_bind, Volume.toStored_double]
  rfl

end Means

/-- **Two voxels, one of which is not a number**, become one voxel with half of the other. -/
theorem downsample_two_voxels : ∃ t : Tensor Exact,
    (Task.perform (downsample.run .none (downsampling (.list [.number (.int 2), .number (.int 1), .number (.int 1)])
      (Literal.ofMatrix 1) (.number (.int 0)) .null) (.array ⟨.real .double, Tensor.build [2, 1, 1] fun index =>
        if index = [0, 0, 0] then finite 3 else .nan⟩)) (Workspace.ofFiles [])).1 = .ok (.array ⟨.real .double, t⟩) ∧
      t.shape = [1, 1, 1] ∧ t.get? [0, 0, 0] = some (finite (3 / 2)) := by
  let cells : Tensor Exact := Tensor.build [2, 1, 1] fun index => if index = [0, 0, 0] then finite 3 else .nan
  have hcells : cells.shape = Extent.toShape ⟨triple 2 1 1, []⟩ := rfl
  have hlengths : ∀ i : Fin 3, 0 < stepLength (1 : RealMatrix 4 4) i := stepLength_pos isAffine_one (by simp)
  have horder : Kernel.ofLiteral ((.number (.int 0) : Literal Exact).orElse (.number (.int 1))) = .ok .nearest := by
    simp [Literal.orElse, Literal.isGiven, Kernel.ofLiteral, Kernel.ofDegree?, Number.toScalar]
  obtain ⟨t, ht, hshape, hvalues⟩ := downsample_eq_blockMean hcells (List.forall_mem_nil _) rfl (f := ![2, 1, 1])
    (by decide) ⟨0, by decide⟩ (by simp) hlengths (Placement.factorsOfRequest_natCast ![2, 1, 1]) rfl
    (AffineTransform.ofLiteral_ofMatrix 1) (Placement.checkScalable_ofMatrix 1) horder (by decide) .null
    (Workspace.ofFiles [])
  refine ⟨t, ht, hshape, ?_⟩
  obtain ⟨cell, hcell, hvalue⟩ := hvalues (triple 0 0 0) [] (Shape.inside_iff_get.2 (by decide)) .nil
  have hfirst : cell ![0, 0, 0] = finite 3 := by
    have hread : cells.get? [0, 0, 0] = some (cell ![0, 0, 0]) := hcell ![0, 0, 0] (by decide)
    rw [Tensor.get?_build (by simp [Shape.Inside])] at hread
    exact (Option.some.inj hread).symm
  have hsecond : cell ![1, 0, 0] = .nan := by
    have hread : cells.get? [1, 0, 0] = some (cell ![1, 0, 0]) := hcell ![1, 0, 0] (by decide)
    rw [Tensor.get?_build (by simp [Shape.Inside])] at hread
    exact (Option.some.inj hread).symm
  have hmean : blockMean ![2, 1, 1] cell = 3 / 2 := by
    simp [blockMean, Finset.sum_range_succ, hfirst, hsecond, toReal]
  exact hvalue.trans (congrArg (some ∘ finite) hmean)

/-- **An empty series** is refused, and so is an orientation that is not singular but has an axis without length. -/
theorem downsample_refuses :
    (Task.perform (downsample.run .none (downsampling (.list [.number (.int 2), .number (.int 1), .number (.int 1)])
      (Literal.ofMatrix 1) (.number (.int 1)) .null) (.array ⟨.real .double, Tensor.build [2, 1, 1, 0] fun _ => 0⟩))
      (Workspace.ofFiles [])).1 = .error (.gridSizes [2, 1, 1, 0]) ∧
    Matrix.det exchange ≠ 0 ∧
    (Task.perform (downsample.run .none (downsampling (.list [.number (.int 2), .number (.int 1), .number (.int 1)])
      (Literal.ofMatrix exchange) (.number (.int 1)) .null)
      (.array ⟨.real .double, Tensor.build [2, 1, 1] fun _ => 0⟩)) (Workspace.ofFiles [])).1 =
        .error (.degenerateGrid (Exact.matrix exchange)) := by
  have hfactor := Placement.factorsOfRequest_natCast ![2, 1, 1]
  refine ⟨?_, ?_, ?_⟩
  · refine (fst_perform_downsample (e := ⟨triple 2 1 1, [0]⟩) rfl (by decide) hfactor rfl
      (AffineTransform.ofLiteral_ofMatrix _) (Placement.checkScalable_ofMatrix _) _).trans ?_
    rfl
  · exact det_exchange_ne_zero
  · refine (fst_perform_downsample (e := ⟨triple 2 1 1, []⟩) rfl (by decide) hfactor rfl
      (AffineTransform.ofLiteral_ofMatrix _) (Placement.checkScalable_ofMatrix _) _).trans ?_
    rw [Grid.make_affine_of_stepLength (by decide) stepLength_exchange]
    rfl

end Tool

end Regrid
