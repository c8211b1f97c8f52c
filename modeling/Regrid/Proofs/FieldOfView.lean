import Mathlib
import Regrid.Proofs.Resizers
import Regrid.Proofs.Written
/-!
# FieldOfView — resizing keeps the field of view

A tool for resizing scales voxels about the outer corner of the first one and makes no more of them than fit into the
input.  So the output field of view begins where that of the input does and lies inside it, and every sample that is
taken in an output voxel is valid, whatever the plan: no output voxel has the fallback in it.
-/
namespace RealMatrix

theorem act_injective {a : RealMatrix 4 4} (ha : a.IsAffine) (hdet : a.det ≠ 0) : Function.Injective a.act := by
  intro x y h
  have hproduct : Matrix.mulVec a (homogeneous x) = Matrix.mulVec a (homogeneous y) := by
    rw [mulVec_homogeneous ha, mulVec_homogeneous ha, h]
  have hunit : IsUnit a := (Matrix.isUnit_iff_isUnit_det a).2 (isUnit_iff_ne_zero.2 hdet)
  have hsame := Matrix.mulVec_injective_of_isUnit hunit hproduct
  funext i
  have hi := congrFun hsame i.castSucc
  rwa [homogeneous_castSucc, homogeneous_castSucc] at hi

variable {f : Fin 3 → ℝ}

/-- **The first corner** stays in place. -/
theorem act_resizing_first (f : Fin 3 → ℝ) : (resizing f).act (fun _ => -(1 / 2)) = fun _ => -(1 / 2) := by
  funext i
  rw [act_resizing]
  ring

/-- **The last corner** is where all voxels together end. -/
theorem act_resizing_last (f m : Fin 3 → ℝ) :
    (resizing f).act (fun i => m i - 1 / 2) = fun i => f i * m i - 1 / 2 := by
  funext i
  rw [act_resizing]
  ring

end RealMatrix

namespace Regrid

open Exact RealMatrix

namespace View

variable {v : View Exact} {place voxel : List Nat}

/-- **A view is covered** by its volume: every sample in each of its voxels is taken inside the field of view. -/
def Covered (v : View Exact) : Prop := ∀ voxel : List Nat, v.extent.toShape.Inside voxel →
  ∀ step : Fin 3 → ℕ, (∀ i, step i < v.plan.factors.get i) → v.sampler.valid (v.samplePosition voxel step) = true

/-- **A view that scales voxels about the corner** is covered if its voxels fit into the volume. -/
theorem covered_of_resizing {f : Fin 3 → ℝ} (hmapping : v.mapping = affine (resizing f)) (hf : ∀ i, 0 < f i)
    (hfit : ∀ i, f i * v.reference.extent.spatial.get i ≤ v.sampler.extent.spatial.get i) : v.Covered := by
  intro voxel hvoxel step hstep
  obtain ⟨voxel, place, rfl, hvoxel, -⟩ := Extent.exists_voxel hvoxel
  rw [samplePosition, point_append, centre_add_offset, hmapping, centre, apply_affine, apply_affine,
    Sampler.valid_point]
  intro i
  -- the samples of a voxel are at odd multiples of half a sample's width from its first edge
  have hs : (0 : ℝ) < v.plan.factors.get i := Nat.cast_pos.2 (v.plan.positive i)
  have hlt : (voxel.get i : ℝ) + 1 ≤ v.reference.extent.spatial.get i := by
    exact_mod_cast Shape.inside_iff_get.1 hvoxel i
  have hstep' : (step i : ℝ) + 1 ≤ v.plan.factors.get i := by exact_mod_cast hstep i
  have hposition : (resizing f).act ((resizing fun i => 1 / (v.plan.factors.get i : ℝ)).act
      fun i => ((blockVoxel v.plan.factors.get step voxel).get i : ℝ)) i =
        f i * (voxel.get i + (2 * step i + 1) / (2 * v.plan.factors.get i)) - 1 / 2 := by
    simp only [act_resizing, blockVoxel, Vector.get_ofFn]
    push_cast
    field_simp
    ring
  have hlow : (0 : ℝ) ≤ (2 * step i + 1) / (2 * v.plan.factors.get i) := by positivity
  have hhigh : (2 * step i + 1) / (2 * v.plan.factors.get i) ≤ (1 : ℝ) := by
    rw [div_le_one (by positivity)]
    linarith
  rw [hposition]
  constructor
  · have hnonneg := mul_nonneg (hf i).le (add_nonneg (Nat.cast_nonneg (voxel.get i)) hlow)
    linarith
  · have hbound := mul_le_mul_of_nonneg_left
      (show (voxel.get i : ℝ) + (2 * step i + 1) / (2 * v.plan.factors.get i) ≤ v.reference.extent.spatial.get i by
        linarith) (hf i).le
    linarith [hfit i]

/-- **The estimates at all samples of a voxel.** -/
noncomputable def estimates (v : View Exact) (place voxel : List Nat) : List Exact :=
  (blockSteps v.plan.factors.get).map fun step => v.sampler.estimate place (v.samplePosition voxel step)

/-- **The value of a voxel without a fallback**: the average of the estimates at all its samples, of which those that
are not finite count as zero, or else the estimate at its position. -/
noncomputable def wholeValue (v : View Exact) (p : Precision) (place voxel : List Nat) : Exact :=
  if v.plan.active then mean p v.plan.normalization ((v.estimates place voxel).filter Scalar.isFinite)
  else v.sampler.estimate place (v.target voxel)

namespace Covered

variable (hcovered : v.Covered) (hvoxel : v.extent.toShape.Inside voxel)

include hcovered hvoxel

theorem samples_eq (place : List Nat) : v.samples place voxel = (v.estimates place voxel).filter Scalar.isFinite := by
  rw [View.samples_eq, estimates, ← List.filterMap_eq_filter, List.filterMap_map, List.filterMap_map]
  refine List.filterMap_congr fun step hstep => ?_
  have hseen : v.seen place (v.samplePosition voxel step) = v.sampler.estimate place (v.samplePosition voxel step) :=
    if_pos (hcovered voxel hvoxel step (lt_of_mem_blockSteps hstep))
  simp only [Function.comp_apply, counted?_eq, hseen, Option.guard]

theorem valid_target (hactive : v.plan.active = false) : v.sampler.valid (v.target voxel) = true := by
  rw [← samplePosition_zero hactive]
  exact hcovered voxel hvoxel _ v.plan.positive

theorem cursorValue_eq (place : List Nat) :
    v.cursorValue place voxel = .ok (v.wholeValue (sumPrecision v.sampler.dtype) place voxel) := by
  unfold cursorValue wholeValue
  cases hactive : v.plan.active with
  | false => simp [hcovered.valid_target hvoxel hactive]
  | true => simp [hcovered.samples_eq hvoxel]

theorem blockValue_eq (m : Exact) (place : List Nat) :
    v.blockValue m place voxel = v.wholeValue .double place voxel := by
  unfold blockValue wholeValue
  cases hactive : v.plan.active with
  | false => simp [hcovered.valid_target hvoxel hactive]
  | true => simp [hcovered.samples_eq hvoxel]

end Covered

variable [Capacity]

theorem Covered.copyReals_eq (hcovered : v.Covered) (hv : v.Sound) : Walk.perform v.copyReals v.start =
    (.ok (Tensor.build v.extent.toShape fun voxel =>
      v.wholeValue (sumPrecision v.sampler.dtype) (voxel.drop 3) voxel), v.start) :=
  hv.copyReals_of_ok v.start_axes fun _ hvoxel => hcovered.cursorValue_eq hvoxel _

theorem Covered.resampleReals_eq (hcovered : v.Covered) (hv : v.Sound) {m : Exact} (hm : v.sampler.merged = .ok m) :
    Walk.perform v.resampleReals v.start =
      (.ok (Tensor.build v.extent.toShape fun voxel => v.wholeValue .double (voxel.drop 3) voxel), v.start) := by
  rw [hv.resampleReals_of_ok v.start_axes hm]
  exact congrArg (fun t => (Except.ok t, v.start))
    (Tensor.build_congr fun voxel hvoxel => hcovered.blockValue_eq hvoxel m (voxel.drop 3))

end View

namespace Tool

section Field

variable [LinearSolver Exact] [LinearSolver.Accurate] {tool : Tool} {making use : ToolOptions Exact} {x : Input Exact}
  {w : Workspace Exact} {info : Info Exact} {cells : Volume Exact} {e : Extent} {A : RealMatrix 4 4} {f : Fin 3 → ℝ}
  {m : Vector Nat 3}

/-- **Resizing keeps the field of view.**  A volume without empty axes, whose orientation is affine and not singular, is
resized to a shape, or by factors that do not exceed its sizes, without a transform.  The fields of view of the input
and the output begin at the same corner, and end at the same corner exactly if all factors times output sizes are the
input sizes, as they are for a shape that is asked for.  Whatever the plan, all samples are taken inside the volume, so
that the output has the fallback nowhere. -/
theorem resize_covered [Capacity] (hopens : x.Opens w.files info cells) (hcells : cells.shape = e.toShape)
    (hpositive : ∀ n ∈ e.toShape, 0 < n) (hresizes : tool.Resizes (use.orElse making) info e.spatial f m)
    (hA : A.IsAffine) (hdet : A.det ≠ 0) (horientation : orientation (use.orElse making) info = .ok (affine A))
    (hscalable : Placement.checkScalable (use.orElse making).inputAffine = .ok ())
    (htransform : (use.orElse making).transform = .null) (hsurplus : (use.orElse making).surplus = false) :
    ∃ input reference : Grid Exact, input.extent = e ∧ reference.extent = ⟨m, []⟩ ∧ input.transform = affine A ∧
      Task.perform (tool.run making use x) w =
        Task.perform (tool.finish (use.orElse making) x info cells input reference) w ∧
      reference.transform.apply (point fun _ => -(1 / 2)) = input.transform.apply (point fun _ => -(1 / 2)) ∧
      (reference.transform.apply (point fun i => m.get i - 1 / 2) =
        input.transform.apply (point fun i => e.spatial.get i - 1 / 2) ↔ ∀ i, f i * m.get i = e.spatial.get i) ∧
      (tool = .resizeShape → ∀ i, f i * m.get i = e.spatial.get i) ∧
      (∀ kernel source plan, Kernel.ofLiteral (use.orElse making).reslicing.order = .ok kernel →
        Source.ofKernel cells kernel = .ok source →
        OversamplingPlan.plan (affine (resizing f)) (use.orElse making).oversample = .ok plan →
        (plan.active = true → (Shape.reserveLattice plan.factors.toList : Except (Fault Exact) Unit) = .ok ()) →
        ∃ v, (use.orElse making).reslicing.view cells input (some reference) = .ok v ∧ v.plan = plan) ∧
      ∀ v, (use.orElse making).reslicing.view cells input (some reference) = .ok v → v.Covered ∧ (v.Sound →
        Walk.perform v.copyReals v.start = (.ok (Tensor.build v.extent.toShape fun voxel =>
          v.wholeValue (View.sumPrecision v.sampler.dtype) (voxel.drop 3) voxel), v.start) ∧
        ∀ fallback, v.sampler.merged = .ok fallback → Walk.perform v.resampleReals v.start =
          (.ok (Tensor.build v.extent.toShape fun voxel => v.wholeValue .double (voxel.drop 3) voxel), v.start)) := by
  have hspatial : ∀ i, 0 < e.spatial.get i := forall_mem_toList.1 (List.forall_mem_append.1 hpositive).1
  have hfits := hresizes.fits hspatial
  obtain ⟨spacing, spacing', hrun⟩ := hresizes.exists_perform_run rfl hopens hcells hpositive (stepLength_pos hA hdet)
    horientation hscalable hsurplus
  let input : Grid Exact := ⟨e, spacing, affine A⟩
  let reference : Grid Exact := ⟨⟨m, []⟩, spacing', affine (A * resizing f)⟩
  have hmapping : A * resizing f = 1 * (A * resizing f) := (Matrix.one_mul _).symm
  have hidentity : AffineTransform.ofLiteral (use.orElse making).reslicing.transform = .ok (affine 1) := by
    rw [show (use.orElse making).reslicing.transform = .null from htransform]
    exact ofLiteral_null
  have hcorner : ∀ y : Fin 3 → ℝ, reference.transform.apply (point y) = point (A.act ((resizing f).act y)) := by
    intro y
    rw [apply_affine, act_mul (isAffine_resizing f)]
  refine ⟨input, reference, rfl, rfl, rfl, hrun, ?_, ?_, ?_, ?_, fun v hview => ?_⟩
  · rw [hcorner, act_resizing_first]
    exact (apply_affine A _).symm
  · rw [hcorner, act_resizing_last, apply_affine]
    constructor
    · intro h i
      have hi := congrFun (act_injective hA hdet (point_injective h)) i
      linarith
    · intro h
      simp only [h]
  · rintro rfl i
    exact hresizes.fits_exactly i
  · intro kernel source plan horder hsource hplan hroom
    exact ⟨_, View.ofVolume_affine hcells.symm rfl hdet rfl hidentity hmapping horder hsource hplan hroom, rfl⟩
  · obtain ⟨hr, -, hextent, hv⟩ := View.of_ofVolume rfl hdet rfl hidentity hmapping hview
    have hcovered : v.Covered := by
      refine View.covered_of_resizing hv (fun i => (hfits i).1) fun i => ?_
      rw [hr, hextent]
      exact (hfits i).2.2
    exact ⟨hcovered, fun hsound => ⟨hcovered.copyReals_eq hsound, fun _ => hcovered.resampleReals_eq hsound⟩⟩

end Field

/-- **Three voxels resized to two**, with six samples in each. -/
theorem resize_covered_three_to_two :
    let n : Vector Nat 3 := triple 3 1 1
    let m : Vector Nat 3 := triple 2 1 1
    let x : Volume Exact := ⟨.real .double, Tensor.build [3, 1, 1] fun _ => .nan⟩
    let use : ToolOptions Exact := { ToolOptions.none with
      outputShape := .list [.number (.int 2), .number (.int 1), .number (.int 1)]
      oversample := .list [.number (.int 3), .number (.int 2), .number (.int 1)]
      inputAffine := Literal.ofMatrix 1 }
    ∃ input reference : Grid Exact, reference.extent = ⟨m, []⟩ ∧
      Task.perform (resizeShape.run .none use (.array x)) (Workspace.ofFiles []) =
        Task.perform (resizeShape.finish use (.array x) (Info.ofArray x) x input reference) (Workspace.ofFiles []) ∧
      reference.transform.apply (point fun i => m.get i - 1 / 2) =
        input.transform.apply (point fun i => n.get i - 1 / 2) ∧
      ∃ v, use.reslicing.view x input (some reference) = .ok v ∧ v.plan.count = 6 ∧ v.Covered := by
  intro n m x use
  let plan : OversamplingPlan := ⟨triple 3 2 1, by decide⟩
  have horElse : use.orElse .none = use := ToolOptions.orElse_none use
  have hopens : (Input.array x).Opens (Workspace.ofFiles []).files (Info.ofArray x) x := by
    have hpadded : x.padded = x := congrArg (Volume.mk _) (Tensor.padded_of_le (by decide))
    exact hpadded ▸ Input.opens_array x _
  have hresizes : resizeShape.Resizes (use.orElse .none) (Info.ofArray x) n (fun i => n.get i / m.get i) m :=
    .toShape rfl (by decide)
  have horientation : orientation (use.orElse .none) (Info.ofArray x) = .ok (affine 1) :=
    AffineTransform.ofLiteral_ofMatrix 1
  have horder : Kernel.ofLiteral (use.orElse .none).reslicing.order = .ok .linear := by
    simp [use, ToolOptions.orElse, ToolOptions.none, ToolOptions.reslicing, Literal.orElse, Literal.isGiven,
      Kernel.ofLiteral, Kernel.ofDegree?, Number.toScalar]
  have hplan : OversamplingPlan.plan (affine (resizing fun i => n.get i / m.get i)) (use.orElse .none).oversample =
      .ok plan := OversamplingPlan.ofRequest_factors plan
  obtain ⟨input, reference, -, hreference, -, hrun, -, hlast, hexact, hview, hcovered⟩ :=
    resize_covered (e := ⟨n, []⟩) hopens rfl (by decide) hresizes isAffine_one (by simp) horientation
      (Placement.checkScalable_ofMatrix 1) rfl rfl
  obtain ⟨v, hv, hvplan⟩ := hview .linear .linear plan horder rfl hplan fun _ => rfl
  rw [horElse] at hrun
  exact ⟨input, reference, hreference, hrun, hlast.2 (hexact rfl), v, horElse ▸ hv, hvplan ▸ rfl, (hcovered v hv).1⟩

end Tool

end Regrid
