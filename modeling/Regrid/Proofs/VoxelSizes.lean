import Mathlib
import Regrid.Proofs.Resizers
import Regrid.Proofs.Written
/-!
# Voxel sizes — resizing to those that are asked for

A tool that resizes to voxel sizes divides them by those of the volume's own orientation, and scales the orientation
that it reslices from.  Where these are the same, the output voxels have the sizes that are asked for; where another
orientation is given, its steps may be longer or shorter, and the output voxels with them
(`Tool.exists_perform_resizeVoxel`).
-/
namespace Regrid

open Exact RealMatrix

namespace Placement

section Request

variable {α : Type} [Scalar α]

/-- **Three voxel sizes as they are written**, which have to be numbers; the last one is repeated. -/
def voxelSizesOfRequest (l : Literal α) : Except (Fault α) (Vector α 3) := do
  threeOf (fun l => match l with
    | .number n => n.toReal
    | _ => .error .wrongKind) (← l.pad 3 none)

/-- **The factors to voxel sizes** are quotients of those that are asked for. -/
theorem factorsToVoxelSize_eq (input : Vector α 3) (l : Literal α) :
    factorsToVoxelSize input l = (Vector.zipWith (· / ·) · input) <$> voxelSizesOfRequest l := by
  unfold factorsToVoxelSize voxelSizesOfRequest
  rw [← bind_pure_comp]
  exact (bind_assoc _ _ _).symm

end Request

variable {l shape : Literal Exact} {u v : Fin 3 → ℝ} {o : ToolOptions Exact} {info : Info Exact} {n : Vector Nat 3}

theorem factorsToVoxelSize_point (hl : voxelSizesOfRequest l = .ok (point v)) (hu : ∀ i, 0 < u i) :
    factorsToVoxelSize (point u) l = .ok (point fun i => v i / u i) := by
  have hquotient : Vector.zipWith (· / ·) (point v) (point u) = point fun i => v i / u i := by
    ext i hi
    simp [point, finite_div _ (hu ⟨i, hi⟩).ne']
  rw [factorsToVoxelSize_eq, hl]
  exact congrArg Except.ok hquotient

/-- **The sizes that a resizing makes**: those that are asked for, or as many as fit, but at least one. -/
theorem exists_resizedSizes (hinput : info.shape.take 3 = n.toList) (hv : ∀ i, 0 < v i)
    (hshape : shape = .null ∨ ∃ m : Vector Nat 3, (∀ i, 0 < m.get i) ∧
      sizesOfRequest shape = .ok (m.toList.map Int.ofNat)) : ∃ (sizes : _) (m : Vector Nat 3),
    resizedSizes shape info.shape (point v) = .ok sizes ∧ (∀ s, sizes s = .ok (m.toList.map Int.ofNat)) ∧
      ∀ i, 0 < m.get i := by
  obtain rfl | ⟨m, hm, hsizes⟩ := hshape
  · refine ⟨_, Vector.ofFn fun i => max 1 ⌊n.get i / v i⌋₊, ?_, fun _ => rfl, fun i => ?_⟩
    · rw [resizedSizes, fittingSizes_pos hinput hv]
      rfl
    · rw [Vector.get_ofFn]
      exact Nat.lt_of_lt_of_le Nat.one_pos (le_max_left _ _)
  · have hgiven : shape.isGiven = true := by
      cases shape with
      | null => cases hsizes
      | number | text | list | record => rfl
    refine ⟨_, m, ?_, fun _ => hsizes, hm⟩
    rw [resizedSizes, if_pos hgiven]
    rfl

end Placement

namespace Tool

section Run

variable [LinearSolver Exact] {making use o : ToolOptions Exact} {x : Input Exact} {w : Workspace Exact}
  {info : Info Exact} {cells : Volume Exact} {e : Extent} {A H : RealMatrix 4 4} {v : Fin 3 → ℝ}

/-- **Resizing to voxel sizes** scales each voxel size that is asked for by the step of the orientation that is resliced
from over that of the orientation which the volume has.  Without an orientation that is given these are the same, and
the output voxels have the sizes that are asked for. -/
theorem exists_perform_resizeVoxel [Capacity] (hmade : use.orElse making = o) (hopens : x.Opens w.files info cells)
    (hcells : cells.shape = e.toShape) (hpositive : ∀ n ∈ e.toShape, 0 < n) (hheader : info.affine = matrix H)
    (hlengths : ∀ i, 0 < H.stepLength i) (horientation : orientation o info = .ok (affine A))
    (hsteps : ∀ i, 0 < A.stepLength i) (hscalable : Placement.checkScalable o.inputAffine = .ok ())
    (hsurplus : o.surplus = false) (hrequest : Placement.voxelSizesOfRequest o.voxelSize = .ok (point v))
    (hv : ∀ i, 0 < v i) (hshape : o.outputShape = .null ∨ ∃ m : Vector Nat 3, (∀ i, 0 < m.get i) ∧
      Placement.sizesOfRequest o.outputShape = .ok (m.toList.map Int.ofNat)) :
    ∃ input reference : Grid Exact, input.extent = e ∧ input.transform = affine A ∧
      Task.perform (resizeVoxel.run making use x) w =
        Task.perform (resizeVoxel.finish o x info cells input reference) w ∧
      reference.spacing = (point fun i => v i * A.stepLength i / H.stepLength i).toList ∧
      columnLengths reference.transform.matrix = (point fun i => v i * A.stepLength i / H.stepLength i) ∧
      (reference.spacing = (point v).toList ↔ ∀ i, A.stepLength i = H.stepLength i) ∧
      (o.inputAffine.isGiven = false → reference.spacing = (point v).toList) := by
  subst hmade
  let f : Fin 3 → ℝ := fun i => v i / H.stepLength i
  have hf : ∀ i, 0 < f i := fun i => div_pos (hv i) (hlengths i)
  have hfactors : Placement.factorsToVoxelSize (columnLengths info.affine) (use.orElse making).voxelSize =
      .ok (point f) := by
    rw [hheader, columnLengths_matrix]
    exact Placement.factorsToVoxelSize_point hrequest hlengths
  obtain ⟨sizes, m, hresized, hsizes, hm⟩ := Placement.exists_resizedSizes (hopens.spatial hcells) hf hshape
  have hgiven : (use.orElse making).voxelSize.isGiven = true := by
    cases hsize : (use.orElse making).voxelSize with
    | null =>
      rw [hsize] at hrequest
      cases hrequest
    | number | text | list | record => rfl
  have hplacement : Placement.ofResizing resizeVoxel (use.orElse making) info =
      .ok (Placement.ofFactor (point f) sizes) := by
    simp only [Placement.ofResizing, hgiven, Bool.not_true, Bool.false_eq_true, if_false]
    rw [hfactors, ok_bind, hscalable, ok_bind, hresized]
    rfl
  obtain ⟨spacing, hrun⟩ := exists_perform_run_ofFactor (by decide) (by decide) hopens hcells hpositive hplacement
    (hsizes _) hm hf hsteps horientation hsurplus
  have hmade : (fun i => f i * A.stepLength i) = fun i => v i * A.stepLength i / H.stepLength i :=
    funext fun i => div_mul_eq_mul_div _ _ _
  have hsame : (point fun i => f i * A.stepLength i).toList = (point v).toList ↔
      ∀ i, A.stepLength i = H.stepLength i := by
    rw [Vector.toList_inj, point_injective.eq_iff, hmade, funext_iff]
    refine forall_congr' fun i => ?_
    rw [div_eq_iff (hlengths i).ne', mul_right_inj' (hv i).ne']
  refine ⟨_, _, rfl, rfl, hrun, ?_, ?_, hsame, fun hnone => hsame.2 ?_⟩
  · rw [hmade]
  · rw [← hmade]
    refine (columnLengths_matrix _).trans (congrArg point (funext fun i => ?_))
    exact stepLength_mul_resizing A (fun i => (hf i).le) i
  · have horiented : (⟨info.affine⟩ : AffineTransform Exact) = affine A := by
      rw [orientation, if_neg (by rw [hnone]; decide)] at horientation
      exact Except.ok.inj horientation
    have hcolumns := congrArg (fun t : AffineTransform Exact => columnLengths t.matrix) horiented
    simp only [hheader] at hcolumns
    rw [columnLengths_matrix] at hcolumns
    exact fun i => (congrFun (point_injective (hcolumns.trans (columnLengths_matrix A))) i).symm

end Run

/-- **Voxels of size one asked for**, from an orientation whose first step is two: the output voxels have the sizes of
that orientation. -/
theorem exists_perform_resizeVoxel_long :
    let x : Volume Exact := ⟨.real .double, Tensor.build [2, 1, 1] fun index => finite (index.headD 0 + 1)⟩
    let use : ToolOptions Exact := { ToolOptions.none with
      voxelSize := .number (.real (finite 1))
      outputShape := .list [.number (.int 4), .number (.int 1), .number (.int 1)]
      order := .number (.int 0)
      inputAffine := Literal.ofMatrix (resizing ![2, 1, 1]) }
    ∃ input reference : Grid Exact, Task.perform (resizeVoxel.run .none use (.array x)) (Workspace.ofFiles []) =
        Task.perform (resizeVoxel.finish use (.array x) (Info.ofArray x) x input reference) (Workspace.ofFiles []) ∧
      reference.spacing = (point ![2, 1, 1]).toList ∧ reference.spacing ≠ (point fun _ : Fin 3 => 1).toList := by
  intro x use
  have hopens : (Input.array x).Opens (Workspace.ofFiles []).files (Info.ofArray x) x :=
    Input.opens_array_of_le (by decide) _
  obtain ⟨t, ht⟩ := Shape.exists_centring [2, 1, 1]
  have hheader : (Info.ofArray x).affine = matrix (translation t) := ht
  have hlong : ∀ i, (resizing ![2, 1, 1]).stepLength i = ![2, 1, 1] i :=
    stepLength_resizing (by simp [Fin.forall_fin_succ])
  have hrequest : Placement.voxelSizesOfRequest use.voxelSize = .ok (point fun _ => 1) := rfl
  have hshape : ∃ m : Vector Nat 3, (∀ i, 0 < m.get i) ∧
      Placement.sizesOfRequest use.outputShape = .ok (m.toList.map Int.ofNat) := ⟨triple 4 1 1, by decide, rfl⟩
  obtain ⟨input, reference, -, -, hrun, hspacing, -, hsame, -⟩ := exists_perform_resizeVoxel (e := ⟨triple 2 1 1, []⟩)
    (ToolOptions.orElse_none use) hopens rfl (by decide) hheader (stepLength_translation_pos t)
    (AffineTransform.ofLiteral_ofMatrix _) (fun i => by rw [hlong]; fin_cases i <;> simp)
    (Placement.checkScalable_ofMatrix _) rfl hrequest (fun _ => one_pos) (.inr hshape)
  refine ⟨input, reference, hrun, hspacing.trans ?_, fun h => ?_⟩
  · simp only [hlong, stepLength_translation]
    simp
  · have hfirst := hsame.1 h 0
    rw [hlong, stepLength_translation] at hfirst
    norm_num at hfirst

end Tool

end Regrid
