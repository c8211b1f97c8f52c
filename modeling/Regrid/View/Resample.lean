import Regrid.Dtype.Name
import Regrid.View
/-!
# Resample — evaluating a view on its whole lattice

`View.copy` walks the cursor over all voxels and reads one value at a time; `View.resample` evaluates all voxels of a
block at once, one block for each place in the series.  Both leave the cursor at the first voxel.
-/
namespace Regrid.View

variable {α : Type} [Scalar α] [Capacity]

/-- **Moving the cursor to a voxel**, by the axes whose index differs. -/
def moveTo (voxel : List Nat) : Walk α Unit :=
  (voxel.zip (List.range voxel.length)).forM fun (i, axis) => do
    if !(← index axis).equals i then setIndex axis (.int i)

/-- **The values of all voxels**, read one at a time in row-major order. -/
def copyReals (v : View α) : Walk α (Tensor α) := do
  (Shape.reserve v.extent.toShape : Except (Fault α) Unit)
  reset
  let values ← Tensor.buildM v.extent.toShape fun voxel => do
    moveTo voxel
    (← v.value).toReal
  reset
  return values

/-- **The values of one spatial block**, without oversampling; values of fewer axes are repeated. -/
def plainBlock (v : View α) (series : List (Literal α)) (voxels : Points α) : Except (Fault α) (Tensor α) := do
  let values ← (← v.sampler.valuesAt series (voxels.map v.mapping.apply)).toReals
  (values.broadcast? voxels.shape).elim (.error .shapeMismatch) .ok

/-- **Adding the valid and finite values of one sample per voxel to the sums of a block.**  Values without arithmetic
cannot be added, and neither can values of another shape. -/
def addSamples (v : View α) (series : List (Literal α)) (voxels : Points α) (sums : List α) (offset : Point α) :
    Except (Fault α) (List α) := do
  let points := voxels.map fun x => v.mapping.apply (Point.add x offset)
  let values ← v.sampler.valuesAt series points
  match values.dtype with
  | .other | .text _ => .error .wrongKind
  | _ => if values.shape ≠ voxels.shape then .error .shapeMismatch
  let terms ← (points.toList.zip values.cells.toList).mapM fun (p, x) => do
    let finite ← values.dtype.isFinite x
    if v.sampler.valid p && finite then values.dtype.toScalar x else return 0
  return List.zipWith (· + ·) sums terms

/-- **The averages of one spatial block**, one sample of all voxels after the other. -/
def averagedBlock (v : View α) (series : List (Literal α)) (voxels : Points α) : Except (Fault α) (Tensor α) := do
  let sums ← v.plan.offsets.foldlM (v.addSamples series voxels) (List.replicate voxels.shape.count 0)
  ((Tensor.ofList? voxels.shape sums).map (Tensor.map (· * v.plan.normalization))).elim (.error .shapeMismatch) .ok

def lattice (size : Vector Nat 3) : Points α :=
  Tensor.build size.toList fun voxel =>
    Vector.ofFn fun i : Fin 3 => Scalar.ofInt ((voxel[i.val]?).getD 0)

/-- **The values of all voxels**, evaluated block by block. -/
def resampleReals (v : View α) : Walk α (Tensor α) := do
  (Shape.reserveLattice v.extent.spatial.toList : Except (Fault α) Unit)
  (Shape.reserve v.extent.toShape : Except (Fault α) Unit)
  reset
  let voxels : Points α := lattice v.extent.spatial
  let blocks ← Tensor.buildM v.extent.series fun place => do
    modify fun c => { c with series := place.map fun i : Nat => .int i }
    let series := (← get).place
    if v.plan.active then v.averagedBlock series voxels else v.plainBlock series voxels
  reset
  return Tensor.build v.extent.toShape fun voxel =>
    ((blocks.get? (voxel.drop 3)).bind fun block => block.get? (voxel.take 3)).getD Scalar.nan

/-- **Output values stored in the cell type that is asked for.** -/
def store (values : Tensor α) (dtype : Literal α) : Except (Fault α) (Volume α) := do
  (⟨.real .double, values⟩ : Volume α).toOutput (← Dtype.ofLiteral? dtype)

/-- **All values as a volume**, read one at a time. -/
def copy (v : View α) (dtype : Literal α) : Walk α (Volume α) := do store (← v.copyReals) dtype

/-- **All values as a volume**, evaluated block by block. -/
def resample (v : View α) (dtype : Literal α) : Walk α (Volume α) := do store (← v.resampleReals) dtype

end Regrid.View
