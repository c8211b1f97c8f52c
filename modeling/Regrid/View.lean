import Regrid.Oversampling
import Regrid.Sampler
import Regrid.Tensor.Capacity
/-!
# View — a volume seen on the lattice of another grid

A view has the spatial lattice of a reference grid and the series of a volume.  A cursor moves over it; the value
under the cursor is the estimate of the volume at the mapped position, or the average of several estimates inside the
output voxel.
-/
namespace Regrid

/-- **A volume resampled on the spatial lattice of a reference grid.** -/
structure View (α : Type) where
  sampler : Sampler α
  reference : Grid α
  /-- The transform from voxels of the reference to voxels of the volume. -/
  mapping : AffineTransform α
  plan : OversamplingPlan

/-- **Steps of a cursor that may fail**, leaving the cursor where it was. -/
abbrev Walk (α β : Type) := ExceptT (Fault α) (StateM (Cursor α)) β

namespace View

variable {α : Type} [Scalar α] [Capacity]

/-- **The position of the voxel of a volume with the world coordinates** that a transform assigns to a voxel of the
reference. -/
def mappingBetween [LinearSolver α] (input reference : Grid α) (transform : AffineTransform α) :
    Except (Fault α) (AffineTransform α) := input.transform.solve (transform.compose reference.transform)

/-- **A view of a sampled volume**: its grid is the one given, or that of the sampler, or the identity. -/
def ofSampler [LinearSolver α] (sampler : Sampler α) (inputGrid reference : Option (Grid α))
    (transform oversample : Literal α) : Except (Fault α) (View α) := do
  let input ← match inputGrid <|> sampler.grid with
    | some g => pure g
    | none => Grid.make (sampler.volume.shape.map Int.ofNat) none none
  let some reference := reference | .error .noReferenceGrid
  if input.shape ≠ sampler.volume.shape then .error (.inputGridMismatch input.shape sampler.volume.shape)
  let mapping ← mappingBetween input reference (← AffineTransform.ofLiteral transform)
  let plan ← OversamplingPlan.plan mapping oversample
  if plan.active then Shape.reserveLattice plan.factors.toList
  return ⟨sampler, reference, mapping, plan⟩

/-- **A view of a volume**, which is wrapped in a sampler first. -/
def ofVolume [LinearSolver α] (volume : Volume α) (inputGrid reference : Option (Grid α))
    (transform oversample order : Literal α) (fallback : Option (Literal α)) : Except (Fault α) (View α) := do
  let input ← match inputGrid with
    | some g => pure g
    | none => Grid.make (volume.shape.map Int.ofNat) none none
  let sampler ← Sampler.make (← Kernel.ofLiteral order) volume fallback (some input) .null
  ofSampler sampler (some input) reference transform oversample

/-- **The sizes of the axes.** -/
def extent (v : View α) : Extent := ⟨v.reference.extent.spatial, v.sampler.extent.series⟩

/-- **The cursor at the first voxel.** -/
def start (v : View α) : Cursor α := Cursor.start v.sampler.extent.series.length

/-- **The number of voxels along an axis.** -/
def size (v : View α) (axis : Int) : Except (Fault α) Nat :=
  if axis < 3 then Extent.atAxis v.reference.extent.spatial.toList axis else v.sampler.size axis

def voxelSize (v : View α) (axis : Int) : Except (Fault α) α :=
  if axis < 3 then Extent.atAxis (v.reference.spacing.take 3) axis else v.sampler.voxelSize axis

/-- **The voxel size along an axis as it is written.**  A real number stands for no spatial axis. -/
def voxelSizeAt (v : View α) (axis : Literal α) : Except (Fault α) α := do
  match axis with
  | .number (.real x) => if x < Scalar.ofInt 3 then .error .wrongKind else v.sampler.voxelSizeAt axis
  | axis => v.voxelSize (← axis.toPosition)

/-- **The voxel sizes along all axes.** -/
def spacing (v : View α) : Except (Fault α) (List α) :=
  (List.range v.extent.axes).mapM fun axis : Nat => v.voxelSize axis

/-- **The index of an axis in a cursor**: axes below three are spatial and may count from the end of these. -/
def axisSlot (c : Cursor α) (axis : Int) : Except (Fault α) Nat :=
  (Shape.axis? (if axis < 3 then 3 else c.axes) axis).elim (.error .indexOutside) .ok

def index (axis : Int) : Walk α (Number α) := do
  let c ← get
  match c.get? (← axisSlot c axis) with
  | some v => return v
  | none => throw .indexOutside

/-- **Moving the cursor along an axis.** -/
def moveIndex (axis : Int) (step : Number α) : Walk α Unit := do
  let v ← (← index axis).add step
  let c ← get
  set (c.set (← axisSlot c axis) v)

/-- **Moving the cursor to an index of an axis.** -/
def setIndex (axis : Int) (v : Number α) : Walk α Unit := do
  moveIndex axis (← v.add (← index axis).neg)

/-- **Returning the cursor to the first voxel.** -/
def reset : Walk α Unit := modify Cursor.reset

/-- **The precision that samples of a type are added in.** -/
def sumPrecision : Dtype → Precision
  | .real p => p
  | _ => .double

/-- **The average of samples at several positions**: those that are outside or not finite count as zero. -/
def average (v : View α) (series : List (Literal α)) (points : List (Point α)) : Except (Fault α) (Reading α) := do
  let d := v.sampler.dtype
  let store : α → α := Scalar.narrow (sumPrecision d)
  let sum ← points.foldlM (fun sum p => do
    if !v.sampler.valid p then return sum
    let x ← v.sampler.sample (← v.sampler.place series) p
    if ← d.isFinite x then return store (sum + (← d.convert (.real .double) x)) else return sum) 0
  return .cell ⟨.real (sumPrecision d), store (sum * store v.plan.normalization)⟩

/-- **The value under a cursor.** -/
def valueAt (v : View α) (c : Cursor α) : Except (Fault α) (Reading α) := do
  let x ← c.position
  if v.plan.active then v.average c.place ((v.plan.offsets.map (Point.add x)).map v.mapping.apply)
  else return (← v.sampler.valueAt c.place (v.mapping.apply x)).1

/-- **The value under the cursor.** -/
def value (v : View α) : Walk α (Reading α) := do v.valueAt (← get)

end View
end Regrid
