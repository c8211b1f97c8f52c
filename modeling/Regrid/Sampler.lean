import Regrid.Cursor
import Regrid.Grid
import Regrid.Kernel
import Regrid.Sampler.Place
/-!
# Sampler — a volume seen as a function of position

A sampler evaluates a volume at positions between its voxel centres.  A position is valid inside the field of view,
which ends at the outer edges of the border voxels; elsewhere a fallback takes the place of the value.  The last axes
of a volume are addressed by whole indices.  Values and fallback stand side by side in a type that suits both.
-/
namespace Regrid

/-- **What a kernel combines**: the voxels themselves, or spline coefficients in their place. -/
inductive Source (α : Type)
  | nearest
  | linear
  | cubic (coefficients : Tensor α)

namespace Source

variable {α : Type}

/-- **The type of the values.** -/
def dtype (v : Volume α) : Source α → Dtype
  | nearest => v.dtype
  | _ => .real .double

variable [Scalar α]

def ofKernel (v : Volume α) : Kernel → Except (Fault α) (Source α)
  | .nearest => .ok .nearest
  | .linear => .ok .linear
  | .cubic => return .cubic (Spline.spatialCoefficients (← v.toReals))

/-- **The value at a position of the block with given last indices.** -/
def sample (v : Volume α) (size : Vector Nat 3) (last : List Nat) (p : Point α) :
    (s : Source α) → Except (Fault α) ((s.dtype v).Value α)
  | nearest => do
    let some voxel := Kernel.nearestVoxel? size p | .error .indexOutside
    (v.cell? (voxel.toList ++ last)).elim (.error .indexOutside) .ok
  | linear => Kernel.linearAt size
    (fun voxel => (v.cell? (voxel.toList ++ last)).elim (.error .indexOutside) v.dtype.toScalar) p
  | cubic coefficients =>
    let x : α := Kernel.cubicAt size (fun voxel => (coefficients.get? (voxel.toList ++ last)).getD Scalar.nan) p
    .ok x

end Source

/-- **A value that a sampler gives**: a cell, or the fallback as it was given. -/
inductive Reading (α : Type)
  | cell (c : Cell α)
  | given (l : Literal α)

/-- **A volume with a kernel and a fallback.** -/
structure Sampler (α : Type) where
  volume : Volume α
  extent : Extent
  source : Source α
  /-- The fallback, if one is given. -/
  fallback : Option (Literal α)
  grid : Option (Grid α)
  name : Literal α

namespace Reading

variable {α : Type} [Scalar α]

/-- **A reading stored as a real number of double precision.**  A list is none. -/
def toReal : Reading α → Except (Fault α) α
  | cell c => c.dtype.convert (.real .double) c.value
  | given (.list _) => .error .ragged
  | given l => l.toReal

end Reading

namespace Sampler

variable {α : Type} [Scalar α]

/-- **A sampler of a volume**, which has at least three axes and the shape of its grid.  Its name is empty if none is
given. -/
def make (kernel : Kernel) (volume : Volume α) (fallback : Option (Literal α)) (grid : Option (Grid α))
    (name : Literal α) : Except (Fault α) (Sampler α) := do
  let some extent := Extent.ofShape? volume.shape | .error (.volumeAxes volume.shape)
  if let some g := grid then
    if g.shape ≠ volume.shape then .error (.gridMismatch g.shape volume.shape)
  return ⟨volume, extent, ← Source.ofKernel volume kernel, fallback, grid, name.orElse (.text "")⟩

/-- **The type of the values.** -/
def dtype (s : Sampler α) : Dtype := s.source.dtype s.volume

/-- **The fallback**: the one given, or else the mark for a missing cell of the volume. -/
def outside (s : Sampler α) : Reading α :=
  match s.fallback with
  | some l => .given l
  | none => .cell (Dtype.missing s.volume.dtype)

/-- **The number of voxels along an axis.** -/
def size (s : Sampler α) (axis : Int) : Except (Fault α) Nat := Extent.atAxis s.volume.shape axis

/-- **The voxel size along an axis**, one without a grid. -/
def voxelSize (s : Sampler α) (axis : Int) : Except (Fault α) α :=
  match s.grid with
  | some g => g.voxelSize axis
  | none => .ok 1

/-- **The voxel size along an axis as it is written**; without a grid it is one whatever stands for the axis. -/
def voxelSizeAt (s : Sampler α) (axis : Literal α) : Except (Fault α) α :=
  match s.grid with
  | some g => do g.voxelSize (← axis.toPosition)
  | none => .ok 1

/-- **A coordinate inside an axis of `n` voxels**: finite, and at most half a voxel from a voxel centre. -/
def insideAxis (n : Nat) (x : α) : Bool :=
  decide (-Scalar.half ≤ x) && decide (x ≤ Scalar.ofInt n - Scalar.half) && Scalar.isFinite x

/-- **A position inside the field of view.** -/
def valid (s : Sampler α) (p : Point α) : Bool := (Vector.zipWith insideAxis s.extent.spatial p).all id

/-- **The value at a position inside the field of view.** -/
def sample (s : Sampler α) (last : List Nat) (p : Point α) : Except (Fault α) (s.dtype.Value α) :=
  s.source.sample s.volume s.extent.spatial last p

/-- **The place in the series that indices denote.**  A block for each of several places cannot be evaluated. -/
def place (s : Sampler α) (series : List (Literal α)) : Except (Fault α) (List Nat) := do
  match ← Selection.place? s.extent.series series, s.source with
  | some last, _ => return last
  | none, .cubic _ => .error .splineCoordinates
  | none, _ => .error .shapeMismatch

/-- **The value at a position**, and whether the position is valid. -/
def valueAt (s : Sampler α) (series : List (Literal α)) (p : Point α) : Except (Fault α) (Reading α × Bool) :=
  if s.valid p then do return (.cell ⟨s.dtype, ← s.sample (← s.place series) p⟩, true)
  else .ok (s.outside, false)

/-- **A number as a cell of a type.** -/
def cellOfNumber (n : Number α) : (d : Dtype) → Except (Fault α) (d.Value α)
  | .bool => return (← n.toInt) != 0
  | .int t => do
    let k ← n.toInt
    if IntType.int64.minimum ≤ k && k ≤ IntType.uint64.maximum then return t.wrap k else .error .outOfRange
  | .real p => match n with
    | .int k => do
      if IntType.int64.minimum ≤ k && k ≤ IntType.uint64.maximum then return Scalar.storeInt p k
      return Scalar.narrow p (← n.toReal)
    | n => return Scalar.narrow p (← n.toReal)
  | .other => .ok (.number n)
  | .complex _ | .span _ | .text _ => .error .wrongKind

/-- **The type in which values of a type and a number stand side by side.**  A whole number takes the type of the
values, except that it turns truth values into integers; a real number makes them real. -/
def numberDtype : Dtype → Number α → Except (Fault α) Dtype
  | .text _, _ => .error .noCommonDtype
  | .bool, .int _ => .ok (.int .int64)
  | .bool, .real _ | .int _, .real _ => .ok (.real .double)
  | d, _ => .ok d

/-- **A single cell as a volume.** -/
def single (d : Dtype) (x : d.Value α) : Volume α := ⟨d, Tensor.build [] fun _ => x⟩

/-- **The fallback beside values of a type**: the type that suits both, and the fallback as an array. -/
def beside (s : Sampler α) (d : Dtype) : Except (Fault α) (Dtype × Volume α) := do
  match s.fallback with
  | none =>
    let c : Cell α := Dtype.missing s.volume.dtype
    return (← d.join c.dtype, single c.dtype c.value)
  | some (.number (.bool b)) => return (← d.join .bool, single .bool b)
  | some (.number n) =>
    let merged ← numberDtype d n
    return (merged, single merged (← cellOfNumber n merged))
  | some l =>
    let v ← Volume.ofLiteral l
    return (← d.join v.dtype, v)

/-- **Values without arithmetic cannot be weighed.**  Those at all positions are tried, and one that is no number is
reported before one that is. -/
def tryWeights (s : Sampler α) (last : List Nat) (points : Points α) : Except (Fault α) Unit :=
  points.toList.forM fun p => match s.sample last p with
    | .ok _ | .error .unsupportedOperation => .ok ()
    | .error f => .error f

/-- **The values at many positions**, all of one type.  A position that is not valid has the fallback, though the
first voxel is read in its place; a fallback that is a list is repeated along with the values. -/
def valuesAt (s : Sampler α) (series : List (Literal α)) (points : Points α) : Except (Fault α) (Volume α) := do
  let last ← s.place series
  let read := points.map fun p => if s.valid p then p else Vector.replicate 3 0
  s.tryWeights last read
  let values ← read.mapM (s.sample last)
  let (d, outside) ← s.beside s.dtype
  Volume.choose d (points.map s.valid) ⟨s.dtype, values⟩ outside

end Sampler
end Regrid
