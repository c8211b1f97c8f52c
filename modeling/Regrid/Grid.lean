import Regrid.Affine
import Regrid.Extent
/-!
# Grid — sampling lattices

A grid is an extent, a voxel size along each axis, and a transform from voxel indices to world coordinates.  Voxel
sizes that are not given are the column lengths of the transform; a transform that is not given scales by the voxel
sizes.
-/
namespace Regrid

/-- **A lattice of voxels in world space.** -/
structure Grid (α : Type) where
  extent : Extent
  /-- One voxel size per axis. -/
  spacing : List α
  transform : AffineTransform α

/-- **What an image header says about a grid**: sizes, an orientation matrix, and voxel sizes if it has any. -/
structure Header (α : Type) where
  shape : Shape
  affine : Matrix 4 4 α
  zooms : List α

namespace Grid

variable {α : Type} [Scalar α]

/-- **All sizes, in the order of the axes.** -/
def shape (g : Grid α) : Shape := g.extent.toShape

/-- **Voxel sizes fitted to a number of axes**: the last one given is repeated up to three axes, further axes have
size one, and surplus ones are dropped. -/
def fitSpacing (axes : Nat) (given : List α) : Except (Fault α) (List α) :=
  match given.getLast? with
  | none => .error .emptyList
  | some last => .ok ((given ++ List.replicate (3 - given.length) last
      ++ List.replicate (axes - max 3 given.length) 1).take axes)

/-- **The spatial voxel sizes are positive.** -/
def positiveSpacing (spacing : List α) : Bool := (spacing.take 3).all fun v => decide (0 < v)

/-- **The voxel sizes given for an extent**, which have to be positive along the spatial axes. -/
def givenSpacing (e : Extent) (given : List α) : Except (Fault α) (List α) := do
  let spacing ← fitSpacing e.axes given
  if positiveSpacing spacing then return spacing else .error (.gridSpacing spacing)

/-- **The transform that scales by voxel sizes.** -/
def scaling (spacing : List α) : AffineTransform α :=
  AffineTransform.ofParts (Matrix.diagonal (Vector.ofFn fun i : Fin 3 => (spacing[i.val]?).getD 1))
    (Vector.replicate 3 0)

/-- **Voxel sizes as they are written**: a number, or a nested list of numbers or numerals. -/
def spacingOfLiteral (l : Literal α) : Except (Fault α) (List α) := do
  let v ← Volume.ofLiteral l
  v.cells.toList.mapM v.dtype.readReal

/-- **The grid of an extent** whose voxel sizes and transform default to each other. -/
def complete (e : Extent) (spacing : Option (List α)) (transform : Option (AffineTransform α)) :
    Except (Fault α) (Grid α) :=
  let placed := transform.getD (scaling (spacing.getD [1, 1, 1]))
  match spacing with
  | some spacing => .ok ⟨e, spacing, placed⟩
  | none =>
    let spacing := (columnLengths placed.matrix).toList ++ List.replicate e.series.length 1
    if positiveSpacing spacing then .ok ⟨e, spacing, placed⟩ else .error (.degenerateGrid placed.matrix)

/-- **A grid** from its sizes, and from voxel sizes and a transform if they are given. -/
def make (sizes : List Int) (spacing : Option (List α)) (transform : Option (AffineTransform α)) :
    Except (Fault α) (Grid α) := do
  let e ← Extent.ofSizes sizes
  let spacing ← spacing.mapM (givenSpacing e)
  complete e spacing transform

/-- **A grid as it is written**: voxel sizes are a number or a nested list, and null leaves an item out. -/
def ofLiterals (shape spacing transform : Literal α) : Except (Fault α) (Grid α) := do
  let e ← Extent.ofSizes (← Extent.sizesOfLiteral shape)
  let spacing ← spacing.given?.mapM fun l => do givenSpacing e (← spacingOfLiteral l)
  complete e spacing (← transform.given?.mapM AffineTransform.ofLiteral)

/-- **A grid as it is written**, by an orientation matrix and a shape. -/
def ofAffineLiterals (affine shape spacing : Literal α) : Except (Fault α) (Grid α) := do
  let transform ← AffineTransform.ofLiteral affine
  let e ← Extent.ofSizes (← Extent.sizesOfLiteral shape)
  let spacing ← spacing.given?.mapM fun l => do givenSpacing e (← spacingOfLiteral l)
  complete e spacing (some transform)

/-- **Voxel sizes that a header gives**: at least three, the first three positive. -/
def usableZooms? (zooms : List α) : Option (List α) :=
  if 3 ≤ zooms.length && positiveSpacing zooms then some zooms else none

/-- **Voxel sizes agree with an orientation matrix** up to one part in a thousand. -/
def zoomsMatch (zooms lengths : List α) : Bool :=
  (List.zipWith (Scalar.isClose (Scalar.ofDecimal 1 (-3)) (Scalar.ofDecimal 1 (-8))) (zooms.take 3) lengths).all id

/-- **The grid of a header**, and whether its voxel sizes disagree with its orientation matrix. -/
def ofHeader (h : Header α) : Except (Fault α) (Grid α) × Bool :=
  let zooms := usableZooms? h.zooms
  (make (h.shape.map Int.ofNat) zooms (some ⟨h.affine⟩),
    zooms.any fun z => !zoomsMatch z (columnLengths h.affine).toList)

/-- **Voxel sizes as they are written are usable** if there are at least three, the first three of which are positive
numbers.  One that is not positive ends the search; before it, everything has to be a number. -/
def zoomsUsable (zooms : Literal α) : Except (Fault α) Bool := do
  let items ← zooms.items?.elim (.error .wrongKind) .ok
  if items.length < 3 then return false
  let list ← match zooms with
    | .list xs => pure (xs.take 3)
    | _ => .error .wrongKind
  let positive (go : Bool) (l : Literal α) : Except (Fault α) Bool := do
    if !go then return false
    match l with
    | .number (.real x) => return decide (0 < x)
    | .number n => return decide (0 < (← n.toInt))
    | _ => .error .wrongKind
  list.foldlM positive true

/-- **Voxel sizes as they are written agree with the column lengths of a table**, which may be repeated. -/
def zoomsMatchTable (zooms : Literal α) (lengths : Tensor α) : Except (Fault α) Bool := do
  let zooms ← match zooms with
    | .list xs => (Literal.list (xs.take 3)).toReals
    | l => l.toReals
  let close? : Option (Tensor Bool) := do
    let shape ← Shape.join? zooms.shape lengths.shape
    let zooms ← zooms.broadcast? shape
    let lengths ← lengths.broadcast? shape
    Tensor.buildM shape fun index => return zoomsMatch [← zooms.get? index] [← lengths.get? index]
  close?.elim (.error .shapeMismatch) fun close => .ok (close.toList.all id)

/-- **The grid of a header as it is written**, and whether its voxel sizes disagree with its orientation matrix. -/
def ofHeaderLiterals (shape affine zooms : Literal α) : Except (Fault α) (Grid α) × Bool :=
  let checked : Except (Fault α) (Literal α × Bool) := do
    if !zooms.isGiven then return (.null, false)
    if !(← zoomsUsable zooms) then return (.null, false)
    return (zooms, !(← zoomsMatchTable zooms (← tableColumnLengths (← affine.toReals))))
  match checked with
  | .error f => (.error f, false)
  | .ok (zooms, mismatch) => (ofLiterals shape zooms affine, mismatch)

/-- **The number of voxels along an axis.** -/
def size (g : Grid α) (axis : Int) : Except (Fault α) Nat := Extent.atAxis g.shape axis

def voxelSize (g : Grid α) (axis : Int) : Except (Fault α) α := Extent.atAxis g.spacing axis

/-- **Two grids are close**: equal sizes, and voxel sizes and transforms that are close. -/
def isClose (g h : Grid α) : Bool :=
  g.shape == h.shape
    && (List.zipWith (Scalar.isClose (Scalar.ofDecimal 1 (-5)) (Scalar.ofDecimal 1 (-8))) g.spacing h.spacing).all id
    && g.transform.isClose h.transform

end Grid
end Regrid
