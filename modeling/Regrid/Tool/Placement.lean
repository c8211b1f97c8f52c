import Regrid.Matrix.Table
import Regrid.Tool
/-!
# Placement — the output grids of the tools

The tools that resize keep the outer corner of the first voxel in place: voxels are scaled about that corner, so that
`resizingTransform` takes an output voxel to the input voxels it covers.
-/
namespace Regrid

/-- **Where the output grid lies**: its transform depends on that of the input, its sizes on the shape of the input. -/
structure Placement (α : Type) where
  transform : AffineTransform α → Except (Fault α) (AffineTransform α)
  sizes : Shape → Except (Fault α) (List Int)

namespace Placement

variable {α : Type} [Scalar α]

/-- **Three sizes as they are written**; the last one is repeated. -/
def sizesOfRequest (l : Literal α) : Except (Fault α) (List Int) := do (← l.pad 3 none).mapM Literal.toInt

/-- **The placement of an orientation and a shape**, which default to those of the input. -/
def ofOrientation (affine shape : Literal α) : Placement α :=
  { transform := fun input => if affine.isGiven then AffineTransform.ofLiteral affine else .ok input
    sizes := fun input =>
      if shape.isGiven then sizesOfRequest shape else .ok ((input.take 3).map Int.ofNat) }

def ofGrid (g : Grid α) : Placement α :=
  { transform := fun _ => .ok g.transform
    sizes := fun _ => .ok (g.extent.spatial.toList.map Int.ofNat) }

/-- **A shift by the same distance along all axes.** -/
def shift (distance : α) : AffineTransform α :=
  AffineTransform.ofParts (Matrix.identity 3) (Vector.replicate 3 distance)

/-- **The transform from output to input voxels** that scales about the outer corner of the first voxel. -/
def resizingTransform (factor : Vector α 3) : AffineTransform α :=
  let scale : AffineTransform α := AffineTransform.ofParts (Matrix.diagonal factor) (Vector.replicate 3 0)
  (shift (-Scalar.half)).compose (scale.compose (shift Scalar.half))

/-- **A quotient**, if the divisor is not zero. -/
def quotient? (x y : α) : Except (Fault α) α := if y == 0 then .error .divisionByZero else .ok (x / y)

/-- **The number of output voxels that fit into an axis**: at least one. -/
def fittingSize (n : Nat) (factor : α) : Except (Fault α) Int := do
  let q ← quotient? (Scalar.ofInt n) factor
  if Scalar.isNaN q then .error .nanToInteger
  else if !Scalar.isFinite q then .error .outOfRange
  else return max 1 (Scalar.floor q)

/-- **The output sizes of a resizing.** -/
def fittingSizes (shape : Shape) (factor : Vector α 3) : Except (Fault α) (List Int) :=
  ((shape.take 3).zip factor.toList).mapM fun (n, f) => fittingSize n f

/-- **The placement of a resizing**, whose sizes are given. -/
def ofFactor (factor : Vector α 3) (sizes : Shape → Except (Fault α) (List Int)) : Placement α :=
  { transform := fun input => .ok (input.compose (resizingTransform factor))
    sizes := sizes }

def threeOf (f : Literal α → Except (Fault α) α) (ls : List (Literal α)) : Except (Fault α) (Vector α 3) := do
  match ← ls.mapM f with
  | [x, y, z] => return triple x y z
  | _ => .error .wrongKind

/-- **The factor between voxel sizes that a number stands for**: an upsampling divides by it. -/
def factorOf (tool : Tool) (l : Literal α) : Except (Fault α) α :=
  match tool, l with
  | .upsample, .number n => quotient? 1 n.toScalar
  | .upsample, _ => .error .wrongKind
  | _, l => l.toReal

/-- **The factors of a resizing as they are written.** -/
def factorsOfRequest (tool : Tool) (l : Literal α) : Except (Fault α) (Vector α 3) := do
  if !l.isGiven then .error .noFactor
  threeOf (factorOf tool) (← l.pad 3 none)

/-- **The factors that take a shape to another.** -/
def factorsBetween (input : Shape) (output : List Int) : Except (Fault α) (Vector α 3) := do
  let quotients ← (output.zip input).mapM fun (o, i) => quotient? (Scalar.ofInt i) (Scalar.ofInt o)
  match quotients with
  | [x, y, z] => return triple x y z
  | _ => .error .wrongKind

/-- **The factors that take voxel sizes to others.**  A voxel size has to be a number. -/
def factorsToVoxelSize (input : Vector α 3) (l : Literal α) : Except (Fault α) (Vector α 3) := do
  let wanted ← threeOf (fun l => match l with
    | .number n => n.toReal
    | _ => .error .wrongKind) (← l.pad 3 none)
  return Vector.zipWith (· / ·) wanted input

/-- **An input orientation that a resizing can scale**: numbers, whose last axis has four columns. -/
def checkScalable (affine : Literal α) : Except (Fault α) Unit := do
  if affine.isGiven then
    let v ← Volume.ofLiteral affine
    if v.dtype matches .text _ then .error .unsupportedOperation
    if v.shape.getLast? ≠ some 4 then .error .shapeMismatch
    for l in v.cells.toList.filterMap v.dtype.asWritten? do
      match l with
      | .number n => discard n.toReal
      | _ => .error .wrongKind

/-- **The sizes of a resizing as they are written**; those that fit into the input are the default. -/
def resizedSizes (shape : Literal α) (input : Shape) (factor : Vector α 3) :
    Except (Fault α) (Shape → Except (Fault α) (List Int)) := do
  if shape.isGiven then return fun _ => sizesOfRequest shape
  let sizes ← fittingSizes input factor
  return fun _ => .ok sizes

/-- **The placement of a tool** that resizes a volume of which this is known. -/
def ofResizing (tool : Tool) (o : ToolOptions α) (info : Info α) : Except (Fault α) (Placement α) := do
  match tool with
  | .resizeShape =>
    if !o.outputShape.isGiven then .error .noOutputShape
    let sizes ← sizesOfRequest o.outputShape
    let factor ← factorsBetween info.shape sizes
    checkScalable o.inputAffine
    return ofFactor factor fun _ => .ok sizes
  | .resizeVoxel =>
    if !o.voxelSize.isGiven then .error .noVoxelSize
    let factor ← factorsToVoxelSize (columnLengths info.affine) o.voxelSize
    checkScalable o.inputAffine
    return ofFactor factor (← resizedSizes o.outputShape info.shape factor)
  | _ =>
    let factor ← factorsOfRequest tool o.factor
    checkScalable o.inputAffine
    return ofFactor factor (← resizedSizes o.outputShape info.shape factor)

end Placement

/-- **What is asked of the output grid**; the rest of it is left open. -/
structure Target (α : Type) where
  transform : Option (AffineTransform α → Except (Fault α) (AffineTransform α))
  sizes : Option (Shape → Except (Fault α) (List Int))

namespace Target

variable {α : Type}

/-- **A target that leaves nothing open.** -/
def ofPlacement (p : Placement α) : Target α := ⟨some p.transform, some p.sizes⟩

/-- **What one target leaves open, another may ask.** -/
def orElse (t u : Target α) : Target α := ⟨t.transform <|> u.transform, t.sizes <|> u.sizes⟩

/-- **The placement of a target**, which takes what is left open from the input. -/
def placement (t : Target α) : Placement α :=
  { transform := t.transform.getD .ok
    sizes := t.sizes.getD fun input => .ok ((input.take 3).map Int.ofNat) }

/-- **An orientation and a shape as they are written.** -/
def ofLiterals [Scalar α] (affine shape : Literal α) : Target α :=
  { transform := affine.given?.map fun l _ => AffineTransform.ofLiteral l
    sizes := shape.given?.map fun l _ => Placement.sizesOfRequest l }

end Target
end Regrid
