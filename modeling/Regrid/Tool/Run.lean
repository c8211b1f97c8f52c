import Regrid.Tool.Placement
/-!
# Run — using a tool on a volume

The volume is read, resliced onto the output grid, and handed to a writer: the one that is given, or one that writes a
file beside the input if that is a file, and converts the values to the cell type of the input otherwise.
-/
namespace Regrid

namespace Tool

variable {α : Type} [Scalar α] [LinearSolver α] [Capacity]

/-- **The writer of a tool**, if none is given. -/
def standardWriter (tool : Tool) (x : Input α) : Writer α :=
  if x.isFile then .file { FileOptions.none with beginning := .text tool.outputBeginning } else .converter .null

/-- **The tools that read the voxel sizes of a header**; the others take those of the orientation. -/
def readsZooms : Tool → Bool
  | reslice | like => true
  | _ => false

/-- **The grid of a volume that has been read**: an orientation that is given replaces the one it has. -/
def inputGrid (tool : Tool) (x : Volume α) (info : Info α) (affine : Literal α) : Task α (Grid α) := do
  if !affine.isGiven && tool.readsZooms then Task.gridOf { info.toHeader with shape := x.shape }
  else
    let transform ← if affine.isGiven then AffineTransform.ofLiteral affine else pure ⟨info.affine⟩
    Grid.make (x.shape.map Int.ofNat) none (some transform)

/-- **Reslicing an array**, which is reported if it takes several samples per voxel. -/
def resliceReported (x : Volume α) (input reference : Grid α) (o : ReslicingOptions α) : Task α (Volume α) := do
  let view ← o.view x input reference
  if view.plan.active then Task.report (.oversampled view.plan)
  o.evaluate view

/-- **Reslicing a volume to a placement, and storing the result.**  Options that nothing takes are noticed here. -/
def resliceTo (tool : Tool) (o : ToolOptions α) (x : Input α) (p : Placement α) : Task α (Written α) := do
  if o.surplus then throw .wrongKind
  let writer := o.writer.getD (tool.standardWriter x)
  let (cells, info) ← x.read (← get).files .null
  let some cells := cells.reshape? (info.shape.take 3 ++ cells.shape.drop 3) | throw .shapeMismatch
  let input ← tool.inputGrid cells info o.inputAffine
  let sizes ← p.sizes cells.shape
  let reference ← Grid.make sizes none (some (← p.transform input.transform))
  let y ← resliceReported cells input reference o.reslicing
  let call : FileOptions α :=
    { FileOptions.none with affine := some (.ok reference.transform.matrix) }
  writer.write call (FileHints.ofInfo info) y

/-- **Reslicing to a target**, the last step of every tool.  What the use leaves open of the options and of the target
is looked up among the options of the making. -/
def resliceFor (tool : Tool) (making use : ToolOptions α) (x : Input α) (asked : Target α) : Task α (Written α) :=
  tool.resliceTo (use.orElse making) x
    (asked.orElse (.ofLiterals making.outputAffine making.outputShape)).placement

/-- **Reslicing to the grid of another volume.** -/
def resliceLike (making use : ToolOptions α) (x : Input α) : Task α (Written α) := do
  let some reference := use.reference <|> making.reference | throw .noReference
  like.resliceFor making use x (.ofPlacement (.ofGrid (← Task.gridOfInput reference)))

/-- **Resizing by a factor.**  The sizes are looked up too, and the output grid is passed on as a whole. -/
def resizeBy (tool : Tool) (making use : ToolOptions α) (x : Input α) : Task α (Written α) := do
  let info ← Task.inspect x
  let factor ← Placement.factorsOfRequest tool (use.factor.orElse making.factor)
  Placement.checkScalable (use.inputAffine.orElse making.inputAffine)
  let sizes ← Placement.resizedSizes (use.outputShape.orElse making.outputShape) info.shape factor
  tool.resliceFor making use x (.ofPlacement (.ofFactor factor sizes))

/-- **Resizing to a shape**: the factor is a quotient of sizes, and both are passed on. -/
def resizeToShape (making use : ToolOptions α) (x : Input α) : Task α (Written α) := do
  let info ← Task.inspect x
  let shape := use.outputShape.orElse making.outputShape
  if !shape.isGiven then throw .noOutputShape
  let sizes ← Placement.sizesOfRequest shape
  let factors ← (Placement.factorsBetween info.shape sizes : Except (Fault α) (Vector α 3))
  resizeShape.resizeBy making ((use.withFactors factors).withSizes sizes) x

/-- **Resizing to a voxel size**: the factor is a quotient of voxel sizes, and the sizes may still be asked for. -/
def resizeToVoxelSize (making use : ToolOptions α) (x : Input α) : Task α (Written α) := do
  let info ← Task.inspect x
  let voxelSize := use.voxelSize.orElse making.voxelSize
  if !voxelSize.isGiven then throw .noVoxelSize
  let factors ← Placement.factorsToVoxelSize (columnLengths info.affine) voxelSize
  resizeVoxel.resizeBy making (use.withFactors factors) x

/-- **Using a tool**, with the options of its making and those of its use. -/
def run (tool : Tool) (making use : ToolOptions α) (x : Input α) : Task α (Written α) :=
  match tool with
  | .reslice => reslice.resliceFor making use x (.ofLiterals use.outputAffine use.outputShape)
  | .like => resliceLike making use x
  | .resizeShape => resizeToShape making use x
  | .resizeVoxel => resizeToVoxelSize making use x
  | .resize | .upsample | .downsample => tool.resizeBy making use x

end Tool
end Regrid
