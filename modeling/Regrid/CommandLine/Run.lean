import Regrid.CommandLine
import Regrid.FileTree.Expand
import Regrid.FileTree.Text
import Regrid.Text.NumberTable
import Regrid.Tool.Run
import Regrid.Workspace.Log
/-!
# Run — carrying out a request

A plan is printed for each image; the other requests use a tool on each image and write the results to files.
-/
namespace Regrid.Request

variable {α : Type} [Scalar α]

/-- **The transform in a text file**, if one is named. -/
def readTransform : Literal α → Task α (Literal α)
  | .null => return .null
  | .text path => do
    let files := (← get).files
    let content ← (files.textAt (files.expandHome path) : Except (Fault α) String)
    (Text.readTable content : Except (Fault α) (Literal α))
  | _ => throw .wrongKind

/-- **Oversampling factors as they are asked for**: a single one stands for all axes. -/
def oversampleLiteral : Option (List Int) → Literal α
  | none => .null
  | some [n] => .number (.int n)
  | some ns => .list (ns.map fun n => .number (.int n))

/-- **A volume in a file whose path may start at the home directory.** -/
def inputAt (files : FileTree α) (path : String) : Input α := .path (files.expandHome path)

def planLine (image : String) (p : OversamplingPlan) : String := s!"{image}: {p.bracketed}"

def planImage [LinearSolver α] (reference : Grid α) (transform oversample : Literal α) (image : String) :
    Task α Unit := do
  let grid ← Task.gridOfInput (.path image)
  let mapping ← View.mappingBetween grid reference (← AffineTransform.ofLiteral transform)
  let p ← OversamplingPlan.plan mapping oversample
  if p.active then Task.report (.oversampled p)
  Task.report (.printed (planLine image p))

/-- **An extension with its dot.** -/
def dotted : Literal α → Literal α
  | .text e => .text (if e.isEmpty || e.toList.head? == some '.' then e else "." ++ e)
  | l => l

/-- **The writer of the results.**  The cell type has to be one. -/
def writer (tool : Tool) (o : ResamplingOptions α) : Except (Fault α) (Writer α) := do
  let _ ← Dtype.ofLiteral? o.dtype
  return .file { FileOptions.none with
    dtype := o.dtype
    directory := o.directory
    beginning := o.beginning.orElse (.text tool.outputBeginning)
    extension := dotted o.extension }

/-- **The interpolation order that a word stands for.** -/
def orderLiteral : Literal α → Except (Fault α) (Literal α)
  | .text word => .ok ((Text.readInt? word).elim (.text word) fun n => .number (.int n))
  | _ => .error .noSuchOperation

def making (files : FileTree α) (tool : Tool) (o : ResamplingOptions α) (operand : Operand α)
    (transform oversample order : Literal α) (w : Writer α) : ToolOptions α :=
  let shared : ToolOptions α :=
    { ToolOptions.none with
      transform := transform
      order := order
      oversample := oversample
      fallback := o.fill
      writer := some w }
  match operand with
  | .reference path => { shared with reference := some (inputAt files path) }
  | .reals xs =>
    let numbers := Literal.list (xs.map fun x => .number (.real x))
    if tool = .resizeVoxel then { shared with voxelSize := numbers } else { shared with factor := numbers }
  | .sizes ns => { shared with outputShape := .list (ns.map fun n => .number (.int n)) }

/-- **What every command is asked for.** -/
def common : Request α → CommonOptions α
  | plan c _ => c
  | resample _ _ c _ => c

/-- **Carrying out a request.** -/
def run [Capacity] [LinearSolver α] (r : Request α) : Task α Unit := do
  let transform ← readTransform r.common.transform
  let oversample : Literal α := oversampleLiteral r.common.oversample
  let files := (← get).files
  let images := files.expandVolumes r.common.images FileTree.volumeExtensions
  match r with
  | plan _ reference =>
    let grid ← Task.gridOfInput (inputAt files reference)
    images.forM (planImage grid transform oversample)
  | resample tool operand _ options =>
    let w ← writer tool options
    let order ← (orderLiteral options.order : Except (Fault α) (Literal α))
    let options := making files tool options operand transform oversample order w
    images.forM fun image => discard (tool.run options ToolOptions.none (.path image))

end Regrid.Request
