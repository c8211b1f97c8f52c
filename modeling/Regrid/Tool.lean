import Regrid.Reslicing
import Regrid.Workspace.Output
/-!
# Tool — ways of resampling a volume, and their options

A tool differs from another in what its output grid is defined by: an orientation and a shape, another volume, a
factor between voxel sizes, a shape, or a voxel size.  An option is given when a tool is made or when it is used; what
is given at the use comes first.
-/
namespace Regrid

/-- **The tools.** -/
inductive Tool
  | reslice
  | like
  | resize
  | upsample
  | downsample
  | resizeShape
  | resizeVoxel
  deriving DecidableEq, Repr

/-- **The options of a tool as they are written**; an option that is null is not given. -/
structure ToolOptions (α : Type) where
  reference : Option (Input α)
  factor : Literal α
  voxelSize : Literal α
  outputShape : Literal α
  outputAffine : Literal α
  inputAffine : Literal α
  transform : Literal α
  order : Literal α
  oversample : Literal α
  fallback : Literal α
  vectorize : Literal α
  writer : Option (Writer α)
  /-- Whether there are options that no reslicing takes. -/
  surplus : Bool

namespace Tool

/-- **What the names of output files begin with.** -/
def outputBeginning : Tool → String
  | reslice | like => "resliced_"
  | resize | resizeShape => "resized_"
  | upsample => "upsampled_"
  | downsample => "downsampled_"
  | resizeVoxel => "rescaled_"

/-- **The factor of a tool that is used without being made first.**  Two is the factor between voxel sizes if none is
written; a tool for any factor needs one to be written. -/
def factorWritten {α : Type} (tool : Tool) (written : Option (Literal α)) : Except (Fault α) (Literal α) :=
  match tool, written with
  | _, some l => .ok l
  | upsample, none | downsample, none => .ok (.number (.int 2))
  | resize, none => .error .wrongKind
  | _, none => .ok .null

end Tool

namespace ToolOptions

variable {α : Type}

def none : ToolOptions α :=
  ⟨.none, .null, .null, .null, .null, .null, .null, .null, .null, .null, .null, .none, false⟩

/-- **The options of a use, completed by those of the making.** -/
def orElse (use making : ToolOptions α) : ToolOptions α :=
  { reference := use.reference <|> making.reference
    factor := use.factor.orElse making.factor
    voxelSize := use.voxelSize.orElse making.voxelSize
    outputShape := use.outputShape.orElse making.outputShape
    outputAffine := use.outputAffine.orElse making.outputAffine
    inputAffine := use.inputAffine.orElse making.inputAffine
    transform := use.transform.orElse making.transform
    order := use.order.orElse making.order
    oversample := use.oversample.orElse making.oversample
    fallback := use.fallback.orElse making.fallback
    vectorize := use.vectorize.orElse making.vectorize
    writer := use.writer <|> making.writer
    surplus := use.surplus || making.surplus }

/-- **The options with other factors**, one for each axis. -/
def withFactors (o : ToolOptions α) (factors : Vector α 3) : ToolOptions α :=
  { o with factor := .list (factors.toList.map fun f => .number (.real f)) }

/-- **The options with other output sizes.** -/
def withSizes (o : ToolOptions α) (sizes : List Int) : ToolOptions α :=
  { o with outputShape := .list (sizes.map fun n => .number (.int n)) }

/-- **How the array is resliced**: linear and whole blocks at once, unless the options say otherwise. -/
def reslicing [Scalar α] (o : ToolOptions α) : ReslicingOptions α :=
  { transform := o.transform
    order := o.order.orElse (.number (.int 1))
    oversample := o.oversample
    fallback := o.fallback
    dtype := .null
    vectorize := !o.vectorize.isGiven || o.vectorize.isTrue }

end ToolOptions
end Regrid
