import Regrid.View.Resample
/-!
# Reslicing — resampling an array onto a reference grid

The options of a reslicing are the transform between the two world spaces, the kernel, the number of samples per
voxel, the fallback, the type of the output and whether all voxels are evaluated at once.
-/
namespace Regrid

/-- **How an array is resliced**, every option as it is written. -/
structure ReslicingOptions (α : Type) where
  transform : Literal α
  order : Literal α
  oversample : Literal α
  fallback : Literal α
  dtype : Literal α
  /-- Whether whole blocks are evaluated at once. -/
  vectorize : Bool

namespace ReslicingOptions

variable {α : Type} [Scalar α] [Capacity]

/-- **The view of an array on a reference grid.** -/
def view [LinearSolver α] (o : ReslicingOptions α) (x : Volume α) (input : Grid α) (reference : Option (Grid α)) :
    Except (Fault α) (View α) := do
  View.ofVolume x (some input) reference o.transform o.oversample o.order o.fallback.given?

/-- **The values of a view on its whole lattice.** -/
def evaluate (o : ReslicingOptions α) (v : View α) : Except (Fault α) (Volume α) :=
  (StateT.run (ExceptT.run (if o.vectorize then v.resample o.dtype else v.copy o.dtype)) v.start).1

end ReslicingOptions

/-- **Reslicing an array onto a reference grid.** -/
def resliceArray {α : Type} [Scalar α] [LinearSolver α] [Capacity] (x : Volume α) (input : Grid α)
    (reference : Option (Grid α)) (o : ReslicingOptions α) : Except (Fault α) (Volume α) := do
  o.evaluate (← o.view x input reference)

end Regrid
