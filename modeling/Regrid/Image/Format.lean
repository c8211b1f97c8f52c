import Regrid.Dtype
/-!
# Format — the families of image files

A format is known by the extension of a file, and stores some of the cell types and a limited number of axes.
-/
namespace Regrid

/-- **The two families of image files.** -/
inductive ImageFormat
  | nifti
  | mgh
  deriving DecidableEq, Repr

namespace ImageFormat

def ofExtension? (extension : String) : Option ImageFormat :=
  [(".nii", nifti), (".nii.gz", nifti), (".mgh", mgh), (".mgz", mgh)].lookup extension

/-- **The number of bytes before the voxels of the second format** that tell its geometry. -/
def headerSize : Nat := 90

/-- **The cell types a format can store.** -/
def stores : ImageFormat → Dtype → Bool
  | nifti, .int _ => true
  | mgh, .int t => t = .uint8 || t = .int16 || t = .int32 || t = .uint16
  | nifti, .real p | nifti, .complex p => p = .single || p = .double
  | mgh, .real p => p = .single
  | _, _ => false

/-- **The most axes a format can store.** -/
def mostAxes : ImageFormat → Nat
  | nifti => 7
  | mgh => 4

end ImageFormat

end Regrid
