import Regrid.Image.Format
import Regrid.Literal
import Regrid.Matrix
import Regrid.Path.Compression
import Regrid.Tensor
/-!
# Fault — the reasons an operation cannot be carried out

Each cause is a constructor that carries what its message shows; `Fault.kind` groups the causes for callers that only
need to know what sort of thing went wrong.
-/
namespace Regrid

/-- **The sort of a fault.** -/
inductive Fault.Kind
  | value
  | type
  | index
  | division
  | overflow
  | dimension
  | oversample
  | algebra
  | missingFile
  | directory
  | notDirectory
  | system
  | compression (format : Compression)
  | serialized
  | imageFile
  | encoding
  | runtime
  | promotion
  | operation
  | niftiHeader
  | mghHeader
  | noData
  | capability
  | memory
  | key
  deriving DecidableEq, Repr

/-- **How a sequence is bracketed** in a message. -/
inductive Brackets
  | round
  | square
  deriving DecidableEq, Repr

/-- **The causes of failure.** -/
inductive Fault (α : Type)
  /-- A grid with fewer than three axes. -/
  | gridAxes (shape : List Int)
  /-- A grid with a size below one. -/
  | gridSizes (shape : List Int)
  /-- A grid with a spatial spacing that is not positive. -/
  | gridSpacing (spacing : List α)
  /-- A grid transform with a column of length zero. -/
  | degenerateGrid (transform : Matrix 4 4 α)
  /-- A matrix that is neither `dim × next` nor `next × next`, where `next` is one more than `dim`. -/
  | matrixShape (dim next : Number α) (shape : Shape)
  /-- Points without three coordinates. -/
  | pointShape (shape : Shape)
  /-- Solving against a matrix of deficient rank. -/
  | singular
  /-- Inverting a matrix with no inverse. -/
  | notInvertible
  /-- A matrix whose entries are not finite cannot be decomposed. -/
  | notDecomposable
  /-- Two sides of an equation with different numbers of rows. -/
  | rowMismatch
  /-- A volume with fewer than three axes. -/
  | volumeAxes (shape : Shape)
  /-- A grid that does not have the shape of its volume. -/
  | gridMismatch (grid volume : Shape)
  /-- An input grid that does not have the shape of the resliced volume. -/
  | inputGridMismatch (grid volume : Shape)
  /-- An interpolation order that names no kernel. -/
  | unknownOrder (order : Literal α)
  /-- Oversampling factors that are not whole numbers. -/
  | factorsNotWhole (brackets : Brackets) (factors : List (Literal α))
  /-- Oversampling factors that are not three positive numbers. -/
  | factorsNotPositive (factors : List Int)
  /-- Not one oversampling factor per spatial axis. -/
  | factorCount (factors : List (Literal α))
  /-- A resizing without a factor. -/
  | noFactor
  /-- A resizing without an output shape. -/
  | noOutputShape
  /-- A resizing without an output voxel size. -/
  | noVoxelSize
  /-- A reslicing to a reference without the reference. -/
  | noReference
  /-- A view without a grid to resample on. -/
  | noReferenceGrid
  /-- An input that is no array. -/
  | unhandledInput
  /-- A volume that is not on disk. -/
  | noSuchVolume (path : String)
  /-- A file extension that no format is written for. -/
  | unwritable (extension : String)
  /-- Text that is not a number. -/
  | notNumeric (text : String)
  /-- A list whose items do not have one common shape. -/
  | ragged
  /-- A value of a kind that cannot be used where it stands. -/
  | wrongKind
  /-- An index outside an axis. -/
  | indexOutside
  /-- A value without the operation that is asked for. -/
  | noSuchOperation
  /-- A list without the item that is asked for. -/
  | emptyList
  /-- A division by zero. -/
  | divisionByZero
  /-- A number beyond the range it is converted to. -/
  | outOfRange
  /-- A value that is not a number has no integer part. -/
  | nanToInteger
  /-- Arrays whose shapes do not fit together. -/
  | shapeMismatch
  /-- An element type of an unknown name. -/
  | unknownDtype (name : String)
  /-- Points in time, for which there is no zero. -/
  | noMoments (name : String)
  /-- A condition on an array that has several cells. -/
  | ambiguousTruth
  /-- Coordinates that do not have the shape a spline needs. -/
  | splineCoordinates
  /-- Two element types without a common one. -/
  | noCommonDtype
  /-- An arithmetic operation that an element type does not have. -/
  | unsupportedOperation
  /-- A file that is not there. -/
  | noSuchFile (path : String)
  /-- An array for which there is no room. -/
  | noRoom
  /-- A directory where a file is meant. -/
  | isDirectory (path : String)
  /-- A path that goes on below a file. -/
  | notDirectory (path : String)
  /-- A path with a name that is too long for a file. -/
  | longName (path : String)
  /-- A path with a null character. -/
  | nullInPath (path : String)
  /-- A file that is not compressed as its extension promises. -/
  | notCompressed (format : Compression) (path : String)
  /-- A file that holds no object in serialized form. -/
  | notSerialized (path : String)
  /-- A file that holds no text. -/
  | notText (path : String)
  /-- A file that holds no volume. -/
  | notAnImage (path : String)
  /-- A file that is too short for the header that its extension promises. -/
  | shortHeader (path : String)
  /-- A file whose header has an unknown code for the type of its cells. -/
  | unknownCode (path : String)
  /-- A file that does not have the layout its extension promises. -/
  | unreadable (path : String)
  /-- A file without content. -/
  | emptyFile (path : String)
  /-- A cell type that a format cannot store. -/
  | unstorable (format : ImageFormat)
  /-- More axes than a format can store. -/
  | manyAxes (format : ImageFormat)
  /-- Voxel sizes that no image header holds. -/
  | headerZooms
  /-- An orientation next to which there is no rotation that an image header could hold. -/
  | headerOrientation
  /-- An image without voxels, in a format that has none. -/
  | noVoxels
  /-- Values as they were written, which no file of an array can hold. -/
  | notStored
  /-- Integers of 64 bits that no header asks for. -/
  | wideIntegers

namespace Fault

variable {α : Type}

/-- **The sort of each cause.** -/
def kind : Fault α → Kind
  | gridAxes _ | volumeAxes _ | gridMismatch .. | inputGridMismatch .. => .dimension
  | factorsNotWhole .. | factorsNotPositive _ | factorCount _ => .oversample
  | singular | notInvertible | notDecomposable | rowMismatch => .algebra
  | gridSizes _ | gridSpacing _ | degenerateGrid _ | matrixShape .. | pointShape _ | unknownOrder _ => .value
  | noFactor | noOutputShape | noVoxelSize | noReference | unwritable _ => .value
  | nullInPath _ | notNumeric _ | ragged | nanToInteger | shapeMismatch | ambiguousTruth | unreadable _ => .value
  | noReferenceGrid | unhandledInput | wrongKind | unknownDtype _ | shortHeader _ => .type
  | unknownCode _ => .key
  | indexOutside | emptyList => .index
  | divisionByZero => .division
  | outOfRange => .overflow
  | noSuchVolume _ | noSuchFile _ => .missingFile
  | isDirectory _ => .directory
  | notDirectory _ => .notDirectory
  | longName _ => .system
  | notCompressed format _ => .compression format
  | notSerialized _ => .serialized
  | noSuchOperation => .capability
  | noRoom => .memory
  | notText _ => .encoding
  | notAnImage _ => .imageFile
  | splineCoordinates => .runtime
  | noCommonDtype => .promotion
  | unstorable .nifti | manyAxes .nifti | headerZooms | headerOrientation => .niftiHeader
  | unstorable .mgh | noVoxels => .mghHeader
  | emptyFile _ => .noData
  | manyAxes .mgh | wideIntegers | notStored | noMoments _ => .value
  | unsupportedOperation => .operation

end Fault
end Regrid
