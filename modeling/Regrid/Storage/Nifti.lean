import Regrid.Image
import Regrid.Storage.Cells
/-!
# Nifti — image files with an orientation matrix

A header of 348 bytes gives the sizes of the axes, the type of the cells, a voxel size per axis, and an orientation:
three rows of a matrix, or a rotation written as a quaternion.  The cells follow, the first axis varying fastest.
-/
namespace Regrid.Storage.Nifti

/-- **The number of bytes of a header.** -/
def headerSize : Nat := 348

/-- **The place of the cells**, after the header and an empty extension. -/
def cellsOffset : Nat := 352

/-- **The codes of the cell types.** -/
def dtypeCodes : List (Nat × Dtype) :=
  [(2, .int .uint8), (4, .int .int16), (8, .int .int32), (16, .real .single), (64, .real .double), (256, .int .int8),
   (512, .int .uint16), (768, .int .uint32), (1024, .int .int64), (1280, .int .uint64),
   (32, .complex .single), (1792, .complex .double)]

/-- **A real number of single precision at an offset.** -/
def singleAt? (bytes : ByteArray) (order : ByteOrder) (offset : Nat) : Option Float :=
  (natAt? bytes order offset 4).map fun n => (Binary.ofBits (Binary.format .single) n).toFloat

/-- **Real numbers of single precision from an offset on.** -/
def singlesAt? (bytes : ByteArray) (order : ByteOrder) (offset count : Nat) : Option (List Float) :=
  (List.range count).mapM fun i => singleAt? bytes order (offset + 4 * i)

/-- **A real number in single precision.** -/
def single (order : ByteOrder) (x : Float) : List UInt8 :=
  order.encode 4 ((Binary.ofFloat x).toBits (Binary.format .single))

/-- **The matrix with three given rows.** -/
def ofRows (rows : List (List Float)) : Matrix 4 4 Float :=
  Matrix.ofFn fun i j => ((rows[i.val]?).bind (·[j.val]?)).getD (if i = j then 1 else 0)

/-- **The rotation of a unit quaternion** whose first part is not negative, given its other parts. -/
def rotation (b c d : Float) : Matrix 3 3 Float :=
  let rest := 1 - (b * b + c * c + d * d)
  let a := Float.sqrt (if rest < 0 then 0 else rest)
  triple (triple (a * a + b * b - c * c - d * d) (2 * (b * c - a * d)) (2 * (b * d + a * c)))
    (triple (2 * (b * c + a * d)) (a * a + c * c - b * b - d * d) (2 * (c * d - a * b)))
    (triple (2 * (b * d - a * c)) (2 * (c * d + a * b)) (a * a + d * d - b * b - c * c))

/-- **The matrix of a rotation**, voxel sizes and a shift; a negative handedness turns the third axis round. -/
def ofQuaternion (handedness : Float) (parts zooms shift : List Float) : Matrix 4 4 Float :=
  let entry (xs : List Float) (i : Nat) : Float := (xs[i]?).getD 0
  let turned := rotation (entry parts 0) (entry parts 1) (entry parts 2)
  let lengths := triple (entry zooms 0) (entry zooms 1) (entry zooms 2 * (if handedness < 0 then -1 else 1))
  (AffineTransform.ofParts (Matrix.ofFn fun i j => (turned.get i).get j * lengths.get j)
    (Vector.ofFn fun i => entry shift i.val)).matrix

/-- **The orientation in a header**: the matrix if there is one, else the rotation if there is one. -/
def orientation? (bytes : ByteArray) (order : ByteOrder) (zooms : List Float) : Option (Option (Matrix 4 4 Float)) := do
  if 0 < (← intAt? bytes order 254 2) then
    return some (ofRows (← [280, 296, 312].mapM fun offset => singlesAt? bytes order offset 4))
  else if 0 < (← intAt? bytes order 252 2) then
    let parts ← singlesAt? bytes order 256 3
    let shift ← singlesAt? bytes order 268 3
    return some (ofQuaternion (← singleAt? bytes order 76) parts zooms shift)
  else return none

/-- **The order of the bytes of a file**, by the number it starts with. -/
def byteOrder? (bytes : ByteArray) : Option ByteOrder :=
  [ByteOrder.little, ByteOrder.big].find? fun order => natAt? bytes order 0 4 == some headerSize

/-- **The cells of a file are stored as they are**, and not by a factor and a summand. -/
def isPlain (slope intercept : Float) : Bool :=
  slope == 0 || !Scalar.isFinite slope || (slope == 1 && intercept == 0)

def decode? (bytes : ByteArray) : Option (Image Float) := do
  let order ← byteOrder? bytes
  if (← textAt? bytes 344 3) ≠ "n+1" then none
  let axes ← natAt? bytes order 40 2
  if axes < 1 || 7 < axes then none
  let shape ← (List.range axes).mapM fun i => natAt? bytes order (42 + 2 * i) 2
  let dtype ← dtypeCodes.lookup (← natAt? bytes order 70 2)
  if !isPlain (← singleAt? bytes order 112) (← singleAt? bytes order 116) then none
  let zooms ← singlesAt? bytes order 80 7
  let offset := (Scalar.floor (← singleAt? bytes order 108)).toNat
  let volume ← volumeAt? bytes offset order .firstFastest dtype shape
  return ⟨volume, none, .nifti (← orientation? bytes order zooms) zooms⟩

/-- **The code of a cell type.** -/
def dtypeCode? (d : Dtype) : Option Nat := (dtypeCodes.find? (·.2 == d)).map (·.1)

/-- **The fields of a header that tell the orientation.** -/
def orientationFields (affine : Option (Matrix 4 4 Float)) : List (Nat × List UInt8) :=
  match affine with
  | none => []
  | some m =>
    let row (i : Fin 4) := m[i].toList.flatMap (single .little)
    [(254, ByteOrder.little.encode 2 2), (280, row 0), (296, row 1), (312, row 2)]

/-- **A volume with an orientation and voxel sizes as a file.** -/
def encode? (v : Volume Float) (affine : Option (Matrix 4 4 Float)) (zooms : List Float) : Option (List UInt8) := do
  let code ← dtypeCode? v.dtype
  let width ← v.dtype.byteWidth?
  let short (n : Nat) := ByteOrder.little.encode 2 n
  let sizes := v.shape ++ List.replicate (7 - v.shape.length) 1
  let header :=
    [(0, ByteOrder.little.encode 4 headerSize), (40, short v.shape.length ++ sizes.flatMap short), (70, short code),
     (72, short (8 * width)), (76, (1 :: zooms).flatMap (single .little)),
     (108, single .little (Float.ofNat cellsOffset)), (112, single .little 1)]
    ++ orientationFields affine ++ [(344, [110, 43, 49])]
  return layOut cellsOffset header ++ cellBytes .little .firstFastest v

end Regrid.Storage.Nifti
