import Regrid.Storage.Nifti
/-!
# Mgh — image files with directions and a centre

A header of 284 bytes gives four sizes, the type of the cells, the lengths and directions of the axes and the centre of
the field of view, the most significant byte of a number first.  The cells follow, the first axis varying fastest, and
the step of the series after them.
-/
namespace Regrid.Storage.Mgh

open Nifti (singleAt? singlesAt? single)

/-- **The number of bytes of a header.** -/
def headerSize : Nat := 284

/-- **The codes of the cell types.** -/
def dtypeCodes : List (Nat × Dtype) :=
  [(0, .int .uint8), (1, .int .int32), (3, .real .single), (4, .int .int16), (10, .int .uint16)]

/-- **The geometry in a header**; without one the axes have length one and directions of their own. -/
def geometry? (bytes : ByteArray) (step : Float) : Option (ImageHeader Float) := do
  if (← natAt? bytes .big 28 2) = 0 then return .blank .mgh
  let lengths ← singlesAt? bytes .big 30 3
  let directions ← singlesAt? bytes .big 42 9
  let centre ← singlesAt? bytes .big 78 3
  return .mgh (Vector.ofFn fun i => (lengths[i.val]?).getD 1)
    (Matrix.ofFn fun i j => (directions[3 * j.val + i.val]?).getD 0) (Vector.ofFn fun i => (centre[i.val]?).getD 0) step

def decode? (bytes : ByteArray) : Option (Image Float) := do
  if (← natAt? bytes .big 0 4) ≠ 1 then none
  let shape ← [4, 8, 12, 16].mapM fun offset => natAt? bytes .big offset 4
  let dtype ← dtypeCodes.lookup (← natAt? bytes .big 20 4)
  let volume ← volumeAt? bytes headerSize .big .firstFastest dtype shape
  let cells := (← dtype.byteWidth?) * Shape.count shape
  let step := (singleAt? bytes .big (headerSize + cells)).getD 0
  return ⟨volume, none, ← geometry? bytes step⟩

/-- **A volume with its geometry as a file.** -/
def encode? (v : Volume Float) (lengths : Vector Float 3) (directions : Matrix 3 3 Float) (centre : Point Float)
    (step : Float) : Option (List UInt8) := do
  let code ← (dtypeCodes.find? (·.2 == v.dtype)).map (·.1)
  let long (n : Nat) := ByteOrder.big.encode 4 n
  let sizes := v.shape ++ List.replicate (4 - v.shape.length) 1
  let header :=
    [(0, long 1 ++ sizes.flatMap long ++ long code), (28, ByteOrder.big.encode 2 1),
     (30, (lengths.toList ++ (Matrix.transpose directions).entries ++ centre.toList).flatMap (single .big))]
  return layOut headerSize header ++ cellBytes .big .firstFastest v ++ single .big step ++ zeros 16

end Regrid.Storage.Mgh
