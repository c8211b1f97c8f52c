import Regrid.Affine
import Regrid.Volume
/-!
# Image — volumes with an orientation, and what a file keeps of them

An image is a volume with an orientation matrix and a header.  The first format keeps the first three rows of the
matrix and a voxel size per axis; the second keeps the lengths and directions of its columns and the centre of the
field of view.  Both keep them in single precision, so that an image read back has the orientation of its header.
-/
namespace Regrid

/-- **What a file keeps about the geometry of an image.** -/
inductive ImageHeader (α : Type)
  /-- An orientation matrix, if there is one, and seven voxel sizes. -/
  | nifti (affine : Option (Matrix 4 4 α)) (zooms : List α)
  /-- The lengths of the columns of the linear part, the columns divided by them, the centre of the field of view, and
  the step of the series. -/
  | mgh (lengths : Vector α 3) (directions : Matrix 3 3 α) (centre : Point α) (step : α)

/-- **A volume with an orientation.** -/
structure Image (α : Type) where
  volume : Volume α
  /-- The orientation matrix of the image in memory, if it has one. -/
  affine : Option (Matrix 4 4 α)
  header : ImageHeader α

namespace ImageHeader

variable {α : Type} [Scalar α]

/-- **A scalar as a file keeps it.** -/
def single (x : α) : α := Scalar.narrow .single x

def format : ImageHeader α → ImageFormat
  | nifti .. => .nifti
  | mgh .. => .mgh

/-- **The header of an image without an orientation.** -/
def blank : ImageFormat → ImageHeader α
  | .nifti => nifti none (List.replicate 7 1)
  | .mgh =>
    let directions := triple (triple (-1) 0 0) (triple 0 0 1) (triple 0 (-1) 0)
    mgh (Vector.replicate 3 1) directions (Vector.replicate 3 0) 0

/-- **Fitting a header to the shape of a volume**: voxel sizes of axes that are not there become one. -/
def fit (h : ImageHeader α) (shape : Shape) : ImageHeader α :=
  match h with
  | nifti affine zooms => nifti affine (zooms.take shape.length ++ List.replicate (7 - shape.length) 1)
  | mgh .. => h

/-- **The matrix of an image whose header has no orientation**: it scales by the voxel sizes, turns the first axis
round, and puts the origin into the centre of the field of view. -/
def centred (zooms : List α) (shape : Shape) : Matrix 4 4 α :=
  let zoom (i : Fin 3) : α := if i < shape.length then (zooms[i.val]?).getD 1 else 1
  let signed (i : Fin 3) : α := if i = 0 then -(zoom i) else zoom i
  (AffineTransform.ofParts (Matrix.diagonal (Vector.ofFn signed)) (Vector.ofFn fun i =>
    -((Scalar.ofInt ((shape[i.val]?).getD 1) - 1) / 2) * signed i)).matrix

/-- **The orientation that a header stands for**, for a volume of a shape. -/
def affine (h : ImageHeader α) (shape : Shape) : Matrix 4 4 α :=
  match h with
  | nifti (some m) _ => m
  | nifti none zooms => centred zooms shape
  | mgh lengths directions centre _ =>
    let linear : Matrix 3 3 α := Matrix.ofFn fun i j => single ((directions.get i).get j * lengths.get j)
    let middle := Matrix.apply linear (Vector.ofFn fun i : Fin 3 => Scalar.ofInt ((shape[i.val]?).getD 1))
    (AffineTransform.ofParts linear (Vector.ofFn fun i => single (centre.get i - middle.get i / 2))).matrix

/-- **The voxel sizes in a header**, for a volume of a shape. -/
def zooms (h : ImageHeader α) (shape : Shape) : List α :=
  match h with
  | nifti _ zooms => zooms.take shape.length
  | mgh lengths _ _ step => lengths.toList ++ (if shape[3]?.getD 1 = 1 then [] else [step])

/-- **Recording an orientation in a header.**  The first format looks for the rotation that is next to it, which needs
columns that can be divided by their lengths. -/
def orient (h : ImageHeader α) (m : Matrix 4 4 α) (shape : Shape) : Except (Fault α) (ImageHeader α) := do
  let t : AffineTransform α := ⟨m⟩
  let lengths : Vector α 3 := columnLengths m
  let directions : Matrix 3 3 α := Matrix.ofFn fun i j => (t.linear.get i).get j / lengths.get j
  match h with
  | nifti _ zooms =>
    if !directions.entries.all Scalar.isFinite then .error .headerOrientation
    let kept : Matrix 4 4 α := Matrix.ofFn fun i j =>
      if i = 3 then (if j = 3 then 1 else 0) else single ((m.get i).get j)
    return nifti (some kept) (lengths.toList.map single ++ zooms.drop 3)
  | mgh _ _ _ step =>
    let centre := t.apply (Vector.ofFn fun i : Fin 3 => Scalar.ofInt ((shape[i.val]?).getD 1) / 2)
    return mgh (lengths.map single) (directions.map (·.map single)) (centre.map single) step

/-- **Recording an orientation in a header**, unless the header already stands for it. -/
def update (h : ImageHeader α) (m : Matrix 4 4 α) (shape : Shape) : Except (Fault α) (ImageHeader α) :=
  if (⟨m⟩ : AffineTransform α).isClose ⟨h.affine shape⟩ then .ok h else h.orient m shape

/-- **A header as it is checked when it is read or copied**: a spatial voxel size of zero becomes one. -/
def checked : ImageHeader α → ImageHeader α
  | nifti affine zooms => nifti affine ((zooms.take 3).map (fun z => if z == 0 then 1 else z) ++ zooms.drop 3)
  | h => h

/-- **Replacing the voxel sizes in a header** of a volume with some axes.  None of them may be negative; the first
format has one for each axis, and those of the second are not zero along the spatial axes. -/
def setZooms (h : ImageHeader α) (axes : Nat) (given : List α) : Except (Fault α) (ImageHeader α) :=
  match h with
  | nifti affine zooms =>
    if given.length ≠ axes || given.any (· < 0) then .error .headerZooms
    else .ok (nifti affine (given.map single ++ zooms.drop given.length))
  | mgh lengths directions centre step =>
    if axes < given.length || (given.take 3).any (· ≤ 0) || given.any (· < 0) then .error .headerZooms
    else .ok (mgh (Vector.ofFn fun i => ((given[i.val]?).map single).getD (lengths.get i)) directions centre
      ((given[3]?.map single).getD step))

end ImageHeader

namespace Image

variable {α : Type} [Scalar α]

/-- **The shape of an image of a format**: the second has at least three axes, and no fourth one of size one. -/
def storedShape (format : ImageFormat) (shape : Shape) : Shape :=
  match format with
  | .nifti => shape
  | .mgh => shape ++ List.replicate (3 - shape.length) 1

/-- **The header of an image with a given orientation.**  A header of the same format is kept, apart from the shape,
when it already stands for the orientation. -/
def headerFor (format : ImageFormat) (shape : Shape) (affine : Option (Matrix 4 4 α)) (given : Option (ImageHeader α)) :
    Except (Fault α) (ImageHeader α) := do
  let start := ((given.map ImageHeader.checked).getD (ImageHeader.blank format)).fit shape
  match affine with
  | none => return start
  | some m => if given.isSome || format = .mgh then start.update m shape else start.orient m shape

/-- **An image of a volume.**  Integers of 64 bits are stored only when a header asks for them. -/
def make (format : ImageFormat) (volume : Volume α) (affine : Option (Matrix 4 4 α))
    (given : Option (ImageHeader α)) : Except (Fault α) (Image α) := do
  let header := given.filter (·.format = format)
  if format = .nifti && header.isNone && (volume.dtype = .int .int64 || volume.dtype = .int .uint64) then
    .error .wideIntegers
  if !format.stores volume.dtype then .error (.unstorable format)
  if format.mostAxes < volume.shape.length then .error (.manyAxes format)
  let shape := storedShape format volume.shape
  match volume.reshape? shape with
  | some v => return ⟨v, affine, ← headerFor format shape affine header⟩
  | none => .error .shapeMismatch

/-- **The header of an image as its file keeps it.**  What it says about the orientation is that of the image. -/
def storedHeader (i : Image α) : ImageHeader α :=
  ((i.affine.map fun m => (i.header.update m i.volume.shape).toOption.getD i.header).getD i.header).checked

/-- **An image as it is read back from its file.**  The second format cannot be read without voxels. -/
def reload (i : Image α) : Except (Fault α) (Image α) := do
  let shape := i.volume.shape
  if i.header.format = .mgh && shape.contains 0 then .error .noVoxels
  let kept := match i.header.format, shape with
    | .mgh, [x, y, z, 1] => [x, y, z]
    | _, s => s
  let header := i.storedHeader
  return ⟨(i.volume.reshape? kept).getD i.volume, some (header.affine shape), header⟩

/-- **The cells of an image as they are read from its file.**  Without voxels, a compressed file leaves one axis. -/
def cellsFrom (i : Image α) (compressed : Bool) : Volume α :=
  if compressed && i.volume.shape.count = 0 then (i.volume.reshape? [0]).getD i.volume else i.volume

def orientation (i : Image α) : Matrix 4 4 α := i.affine.getD (i.header.affine i.volume.shape)

/-- **The voxel sizes of an image**, one per axis of its volume. -/
def zooms (i : Image α) : List α := i.header.zooms i.volume.shape

end Image
end Regrid
