import Regrid.Dtype.Name
import Regrid.Grid
import Regrid.Text.Case
import Regrid.Workspace
/-!
# Input — volumes from files and from memory

A volume is given as an array, a nested list, an image or a path.  `Input.inspect` tells what is known about it without
its cells, and `Input.read` gives the cells too.  An array without an orientation is centred on the origin.
-/
namespace Regrid

/-- **A volume as it is given.** -/
inductive Input (α : Type)
  | array (v : Volume α)
  | image (i : Image α)
  | literal (l : Literal α)
  | path (p : String)

/-- **What is known about a volume apart from its cells.** -/
structure Info (α : Type) where
  dtype : Dtype
  /-- At least three sizes. -/
  shape : Shape
  affine : Matrix 4 4 α
  zooms : List α
  header : Option (ImageHeader α)
  /-- The directory, the base name and the extension of its file. -/
  origin : Option (String × String × String)

/-- **A volume that has been found**: an image, or an array. -/
inductive Input.Found (α : Type)
  | array (v : Volume α)
  | image (i : Image α)
  | literal (l : Literal α)

/-- **The matrix that puts the origin into the centre of a box** of unit voxels. -/
def centringMatrix {α : Type} [Scalar α] {n : Nat} (sizes : Vector α n) : Matrix (n + 1) (n + 1) α :=
  Matrix.ofFn fun i j =>
    if h : j = Fin.last n ∧ i.val < n then -(sizes.get ⟨i.val, h.2⟩) / 2 + Scalar.half
    else if i = j then 1 else 0

/-- **The centring matrix of the spatial part of an array.** -/
def Shape.centring {α : Type} [Scalar α] (shape : Shape) : Matrix 4 4 α :=
  centringMatrix (Vector.ofFn fun i : Fin 3 => Scalar.ofInt ((shape[i.val]?).getD 1))

/-- **The rows of a centring matrix of a box whose sizes are written**, of which the first three count.  They need not
be whole, and the items may be lists as long as they are one size altogether. -/
def Literal.toCentringRows {α : Type} [Scalar α] : Literal α → Except (Fault α) (List (List α))
  | list sizes => do
    let v ← Volume.ofLiteral (list (sizes.take 3))
    match (← v.toReals).broadcast? (v.shape.take 1) with
    | some t => return (centringMatrix t.cells).toList.map Vector.toList
    | none => .error .shapeMismatch
  | _ => .error .wrongKind

/-- **A shape with at least three axes**, of which the added ones have size one. -/
def Shape.padded (shape : Shape) : Shape := shape ++ List.replicate (3 - shape.length) 1

namespace Info

variable {α : Type} [Scalar α]

/-- **What is known about an array.** -/
def ofArray (v : Volume α) : Info α :=
  let shape := v.shape.padded
  { dtype := v.dtype
    shape := shape
    affine := shape.centring
    zooms := List.replicate shape.length 1
    header := none
    origin := none }

/-- **What is known about an image.** -/
def ofImage (i : Image α) : Info α :=
  { dtype := i.volume.dtype
    shape := i.volume.shape.padded
    affine := i.orientation
    zooms := i.zooms ++ List.replicate (3 - i.volume.shape.length) 1
    header := some i.header
    origin := none }

/-- **The header that a grid is read from.** -/
def toHeader (i : Info α) : Header α := ⟨i.shape, i.affine, i.zooms⟩

end Info

namespace Input

variable {α : Type} [Scalar α]

/-- **A volume given by a file name or a text.** -/
def path? : Input α → Option String
  | path p => some p
  | literal (.text s) => some s
  | _ => none

/-- **A volume on disk.** -/
def isFile (x : Input α) : Bool := x.path?.isSome

/-- **Why a text is no image.**  By the extensions of the second format, in any case, a text that is not empty counts as
one, but lacks a header, a known type of cells or the compression. -/
def notImage (path content : String) : Fault α :=
  let extension := Text.lowercase (Path.extension path)
  if content.isEmpty then .notAnImage path
  else if extension == ".mgz" then .notCompressed .gzip path
  else if extension != ".mgh" then .notAnImage path
  else if content.utf8ByteSize < ImageFormat.headerSize then .shortHeader path
  else .unknownCode path

/-- **The volume in a file.**  Arrays without an orientation have an extension of their own, or may be allowed to be
objects in serialized form; what is in another file has to be an image. -/
def open? (files : FileTree α) (path extension : String) (objects : Bool) : Except (Fault α) (Found α) :=
  match files.fileAt? path with
  | none => .error (.noSuchVolume path)
  | some file =>
    if extension == ".npy" || extension == ".npz" then
      match file with
      | .array v => .ok (.array v)
      | .text "" => .error (.emptyFile path)
      | .directory => .error (.isDirectory path)
      | _ => .error (if objects then .notSerialized path else .unreadable path)
    else match file with
      | .image i => return .image (← i.reload)
      | .text content => .error (notImage path content)
      | .directory =>
        if [".mgh", ".mgz"].contains (Text.lowercase (Path.extension path)) then .error (.isDirectory path)
        else .error (.notAnImage path)
      | .array _ => .error (.notAnImage path)

/-- **Finding a volume**, and the parts of its path if it has one. -/
def find (x : Input α) (files : FileTree α) (objects : Bool := false) :
    Except (Fault α) (Found α × Option (String × String × String)) :=
  match x, x.path? with
  | _, some p => do
    let parts := Path.parts p
    return (← open? files p parts.2.2 objects, some parts)
  | array v, none => .ok (.array v, none)
  | image i, none => .ok (.image i, none)
  | literal l, none => .ok (.literal l, none)
  | path _, none => .error .wrongKind

/-- **What is known about a volume apart from its cells.** -/
def inspect (x : Input α) (files : FileTree α) : Except (Fault α) (Info α) := do
  let (found, origin) ← x.find files
  let info ← match found with
    | .array v => pure (Info.ofArray v)
    | .image i => pure (Info.ofImage i)
    | .literal l => pure (Info.ofArray (← Volume.ofLiteral l))
  return { info with origin := origin }

/-- **The cells of an image**: real numbers unless another type is asked for. -/
def imageCells (stored : Volume α) : Option Dtype → Except (Fault α) (Volume α)
  | none => stored.cast (.real .double)
  | some d => stored.cast d

/-- **The cells of a volume, and what else is known about it.**  Serialized objects are read if they are allowed. -/
def read (x : Input α) (files : FileTree α) (dtype : Literal α) (objects : Bool := false) :
    Except (Fault α) (Volume α × Info α) := do
  let (found, origin) ← x.find files objects
  let asked (v : Volume α) : Except (Fault α) (Volume α) := do
    match ← Dtype.ofLiteral? dtype with
    | none => return v
    | some d => v.cast d
  match found with
  | .array v => return (← asked v, { Info.ofArray v with origin := origin })
  | .image i =>
    let stored := i.cellsFrom (origin.any fun (_, _, extension) => Path.endsWith extension ".gz")
    return (← imageCells stored (← Dtype.ofLiteral? dtype), { Info.ofImage i with origin := origin })
  | .literal l =>
    let v ← match Volume.ofLiteral l with
      | .ok v => pure v
      | .error _ => .error .unhandledInput
    return (← asked v, { Info.ofArray v with origin := origin })

end Input

namespace Task

variable {α : Type} [Scalar α]

/-- **What is known about a volume apart from its cells.** -/
def inspect (x : Input α) : Task α (Info α) := do x.inspect (← get).files

/-- **The grid of what is known about a volume**; a disagreement about voxel sizes is reported. -/
def gridOf (h : Header α) : Task α (Grid α) := do
  let (grid, mismatch) := Grid.ofHeader h
  if mismatch then report .zoomMismatch
  grid

def gridOfInput (x : Input α) : Task α (Grid α) := do gridOf (← inspect x).toHeader

end Task
end Regrid
