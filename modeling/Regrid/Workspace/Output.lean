import Regrid.Workspace.Input
/-!
# Output — storing volumes

A writer converts the cells of a volume to the type of the volume it was made from, unless another type is asked for,
and either gives back an array or writes a file.  Each option is taken from the call, else from the writer, else from
what is known about the volume.
-/
namespace Regrid

/-- **How a file is named and stored**, each option as it is written. -/
structure FileOptions (α : Type) where
  /-- The orientation if one is given, or the reason why it is none. -/
  affine : Option (Except (Fault α) (Matrix 4 4 α))
  dtype : Literal α
  directory : Literal α
  extension : Literal α
  beginning : Literal α
  base : Literal α
  path : Literal α
  /-- Whether nothing is to be written. -/
  dry : Literal α

/-- **What a writer falls back to.** -/
structure FileHints (α : Type) where
  affine : Option (Except (Fault α) (Matrix 4 4 α))
  header : Option (ImageHeader α)
  /-- The cell type if one is known, or the reason why it is none. -/
  dtype : Except (Fault α) (Option Dtype)
  directory : Literal α
  extension : Literal α
  beginning : Literal α
  base : Literal α

/-- **A writer of volumes**, which converts them or stores them in files. -/
inductive Writer (α : Type)
  | converter (dtype : Literal α)
  | file (options : FileOptions α)

/-- **What a writer gives back**: an array, or an image with an orientation. -/
inductive Written (α : Type)
  | array (v : Volume α)
  | image (v : Volume α) (affine : Option (Matrix 4 4 α))

namespace FileOptions

variable {α : Type}

def none : FileOptions α := ⟨.none, .null, .null, .null, .null, .null, .null, .null⟩

/-- **The options of a call, completed by those of a writer.** -/
def orElse (call writer : FileOptions α) : FileOptions α :=
  { affine := call.affine <|> writer.affine
    dtype := call.dtype.orElse writer.dtype
    directory := call.directory.orElse writer.directory
    extension := call.extension.orElse writer.extension
    beginning := call.beginning.orElse writer.beginning
    base := call.base.orElse writer.base
    path := call.path.orElse writer.path
    dry := call.dry.orElse writer.dry }

/-- **A part of a path**, which has to be text. -/
def part : Literal α → Except (Fault α) String
  | .text s => .ok s
  | _ => .error .wrongKind

/-- **The path of a file**: a directory, the beginning of a name, a base name and an extension.  A name that would be
empty is `array`.  All of them have to be text even if another path is given. -/
def pathFor (o : FileOptions α) (h : FileHints α) : Except (Fault α) String := do
  let beginning ← part ((o.beginning.orElse h.beginning).orElse (.text ""))
  let base ← part ((o.base.orElse h.base).orElse (.text (if beginning.isEmpty then "array" else "")))
  let extension ← part ((o.extension.orElse h.extension).orElse (.text ".nii.gz"))
  let directory ← part ((o.directory.orElse h.directory).orElse (.text "."))
  part (o.path.orElse (.text (Path.join directory (beginning ++ base ++ extension))))

end FileOptions

namespace FileHints

variable {α : Type}

/-- **Nothing is known.** -/
def none : FileHints α := ⟨.none, .none, .ok .none, .null, .null, .null, .null⟩

variable [Scalar α]

/-- **What is known from the volume that was read.** -/
def ofInfo (i : Info α) : FileHints α :=
  let text (part : String × String × String → String) : Literal α := (i.origin.map (.text ∘ part)).getD .null
  { affine := some (.ok i.affine)
    header := i.header
    dtype := .ok (some i.dtype)
    directory := text (·.1)
    base := text (·.2.1)
    extension := text (·.2.2)
    beginning := .null }

end FileHints

namespace Writer

variable {α : Type} [Scalar α]

/-- **The cell type of an output**: the first one given, else the one that is known, else that of the volume. -/
def outputDtype (v : Volume α) (choices : List (Literal α)) (known : Except (Fault α) (Option Dtype)) :
    Except (Fault α) Dtype := do
  let asked ← match choices.find? Literal.isGiven with
    | some l => Dtype.ofLiteral? l
    | none => known
  return asked.getD v.dtype

def convert (v : Volume α) (choices : List (Literal α)) (known : Except (Fault α) (Option Dtype)) :
    Except (Fault α) (Volume α) := do
  v.toStored (← outputDtype v choices known)

/-- **An orientation as it is written**, which has four rows and columns. -/
def affineOfLiteral (l : Literal α) : Except (Fault α) (Matrix 4 4 α) := do
  let t ← l.toReals
  if t.shape = [4, 4] then (homogeneous? 3 t).elim (.error .shapeMismatch) .ok else .error .shapeMismatch

/-- **A volume without its series axes**, if they all have size one. -/
def dropSeries (v : Volume α) : Volume α :=
  if 3 < v.shape.length && (v.shape.drop 3).all (· == 1) then (v.reshape? (v.shape.take 3)).getD v else v

/-- **What stands in the file of an array that could not be finished.** -/
def unfinished : String := "array"

/-- **Storing a volume in a file.**  A file that cannot hold the cells stays unfinished. -/
def store (o : FileOptions α) (h : FileHints α) (v : Volume α) : Task α (Written α) := do
  let d ← outputDtype v [o.dtype] h.dtype
  let path ← o.pathFor h
  let extension := (Path.parts path).2.2
  let rounded ← if d.isInteger && !v.dtype.isInteger then v.rounded else pure v
  if extension == ".npy" || extension == ".npz" then
    let cells ← rounded.cast d
    let path := if Path.endsWith path ".npy" then path else path ++ ".npy"
    let kept := cells.dtype ≠ .other
    let files ← (← get).files.write path (if kept then .array cells else .text unfinished)
    modify fun w => { w with files }
    if !kept then throw .notStored
    Task.report (.wrote path)
    return .array cells
  else
    let some format := ImageFormat.ofExtension? extension | throw (.unwritable extension)
    let cells ← (dropSeries rounded).cast d
    let affine ← ((o.affine <|> h.affine).mapM id : Except (Fault α) _)
    let image ← Image.make format cells affine h.header
    let files ← (← get).files.write path (.image image)
    modify fun w => { w with files }
    Task.report (.wrote path)
    return .image image.volume image.affine

/-- **Storing a volume**, with the options of a call before those of the writer. -/
def write (w : Writer α) (call : FileOptions α) (h : FileHints α) (v : Volume α) : Task α (Written α) :=
  match w with
  | converter dtype => return .array (← convert v [call.dtype, dtype] h.dtype)
  | file options =>
    let o := call.orElse options
    if o.dry.isTrue then return .array v else store o h v

end Writer
end Regrid
