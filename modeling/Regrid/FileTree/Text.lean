import Regrid.FileTree
/-!
# Text — text files

A text that is not there is looked for in compressed form.  A path counts as one that is there also if it leads to
something after what leads out of the working directory is left out; opening it then fails.
-/
namespace Regrid.FileTree

variable {α : Type}

/-- **The place below the working directory that the components of a path lead to**, taken by their names alone. -/
def inside (t : FileTree α) (path : String) : List String :=
  let components := (Path.components path).foldl (fun (place : List String) component =>
    if component == "" || component == "." then place
    else if component == ".." then place.dropLast
    else place ++ [component]) []
  t.working ++ components

/-- **Something stands at a path**, or inside the working directory. -/
def isFound (t : FileTree α) (path : String) : Bool := t.existsAt path || t.has (t.inside path)

/-- **The text in a file with a path of a compressed file.**  No text is compressed, apart from the empty one. -/
def expandText (path content : String) : Option Compression → Except (Fault α) String
  | none => .ok content
  | some format =>
    if !content.isEmpty then .error (.notCompressed format path)
    else if format = .gzip then .ok content
    else .error (.emptyFile path)

def openText (t : FileTree α) (path : String) : Except (Fault α) String :=
  match t.fileAt? path with
  | some (.text content) => expandText path content (Compression.ofPath? path)
  | some .directory => .error (.isDirectory path)
  | some _ => .error (.notText path)
  | none => .error (t.absence path)

/-- **The text at a path**, whether or not its file is compressed. -/
def textAt (t : FileTree α) (path : String) : Except (Fault α) String :=
  match (Compression.candidates path).find? t.isFound with
  | some found => t.openText found
  | none => .error (.noSuchFile path)

end Regrid.FileTree
