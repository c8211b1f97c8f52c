import Regrid.FileTree
import Regrid.Path.Pattern
/-!
# Expand — the volumes that a list of path patterns denotes

Each entry is a pattern for paths, in which a tilde stands for the home directory.  Its matches are sorted; a match
that is a directory is replaced by the volumes inside it.
-/
namespace Regrid.FileTree

variable {α : Type}

/-- **A name that patterns match only with a dot of their own.** -/
def isHidden (name : String) : Bool := name.toList.head? == some '.'

/-- **The names in a directory that match a pattern**, or only the directories among them. -/
def matchingNames (t : FileTree α) (directory pattern : String) (directoriesOnly : Bool) : List String :=
  (t.childrenAt directory).filter fun name =>
    (isHidden pattern || !isHidden name) && Path.isInstance pattern name
      && (!directoriesOnly || t.isDirectoryAt (if directory.isEmpty then name else Path.join directory name))

/-- **The name itself if a directory has it**; the empty name stands for the directory. -/
def exactName (t : FileTree α) (directory name : String) : List String :=
  if name.isEmpty then if t.isDirectoryAt directory then [name] else []
  else if t.existsAt (if directory.isEmpty then name else Path.join directory name) then [name] else []

/-- **The paths that match a pattern**, whose directories are matched with at most `depth` steps. -/
def globWithin (t : FileTree α) : Nat → String → Bool → List String
  | 0, _, _ => []
  | depth + 1, pattern, directoriesOnly =>
    let (directory, name) := Path.split pattern
    let wild (s : String) := Path.Wildcard.present s.toList
    if !wild pattern then
      if (if name.isEmpty then t.isDirectoryAt directory else t.existsAt pattern) then [pattern] else []
    else if directory.isEmpty then t.matchingNames "" name directoriesOnly
    else
      let directories :=
        if directory != pattern && wild directory then t.globWithin depth directory true else [directory]
      directories.flatMap fun d =>
        (if wild name then t.matchingNames d name directoriesOnly else t.exactName d name).map (Path.join d)

/-- **The paths that match a pattern.** -/
def glob (t : FileTree α) (pattern : String) : List String := t.globWithin (pattern.length + 1) pattern false

/-- **Replacing a tilde at the start of a path by the home directory.** -/
def expandHome (t : FileTree α) (path : String) : String :=
  match path.toList with
  | ['~'] => t.homePath
  | '~' :: '/' :: rest => t.homePath ++ "/" ++ String.ofList rest
  | _ => path

/-- **Sorting texts by their characters.** -/
def sorted (xs : List String) : List String := xs.mergeSort fun a b => decide (a ≤ b)

def volumeExtensions : List String := [".nii", ".nii.gz", ".mgh", ".mgz", ".npy"]

/-- **The volumes in a directory**: what matches an extension, in order and each once. -/
def volumesIn (t : FileTree α) (directory : String) (extensions : List String) : List String :=
  (sorted (extensions.flatMap fun e => t.glob (Path.join directory ("*" ++ e)))).eraseDups

/-- **The paths of the volumes that patterns denote.** -/
def expandVolumes (t : FileTree α) (patterns : List String) (extensions : List String) : List String :=
  patterns.flatMap fun pattern =>
    (sorted (t.glob (t.expandHome pattern))).flatMap fun path =>
      if t.isDirectoryAt path then t.volumesIn path extensions else [path]

/-- **The texts that a literal runs through.** -/
def texts (l : Literal α) : Except (Fault α) (List String) :=
  match l.items?.bind (·.mapM fun | .text s => some s | _ => none) with
  | some xs => .ok xs
  | none => .error .wrongKind

/-- **The paths of the volumes that patterns denote**, for patterns and extensions as they are written.  The extensions
are read when there is a directory. -/
def expandLiterals (t : FileTree α) (patterns extensions : Literal α) : Except (Fault α) (List String) := do
  let found ← (← texts patterns).mapM fun pattern =>
    (sorted (t.glob (t.expandHome pattern))).mapM fun path => do
      if !t.isDirectoryAt path then return [path]
      return t.volumesIn path (← if extensions.isGiven then texts extensions else pure volumeExtensions)
  return found.flatten.flatten

end Regrid.FileTree
