import Regrid.Image
import Regrid.Path
/-!
# FileTree — directories and what their files hold

A file tree maps places to files.  A place is the list of names on the way from the root; every proper prefix of a
place that holds something is a directory.  A path denotes a place relative to the working directory, unless it starts
at the root.
-/
namespace Regrid

/-- **What stands at a place of a file tree.** -/
inductive File (α : Type)
  | directory
  | text (content : String)
  /-- An array without an orientation. -/
  | array (v : Volume α)
  | image (i : Image α)

/-- **Places and what they hold**; each place stands once. -/
structure FileTree (α : Type) where
  /-- The place of the directory the program works in. -/
  working : List String
  /-- The place of the home directory of its user. -/
  home : List String
  entries : List (List String × File α)

namespace FileTree

variable {α : Type}

def empty (working home : List String) : FileTree α := ⟨working, home, []⟩

def homePath (t : FileTree α) : String := "/" ++ "/".intercalate t.home

/-- **What a place holds**, unless it is a directory that is only known by what is inside. -/
def get? (t : FileTree α) (place : List String) : Option (File α) := t.entries.lookup place

def isDirectory (t : FileTree α) (place : List String) : Bool :=
  place.isPrefixOf t.working || place.isPrefixOf t.home || t.entries.any fun (p, f) =>
    (place.isPrefixOf p && place != p) || (place == p && f matches .directory)

/-- **A place holds something.** -/
def has (t : FileTree α) (place : List String) : Bool := t.isDirectory place || (t.get? place).isSome

/-- **Putting a file in a place**, instead of what was there. -/
def insert (t : FileTree α) (place : List String) (f : File α) : FileTree α :=
  { t with
    entries :=
      if t.entries.any (·.1 == place) then t.entries.map fun e => if e.1 == place then (place, f) else e
      else t.entries ++ [(place, f)] }

/-- **The names inside a directory**, each once. -/
def children (t : FileTree α) (place : List String) : List String :=
  let below := (t.working :: t.home :: t.entries.map (·.1)).filterMap fun p =>
    if place.isPrefixOf p then (p.drop place.length).head? else none
  below.eraseDups

/-- **One step along a path** from a place, which has to be a directory. -/
def step? (t : FileTree α) (place : List String) (component : String) : Option (List String) :=
  if !t.isDirectory place then none
  else if component == "" || component == "." then some place
  else if component == ".." then some place.dropLast
  else some (place ++ [component])

/-- **The place a path denotes**, whether or not there is something; all places on the way to it are directories. -/
def place? (t : FileTree α) (path : String) : Option (List String) :=
  if path.isEmpty then none
  else (Path.components path).foldlM t.step? (if path.toList.head? == some '/' then [] else t.working)

/-- **The place a path denotes by its text alone**, as if every component before the last were a directory. -/
def denoted (t : FileTree α) (path : String) : List String :=
  (Path.components path).foldl (fun place component =>
    if component == "" || component == "." then place
    else if component == ".." then place.dropLast
    else place ++ [component]) (if path.toList.head? == some '/' then [] else t.working)

/-- **The place a path denotes**, if it holds something. -/
def resolve? (t : FileTree α) (path : String) : Option (List String) := (t.place? path).filter t.has

/-- **A path denotes something.** -/
def existsAt (t : FileTree α) (path : String) : Bool := (t.resolve? path).isSome

/-- **A path denotes a directory.** -/
def isDirectoryAt (t : FileTree α) (path : String) : Bool := (t.place? path).any t.isDirectory

def fileAt? (t : FileTree α) (path : String) : Option (File α) :=
  (t.resolve? path).bind fun place => if t.isDirectory place then some .directory else t.get? place

/-- **The names inside the directory a path denotes**; the empty path denotes the working directory. -/
def childrenAt (t : FileTree α) (path : String) : List String :=
  match t.place? (if path.isEmpty then "." else path) with
  | some place => if t.isDirectory place then t.children place else []
  | none => []

/-- **The first place on the way along a path at which there is no directory.** -/
def obstacle? (t : FileTree α) (path : String) : Option (List String) :=
  let start := if path.toList.head? == some '/' then [] else t.working
  let walk := (Path.components path).foldl (fun (state : Except (List String) (List String)) component =>
    state.bind fun place => (t.step? place component).elim (.error place) .ok) (.ok start)
  match walk with
  | .ok _ => none
  | .error place => some place

/-- **The most bytes of a name, and of a path.** -/
def lengthLimits : Nat × Nat := (255, 4095)

/-- **The last name of a place is too long for a file.** -/
def isLong (place : List String) : Bool := place.getLast?.any fun name => lengthLimits.1 < name.utf8ByteSize

/-- **Why a path denotes nothing**: on the way there is a file, a name that is too long, or nothing. -/
def absence (t : FileTree α) (path : String) : Fault α :=
  match t.obstacle? path with
  | some place => if t.has place then .notDirectory path else if isLong place then .longName path else .noSuchFile path
  | none => .noSuchFile path

/-- **Writing a file**, whose directory has to be there. -/
def write (t : FileTree α) (path : String) (f : File α) : Except (Fault α) (FileTree α) :=
  if path.toList.contains '\x00' then .error (.nullInPath path)
  else if lengthLimits.2 < path.utf8ByteSize then .error (.longName path)
  else match t.place? path with
    | some place =>
      if t.isDirectory place then .error (.isDirectory path)
      else if isLong place then .error (.longName path)
      else .ok (t.insert place f)
    | none => .error (t.absence path)

/-- **The tree with files of given paths**, all of them below the working directory, which is also the home. -/
def ofFiles (files : List (String × File α)) : FileTree α :=
  files.foldl (fun t (path, f) => t.insert (t.working ++ (Path.components path).filter (!·.isEmpty)) f)
    (empty ["home"] ["home"])

/-- **The files below the working directory, by path**, directories left out. -/
def toFiles (t : FileTree α) : List (String × File α) :=
  t.entries.filterMap fun (place, f) =>
    if t.working.isPrefixOf place && !(f matches .directory) then
      some ("/".intercalate (place.drop t.working.length), f)
    else none

end FileTree
end Regrid
