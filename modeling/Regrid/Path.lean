/-!
# Path — the parts of a file name

A path is a text whose components are separated by slashes.  `Path.parts` cuts it into directory, base name and
extension; an extension starts at the last dot that is not among the leading dots of the last component, and the mark
of a compressed file is kept together with the extension before it.
-/
namespace Regrid.Path

/-- **The characters up to and including the last one that satisfies a predicate, and those after it.** -/
def breakAfterLast (p : Char → Bool) (s : List Char) : List Char × List Char :=
  let tail := (s.reverse.takeWhile fun c => !p c).reverse
  (s.take (s.length - tail.length), tail)

/-- **Dropping the slashes at the end of a text that is not made of slashes only.** -/
def trimSlashes (s : List Char) : List Char :=
  if s.all (· == '/') then s else (s.reverse.dropWhile (· == '/')).reverse

/-- **The directory and the last component of a path.** -/
def splitChars (s : List Char) : List Char × List Char :=
  let (head, tail) := breakAfterLast (· == '/') s
  (trimSlashes head, tail)

/-- **A component without its extension, and the extension.** -/
def splitExtensionChars (s : List Char) : List Char × List Char :=
  let dots := s.takeWhile (· == '.')
  let rest := s.drop dots.length
  if rest.contains '.' then
    let (head, tail) := breakAfterLast (· == '.') rest
    (dots ++ head.dropLast, '.' :: tail)
  else (s, [])

/-- **The extension of compressed files.** -/
def compressed : List Char := ['.', 'g', 'z']

/-- **The base name and the extension of a component**; the mark of a compressed file follows another extension. -/
def splitVolumeName (s : List Char) : List Char × List Char :=
  let (base, extension) := splitExtensionChars s
  if extension == compressed then
    let (base, inner) := splitExtensionChars base
    (base, inner ++ extension)
  else (base, extension)

/-- **The directory, the base name and the extension of a path**, as characters. -/
def partsChars (s : List Char) : List Char × List Char × List Char :=
  let (directory, name) := splitChars s
  let (base, extension) := splitVolumeName name
  (directory, base, extension)

/-- **A path below a directory**; a path that starts with a slash stands on its own. -/
def joinChars (directory name : List Char) : List Char :=
  if name.head? == some '/' then name
  else if directory.isEmpty || directory.getLast? == some '/' then directory ++ name
  else directory ++ '/' :: name

/-- **The directory and the last component of a path.** -/
def split (s : String) : String × String :=
  let (directory, name) := splitChars s.toList
  (String.ofList directory, String.ofList name)

/-- **The last extension of a path**, with its dot. -/
def extension (s : String) : String := String.ofList (splitExtensionChars (splitChars s.toList).2).2

/-- **The directory, the base name and the extension of a path.** -/
def parts (s : String) : String × String × String :=
  let (directory, base, extension) := partsChars s.toList
  (String.ofList directory, String.ofList base, String.ofList extension)

def join (directory name : String) : String := String.ofList (joinChars directory.toList name.toList)

/-- **The components of a path**, empty ones included. -/
def components (s : String) : List String := (s.toList.splitOn '/').map String.ofList

/-- **A text ends with another.** -/
def endsWith (s ending : String) : Bool := ending.toList.isSuffixOf s.toList

end Regrid.Path
