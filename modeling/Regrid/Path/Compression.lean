import Regrid.Path
/-!
# Compression — the formats of compressed files

The extension of a path tells whether its file is compressed, and how.
-/
namespace Regrid

/-- **The formats of compressed files.** -/
inductive Compression
  | bzip2
  | gzip
  | lzma
  deriving DecidableEq, Repr

namespace Compression

/-- **The extensions of compressed files**, in the order in which they are looked for. -/
def extensions : List (String × Compression) := [(".bz2", bzip2), (".gz", gzip), (".xz", lzma), (".lzma", lzma)]

/-- **The format of the compressed file at a path.** -/
def ofPath? (path : String) : Option Compression := extensions.lookup (Path.extension path)

/-- **The paths at which a text may stand**: as it is named, or compressed. -/
def candidates (path : String) : List String :=
  if (ofPath? path).isSome then [path] else path :: extensions.map fun (e, _) => path ++ e

end Compression
end Regrid
