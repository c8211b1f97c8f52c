import Regrid.FileTree
import Regrid.Storage.Gzip
import Regrid.Storage.Mgh
import Regrid.Storage.Npy
/-!
# Storage — files as bytes

The extension of a path tells how the bytes of its file are to be read.  What holds no volume is text.
-/
namespace Regrid

namespace Storage

def compressedExtensions : List String := [".nii.gz", ".mgz"]

/-- **The bytes of an image before they are compressed**, for a path with the given extension. -/
def expanded? (extension : String) (bytes : ByteArray) : Option ByteArray :=
  if compressedExtensions.contains extension then Gzip.expand? bytes else some bytes

def compressed (extension : String) (bytes : List UInt8) : List UInt8 :=
  if compressedExtensions.contains extension then Gzip.store bytes else bytes

def volume? (extension : String) (bytes : ByteArray) : Option (File Float) :=
  if extension == ".npy" then (Npy.decode? bytes).map .array
  else do
    let content ← expanded? extension bytes
    match ← ImageFormat.ofExtension? extension with
    | .nifti => (Nifti.decode? content).map .image
    | .mgh => (Mgh.decode? content).map .image

end Storage

namespace File

open Storage

/-- **The file that bytes stand for** at a path. -/
def ofBytes (path : String) (bytes : ByteArray) : File Float :=
  (volume? (Path.parts path).2.2 bytes).getD <| .text <|
    (String.fromUTF8? bytes).getD ((textAt? bytes 0 bytes.size).getD "")

/-- **The bytes that stand for a file** at a path, unless it is a directory. -/
def toBytes? (path : String) (f : File Float) : Option (List UInt8) :=
  let extension := (Path.parts path).2.2
  match f with
  | directory => none
  | text content => some content.toUTF8.data.toList
  | array v => Npy.encode? v
  | image i =>
    (match i.header with
      | .nifti affine zooms => Nifti.encode? i.volume affine zooms
      | .mgh lengths directions centre step => Mgh.encode? i.volume lengths directions centre step).map
      (compressed extension)

end File
end Regrid
