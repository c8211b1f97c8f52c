import Regrid.Dtype.Name
import Regrid.Storage.Cells
import Regrid.Text.Numeral
/-!
# Npy — files that hold one array

A file starts with a mark, a version and the length of a text.  The text is a record of three fields: the type of the
cells with the order of their bytes, whether the first axis varies fastest, and the shape.  The cells follow.
-/
namespace Regrid.Storage.Npy

/-- **The mark at the start of a file.** -/
def mark : List UInt8 := [0x93, 78, 85, 77, 80, 89]

/-- **The code of a cell type**, with the mark of its byte order. -/
def dtypeCode? : Dtype → Option String
  | .bool => some "|b1"
  | .int t =>
    some ((if t.bits = 8 then "|" else "<") ++ (if t.signed then "i" else "u") ++ toString (t.bits / 8))
  | .real p => some ("<f" ++ toString (p.bits / 8))
  | .complex p => some ("<c" ++ toString (p.bits / 4))
  | .span unit => some ("<m8" ++ (if unit.isEmpty then "" else "[" ++ unit ++ "]"))
  | .text n => some ("<U" ++ toString n)
  | .other => none

def shapeText : Shape → String
  | [n] => "(" ++ toString n ++ ",)"
  | shape => "(" ++ ", ".intercalate (shape.map toString) ++ ")"

/-- **The record at the start of a file**, filled up with blanks so that the cells start at a multiple of 64. -/
def record (code : String) (shape : Shape) : String :=
  let fields := "\x7b'descr': '" ++ code ++ "', 'fortran_order': False, 'shape': " ++ shapeText shape ++ ", \x7d"
  let blanks := (64 - (fields.length + 11) % 64) % 64
  fields ++ String.ofList (List.replicate blanks ' ') ++ "\n"

def encode? (v : Volume Float) : Option (List UInt8) := do
  let text := (record (← dtypeCode? v.dtype) v.shape).toUTF8.data.toList
  return mark ++ [1, 0] ++ ByteOrder.little.encode 2 text.length ++ text ++ cellBytes .little .lastFastest v

/-- **What follows the first occurrence of a key in a text.** -/
def after? (key : List Char) : List Char → Option (List Char)
  | [] => none
  | c :: cs => if key.isPrefixOf (c :: cs) then some ((c :: cs).drop key.length) else after? key cs

/-- **What follows the name of a field**, without the blanks before it. -/
def field? (name : String) (text : List Char) : Option (List Char) :=
  (after? ("'" ++ name ++ "':").toList text).map (·.dropWhile (· == ' '))

/-- **The type of the cells and the order of their bytes.** -/
def dtypeField? (text : List Char) : Option (Dtype × ByteOrder) := do
  match ← field? "descr" text with
  | '\'' :: code =>
    let code := code.takeWhile (· != '\'')
    return (← Dtype.ofName? (String.ofList code), if code.head? == some '>' then .big else .little)
  | _ => none

def orderField? (text : List Char) : Option AxisOrder := do
  let value ← field? "fortran_order" text
  if "True".toList.isPrefixOf value then return .firstFastest
  else if "False".toList.isPrefixOf value then return .lastFastest
  else none

def shapeField? (text : List Char) : Option Shape := do
  match ← field? "shape" text with
  | '(' :: rest =>
    let items := ((rest.takeWhile (· != ')')).splitOn ',').map String.ofList
    (items.filter fun s => !(Text.trim s.toList).isEmpty).mapM fun s => (Text.readInt? s).map Int.toNat
  | _ => none

def decode? (bytes : ByteArray) : Option (Volume Float) := do
  if (← slice? bytes 0 6) ≠ mark then none
  let width := if (← natAt? bytes .little 6 1) = 1 then 2 else 4
  let length ← natAt? bytes .little 8 width
  let text := (← textAt? bytes (8 + width) length).toList
  let (dtype, order) ← dtypeField? text
  volumeAt? bytes (8 + width + length) order (← orderField? text) dtype (← shapeField? text)

end Regrid.Storage.Npy
