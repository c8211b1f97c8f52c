import Regrid.Scalar.Double
import Regrid.Scalar.Extended
import Regrid.Storage.Bytes
import Regrid.Volume
/-!
# Cells — volumes as rows of bytes

The cells of a volume stand one after the other in a file: with the last axis varying fastest, or with the first.
-/
namespace Regrid

namespace Dtype

open Storage

/-- **The number of bytes of a cell**, for the types that files hold. -/
def byteWidth? : Dtype → Option Nat
  | bool => some 1
  | int t => some (t.bits / 8)
  | real p => some (p.bits / 8)
  | complex p => some (p.bits / 4)
  | span _ => some 8
  | text n => some (4 * n)
  | other => none

def realBytes (order : ByteOrder) (p : Precision) (x : Float) : List UInt8 :=
  order.encode (p.bits / 8) <| match p with
    | .extended => (Binary.ofFloat x).toExtendedBits
    | p => (Binary.ofFloat x).toBits (Binary.format p)

/-- **The real number that bytes stand for.** -/
def realOfBytes (order : ByteOrder) (p : Precision) (bytes : List UInt8) : Float :=
  Binary.toFloat <| match p with
    | .extended => Binary.ofExtendedBits (order.decode bytes)
    | p => Binary.ofBits (Binary.format p) (order.decode bytes)

/-- **A cell as bytes**, for the types that files hold. -/
def toBytes (order : ByteOrder) : (d : Dtype) → d.Value Float → List UInt8
  | bool, b => order.encode 1 b.toNat
  | int t, n => order.encodeInt (t.bits / 8) n.val
  | real p, x => realBytes order p x
  | complex p, (x, y) => realBytes order p x ++ realBytes order p y
  | span _, n => order.encodeInt 8 n.val
  | text n, s =>
    let codes := s.toList.map Char.toNat
    (codes ++ List.replicate (n - codes.length) 0).flatMap (order.encode 4)
  | other, _ => []

/-- **The cell that bytes stand for**, for the types that files hold. -/
def ofBytes? (order : ByteOrder) (bytes : List UInt8) : (d : Dtype) → Option (d.Value Float)
  | bool => some (order.decode bytes != 0)
  | int t => some (t.wrap (order.decodeInt bytes))
  | real p => some (realOfBytes order p bytes)
  | complex p =>
    let width := p.bits / 8
    some (realOfBytes order p (bytes.take width), realOfBytes order p (bytes.drop width))
  | span _ => some (IntType.int64.wrap (order.decodeInt bytes))
  | text n =>
    let code (i : Nat) := order.decode ((bytes.drop (4 * i)).take 4)
    some (fitText n (String.ofList ((List.range n).map fun i => Char.ofNat (code i))))
  | other => none

end Dtype

namespace Storage

/-- **Which axis varies fastest** from one cell to the next. -/
inductive AxisOrder
  | firstFastest
  | lastFastest
  deriving DecidableEq, Repr

def AxisOrder.indices (order : AxisOrder) (shape : Shape) : List (List Nat) :=
  match order with
  | lastFastest => shape.indices
  | firstFastest => (Shape.indices shape.reverse).map List.reverse

def cellBytes (bytes : ByteOrder) (axes : AxisOrder) (v : Volume Float) : List UInt8 :=
  (axes.indices v.shape).flatMap fun index => ((v.cell? index).map (v.dtype.toBytes bytes)).getD []

/-- **The tensor whose cells stand in a file one after the other.** -/
def AxisOrder.read? {β : Type} (order : AxisOrder) (shape : Shape) (cell? : Nat → Option β) : Option (Tensor β) :=
  match order with
  | lastFastest => Tensor.buildM shape fun index => (shape.offset? index).bind cell?
  | firstFastest => Tensor.buildM shape fun index => (Shape.offset? shape.reverse index.reverse).bind cell?

/-- **The volume whose cells stand in a file from an offset on**, if there are enough. -/
def volumeAt? (bytes : ByteArray) (offset : Nat) (order : ByteOrder) (axes : AxisOrder) (d : Dtype) (shape : Shape) :
    Option (Volume Float) := do
  let width ← d.byteWidth?
  return ⟨d, ← axes.read? shape fun i => do d.ofBytes? order (← slice? bytes (offset + i * width) width)⟩

end Storage
end Regrid
