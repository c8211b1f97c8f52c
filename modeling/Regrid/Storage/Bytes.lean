/-!
# Bytes — numbers as rows of bytes

A number is written with a fixed count of bytes, the least or the most significant one first.  `decode_encode` says that
reading gives back what was written, up to the digits that do not fit.
-/
namespace Regrid.Storage

/-- **Which byte of a number comes first.** -/
inductive ByteOrder
  | little
  | big
  deriving DecidableEq, Repr

namespace ByteOrder

/-- **The last `width` digits of a number to the base 256**, the least significant one first. -/
def littleDigits : Nat → Nat → List UInt8
  | 0, _ => []
  | width + 1, n => UInt8.ofNat n :: littleDigits width (n / 256)

/-- **The number with given digits to the base 256**, the least significant one first. -/
def ofLittleDigits : List UInt8 → Nat
  | [] => 0
  | b :: bs => b.toNat + 256 * ofLittleDigits bs

/-- **A number in `width` bytes.** -/
def encode (order : ByteOrder) (width n : Nat) : List UInt8 :=
  match order with
  | little => littleDigits width n
  | big => (littleDigits width n).reverse

/-- **The number that bytes stand for.** -/
def decode (order : ByteOrder) (bytes : List UInt8) : Nat :=
  match order with
  | little => ofLittleDigits bytes
  | big => ofLittleDigits bytes.reverse

/-- **The integer that bytes stand for**, the highest bit being its sign. -/
def decodeInt (order : ByteOrder) (bytes : List UInt8) : Int :=
  let n := order.decode bytes
  if 2 * n < Nat.pow 256 bytes.length then n else (n : Int) - Nat.pow 256 bytes.length

/-- **An integer in `width` bytes.** -/
def encodeInt (order : ByteOrder) (width : Nat) (n : Int) : List UInt8 :=
  order.encode width (n % Nat.pow 256 width).toNat

theorem ofLittleDigits_littleDigits (width n : Nat) :
    ofLittleDigits (littleDigits width n) = n % Nat.pow 256 width := by
  induction width generalizing n with
  | zero => simp [littleDigits, ofLittleDigits, Nat.mod_one]
  | succ width ih =>
    have digit : (UInt8.ofNat n).toNat = n % 256 := UInt8.toNat_ofNat' ..
    rw [littleDigits, ofLittleDigits, ih, digit, Nat.pow_eq, Nat.pow_eq, Nat.pow_succ', Nat.mod_mul]

theorem decode_encode (order : ByteOrder) (width n : Nat) :
    order.decode (order.encode width n) = n % Nat.pow 256 width := by
  cases order with
  | little => exact ofLittleDigits_littleDigits width n
  | big => rw [decode, encode, List.reverse_reverse, ofLittleDigits_littleDigits]

end ByteOrder

/-- **The bytes at an offset**, if there are enough. -/
def slice? (bytes : ByteArray) (offset width : Nat) : Option (List UInt8) :=
  (List.range width).mapM fun i => bytes[offset + i]?

/-- **The text of the bytes at an offset**, one character per byte. -/
def textAt? (bytes : ByteArray) (offset width : Nat) : Option String :=
  (slice? bytes offset width).map fun bs => String.ofList (bs.map fun b => Char.ofNat b.toNat)

/-- **A natural number at an offset.** -/
def natAt? (bytes : ByteArray) (order : ByteOrder) (offset width : Nat) : Option Nat :=
  (slice? bytes offset width).map order.decode

def intAt? (bytes : ByteArray) (order : ByteOrder) (offset width : Nat) : Option Int :=
  (slice? bytes offset width).map order.decodeInt

def zeros (n : Nat) : List UInt8 := List.replicate n 0

/-- **Bytes at given offsets**, in rising order, with zeros between them and up to a size. -/
def layOut (size : Nat) (fields : List (Nat × List UInt8)) : List UInt8 :=
  let out := fields.foldl (fun out (offset, bytes) => out ++ zeros (offset - out.length) ++ bytes) []
  out ++ zeros (size - out.length)

end Regrid.Storage
