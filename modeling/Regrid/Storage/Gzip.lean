import Regrid.Storage.Deflate
/-!
# Gzip — compressed files

A compressed file is a header, compressed bytes, a checksum of the expanded bytes, and their number.
-/
namespace Regrid.Storage.Gzip

/-- **One step of the checksum**: a division by the generating polynomial, bit by bit. -/
def checksumBit (c : UInt32) : UInt32 := if c &&& 1 = 1 then (c >>> 1) ^^^ 0xedb88320 else c >>> 1

/-- **The checksum after a further byte.** -/
def checksumByte (c : UInt32) (b : UInt8) : UInt32 := Nat.repeat checksumBit 8 (c ^^^ b.toUInt32)

def checksum (bytes : List UInt8) : UInt32 := bytes.foldl checksumByte 0xffffffff ^^^ 0xffffffff

/-- **The place after a text that ends with a zero byte**, searched within as many steps as there are bytes. -/
def afterText (bytes : ByteArray) : Nat → Nat → Nat
  | 0, place => place
  | fuel + 1, place => if (bytes[place]?).getD 0 = 0 then place + 1 else afterText bytes fuel (place + 1)

/-- **The place of the first compressed byte**, after the parts of the header that its flags announce. -/
def headerEnd? (bytes : ByteArray) : Option Nat := do
  let start ← slice? bytes 0 10
  if start.take 3 ≠ [0x1f, 0x8b, 8] then none
  let flags := (start[3]?.getD 0).toNat
  let has (mask : Nat) : Bool := flags / mask % 2 == 1
  let extra := if has 4 then 2 + (((slice? bytes 10 2).map ByteOrder.little.decode).getD 0) else 0
  let afterExtra := 10 + extra
  let afterName := if has 8 then afterText bytes bytes.size afterExtra else afterExtra
  let afterComment := if has 16 then afterText bytes bytes.size afterName else afterName
  return afterComment + if has 2 then 2 else 0

/-- **Expanding a compressed file**, whose checksum has to be right. -/
def expand? (bytes : ByteArray) : Option ByteArray := do
  let (out, place) ← Deflate.expand? bytes (← headerEnd? bytes)
  let stated ← slice? bytes place 4
  if ByteOrder.little.decode stated = (checksum out.data.toList).toNat then some out else none

/-- **A file that expands to given bytes.** -/
def store (bytes : List UInt8) : List UInt8 :=
  [0x1f, 0x8b, 8, 0, 0, 0, 0, 0, 0, 0xff] ++ Deflate.store bytes
    ++ ByteOrder.little.encode 4 (checksum bytes).toNat ++ ByteOrder.little.encode 4 bytes.length

end Regrid.Storage.Gzip
