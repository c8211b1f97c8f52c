import Regrid.Scalar
/-!
# Dtype — the types of the cells of a volume

Cells are truth values, integers of a fixed width, real or complex numbers of a precision, spans of time, text of a
bounded length, or values as they were written.  Integers wrap around when they are stored in a narrower type.
-/
namespace Regrid

/-- **Integers of a fixed width**, with or without a sign. -/
inductive IntType
  | int8
  | int16
  | int32
  | int64
  | uint8
  | uint16
  | uint32
  | uint64
  deriving DecidableEq, Repr

namespace IntType

def bits : IntType → Nat
  | int8 | uint8 => 8
  | int16 | uint16 => 16
  | int32 | uint32 => 32
  | int64 | uint64 => 64

/-- **Whether there are negative values.** -/
def signed : IntType → Bool
  | int8 | int16 | int32 | int64 => true
  | _ => false

/-- **The number of values.** -/
def count (t : IntType) : Nat := 1 <<< t.bits

/-- **The smallest value.** -/
def minimum (t : IntType) : Int := if t.signed then -(t.count / 2) else 0

/-- **The greatest value.** -/
def maximum (t : IntType) : Int := t.minimum + (t.count - 1)

/-- **A value is in range.** -/
def holds (t : IntType) (n : Int) : Bool := t.minimum ≤ n && n ≤ t.maximum

abbrev Value (t : IntType) : Type := { n : Int // t.holds n = true }

/-- **The integer in range that agrees with a given one modulo the number of values.** -/
def residue (t : IntType) (n : Int) : Int :=
  let m := n % t.count
  if t.signed = true ∧ t.count / 2 ≤ m then m - t.count else m

theorem holds_residue (t : IntType) (n : Int) : t.holds (t.residue n) = true := by
  cases t <;> simp [holds, minimum, maximum, residue, count, signed, bits] <;> omega

theorem residue_eq_self {t : IntType} {n : Int} (h : t.holds n = true) : t.residue n = n := by
  cases t <;> simp [holds, minimum, maximum, count, signed, bits] at h <;> simp [residue, count, signed, bits] <;> omega

/-- **An integer stored in a type**, wrapped into its range. -/
def wrap (t : IntType) (n : Int) : t.Value := ⟨t.residue n, t.holds_residue n⟩

end IntType

/-- **The type of the cells of a volume.** -/
inductive Dtype
  | bool
  | int (type : IntType)
  | real (precision : Precision)
  /-- Complex numbers, whose parts have the given precision. -/
  | complex (precision : Precision)
  /-- Whole numbers of a unit of time, which may be left open. -/
  | span (unit : String)
  /-- Text of at most as many characters; as a type to convert to, a length of zero stands for one that suffices. -/
  | text (length : Nat)
  /-- Values as they were written, without arithmetic. -/
  | other
  deriving DecidableEq, Repr

namespace Dtype

/-- **Whether the values are whole numbers.** -/
def isInteger : Dtype → Bool
  | int _ | span _ => true
  | _ => false

/-- **The most characters of a value that is written as text.** -/
def textLength : Dtype → Nat
  | bool => 5
  | int t => (Nat.toDigits 10 (t.count - 1)).length + (if t.signed then 1 else 0)
  | real .extended => 48
  | real _ => 32
  | complex .extended => 96
  | complex _ => 64
  | span _ => 21
  | text n => n
  | other => 1

end Dtype
end Regrid
