import Regrid.Dtype
import Regrid.Literal.Coerce
import Regrid.Text.Display
/-!
# Value — the values of a cell type

A cell holds a truth value, an integer of a fixed width, a real or complex number stored with a precision, a span of
time, a text of a bounded length, or a value as it was written.  `Dtype.convert` takes a value from one type to another,
and `Dtype.join` is the type in which the values of two types can stand side by side.
-/
namespace Regrid

/-- **The values a cell of a type can have.** -/
abbrev Dtype.Value (α : Type) : Dtype → Type
  | .bool => Bool
  | .int t => t.Value
  | .real _ => α
  | .complex _ => α × α
  | .span _ => IntType.int64.Value
  | .text _ => String
  | .other => Literal α

/-- **A cell on its own**, with its type. -/
structure Cell (α : Type) where
  dtype : Dtype
  value : dtype.Value α

namespace Dtype

variable {α : Type} [Scalar α]

/-- **The integer part of a real number stored in an integer type.**  Beyond 64 bits it is the smallest such integer. -/
def intOfReal (t : IntType) (x : α) : t.Value :=
  let least := IntType.int64.minimum
  let n := if Scalar.isFinite x then Scalar.trunc x else least
  t.wrap (if least ≤ n && n ≤ IntType.uint64.maximum then n else least)

/-- **A value as it was written, stored in an integer type.**  A whole number has to be in range, and the integer part
of another number in the range of 64 bits. -/
def intOfLiteral (t : IntType) : Literal α → Except (Fault α) t.Value
  | .number (.int n) => if h : t.holds n = true then .ok ⟨n, h⟩ else .error .outOfRange
  | l => do
    let n ← l.toInt
    let widest : IntType := if t = .uint64 then .uint64 else .int64
    if IntType.int64.minimum ≤ n && n ≤ widest.maximum then return t.wrap n else .error .outOfRange

/-- **A text stored with at most `n` characters**, without the null characters at its end. -/
def fitText (n : Nat) (s : String) : String :=
  String.ofList (((s.toList.take n).reverse.dropWhile (· == '\x00')).reverse)

/-- **A value as text**, if there are words for it. -/
def toText : (d : Dtype) → d.Value α → Except (Fault α) String
  | .bool, b => .ok (Text.ofNumber (.bool b : Number α))
  | .int _, n => .ok (toString n.val)
  | .real p, x => .ok (Scalar.text p x)
  | .text _, s => .ok s
  | .other, l => .ok (Text.standalone l)
  | .complex _, _ | .span _, _ => .error .unsupportedOperation

/-- **Converting a value to another type**: a number is true unless it is zero, integers wrap around, real numbers lose
their fractions and are rounded to their precision.  A value that is null is not a number. -/
def convert : (source target : Dtype) → source.Value α → Except (Fault α) (target.Value α)
  | .bool, .bool, b => .ok b
  | .bool, .int t, b => .ok (t.wrap (Number.ofBool b))
  | .bool, .real _, b => .ok (Scalar.ofBool b)
  | .bool, .complex _, b => .ok (Scalar.ofBool b, 0)
  | .bool, .span _, b => .ok (IntType.int64.wrap (Number.ofBool b))
  | .bool, .other, b => .ok (.number (.bool b))
  | .int _, .bool, n => .ok (n.val != 0)
  | .int _, .int t, n => .ok (t.wrap n.val)
  | .int _, .real p, n => .ok (Scalar.storeInt p n.val)
  | .int _, .complex p, n => .ok (Scalar.storeInt p n.val, 0)
  | .int _, .span _, n => .ok (IntType.int64.wrap n.val)
  | .int _, .other, n => .ok (.number (.int n.val))
  | .real _, .bool, x => .ok (!(x == 0))
  | .real _, .int t, x => .ok (intOfReal t x)
  | .real _, .real p, x => .ok (Scalar.narrow p x)
  | .real _, .complex p, x => .ok (Scalar.narrow p x, 0)
  | .real _, .span _, x => .ok (intOfReal .int64 x)
  | .real _, .other, x => .ok (.number (.real x))
  | .complex _, .complex p, (x, y) => .ok (Scalar.narrow p x, Scalar.narrow p y)
  | .text _, .bool, s => .ok !s.isEmpty
  | .text _, .int t, s => intOfLiteral t (.text s)
  | .text _, .real p, s => return Scalar.narrow p (← Literal.toReal (.text s))
  | .text _, .complex p, s => return (Scalar.narrow p (← Literal.toReal (.text s)), 0)
  | .text _, .other, s => .ok (.text s)
  | .other, .bool, l => .ok l.isTrue
  | .other, .int t, l => intOfLiteral t l
  | .other, .real p, l => return Scalar.narrow p (← l.toCell)
  | .other, .complex p, l => return (Scalar.narrow p (← l.toReal), 0)
  | .other, .other, l => .ok l
  | d, .text n, x => return fitText n (← toText d x)
  | _, _, _ => .error .unsupportedOperation

/-- **A value as it is written, as a value of a type.** -/
def ofLiteral : (d : Dtype) → Literal α → Except (Fault α) (d.Value α)
  | .bool, l => .ok l.isTrue
  | .int t, l => intOfLiteral t l
  | .real p, l => return Scalar.narrow p (← l.toCell)
  | .text n, l => .ok (fitText n (Text.standalone l))
  | .other, l => .ok l
  | .complex p, l => return (Scalar.narrow p (← l.toCell), 0)
  | .span _, l => intOfLiteral .int64 l

/-- **The mark for a missing cell of a type**: not a number if there is one, zero otherwise. -/
def missing : Dtype → Cell α
  | .bool => ⟨.bool, false⟩
  | .int t => ⟨.int t, t.wrap 0⟩
  | .real p => ⟨.real p, Scalar.nan⟩
  | .complex p => ⟨.complex p, (Scalar.nan, 0)⟩
  | .span _ => ⟨.span "", IntType.int64.wrap 0⟩
  | .text _ => ⟨.text 1, "0"⟩
  | .other => ⟨.int .int64, IntType.int64.wrap 0⟩

/-- **A value as a number to compute with**; text is none, and neither is a value as it was written. -/
def toScalar : (d : Dtype) → d.Value α → Except (Fault α) α
  | .bool, b => .ok (Scalar.ofBool b)
  | .int _, n => .ok (Scalar.ofInt n.val)
  | .real _, x => .ok x
  | .other, .number n => do
    discard n.toReal
    .error .unsupportedOperation
  | .other, _ => .error .wrongKind
  | _, _ => .error .unsupportedOperation

/-- **A value read as a real number**, one after the other: a text is a numeral. -/
def readReal : (d : Dtype) → d.Value α → Except (Fault α) α
  | .text _, s => Literal.toReal (.text s)
  | .other, l => l.toReal
  | d, x => d.toScalar x

/-- **A value as it was written**, if it is stored like that. -/
def asWritten? : (d : Dtype) → d.Value α → Option (Literal α)
  | .other, l => some l
  | _, _ => none

/-- **Whether a value is a finite number.** -/
def isFinite : (d : Dtype) → d.Value α → Except (Fault α) Bool
  | .bool, _ | .int _, _ => .ok true
  | .real _, x => .ok (Scalar.isFinite x)
  | .other, .number (.int n) =>
    if IntType.int64.minimum ≤ n && n ≤ IntType.uint64.maximum then .ok true else .error .wrongKind
  | .other, .number n => .ok (Scalar.isFinite (n.toScalar : α))
  | _, _ => .error .wrongKind

/-- **A number rounded to an integer**, zero if it is not a number. -/
def roundToInteger (x : α) : α :=
  if Scalar.isNaN x then 0 else if Scalar.isFinite x then Scalar.ofInt (Scalar.rint x) else x

/-- **The precision that has all values of an integer type**, or the greatest one if none has. -/
def precisionOf (t : IntType) : Precision :=
  if t.bits ≤ 8 then .half else if t.bits ≤ 16 then .single else .double

/-- **The integer type that has all values of two others**, if there is one. -/
def joinInts? (s t : IntType) : Option IntType :=
  [IntType.int8, .uint8, .int16, .uint16, .int32, .uint32, .int64, .uint64].find? fun u =>
    u.minimum ≤ s.minimum && u.minimum ≤ t.minimum && s.maximum ≤ u.maximum && t.maximum ≤ u.maximum

/-- **The type in which the values of two types can stand side by side.** -/
def join (a b : Dtype) : Except (Fault α) Dtype :=
  match a, b with
  | .other, _ | _, .other => .ok .other
  | .text m, d | d, .text m => .ok (.text (max m d.textLength))
  | .bool, d | d, .bool => .ok d
  | .int s, .int t => .ok ((joinInts? s t).elim (.real .double) .int)
  | .int t, .real p | .real p, .int t => .ok (.real (p.max (precisionOf t)))
  | .real p, .real q => .ok (.real (p.max q))
  | _, _ => if a = b then .ok a else .error .noCommonDtype

end Dtype
end Regrid
