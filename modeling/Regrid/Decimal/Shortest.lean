import Regrid.Decimal
/-!
# Shortest — the fewest digits that read back

The reals that round to a finite member of a floating format form an interval around it.  The shortest decimal in that
interval identifies the member; of two equally short ones the nearer is taken.
-/
namespace Regrid.Decimal

/-- **The interval of reals that round to `significand * 2 ^ exponent`**, scaled by four halves of its unit: its lower
end, its middle and its upper end, over a common denominator. -/
structure Interval where
  low : Nat
  middle : Nat
  high : Nat
  denominator : Nat
  /-- Whether the ends themselves round to the value. -/
  closed : Bool

/-- **The interval of a positive member of a format.** -/
def interval (f : Binary.Format) (significand : Nat) (exponent : Int) : Interval :=
  let (scale, denominator) := if 0 ≤ exponent then (1 <<< exponent.toNat, 4) else (1, 4 <<< (-exponent).toNat)
  let below := if significand = 1 <<< (f.digits - 1) ∧ f.minExponent < exponent then 1 else 2
  { low := (4 * significand - below) * scale
    middle := 4 * significand * scale
    high := (4 * significand + 2) * scale
    denominator := denominator
    closed := significand % 2 = 0 }

namespace Interval

/-- **A decimal coefficient over `10 ^ (-e)` lies in the interval.** -/
def contains (i : Interval) (c : Nat) (e : Int) : Bool :=
  let (value, scale) := if 0 ≤ e then (c * Nat.pow 10 e.toNat, 1) else (c, Nat.pow 10 (-e).toNat)
  let v := value * i.denominator
  if i.closed then i.low * scale ≤ v && v ≤ i.high * scale else i.low * scale < v && v < i.high * scale

/-- **The coefficient of exponent `e` in the interval that is nearest to its middle**, if there is one. -/
def best? (i : Interval) (e : Int) : Option Nat :=
  let (num, den) :=
    if 0 ≤ e then (i.middle, i.denominator * Nat.pow 10 e.toNat) else (i.middle * Nat.pow 10 (-e).toNat, i.denominator)
  let below := num / den
  let preferred := Binary.roundDiv num den
  let other := if preferred = below then below + 1 else below
  if i.contains preferred e then some preferred else if i.contains other e then some other else none

/-- **The first exponent, from `e` downwards, whose decimals meet the interval**, with the coefficient there. -/
def search (i : Interval) : Nat → Int → Nat × Int
  | 0, e => ((i.best? e).getD 0, e)
  | fuel + 1, e => match i.best? e with
    | some c => (c, e)
    | none => search i fuel (e - 1)

end Interval

/-- **The shortest decimal that reads back as a finite member of a format.** -/
def shortest (f : Binary.Format) (negative : Bool) (significand : Nat) (exponent : Int) : Decimal :=
  if significand = 0 then ⟨negative, 0, 0⟩
  else
    let (num, den) := Binary.quotient significand exponent
    let (c, e) := (interval f significand exponent).search 17 (magnitude num den)
    (⟨negative, c, e⟩ : Decimal).trim

/-- **How a number is laid out**: the powers of ten written positionally, and the fewest digits of an exponent. -/
structure Layout where
  lowest : Int
  beyond : Int
  exponentDigits : Nat

/-- **Numbers from `10 ^ -4` up to `10 ^ 16` are positional**; an exponent has a sign and at least two digits. -/
def plain : Layout := ⟨-4, 16, 2⟩

/-- **An exponent with its sign and at least `width` digits.** -/
def exponentText (width : Nat) (e : Int) : String :=
  let ds := digits e.natAbs
  "e" ++ (if e < 0 then "-" else "+") ++ String.ofList (List.replicate (width - ds.length) '0' ++ ds)

/-- **A decimal with at least one digit after the point**, or in scientific notation outside the layout's range. -/
def layOut (l : Layout) (d : Decimal) : String :=
  let d := d.trim
  let sign := if d.negative then "-" else ""
  let ds := digits d.coefficient
  let leading : Int := d.exponent + ds.length - 1
  if d.coefficient = 0 then sign ++ "0.0"
  else if l.lowest ≤ leading && leading < l.beyond then
    let (whole, fraction) := d.parts
    sign ++ String.ofList whole ++ "." ++ (if fraction.isEmpty then "0" else String.ofList fraction)
  else
    let rest := ds.drop 1
    sign ++ String.ofList (ds.take 1) ++ (if rest.isEmpty then "" else "." ++ String.ofList rest)
      ++ exponentText l.exponentDigits leading

/-- **The shortest text of a `Float` among those that a precision can store.** -/
def shortestText (p : Precision) (x : Float) : String :=
  let f := Binary.format (if p = .extended then .double else p)
  match (Binary.ofFloat x).round f with
  | .nan => "nan"
  | .infinity negative => if negative then "-inf" else "inf"
  | .finite negative significand exponent => (shortest f negative significand exponent).layOut plain

end Regrid.Decimal
