import Regrid.Matrix
import Regrid.Tensor
/-!
# Spline — cubic B-splines on a mirrored line

A line of values continues beyond its ends by reflection in its first and last value.  `Spline.coefficients` finds the
weights with which shifted B-splines pass through the values; `Spline.weights` are the four B-splines that do not
vanish at a position.
-/
namespace Regrid.Spline

variable {α : Type} [Scalar α]

/-- **The root inside the unit circle** of the polynomial `z ^ 2 + 4 z + 1` that belongs to the cubic B-spline. -/
def pole : α := Scalar.sqrt 3 - 2

/-- **The factor that the two recursions leave out.** -/
def gain : α := (1 - pole) * (1 - 1 / pole)

/-- **A power of the pole.** -/
def polePower : Nat → α
  | 0 => 1
  | n + 1 => polePower n * pole

/-- **The first value of the forward recursion** on a mirrored line `c` of at least two values. -/
def firstForward (c : List α) : α :=
  let n := c.length
  let wrap : α := polePower (n - 1)
  let inner := (c.zip (c.reverse.zip (List.range n))).drop 1 |>.take (n - 2)
  let start := c.headD 0 + wrap * c.getLastD 0
  inner.foldl (fun s (x, y, i) => s + polePower i * (x + wrap * y)) start / (1 - wrap * wrap)

/-- **The forward recursion**: each value adds the pole times the result before it. -/
def forward (previous : α) : List α → List α
  | [] => []
  | c :: cs => let r := c + pole * previous; r :: forward r cs

/-- **The last value of the backward recursion**, from the last two values. -/
def lastBackward (beforeLast last : α) : α := (pole * beforeLast + last) * pole / (pole * pole - 1)

/-- **The backward recursion**: each result is the pole times the difference of the result after it and the value. -/
def backward (last : α) (c : List α) : List α :=
  c.foldr (fun x r => pole * (r.headD 0 - x) :: r) [last]

/-- **The spline coefficients of a line of values**; a single value is its own coefficient. -/
def coefficients (values : List α) : List α :=
  if values.length ≤ 1 then values else
    let c := values.map (· * gain)
    let first := firstForward c
    let d := first :: forward first c.tail
    let e := d.dropLast
    backward (lastBackward (e.getLastD 0) (d.getLastD 0)) e

/-- **A position reflected into a line of `n` values**, or into the half step beyond its last one. -/
def reflect (n : Nat) (x : α) : α :=
  let period : Int := 2 * n - 2
  if n ≤ 1 then 0
  else if x < 0 then
    let y := Scalar.ofInt period * Scalar.ofInt (Scalar.trunc (-x / Scalar.ofInt period)) + x
    if y ≤ Scalar.ofInt (1 - n) then y + Scalar.ofInt period else -y
  else if Scalar.ofInt (n - 1) < x then
    let y := x - Scalar.ofInt period * Scalar.ofInt (Scalar.trunc (x / Scalar.ofInt period))
    if Scalar.ofInt n ≤ y then Scalar.ofInt period - y else y
  else x

/-- **An index reflected into a line of `n` values.** -/
def reflectIndex (n : Nat) (i : Int) : Nat :=
  if n ≤ 1 then 0 else
    let k := (i % (2 * n - 2)).toNat
    if k < n then k else 2 * n - 2 - k

/-- **The weights of the four coefficients around a position**, given its distance `t` from the second of them. -/
def weights (t : α) : Vector α 4 :=
  let u := 1 - t
  let b := (t * t * (t - 2) * 3 + 4) / 6
  let c := (u * u * (u - 2) * 3 + 4) / 6
  let a := u * u * u / 6
  #v[a, b, c, 1 - a - b - c]

def coefficientsAlong (axis : Nat) (t : Tensor α) : Tensor α :=
  let line (index : List Nat) : List α :=
    (List.range (t.shape[axis]?.getD 0)).filterMap fun i => t.get? (index.set axis i)
  Tensor.build t.shape fun index => ((coefficients (line index))[index[axis]?.getD 0]?).getD Scalar.nan

/-- **Spline coefficients along the three spatial axes of an array.** -/
def spatialCoefficients (t : Tensor α) : Tensor α :=
  coefficientsAlong 2 (coefficientsAlong 1 (coefficientsAlong 0 t))

end Regrid.Spline
