import Mathlib
import Regrid.Proofs.Lawful
import Regrid.Proofs.Rounding
/-!
# Exact — real numbers as scalars

Exact arithmetic is the instance of `Scalar` in which sums, products and roots are not rounded: the finite scalars are
the real numbers, the values that are not finite follow the usual rules, and there is one zero only.  Storing a number
with double precision keeps it; half and single precision store the nearest member of their formats.
-/
namespace Regrid

/-- **Exact numbers**: the real numbers, the two infinities, and the value that is not a number. -/
inductive Exact
  | finite (x : ℝ)
  | infinity (negative : Bool)
  | nan

namespace Exact

open Classical in
/-- **The sign of an infinity**, turned by a negative factor. -/
noncomputable def turned (negative : Bool) (x : ℝ) : Bool := xor negative (decide (x < 0))

noncomputable def add : Exact → Exact → Exact
  | finite x, finite y => finite (x + y)
  | infinity s, finite _ | finite _, infinity s => infinity s
  | infinity s, infinity t => if s = t then infinity s else nan
  | nan, _ | _, nan => nan

noncomputable def neg : Exact → Exact
  | finite x => finite (-x)
  | infinity s => infinity !s
  | nan => nan

noncomputable def mul : Exact → Exact → Exact
  | finite x, finite y => finite (x * y)
  | infinity s, finite x | finite x, infinity s => if x = 0 then nan else infinity (turned s x)
  | infinity s, infinity t => infinity (xor s t)
  | nan, _ | _, nan => nan

/-- **Division.**  A number other than zero becomes infinite when it is divided by zero. -/
noncomputable def div : Exact → Exact → Exact
  | finite x, finite y => if y ≠ 0 then finite (x / y) else if x = 0 then nan else infinity (turned false x)
  | finite _, infinity _ => finite 0
  | infinity s, finite x => infinity (turned s x)
  | infinity _, infinity _ | nan, _ | _, nan => nan

def lt : Exact → Exact → Prop
  | finite x, finite y => x < y
  | finite _, infinity s => s = false
  | infinity s, finite _ => s = true
  | infinity s, infinity t => s = true ∧ t = false
  | nan, _ | _, nan => False

def le : Exact → Exact → Prop
  | finite x, finite y => x ≤ y
  | finite _, infinity s => s = false
  | infinity s, finite _ => s = true
  | infinity s, infinity t => s = true ∨ t = false
  | nan, _ | _, nan => False

noncomputable def beq : Exact → Exact → Bool
  | finite x, finite y => decide (x = y)
  | infinity s, infinity t => s == t
  | _, _ => false

noncomputable def sqrt : Exact → Exact
  | finite x => if x < 0 then nan else finite (Real.sqrt x)
  | infinity s => if s then nan else infinity s
  | nan => nan

noncomputable def floor : Exact → Int
  | finite x => ⌊x⌋
  | _ => 0

def isNaN : Exact → Bool
  | nan => true
  | _ => false

def isFinite : Exact → Bool
  | finite _ => true
  | _ => false

/-- **The real number that a finite number is**, zero for all others. -/
def toReal : Exact → ℝ
  | finite x => x
  | _ => 0

/-- **The member of a format nearest to a real number**, an infinity beyond its end. -/
noncomputable def nearest (f : Binary.Format) (x : ℝ) : Exact :=
  if |f.rounded x| < 2 ^ f.overflow then finite (f.rounded x) else infinity (turned false x)

/-- **Storing a number with a precision.** -/
noncomputable def narrow : Precision → Exact → Exact
  | .half, finite x => nearest (Binary.format .half) x
  | .single, finite x => nearest (Binary.format .single) x
  | _, x => x

/-- **Storing an integer with a precision.**  Half precision is reached by way of single precision. -/
noncomputable def storeInt : Precision → Int → Exact
  | .half, n => narrow .half (narrow .single (finite n))
  | p, n => narrow p (finite n)

/-- **The words for a number**, which real numbers do not have. -/
def text : Exact → String
  | finite _ => ""
  | infinity negative => if negative then "-inf" else "inf"
  | nan => "nan"

noncomputable instance : Scalar Exact where
  add := add
  sub x y := add x (neg y)
  mul := mul
  div := div
  neg := neg
  lt := lt
  le := le
  beq := beq
  decLt _ _ := Classical.propDecidable _
  decLe _ _ := Classical.propDecidable _
  ofInt n := finite n
  ofDecimal m e := finite (m * 10 ^ e)
  nan := nan
  infinity := infinity false
  sqrt := sqrt
  floor := floor
  isNaN := isNaN
  isFinite := isFinite
  narrow := narrow
  storeInt := storeInt
  text _ := text

section Finite

variable (x y : ℝ)

@[simp] theorem finite_add : finite x + finite y = finite (x + y) := rfl

@[simp] theorem finite_sub : finite x - finite y = finite (x - y) := by
  rw [sub_eq_add_neg]; rfl

@[simp] theorem finite_mul : finite x * finite y = finite (x * y) := rfl

@[simp] theorem neg_finite : -finite x = finite (-x) := rfl

theorem finite_div {y : ℝ} (h : y ≠ 0) : finite x / finite y = finite (x / y) := if_pos h

@[simp] theorem finite_lt : finite x < finite y ↔ x < y := Iff.rfl

@[simp] theorem finite_le : finite x ≤ finite y ↔ x ≤ y := Iff.rfl

@[simp] theorem finite_beq : (finite x == finite y) = decide (x = y) := rfl

@[simp] theorem sqrt_finite {x : ℝ} (h : 0 ≤ x) : Scalar.sqrt (finite x) = finite (Real.sqrt x) := if_neg h.not_gt

@[simp] theorem floor_finite : Scalar.floor (finite x) = ⌊x⌋ := rfl

@[simp] theorem isFinite_finite : Scalar.isFinite (finite x) = true := rfl

theorem exists_finite {x : Exact} (h : Scalar.isFinite x = true) : ∃ r, x = finite r := by
  cases x with
  | finite r => exact ⟨r, rfl⟩
  | infinity | nan => cases h

@[simp] theorem isNaN_finite : Scalar.isNaN (finite x) = false := rfl

end Finite

@[simp] theorem ofInt_eq (n : Int) : (Scalar.ofInt n : Exact) = finite n := rfl

@[simp] theorem ofNat_eq (n : Nat) : (OfNat.ofNat n : Exact) = finite n := by
  change finite ((n : Int) : ℝ) = finite n
  rw [Int.cast_natCast]

@[simp] theorem half_eq : (Scalar.half : Exact) = finite (1 / 2) := by
  simp [Scalar.half, finite_div]

@[simp] theorem narrow_double (x : Exact) : Scalar.narrow .double x = x := by
  cases x <;> rfl

@[simp] theorem ceil_finite (x : ℝ) : Scalar.ceil (finite x) = ⌈x⌉ := by
  simp [Scalar.ceil, Int.floor_neg]

theorem nearest_of_isMember {f : Binary.Format} (hd : 0 < f.digits) {x : ℝ} (hx : f.IsMember x)
    (hlt : |x| < 2 ^ f.overflow) : nearest f x = finite x := by
  unfold nearest
  rw [Binary.Format.rounded_of_isMember hd hx, if_pos hlt]

theorem isMember_of_nearest {f : Binary.Format} (hd : 0 < f.digits) {x r : ℝ} (h : nearest f x = finite r) :
    f.IsMember r := by
  unfold nearest at h
  split at h
  · cases h
    exact Binary.Format.isMember_rounded hd x
  · cases h

theorem nearest_intCast {f : Binary.Format} (hd : 0 < f.digits) (he : f.minExponent ≤ 0) {n : ℤ}
    (hn : |n| ≤ 2 ^ f.digits) (hlt : |(n : ℝ)| < 2 ^ f.overflow) : nearest f n = finite n :=
  nearest_of_isMember hd (Binary.Format.isMember_intCast hn he) hlt

theorem narrow_eq_of_nearest {p : Precision} (hp : ∀ x, narrow p (finite x) = nearest (Binary.format p) x)
    (hd : 0 < (Binary.format p).digits) (x : Exact) : narrow p (narrow p x) = narrow p x := by
  cases x with
  | finite x =>
    rw [hp]
    by_cases h : |(Binary.format p).rounded x| < 2 ^ (Binary.format p).overflow
    · have hx : nearest (Binary.format p) x = finite ((Binary.format p).rounded x) := if_pos h
      rw [hx, hp]
      exact nearest_of_isMember hd (Binary.Format.isMember_rounded hd x) h
    · have hx : nearest (Binary.format p) x = infinity (turned false x) := if_neg h
      rw [hx]
      cases p <;> rfl
  | infinity s => cases p <;> rfl
  | nan => cases p <;> rfl

theorem narrow_narrow (p : Precision) (x : Exact) : narrow p (narrow p x) = narrow p x := by
  cases p with
  | half => exact narrow_eq_of_nearest (fun _ => rfl) (by decide) x
  | single => exact narrow_eq_of_nearest (fun _ => rfl) (by decide) x
  | double | extended => cases x <;> rfl

theorem narrow_ofBool (p : Precision) (b : Bool) : narrow p (Scalar.ofBool b) = Scalar.ofBool b := by
  have hb : ∃ n : ℤ, |n| ≤ 1 ∧ (Scalar.ofBool b : Exact) = finite n := by
    cases b
    · exact ⟨0, by decide, by simp [Scalar.ofBool]⟩
    · exact ⟨1, by decide, by simp [Scalar.ofBool]⟩
  obtain ⟨n, hn, hb⟩ := hb
  have hr : |(n : ℝ)| ≤ 1 := by exact_mod_cast hn
  rw [hb]
  cases p with
  | half =>
    exact nearest_intCast (by decide) (by decide) (hn.trans (by decide)) (hr.trans_lt (by norm_num [Binary.format]))
  | single =>
    exact nearest_intCast (by decide) (by decide) (hn.trans (by decide)) (hr.trans_lt (by norm_num [Binary.format]))
  | double | extended => rfl

theorem add_zero (x : Exact) : x + Scalar.ofInt 0 = x := by
  cases x with
  | finite x => simp
  | infinity s => rfl
  | nan => rfl

theorem zero_add (x : Exact) : finite 0 + x = x := by
  cases x with
  | finite x => simp
  | infinity s => rfl
  | nan => rfl

theorem one_mul (x : Exact) : finite 1 * x = x := by
  cases x with
  | finite x => simp
  | infinity s =>
    have hsign : turned s 1 = s := by
      rw [turned, decide_eq_false (not_lt.2 zero_le_one), Bool.xor_false]
    exact (if_neg one_ne_zero).trans (congrArg infinity hsign)
  | nan => rfl

instance : Scalar.Lawful Exact where
  isFinite_ofInt := fun _ _ => rfl
  zero_add_zero := add_zero _
  add_add_zero := fun _ _ => add_zero _
  narrow_double := narrow_double
  storeInt_double := fun _ => rfl
  narrow_narrow := narrow_narrow
  narrow_storeInt := by
    intro p n
    cases p with
    | half => exact narrow_narrow .half _
    | single => exact narrow_narrow .single (finite n)
    | double | extended => rfl
  narrow_ofBool := narrow_ofBool
  narrow_nan := fun p => by cases p <;> rfl

end Exact
end Regrid
