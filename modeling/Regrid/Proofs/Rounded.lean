import Mathlib
import Regrid.Proofs.Counting
/-!
# Rounded — the numbers of double precision

The numbers of double precision are the exact numbers that rounding to that format keeps, and each of their operations
is the exact one with its result rounded.  As among exact numbers, there is one zero only.  A whole number is rounded to
a whole number, so it is either a number of double precision itself or another one takes its place.
-/
namespace Regrid
namespace Exact

/-- **The number of double precision nearest to an exact number.** -/
noncomputable def toDouble : Exact → Exact
  | finite x => nearest (Binary.format .double) x
  | x => x

theorem toDouble_of_isMember {x : ℝ} (hx : (Binary.format .double).IsMember x) (hlt : |x| < 2 ^ 1024) :
    (finite x).toDouble = finite x := nearest_of_isMember (by decide) hx hlt

theorem toDouble_of_lt {x : ℝ} (h : |(Binary.format .double).rounded x| < 2 ^ 1024) :
    (finite x).toDouble = finite ((Binary.format .double).rounded x) := if_pos h

theorem toDouble_of_le {x : ℝ} (h : 2 ^ 1024 ≤ |(Binary.format .double).rounded x|) :
    (finite x).toDouble = infinity (turned false x) := if_neg (not_lt.2 h)

/-- **A number underflows** to zero. -/
theorem toDouble_of_underflow {x : ℝ} (h : |x| < 2 ^ (Binary.format .double).minExponent / 2) :
    (finite x).toDouble = finite 0 := by
  have hzero := Binary.Format.rounded_eq_zero_of_lt h
  rw [toDouble_of_lt (by rw [hzero, abs_zero]; positivity), hzero]

theorem toDouble_toDouble (x : Exact) : x.toDouble.toDouble = x.toDouble := by
  cases x with
  | finite x =>
    rcases lt_or_ge |(Binary.format .double).rounded x| (2 ^ 1024) with hlt | hle
    · rw [toDouble_of_lt hlt]
      exact toDouble_of_isMember (Binary.Format.isMember_rounded (by decide) x) hlt
    · rw [toDouble_of_le hle]
      rfl
  | infinity | nan => rfl

theorem toDouble_finite_iff {x : ℝ} :
    (finite x).toDouble = finite x ↔ (Binary.format .double).IsMember x ∧ |x| < 2 ^ 1024 := by
  refine ⟨fun h => ?_, fun h => toDouble_of_isMember h.1 h.2⟩
  rcases lt_or_ge |(Binary.format .double).rounded x| (2 ^ 1024) with hlt | hle
  · have hrounded : (Binary.format .double).rounded x = x := by
      rw [toDouble_of_lt hlt] at h
      injection h
    rw [hrounded] at hlt
    exact ⟨hrounded ▸ Binary.Format.isMember_rounded (by decide) x, hlt⟩
  · rw [toDouble_of_le hle] at h
    cases h

/-- **A whole number** is rounded to a whole number, or overflows. -/
theorem toDouble_intCast (n : ℤ) : (∃ m : ℤ, (finite n).toDouble = finite m) ∨
    (finite n).toDouble = infinity (turned false n) := by
  rcases lt_or_ge |(Binary.format .double).rounded n| (2 ^ 1024) with hlt | hle
  · obtain ⟨m, hm⟩ := Binary.Format.exists_int_eq_rounded (f := Binary.format .double) (by decide) (by decide) n
    exact .inl ⟨m, (toDouble_of_lt hlt).trans (congrArg finite hm)⟩
  · exact .inr (toDouble_of_le hle)

/-- **A whole number is kept** as soon as rounding it down gives it back. -/
theorem floor_toDouble_intCast_iff {n : ℤ} :
    Scalar.floor (finite n).toDouble = n ↔ (finite n).toDouble = finite n := by
  refine ⟨fun h => ?_, fun h => by rw [h, floor_finite, Int.floor_intCast]⟩
  rcases toDouble_intCast n with ⟨m, hm⟩ | hinfinity
  · rw [hm, floor_finite, Int.floor_intCast] at h
    rw [hm, h]
  -- an infinity is rounded down to zero, which is kept
  · rw [hinfinity] at h
    have hzero : 0 = n := h
    subst hzero
    exact toDouble_finite_iff.2 ⟨Binary.Format.isMember_intCast (by decide) (by decide), by simp⟩

theorem isFinite_toDouble_iff (x : ℝ) :
    Scalar.isFinite (finite x).toDouble = true ↔ |x| < (2 ^ 53 - 1 / 2) * 2 ^ 971 := by
  have hfinite : Scalar.isFinite (finite x).toDouble = true ↔ |(Binary.format .double).rounded x| < 2 ^ 1024 := by
    rcases lt_or_ge |(Binary.format .double).rounded x| (2 ^ 1024) with hlt | hle
    · rw [toDouble_of_lt hlt]
      exact iff_of_true rfl hlt
    · rw [toDouble_of_le hle]
      exact iff_of_false Bool.false_ne_true (not_lt.2 hle)
  rw [hfinite, Binary.Format.abs_rounded]
  exact Binary.Format.rounded_lt_overflow_iff (f := Binary.format .double) (by decide) (by decide) (abs_nonneg x)

theorem toDouble_of_small {n : ℤ} (h : |n| ≤ 2 ^ 53) : (finite n).toDouble = finite n := by
  have hr : |(n : ℝ)| ≤ 2 ^ 53 := by exact_mod_cast h
  exact toDouble_finite_iff.2 ⟨Binary.Format.isMember_intCast h (by decide),
    hr.trans_lt (pow_lt_pow_right₀ (by norm_num) (by norm_num))⟩

theorem toDouble_finite {x : ℝ} (h : |x| ≤ 2 ^ 1023) :
    (finite x).toDouble = finite ((Binary.format .double).rounded x) := by
  have hmember : (Binary.format .double).IsMember (2 ^ 1023) := Binary.Format.isMember_zpow (e := 1023) (by decide)
  have hpower : (2 : ℝ) ^ 1023 < 2 ^ 1024 := pow_lt_pow_right₀ (by norm_num) (by norm_num)
  refine toDouble_of_lt ?_
  rw [Binary.Format.abs_rounded]
  exact (Binary.Format.rounded_le (by decide) hmember (abs_nonneg x) h).trans_lt hpower

/-- **A format of fewer digits and exponents** has only members of double precision. -/
theorem toDouble_nearest {f : Binary.Format} (hd : 0 < f.digits) (hdigits : f.digits ≤ 53)
    (hmin : -1074 ≤ f.minExponent) (hoverflow : f.overflow ≤ 1024) (x : ℝ) : (nearest f x).toDouble = nearest f x := by
  by_cases h : |f.rounded x| < 2 ^ f.overflow
  · obtain ⟨k, e, hx, hk, he⟩ := Binary.Format.isMember_rounded hd x
    rw [show nearest f x = finite (f.rounded x) from if_pos h]
    refine toDouble_of_isMember ⟨k, e, hx, hk.trans (pow_le_pow_right₀ (by norm_num) hdigits), hmin.trans he⟩ ?_
    exact h.trans_le (zpow_le_zpow_right₀ (by norm_num) hoverflow)
  · rw [show nearest f x = infinity (turned false x) from if_neg h]
    rfl

/-- **Storing a number of double precision** with any precision keeps it one. -/
theorem toDouble_narrow (p : Precision) {x : Exact} (hx : x.toDouble = x) :
    (Scalar.narrow p x).toDouble = Scalar.narrow p x := by
  cases x with
  | finite x =>
    cases p with
    | half | single => exact toDouble_nearest (by decide) (by decide) (by decide) (by decide) x
    | double | extended => exact hx
  | infinity | nan => cases p <;> rfl

end Exact

/-- **A number of double precision**, by its exact value. -/
structure Rounded where
  value : Exact
  kept : value.toDouble = value

namespace Rounded

open Exact

noncomputable def round (x : Exact) : Rounded := ⟨x.toDouble, x.toDouble_toDouble⟩

noncomputable instance : Scalar Rounded where
  add x y := round (x.value + y.value)
  sub x y := round (x.value - y.value)
  mul x y := round (x.value * y.value)
  div x y := round (x.value / y.value)
  neg x := round (-x.value)
  lt x y := x.value < y.value
  le x y := x.value ≤ y.value
  beq x y := x.value == y.value
  decLt _ _ := Classical.propDecidable _
  decLe _ _ := Classical.propDecidable _
  ofInt n := round (Scalar.ofInt n)
  ofDecimal m e := round (Scalar.ofDecimal m e)
  nan := round Scalar.nan
  infinity := round Scalar.infinity
  sqrt x := round (Scalar.sqrt x.value)
  floor x := Scalar.floor x.value
  isNaN x := Scalar.isNaN x.value
  isFinite x := Scalar.isFinite x.value
  narrow p x := round (Scalar.narrow p x.value)
  storeInt p n := round (Scalar.storeInt p n)
  text p x := Scalar.text p x.value

variable (x y : Rounded)

@[simp] theorem value_div : (x / y).value = (x.value / y.value).toDouble := rfl

@[simp] theorem value_ofInt (n : ℤ) : (Scalar.ofInt n : Rounded).value = (finite n).toDouble := rfl

theorem beq_eq : (x == y) = (x.value == y.value) := rfl

@[simp] theorem floor_eq : Scalar.floor x = Scalar.floor x.value := rfl

@[simp] theorem isNaN_eq : Scalar.isNaN x = Scalar.isNaN x.value := rfl

@[simp] theorem isFinite_eq : Scalar.isFinite x = Scalar.isFinite x.value := rfl

theorem round_value : round x.value = x := by
  cases x with
  | mk x kept => exact Rounded.mk.injEq _ _ _ _ ▸ kept

theorem add_ofInt_zero : x + Scalar.ofInt 0 = x := by
  have hzero : (Scalar.ofInt 0 : Rounded).value = finite (0 : ℤ) := toDouble_of_small (by norm_num)
  change round (x.value + (Scalar.ofInt 0 : Rounded).value) = x
  rw [hzero, ← ofInt_eq, Exact.add_zero, round_value]

theorem zero_add : 0 + x = x := by
  have hzero : (0 : Rounded).value = finite (0 : ℤ) := toDouble_of_small (by norm_num)
  change round ((0 : Rounded).value + x.value) = x
  rw [hzero, Int.cast_zero, Exact.zero_add, round_value]

theorem zero_mul_zero : (0 : Rounded) * 0 = 0 := by
  have hzero : (0 : Rounded).value = finite (0 : ℤ) := toDouble_of_small (by norm_num)
  change round ((0 : Rounded).value * (0 : Rounded).value) = 0
  rw [hzero, finite_mul, Int.cast_zero, mul_zero, ← Int.cast_zero]
  rfl

theorem value_ofInt_of_small {n : ℤ} (h : |n| ≤ 2 ^ 53) : (Scalar.ofInt n : Rounded).value = finite n :=
  toDouble_of_small h

theorem value_natCast {n : ℕ} (h : n ≤ 2 ^ 53) : (Scalar.ofInt n : Rounded).value = finite n :=
  (value_ofInt_of_small (by rw [Nat.abs_cast]; exact_mod_cast h)).trans (by rw [Int.cast_natCast])

@[simp] theorem value_zero : (0 : Rounded).value = finite 0 :=
  (value_natCast (n := 0) (by norm_num)).trans (by rw [Nat.cast_zero])

@[simp] theorem value_one : (1 : Rounded).value = finite 1 :=
  (value_natCast (n := 1) (by norm_num)).trans (by rw [Nat.cast_one])

theorem isFinite_ofInt_iff {n : ℤ} :
    Scalar.isFinite (Scalar.ofInt n : Rounded) = true ↔ |n| < 2 ^ 1024 - 2 ^ 970 := by
  have hend : ((2 ^ 53 - 1 / 2) * 2 ^ 971 : ℝ) = 2 ^ 1024 - 2 ^ 970 := by
    rw [sub_mul, ← pow_add, pow_succ' _ 970, ← mul_assoc, one_div_mul_cancel two_ne_zero,
      MulOneClass.one_mul]
  rw [isFinite_eq, value_ofInt, isFinite_toDouble_iff, hend]
  exact_mod_cast Iff.rfl

theorem isFinite_ofInt_of_small {n : ℤ} (h : |n| ≤ 2 ^ 64) :
    Scalar.isFinite (Scalar.ofInt n : Rounded) = true := by
  have hpower : (2 : ℤ) ^ 64 ≤ 2 ^ 970 := pow_le_pow_right₀ (by norm_num) (by norm_num)
  have hsplit : (2 : ℤ) ^ 1024 = 2 ^ 54 * 2 ^ 970 := (pow_add 2 54 970)
  rw [isFinite_ofInt_iff, hsplit]
  generalize (2 : ℤ) ^ 970 = greatest at hpower
  omega

theorem ceil_of_value {x : Rounded} {k : ℤ} (h : x.value = finite k) : Scalar.ceil x = k := by
  have hneg : (-x).value = finite (-k : ℤ) := by
    change (-x.value).toDouble = _
    obtain ⟨hmember, hlt⟩ := toDouble_finite_iff.1 (h ▸ x.kept)
    rw [h, neg_finite, ← Int.cast_neg]
    refine toDouble_finite_iff.2 ⟨?_, ?_⟩
    · rw [Int.cast_neg]
      exact hmember.neg
    · rwa [Int.cast_neg, abs_neg]
  rw [Scalar.ceil, floor_eq, hneg, floor_finite, Int.floor_intCast, neg_neg]

theorem trunc_of_value {x : Rounded} {k : ℤ} (h : x.value = finite k) : Scalar.trunc x = k := by
  rw [Scalar.trunc, ceil_of_value h, floor_eq, h, floor_finite, Int.floor_intCast, ite_self]

theorem isMember_of_value {r : ℝ} (h : x.value = finite r) : (Binary.format .double).IsMember r :=
  (toDouble_finite_iff.1 (h ▸ x.kept)).1

/-- **A number that is not whole** lies where double precision has all whole numbers and their halves. -/
theorem abs_lt_of_not_whole {r : ℝ} (hx : x.value = finite r) (hwhole : ∀ n : ℤ, r ≠ n) : |r| < 2 ^ 52 := by
  rcases (isMember_of_value x hx).eq_intCast_or_le with ⟨n, hn⟩ | hle
  · exact absurd hn (hwhole n)
  · refine lt_of_le_of_ne (hle.trans (by norm_num [Binary.format])) fun h => ?_
    rcases abs_choice r with hr | hr
    · exact hwhole (2 ^ 52) (by rw [← hr, h]; norm_num)
    · exact hwhole (-2 ^ 52) (by rw [← neg_neg r, ← hr, h]; norm_num)

/-- **Rounding to the nearest integer** is exact: the double of a number is compared with an odd integer. -/
theorem rint_of_value {r : ℝ} (hx : x.value = finite r) : Scalar.rint x = Binary.nearestEven r := by
  have hfloor : Scalar.floor x = ⌊r⌋ := by rw [floor_eq, hx, floor_finite]
  unfold Scalar.rint
  rw [hfloor]
  by_cases hwhole : ∃ n : ℤ, r = n
  · obtain ⟨n, rfl⟩ := hwhole
    have hself : ((Scalar.ofInt ⌊(n : ℝ)⌋ : Rounded) == x) = true := by
      rw [Int.floor_intCast, beq_eq, value_ofInt, ← hx, x.kept, hx, finite_beq]
      exact decide_eq_true rfl
    dsimp only
    rw [if_pos hself, Int.floor_intCast, Binary.nearestEven_intCast]
  have hsmall := abs_lt.1 (abs_lt_of_not_whole x hx (not_exists.1 hwhole))
  have hself : ((Scalar.ofInt ⌊r⌋ : Rounded) == x) = false := by
    rw [beq_eq, value_ofInt, hx]
    rcases toDouble_intCast ⌊r⌋ with ⟨m, hm⟩ | hinfinity
    · rw [hm, finite_beq]
      exact decide_eq_false fun h => hwhole ⟨m, h.symm⟩
    · rw [hinfinity]
      rfl
  have hmiddle : (Scalar.ofInt (2 * ⌊r⌋ + 1) : Rounded).value = finite (2 * ⌊r⌋ + 1) := by
    have hlow : -2 ^ 52 ≤ ⌊r⌋ := Int.le_floor.2 (by push_cast; linarith)
    have hhigh : ⌊r⌋ < 2 ^ 52 := Int.floor_lt.2 (by push_cast; linarith)
    refine (value_ofInt_of_small (abs_le.2 ⟨by omega, by omega⟩)).trans ?_
    push_cast
    rfl
  have hdouble : (x + x).value = finite (r + r) := by
    change (x.value + x.value).toDouble = _
    rw [hx, finite_add]
    refine toDouble_of_isMember (isMember_of_value x hx).double ?_
    have hpower : (2 : ℝ) ^ 53 < 2 ^ 1024 := pow_lt_pow_right₀ (by norm_num) (by norm_num)
    refine lt_trans (abs_lt.2 ⟨?_, ?_⟩) hpower <;> linarith
  have hlow : x + x < (Scalar.ofInt (2 * ⌊r⌋ + 1) : Rounded) ↔ Int.fract r < 1 / 2 := by
    change (x + x).value < (Scalar.ofInt (2 * ⌊r⌋ + 1) : Rounded).value ↔ _
    rw [hdouble, hmiddle, finite_lt, ← Int.self_sub_floor]
    constructor <;> intro h <;> linarith
  have hhigh : (Scalar.ofInt (2 * ⌊r⌋ + 1) : Rounded) < x + x ↔ 1 / 2 < Int.fract r := by
    change (Scalar.ofInt (2 * ⌊r⌋ + 1) : Rounded).value < (x + x).value ↔ _
    rw [hdouble, hmiddle, finite_lt, ← Int.self_sub_floor]
    constructor <;> intro h <;> linarith
  simp only [hself, hlow, hhigh, Bool.false_eq_true, if_false]
  rfl

theorem value_ofInt_nearestEven {r : ℝ} (hx : x.value = finite r) :
    (Scalar.ofInt (Binary.nearestEven r) : Rounded).value = finite (Binary.nearestEven r) := by
  by_cases hwhole : ∃ n : ℤ, r = n
  · obtain ⟨n, rfl⟩ := hwhole
    rw [Binary.nearestEven_intCast, value_ofInt, ← hx, x.kept]
  · have hsmall := abs_lt_of_not_whole x hx (not_exists.1 hwhole)
    have hle : |Binary.nearestEven r| ≤ 2 ^ 53 := Binary.abs_nearestEven_le (by push_cast; linarith)
    exact value_ofInt_of_small hle

instance : Scalar.Lawful Rounded where
  isFinite_ofInt hlow hhigh := isFinite_ofInt_of_small (abs_le.2 ⟨hlow, hhigh⟩)
  zero_add_zero := add_ofInt_zero _
  add_add_zero _ _ := add_ofInt_zero _
  narrow_double x := (congrArg round (Exact.narrow_double x.value)).trans x.round_value
  storeInt_double _ := rfl
  narrow_narrow p x := by
    change round (Scalar.narrow p (Scalar.narrow p x.value).toDouble) = round (Scalar.narrow p x.value)
    rw [toDouble_narrow p x.kept]
    exact congrArg round (Exact.narrow_narrow p x.value)
  narrow_storeInt p n := by
    change round (Scalar.narrow p (Scalar.storeInt p n : Exact).toDouble) = _
    have hsingle : (Scalar.narrow .single (finite n)).toDouble = Scalar.narrow .single (finite n) :=
      toDouble_nearest (by decide) (by decide) (by decide) (by decide) n
    cases p with
    | half =>
      rw [show (Scalar.storeInt .half n : Exact).toDouble = Scalar.storeInt .half n from toDouble_narrow .half hsingle]
      exact congrArg round (Scalar.Lawful.narrow_storeInt .half n)
    | single =>
      rw [show (Scalar.storeInt .single n : Exact).toDouble = Scalar.storeInt .single n from hsingle]
      exact congrArg round (Scalar.Lawful.narrow_storeInt .single n)
    | double | extended =>
      have hnarrow : ∀ p, p = .double ∨ p = .extended → ∀ x : Exact, Scalar.narrow p x = x := by
        rintro p (rfl | rfl) x <;> cases x <;> rfl
      rw [hnarrow _ (by simp)]
      exact round_value (Scalar.ofInt n)
  narrow_ofBool p b := by
    have hvalue : (Scalar.ofBool b : Rounded).value = Scalar.ofBool b := by
      cases b
      · exact (value_ofInt_of_small (n := 0) (by norm_num)).trans (by simp [Scalar.ofBool])
      · exact (value_ofInt_of_small (n := 1) (by norm_num)).trans (by simp [Scalar.ofBool])
    change round (Scalar.narrow p (Scalar.ofBool b : Rounded).value) = _
    rw [hvalue]
    refine (congrArg round (Exact.narrow_ofBool p b)).trans ?_
    rw [← hvalue, round_value]
  narrow_nan p := by cases p <;> rfl

instance : Scalar.Counting Rounded where
  floor_ofInt hlow hhigh := floor_toDouble_intCast_iff.2 (toDouble_of_small (abs_le.2 ⟨hlow, hhigh⟩))
  ceil_ofInt h := ceil_of_value (floor_toDouble_intCast_iff.1 h.floor)
  ofInt_beq_self h := by
    rw [beq_eq, value_ofInt, floor_toDouble_intCast_iff.1 h.floor, finite_beq]
    exact decide_eq_true rfl
  isNaN_ofInt h := by
    rw [isNaN_eq, value_ofInt, floor_toDouble_intCast_iff.1 h.floor, isNaN_finite]
  isNaN_nan := rfl

end Rounded
end Regrid
