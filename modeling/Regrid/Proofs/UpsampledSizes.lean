import Mathlib
import Regrid.Proofs.Rounded
import Regrid.Proofs.Resizers
import Regrid.Proofs.Written
import Regrid.Scalar.Double
/-!
# UpsampledSizes — the sizes that an upsampling makes room for

An upsampling divides the size of an axis by the reciprocal of its factor, and rounds down.  Both quotients have been
rounded to double precision before, so where the reciprocal was rounded up, the size is one voxel short of the product
of size and factor unless the second rounding makes up for it.  Whether it does is decided by whole numbers alone
(`Placement.upsampledSize`); for factors up to 74 it always does.
-/
namespace Regrid

open Exact

namespace Placement

/-- **The significand of a rounded reciprocal**: as many parts of the power of two that follows the number. -/
def reciprocal (f : ℕ) : ℕ := Binary.roundDiv (2 ^ (52 + Nat.clog 2 f)) f

/-- **The product of size and factor is reached** in spite of the error of the reciprocal, which is none if that was
rounded down: the error is made up for by rounding the quotient. -/
def Reaches (n f : ℕ) : Prop :=
  n * (reciprocal f * f - 2 ^ (52 + Nat.clog 2 f)) * 2 ^ 54 ≤ reciprocal f * 2 ^ Nat.clog 2 (n * f)

instance (n f : ℕ) : Decidable (Reaches n f) := inferInstanceAs (Decidable (_ ≤ _))

/-- **The size of an upsampled axis**: the product of size and factor, or one less if that is not reached. -/
def upsampledSize (n f : ℕ) : ℕ := if Reaches n f then n * f else n * f - 1

section Reciprocal

variable {f : ℕ}

theorem two_pow_clog_bounds (hf : 0 < f) : f ≤ 2 ^ Nat.clog 2 f ∧ 2 ^ Nat.clog 2 f < 2 * f := by
  refine ⟨Nat.le_pow_clog (by norm_num) f, ?_⟩
  rcases Nat.eq_or_lt_of_le hf with rfl | hone
  · simp
  · have hpos : 0 < Nat.clog 2 f := Nat.clog_pos (by norm_num) hone
    have hlt := Nat.pow_pred_clog_lt_self (b := 2) (by norm_num) hone
    rw [← Nat.succ_pred_eq_of_pos hpos, pow_succ]
    omega

theorem rounded_one_div (hf : 0 < f) (hsmall : f ≤ 2 ^ 53) :
    (Binary.format .double).rounded (1 / f) = reciprocal f / 2 ^ (52 + Nat.clog 2 f) := by
  obtain ⟨hlow, hhigh⟩ := two_pow_clog_bounds hf
  have hclog : Nat.clog 2 f ≤ 53 := Nat.clog_le_of_le_pow hsmall
  have hfr : (0 : ℝ) < f := Nat.cast_pos.2 hf
  have hlowr : (f : ℝ) ≤ 2 ^ Nat.clog 2 f := by exact_mod_cast hlow
  have hhighr : (2 : ℝ) ^ Nat.clog 2 f < 2 * f := by exact_mod_cast hhigh
  have hunit : (Binary.format .double).unit (1 / f) = -(52 + Nat.clog 2 f : ℕ) := by
    rw [Binary.Format.unit_eq (l := -(Nat.clog 2 f : ℤ))]
    · change max (-(Nat.clog 2 f : ℤ) - 52) (-1074) = _
      omega
    · rw [zpow_neg, zpow_natCast, inv_eq_one_div]
      exact one_div_le_one_div_of_le hfr hlowr
    · rw [zpow_add_one₀ two_ne_zero, zpow_neg, zpow_natCast, inv_mul_eq_div, div_lt_div_iff₀ hfr (by positivity)]
      linarith
  have hscaled : (1 / f : ℝ) / 2 ^ (-(52 + Nat.clog 2 f : ℕ) : ℤ) = (2 ^ (52 + Nat.clog 2 f) : ℕ) / f := by
    rw [zpow_neg, zpow_natCast, div_inv_eq_mul, one_div_mul_eq_div]
    push_cast
    rfl
  rw [Binary.Format.rounded, hunit, hscaled, Binary.nearestEven_div hf, zpow_neg, zpow_natCast, Int.cast_natCast]
  exact (div_eq_mul_inv _ _).symm

/-- **The rounded reciprocal** is off by half a unit at most. -/
theorem abs_reciprocal_mul_sub_le (hf : 0 < f) :
    |(reciprocal f * f - 2 ^ (52 + Nat.clog 2 f) : ℝ)| ≤ f / 2 := by
  have hfr : (0 : ℝ) < f := Nat.cast_pos.2 hf
  have hhalf := Binary.abs_sub_nearestEven_le ((2 ^ (52 + Nat.clog 2 f) : ℕ) / f)
  rw [Binary.nearestEven_div hf, abs_sub_comm] at hhalf
  have hmul := mul_le_mul_of_nonneg_right hhalf hfr.le
  rw [← abs_of_pos hfr, ← abs_mul, abs_of_pos hfr, sub_mul, div_mul_cancel₀ _ hfr.ne'] at hmul
  push_cast at hmul
  rw [one_div_mul_eq_div] at hmul
  exact hmul

end Reciprocal

/-- **Rounding near a whole number** reaches it from a quarter of the distance that doubles have below its power of
two. -/
theorem le_rounded_iff {n : ℕ} {x : ℝ} (hn : 0 < n) (hsmall : n ≤ 2 ^ 52) (hlow : (n - 1 / 2 : ℝ) ≤ x) :
    n ≤ (Binary.format .double).rounded x ↔ n - 2 ^ Nat.clog 2 n / 2 ^ 54 ≤ x := by
  rcases le_or_gt (n : ℝ) x with hle | hlt
  · have hmember : (Binary.format .double).IsMember n :=
      Binary.Format.isMember_intCast (n := n)
        (by rw [Nat.abs_cast]; exact_mod_cast hsmall.trans (by decide)) (by decide)
    refine iff_of_true (Binary.Format.le_rounded (by decide) hmember (Nat.cast_pos.2 hn) hle) ?_
    exact (sub_le_self _ (by positivity)).trans hle
  obtain ⟨hclog, hclog'⟩ := two_pow_clog_bounds hn
  have hexponent : Nat.clog 2 n ≤ 52 := Nat.clog_le_of_le_pow hsmall
  have hunit : (Binary.format .double).unit x = -(53 - Nat.clog 2 n : ℕ) := by
    rw [Binary.Format.unit_eq (l := Nat.clog 2 n - 1)]
    · change max ((Nat.clog 2 n : ℤ) - 1 - 52) (-1074) = _
      omega
    · rw [zpow_sub_one₀ two_ne_zero, zpow_natCast]
      have : (2 ^ Nat.clog 2 n : ℝ) + 1 ≤ 2 * n := by exact_mod_cast hclog'
      linarith
    · rw [sub_add_cancel, zpow_natCast]
      exact hlt.trans_le (by exact_mod_cast hclog)
  have hinverse : ((2 : ℝ) ^ (53 - Nat.clog 2 n))⁻¹ = 2 ^ Nat.clog 2 n / 2 ^ 53 := by
    rw [eq_div_iff (by positivity), inv_mul_eq_iff_eq_mul₀ (by positivity), ← pow_add,
      Nat.sub_add_cancel (by omega)]
  have hiff := Binary.Format.mul_unit_le_rounded_iff (f := Binary.format .double) (x := x)
    (m := n * 2 ^ (53 - Nat.clog 2 n)) ((even_two.pow_of_ne_zero (by omega)).mul_left _)
  rw [hunit, zpow_neg, zpow_natCast, sub_mul] at hiff
  push_cast at hiff
  rw [mul_inv_cancel_right₀ (by positivity), hinverse, one_div_mul_eq_div, div_div, ← pow_succ] at hiff
  exact hiff

/-- **Rounding within half of a whole number**, and then down, gives that number or the one below it. -/
theorem floor_rounded {n : ℕ} {x : ℝ} (hn : 0 < n) (hsmall : n < 2 ^ 52) (hlow : (n - 1 / 2 : ℝ) ≤ x)
    (hhigh : x ≤ n + 1 / 2) : ⌊(Binary.format .double).rounded x⌋ =
      if (n - 2 ^ Nat.clog 2 n / 2 ^ 54 : ℝ) ≤ x then (n : ℤ) else n - 1 := by
  have hone : (1 : ℝ) ≤ n := Nat.one_le_cast.2 hn
  have hmember : ∀ k : ℤ, |k| ≤ 2 ^ 53 → (Binary.format .double).IsMember (k / 2) := fun k hk =>
    ⟨k, -1, by rw [zpow_neg_one, div_eq_mul_inv], hk, by decide⟩
  have hbelow : (n - 1 / 2 : ℝ) ≤ (Binary.format .double).rounded x := by
    have h := hmember (2 * n - 1) (abs_le.2 ⟨by omega, by omega⟩)
    push_cast at h
    refine Binary.Format.le_rounded (by decide) ?_ (by linarith) hlow
    convert h using 1
    ring
  have habove : (Binary.format .double).rounded x ≤ n + 1 / 2 := by
    have h := hmember (2 * n + 1) (abs_le.2 ⟨by omega, by omega⟩)
    push_cast at h
    refine Binary.Format.rounded_le (by decide) ?_ (by linarith) hhigh
    convert h using 1
    ring
  have hiff := le_rounded_iff hn hsmall.le hlow
  split_ifs with hreached
  · rw [Int.floor_eq_iff]
    exact ⟨by exact_mod_cast hiff.2 hreached, by push_cast; linarith⟩
  · rw [Int.floor_eq_iff]
    have hlt := not_le.1 (mt hiff.1 hreached)
    push_cast
    exact ⟨by linarith, by linarith⟩

section Quotient

variable {n f : ℕ}

theorem le_reciprocal (hf : 0 < f) : (2 ^ 52 - 1 / 2 : ℝ) ≤ reciprocal f := by
  have hfr : (1 : ℝ) ≤ f := Nat.one_le_cast.2 hf
  have hpower : (2 ^ 52 * f : ℝ) ≤ 2 ^ (52 + Nat.clog 2 f) := by
    rw [pow_add]
    exact mul_le_mul_of_nonneg_left (by exact_mod_cast (two_pow_clog_bounds hf).1) (by positivity)
  have hlow := (abs_le.1 (abs_reciprocal_mul_sub_le hf)).1
  refine le_of_mul_le_mul_right ?_ (zero_lt_one.trans_le hfr)
  linarith

theorem reaches_iff : Reaches n f ↔ (n * (reciprocal f * f - 2 ^ (52 + Nat.clog 2 f)) * 2 ^ 54 : ℝ) ≤
    reciprocal f * 2 ^ Nat.clog 2 (n * f) := by
  rw [Reaches, ← Nat.cast_le (α := ℝ)]
  rcases le_total (2 ^ (52 + Nat.clog 2 f)) (reciprocal f * f) with hle | hle
  · simp only [Nat.cast_mul, Nat.cast_sub hle, Nat.cast_pow, Nat.cast_ofNat]
  -- a reciprocal that is not too great reaches every product
  · have hnonpos : (reciprocal f * f - 2 ^ (52 + Nat.clog 2 f) : ℝ) ≤ 0 := sub_nonpos.2 (by exact_mod_cast hle)
    refine iff_of_true (by rw [Nat.sub_eq_zero_of_le hle]; simp) (le_trans ?_ (by positivity : (0 : ℝ) ≤ _))
    exact mul_nonpos_of_nonpos_of_nonneg (mul_nonpos_of_nonneg_of_nonpos (Nat.cast_nonneg _) hnonpos) (by positivity)

/-- **The quotient** differs from the product of size and factor by the error of the reciprocal. -/
theorem div_reciprocal (n : ℕ) (hf : 0 < f) : (n / (reciprocal f / 2 ^ (52 + Nat.clog 2 f)) : ℝ) =
    (n * f : ℕ) - n * (reciprocal f * f - 2 ^ (52 + Nat.clog 2 f)) / reciprocal f := by
  have hpos : (0 : ℝ) < reciprocal f := by linarith [le_reciprocal hf]
  push_cast
  field_simp
  ring

theorem abs_error_le (hf : 0 < f) (hsmall : n * f < 2 ^ 52) :
    |(n * (reciprocal f * f - 2 ^ (52 + Nat.clog 2 f)) / reciprocal f : ℝ)| ≤ 1 / 2 := by
  have hsmallr : (n * f : ℝ) ≤ 2 ^ 52 - 1 := by
    have h : n * f + 1 ≤ 2 ^ 52 := hsmall
    rw [le_sub_iff_add_le]
    exact_mod_cast h
  have hreciprocal := le_reciprocal hf
  have hpos : (0 : ℝ) < reciprocal f := by linarith
  rw [abs_div, abs_mul, abs_of_pos hpos, Nat.abs_cast, div_le_iff₀ hpos]
  calc (n * |(reciprocal f * f - 2 ^ (52 + Nat.clog 2 f) : ℝ)| : ℝ) ≤ n * (f / 2) :=
        mul_le_mul_of_nonneg_left (abs_reciprocal_mul_sub_le hf) (Nat.cast_nonneg _)
    _ ≤ 1 / 2 * reciprocal f := by linarith

theorem floor_rounded_div (hn : 0 < n) (hf : 0 < f) (hsmall : n * f < 2 ^ 52) :
    ⌊(Binary.format .double).rounded (n / (reciprocal f / 2 ^ (52 + Nat.clog 2 f)))⌋ = upsampledSize n f := by
  have hproduct : 0 < n * f := Nat.mul_pos hn hf
  have hpos : (0 : ℝ) < reciprocal f := by linarith [le_reciprocal hf]
  obtain ⟨hlow, hhigh⟩ := abs_le.1 (abs_error_le hf hsmall)
  have hreached : ((n * f : ℕ) : ℝ) - 2 ^ Nat.clog 2 (n * f) / 2 ^ 54 ≤
      (n * f : ℕ) - n * (reciprocal f * f - 2 ^ (52 + Nat.clog 2 f)) / reciprocal f ↔ Reaches n f := by
    rw [sub_le_sub_iff_left, reaches_iff, div_le_div_iff₀ hpos (by positivity), mul_comm (reciprocal f : ℝ) (2 ^ _)]
  rw [div_reciprocal n hf, floor_rounded hproduct hsmall (by linarith) (by linarith), upsampledSize]
  simp only [hreached]
  split_ifs with h
  · rfl
  · exact (Nat.cast_pred hproduct).symm

theorem upsampledSize_eq_iff (hn : 0 < n) (hf : 0 < f) : upsampledSize n f = n * f ↔ Reaches n f := by
  have hproduct := Nat.mul_pos hn hf
  unfold upsampledSize
  split_ifs with h
  · exact iff_of_true rfl h
  · exact iff_of_false (by omega) h

theorem upsampledSize_pos (hn : 0 < n) (hf : 0 < f) : 0 < upsampledSize n f := by
  unfold upsampledSize
  split_ifs with h
  · exact Nat.mul_pos hn hf
  · have hne : n * f ≠ 1 := by
      rintro hone
      obtain ⟨rfl, rfl⟩ := mul_eq_one.1 hone
      exact h (by decide +kernel)
    have hproduct := Nat.mul_pos hn hf
    omega

/-- **A factor whose reciprocal is accurate enough** reaches every product. -/
theorem reaches_of_accurate (h : (reciprocal f * f - 2 ^ (52 + Nat.clog 2 f)) * 2 ^ 54 ≤ reciprocal f * f) (n : ℕ) :
    Reaches n f :=
  calc n * (reciprocal f * f - 2 ^ (52 + Nat.clog 2 f)) * 2 ^ 54
      = n * ((reciprocal f * f - 2 ^ (52 + Nat.clog 2 f)) * 2 ^ 54) := mul_assoc _ _ _
    _ ≤ n * (reciprocal f * f) := Nat.mul_le_mul_left n h
    _ = reciprocal f * (n * f) := mul_left_comm _ _ _
    _ ≤ reciprocal f * 2 ^ Nat.clog 2 (n * f) := Nat.mul_le_mul_left _ (Nat.le_pow_clog (by norm_num) _)

theorem reaches_of_le (hf : f ≤ 74) (n : ℕ) : Reaches n f := by
  have haccurate : ∀ f ≤ 74, (reciprocal f * f - 2 ^ (52 + Nat.clog 2 f)) * 2 ^ 54 ≤ reciprocal f * f := by
    decide +kernel
  exact reaches_of_accurate (haccurate f hf) n

end Quotient

section Sizes

variable {n f : ℕ}

theorem value_one_div (hf : 0 < f) (hsmall : f ≤ 2 ^ 53) : (1 / Scalar.ofInt f : Rounded).value =
    finite (reciprocal f / 2 ^ (52 + Nat.clog 2 f)) := by
  have hfr : (1 : ℝ) ≤ f := Nat.one_le_cast.2 hf
  have hbound : |(1 / f : ℝ)| ≤ 2 ^ 1023 := by
    rw [abs_of_nonneg (by positivity)]
    exact ((div_le_one (zero_lt_one.trans_le hfr)).2 hfr).trans (one_le_pow₀ (by norm_num))
  rw [Rounded.value_div, Rounded.value_one, Rounded.value_natCast hsmall, finite_div _ (by positivity),
    toDouble_finite hbound, rounded_one_div hf hsmall]

theorem fittingSize_upsampled (hn : 0 < n) (hf : 0 < f) (hsmall : n * f < 2 ^ 52) :
    fittingSize n (1 / Scalar.ofInt f : Rounded) = .ok (upsampledSize n f : ℤ) := by
  have hnsmall : n ≤ 2 ^ 53 := ((Nat.le_mul_of_pos_right n hf).trans hsmall.le).trans (by norm_num)
  have hfsmall : f ≤ 2 ^ 53 := ((Nat.le_mul_of_pos_left f hn).trans hsmall.le).trans (by norm_num)
  have hreciprocal := le_reciprocal hf
  have hpos : (0 : ℝ) < reciprocal f / 2 ^ (52 + Nat.clog 2 f) := div_pos (by linarith) (by positivity)
  have hzero : ((1 / Scalar.ofInt f : Rounded) == 0) = false := by
    rw [Rounded.beq_eq, value_one_div hf hfsmall, Rounded.value_zero, finite_beq]
    exact decide_eq_false hpos.ne'
  have hquotient : (Scalar.ofInt n / (1 / Scalar.ofInt f) : Rounded).value =
      finite ((Binary.format .double).rounded (n / (reciprocal f / 2 ^ (52 + Nat.clog 2 f)))) := by
    have hbound : |(n / (reciprocal f / 2 ^ (52 + Nat.clog 2 f)) : ℝ)| ≤ 2 ^ 1023 := by
      have hproduct : ((n * f : ℕ) : ℝ) < 2 ^ 52 := by exact_mod_cast hsmall
      have hpower : (2 ^ 53 : ℝ) ≤ 2 ^ 1023 := pow_le_pow_right₀ (by norm_num) (by norm_num)
      obtain ⟨hlow, hhigh⟩ := abs_le.1 (abs_error_le hf hsmall)
      rw [abs_of_nonneg (by positivity), div_reciprocal n hf]
      refine le_trans ?_ hpower
      linarith
    rw [Rounded.value_div, value_one_div hf hfsmall, Rounded.value_natCast hnsmall, finite_div _ hpos.ne',
      toDouble_finite hbound]
  have hmax : max 1 (upsampledSize n f : ℤ) = upsampledSize n f :=
    max_eq_right (by exact_mod_cast upsampledSize_pos hn hf)
  unfold fittingSize quotient?
  rw [hzero]
  simp only [Bool.false_eq_true, if_false, ok_bind, Rounded.isNaN_eq, Rounded.isFinite_eq, Rounded.floor_eq, hquotient,
    isNaN_finite, isFinite_finite, Bool.not_true, floor_finite, floor_rounded_div hn hf hsmall, hmax]
  rfl

/-- **The factor between voxel sizes** of an upsampling by a whole number is its rounded reciprocal. -/
theorem factorOf_upsample_natCast (hf : 0 < f) (hsmall : f ≤ 2 ^ 53) :
    factorOf .upsample (.number (.int f)) = .ok (1 / Scalar.ofInt f : Rounded) := by
  have hne : ((Scalar.ofInt f : Rounded) == 0) = false := by
    rw [Rounded.beq_eq, Rounded.value_natCast hsmall, Rounded.value_zero, finite_beq]
    exact decide_eq_false (Nat.cast_ne_zero.2 hf.ne')
  exact if_neg (Bool.not_eq_true _ ▸ hne)

end Sizes

end Placement

namespace Rounded

variable {m n : ℕ}

/-- **The real numbers that the entries of a matrix are.** -/
def entries (a : Matrix m n Rounded) : RealMatrix m n := fun i j => ((a.get i).get j).value.toReal

/-- **A matrix of real numbers**, each rounded to double precision. -/
noncomputable def matrix (a : RealMatrix m n) : Matrix m n Rounded :=
  Vector.ofFn fun i => Vector.ofFn fun j => round (finite (a i j))

def IsFinite (a : Matrix m n Rounded) : Prop := ∀ i j, Scalar.isFinite ((a.get i).get j) = true

open Classical in
/-- **The solver whose results are the exact ones, rounded.** -/
noncomputable instance : LinearSolver Rounded where
  rank a := if IsFinite a then .ok (entries a).rank else .error .notDecomposable
  inverse a := if IsFinite a ∧ (entries a).det ≠ 0 then .ok (matrix (entries a)⁻¹) else .error .notInvertible
  leastSquares a b :=
    if IsFinite a ∧ IsFinite b then
      .ok (matrix (Classical.choose (RealMatrix.exists_leastSquares (entries a) (entries b))))
    else .error .notDecomposable

end Rounded

theorem Literal.isGiven_of_pad {α : Type} {l : Literal α} {n : ℕ} {ls : List (Literal α)}
    (h : l.pad 3 none = .ok (.number (.int n) :: ls)) : l.isGiven = true := by
  cases l with
  | null => cases h
  | number | text | list | record => rfl

namespace Tool

open Placement

/-- **The default sizes of an upsampling by whole factors**, in the arithmetic of double precision.  Along each axis as
many voxels are made as the product of size and factor, or one less if that is not reached; it is for all factors up
to 74. -/
theorem exists_perform_run_upsample [Capacity] [LinearSolver Rounded] {making use : ToolOptions Rounded}
    {x : Input Rounded} {w : Workspace Rounded} {info : Info Rounded} {n : Vector Nat 3} {f : Fin 3 → ℕ}
    (hinspect : x.inspect w.files = .ok info) (hinfo : info.shape.take 3 = n.toList) (hn : ∀ i, 0 < n.get i)
    (hf : ∀ i, 0 < f i) (hsmall : ∀ i, n.get i * f i < 2 ^ 52)
    (hfactor : (use.orElse making).factor.pad 3 none =
      .ok [.number (.int (f 0)), .number (.int (f 1)), .number (.int (f 2))])
    (hshape : (use.orElse making).outputShape = .null)
    (hscalable : checkScalable (use.orElse making).inputAffine = .ok ()) :
    ∃ p, ofResizing .upsample (use.orElse making) info = .ok p ∧
      Task.perform (upsample.run making use x) w = Task.perform (upsample.resliceTo (use.orElse making) x p) w ∧
      (∀ shape, p.sizes shape =
        .ok ((Vector.ofFn fun i => upsampledSize (n.get i) (f i)).toList.map Int.ofNat)) ∧
      ∀ i, (upsampledSize (n.get i) (f i) = n.get i * f i ↔ Reaches (n.get i) (f i)) ∧
        (f i ≤ 74 → upsampledSize (n.get i) (f i) = n.get i * f i) := by
  have hsmallf : ∀ i, f i ≤ 2 ^ 53 := fun i =>
    ((Nat.le_mul_of_pos_left _ (hn i)).trans (hsmall i).le).trans (by norm_num)
  have hfactors := factorsOfRequest_ofFn (Literal.isGiven_of_pad hfactor) hfactor fun i =>
    factorOf_upsample_natCast (hf i) (hsmallf i)
  have hsizes := fittingSizes_ofFn hinfo fun i => fittingSize_upsampled (hn i) (hf i) (hsmall i)
  have hplacement := ofResizing_byFactor (.inr (.inl rfl)) hshape hfactors hsizes hscalable
  refine ⟨_, hplacement, perform_run_resizing (by decide) (by decide) hinspect hplacement, fun _ => rfl, fun i => ?_⟩
  have hiff := upsampledSize_eq_iff (hn i) (hf i)
  exact ⟨hiff, fun h => hiff.2 (reaches_of_le h _)⟩

/-- **Three axes upsampled at once**: the first two fall short of the products 93 and 225, the third does not. -/
theorem sizes_upsample_short :
    let use : ToolOptions Rounded :=
      { ToolOptions.none with factor := .list [.number (.int 93), .number (.int 75), .number (.int 2)] }
    let x : Volume Rounded := ⟨.real .double, Tensor.build [1, 3, 1] fun _ => 0⟩
    ∃ p, ofResizing .upsample use (Info.ofArray x) = .ok p ∧
      Task.perform (upsample.run .none use (.array x)) (.ofFiles []) =
        Task.perform (upsample.resliceTo use (.array x) p) (.ofFiles []) ∧
      p.sizes [1, 3, 1] = .ok [92, 224, 2] := by
  intro use x
  have hsmall : ∀ i : Fin 3, (triple 1 3 1).get i * (triple 93 75 2).get i < 2 ^ 52 := by decide
  have hfactor : (use.orElse .none).factor.pad 3 none =
      .ok [.number (.int 93), .number (.int 75), .number (.int 2)] := rfl
  obtain ⟨p, hplacement, hrun, hsizes, -⟩ := exists_perform_run_upsample (x := .array x) (w := .ofFiles [])
    (n := triple 1 3 1) (f := (triple 93 75 2).get) rfl rfl (by decide) (by decide) hsmall hfactor rfl rfl
  refine ⟨p, hplacement, hrun, (hsizes _).trans (congrArg Except.ok ?_)⟩
  decide +kernel

/-- The machine falls short of the same product. -/
example : ((quotient? 1 (93 : Float)).bind (fittingSize 1)).toOption = some 92 := by
  decide +kernel

end Tool
end Regrid
