import Mathlib
import Regrid.Scalar.Binary
/-!
# Rounding — real numbers rounded to a floating format

A member of a format is a whole multiple of a power of two, with as many significant bits as the format has.  The
member nearest to a real number is found by rounding a multiple of the distance between members around it, a half
going to the even neighbour.  Members are fixed (`rounded_of_isMember`), and every rounded number is a member
(`isMember_rounded`), so rounding twice is rounding once.
-/
namespace Regrid.Binary

/-- **Two is a numeral of every number system.** -/
instance atLeastTwo : Nat.AtLeastTwo 2 := ⟨le_rfl⟩

/-- **The integer nearest to a real number**, a half going to the even neighbour. -/
noncomputable def nearestEven (x : ℝ) : ℤ :=
  if Int.fract x < 1 / 2 then ⌊x⌋
  else if 1 / 2 < Int.fract x then ⌊x⌋ + 1
  else if ⌊x⌋ % 2 = 0 then ⌊x⌋
  else ⌊x⌋ + 1

theorem nearestEven_intCast (n : ℤ) : nearestEven n = n := by
  simp [nearestEven]

theorem nearestEven_neg (x : ℝ) : nearestEven (-x) = -nearestEven x := by
  by_cases hfract : Int.fract x = 0
  · have hx : x = ⌊x⌋ := sub_eq_zero.1 hfract
    rw [hx, ← Int.cast_neg, nearestEven_intCast, nearestEven_intCast]
  have hneg : Int.fract (-x) = 1 - Int.fract x := Int.fract_neg hfract
  have hfloor : ⌊-x⌋ = -⌊x⌋ - 1 := by
    have h : (⌊-x⌋ : ℝ) = -⌊x⌋ - 1 := by
      rw [← Int.self_sub_fract, ← Int.self_sub_fract, hneg]
      ring
    exact_mod_cast h
  simp only [nearestEven, hneg, hfloor]
  split_ifs <;> first | omega | (exfalso; linarith)

theorem abs_sub_nearestEven_le (x : ℝ) : |x - nearestEven x| ≤ 1 / 2 := by
  have hfract := Int.self_sub_floor x
  have hnonneg := Int.fract_nonneg x
  have hlt := Int.fract_lt_one x
  rw [abs_le]
  unfold nearestEven
  split
  · constructor <;> linarith
  split
  · push_cast
    constructor <;> linarith
  split
  · constructor <;> linarith
  · push_cast
    constructor <;> linarith

/-- **A half** goes to the even neighbour. -/
theorem even_nearestEven {x : ℝ} (h : |x - nearestEven x| = 1 / 2) : Even (nearestEven x) := by
  have hfract := Int.self_sub_floor x
  have hpos := Int.fract_nonneg x
  have hlt := Int.fract_lt_one x
  rw [Int.even_iff]
  unfold nearestEven at h ⊢
  split_ifs at h ⊢ with hlow hhigh heven
  · rw [hfract, abs_of_nonneg hpos] at h
    exact absurd h hlow.ne
  · rw [Int.cast_add, Int.cast_one, ← sub_sub, hfract, abs_of_neg (by linarith)] at h
    linarith
  · exact heven
  · omega

theorem nearestEven_mono {x y : ℝ} (h : x ≤ y) : nearestEven x ≤ nearestEven y := by
  rcases h.eq_or_lt with rfl | h
  · rfl
  by_contra hlt
  have hsucc : (nearestEven y + 1 : ℝ) ≤ nearestEven x := by exact_mod_cast not_le.1 hlt
  have hx := abs_le.1 (abs_sub_nearestEven_le x)
  have hy := abs_le.1 (abs_sub_nearestEven_le y)
  linarith

theorem nearestEven_sub_half {m : ℤ} (hm : Even m) : nearestEven (m - 1 / 2) = m := by
  have hfloor : ⌊(m : ℝ) - 1 / 2⌋ = m - 1 := by
    rw [Int.floor_eq_iff]
    push_cast
    constructor <;> linarith
  have hfract : Int.fract ((m : ℝ) - 1 / 2) = 1 / 2 := by
    rw [← Int.self_sub_floor, hfloor]
    push_cast
    ring
  have hodd : ¬(m - 1) % 2 = 0 := by
    obtain ⟨k, rfl⟩ := hm
    omega
  unfold nearestEven
  rw [hfract, if_neg (lt_irrefl _), if_neg (lt_irrefl _), hfloor, if_neg hodd, sub_add_cancel]

/-- **An even number** is reached from half a unit below it. -/
theorem le_nearestEven_iff {m : ℤ} (hm : Even m) {x : ℝ} : m ≤ nearestEven x ↔ m - 1 / 2 ≤ x := by
  constructor
  · intro h
    have hmr : (m : ℝ) ≤ nearestEven x := by exact_mod_cast h
    have hx := abs_le.1 (abs_sub_nearestEven_le x)
    linarith
  · intro h
    exact (nearestEven_sub_half hm).ge.trans (nearestEven_mono h)

/-- **A quotient of natural numbers** is rounded by comparing its remainder with half the divisor. -/
theorem nearestEven_div {a b : ℕ} (hb : 0 < b) : nearestEven (a / b) = roundDiv a b := by
  have hbr : (0 : ℝ) < b := Nat.cast_pos.2 hb
  have hfloor : ⌊(a / b : ℝ)⌋ = ((a / b : ℕ) : ℤ) := by
    rw [← Int.natCast_floor_eq_floor (by positivity), Nat.floor_div_eq_div]
  have hfract : Int.fract (a / b : ℝ) = (a % b : ℕ) / b := Int.fract_div_natCast_eq_div_natCast_mod
  have hlow : Int.fract (a / b : ℝ) < 1 / 2 ↔ 2 * (a % b) < b := by
    rw [hfract, div_lt_div_iff₀ hbr two_pos, one_mul, mul_comm]
    exact_mod_cast Iff.rfl
  have hhigh : 1 / 2 < Int.fract (a / b : ℝ) ↔ b < 2 * (a % b) := by
    rw [hfract, div_lt_div_iff₀ two_pos hbr, one_mul, mul_comm]
    exact_mod_cast Iff.rfl
  simp only [nearestEven, roundDiv, hlow, hhigh, hfloor]
  split_ifs <;> push_cast <;> first | rfl | omega

theorem exists_int_mul_zpow {e e' : ℤ} (h : e ≤ e') (n : ℤ) : ∃ m : ℤ, (n : ℝ) * 2 ^ e' = m * 2 ^ e := by
  refine ⟨n * 2 ^ (e' - e).toNat, ?_⟩
  have hsplit : (2 : ℝ) ^ e' = 2 ^ (e' - e).toNat * 2 ^ e := by
    rw [← zpow_natCast, ← zpow_add₀ two_ne_zero]
    congr 1
    omega
  push_cast
  rw [mul_assoc, ← hsplit]

theorem abs_nearestEven_le {x : ℝ} {n : ℤ} (h : |x| < n) : |nearestEven x| ≤ n := by
  obtain ⟨hl, hu⟩ := abs_lt.1 h
  have hfl : -n ≤ ⌊x⌋ := Int.le_floor.2 (by push_cast; exact hl.le)
  have hfu : ⌊x⌋ < n := Int.floor_lt.2 hu
  unfold nearestEven
  split
  · exact abs_le.2 ⟨hfl, hfu.le⟩
  split
  · exact abs_le.2 ⟨by omega, by omega⟩
  split
  · exact abs_le.2 ⟨hfl, hfu.le⟩
  · exact abs_le.2 ⟨by omega, by omega⟩

namespace Format

/-- **The exponent of the distance between the members of a format around a real number.** -/
noncomputable def unit (f : Format) (x : ℝ) : ℤ := max (Int.log 2 |x| - (f.digits - 1 : ℕ)) f.minExponent

/-- **The member of a format nearest to a real number**, as if its exponents had no upper end. -/
noncomputable def rounded (f : Format) (x : ℝ) : ℝ := nearestEven (x / 2 ^ f.unit x) * 2 ^ f.unit x

/-- **A member of a format**: a whole multiple of a power of two, with at most as many significant bits. -/
def IsMember (f : Format) (x : ℝ) : Prop :=
  ∃ k e : ℤ, x = k * 2 ^ e ∧ |k| ≤ 2 ^ f.digits ∧ f.minExponent ≤ e

theorem IsMember.neg {f : Format} {x : ℝ} (h : f.IsMember x) : f.IsMember (-x) := by
  obtain ⟨k, e, rfl, hk, he⟩ := h
  exact ⟨-k, e, by rw [Int.cast_neg, neg_mul], by rwa [abs_neg], he⟩

theorem IsMember.double {f : Format} {x : ℝ} (h : f.IsMember x) : f.IsMember (x + x) := by
  obtain ⟨k, e, rfl, hk, he⟩ := h
  refine ⟨k, e + 1, ?_, hk, by omega⟩
  rw [zpow_add_one₀ two_ne_zero]
  ring

/-- **Great members** of a format are whole numbers. -/
theorem IsMember.eq_intCast_or_le {f : Format} {x : ℝ} (h : f.IsMember x) :
    (∃ n : ℤ, x = n) ∨ |x| ≤ 2 ^ f.digits / 2 := by
  obtain ⟨k, e, rfl, hk, he⟩ := h
  rcases le_or_gt 0 e with hexponent | hexponent
  · obtain ⟨m, hm⟩ := exists_int_mul_zpow hexponent k
    exact .inl ⟨m, hm.trans (by simp)⟩
  · have hkr : |(k : ℝ)| ≤ 2 ^ f.digits := by exact_mod_cast hk
    have hpower : (2 : ℝ) ^ e ≤ 2⁻¹ := by
      rw [← zpow_neg_one]
      exact zpow_le_zpow_right₀ (by norm_num) (by omega)
    rw [abs_mul, abs_of_pos (by positivity : (0 : ℝ) < 2 ^ e), div_eq_mul_inv]
    exact .inr (mul_le_mul hkr hpower (by positivity) (by positivity))

/-- **A real number has fewer units than the format has significands.** -/
theorem abs_div_unit_lt {f : Format} (hd : 0 < f.digits) (x : ℝ) : |x / 2 ^ f.unit x| < 2 ^ f.digits := by
  have hpos : (0 : ℝ) < 2 ^ f.unit x := by positivity
  have hlog : |x| < 2 ^ (Int.log 2 |x| + 1) := by
    simpa using Int.lt_zpow_succ_log_self (b := 2) (by norm_num) |x|
  have hunit : Int.log 2 |x| + 1 ≤ f.unit x + f.digits := by
    have : Int.log 2 |x| - (f.digits - 1 : ℕ) ≤ f.unit x := le_max_left _ _
    omega
  rw [abs_div, abs_of_pos hpos, div_lt_iff₀ hpos]
  calc |x| < 2 ^ (Int.log 2 |x| + 1) := hlog
    _ ≤ 2 ^ (f.unit x + f.digits) := zpow_le_zpow_right₀ (by norm_num) hunit
    _ = 2 ^ f.digits * 2 ^ f.unit x := by
      rw [zpow_add₀ (by norm_num), zpow_natCast, mul_comm]

theorem isMember_rounded {f : Format} (hd : 0 < f.digits) (x : ℝ) : f.IsMember (f.rounded x) := by
  refine ⟨nearestEven (x / 2 ^ f.unit x), f.unit x, rfl, ?_, le_max_right _ _⟩
  have h := abs_nearestEven_le (n := 2 ^ f.digits) (by push_cast; exact abs_div_unit_lt hd x)
  exact_mod_cast h

/-- **The unit of a member** is at most its own exponent, unless it has the greatest significand. -/
theorem eq_greatest_of_lt_unit {f : Format} (hd : 0 < f.digits) {k e : ℤ} (hk : |k| ≤ 2 ^ f.digits)
    (he : f.minExponent ≤ e) (hzero : k ≠ 0) (hlt : e < f.unit (k * 2 ^ e)) :
    f.unit (k * 2 ^ e) = e + 1 ∧ |k| = 2 ^ (f.digits - 1) * 2 := by
  have htwo : (2 : ℝ) ≠ 0 := two_ne_zero
  -- the unit is set by the size of the number, which is then the greatest that the significands reach
  generalize hu : f.unit (k * 2 ^ e) = u at hlt ⊢
  have hlog : Int.log 2 |(k : ℝ) * 2 ^ e| = u + (f.digits - 1 : ℕ) := by
    have : max (Int.log 2 |(k : ℝ) * 2 ^ e| - (f.digits - 1 : ℕ)) f.minExponent = u := hu
    omega
  have habs : |(k : ℝ) * 2 ^ e| = |(k : ℝ)| * 2 ^ e := by
    rw [abs_mul, abs_of_pos (by positivity : (0 : ℝ) < 2 ^ e)]
  have hlow : (2 : ℝ) ^ (u + (f.digits - 1 : ℕ)) ≤ |(k : ℝ)| * 2 ^ e := by
    rw [← hlog, ← habs]
    exact Int.zpow_log_le_self (b := 2) (by norm_num) (by rw [habs]; positivity)
  have hkr : |(k : ℝ)| ≤ 2 ^ f.digits := by exact_mod_cast hk
  have hhigh : |(k : ℝ)| * 2 ^ e ≤ 2 ^ (e + f.digits) := by
    rw [zpow_add₀ htwo, zpow_natCast, mul_comm ((2 : ℝ) ^ e)]
    exact mul_le_mul_of_nonneg_right hkr (by positivity)
  have hue : u = e + 1 := by
    have := (zpow_le_zpow_iff_right₀ (by norm_num : (1 : ℝ) < 2)).1 (hlow.trans hhigh)
    omega
  have hkeq : |(k : ℝ)| = 2 ^ f.digits := by
    refine le_antisymm hkr ?_
    have hexp : u + (f.digits - 1 : ℕ) = e + f.digits := by omega
    rw [hexp, zpow_add₀ htwo, zpow_natCast, mul_comm] at hlow
    exact le_of_mul_le_mul_right hlow (by positivity)
  refine ⟨hue, ?_⟩
  rw [← pow_succ, Nat.sub_add_cancel hd]
  exact_mod_cast hkeq

theorem exists_int_mul_unit {f : Format} (hd : 0 < f.digits) {x : ℝ} (h : f.IsMember x) :
    ∃ n : ℤ, x = n * 2 ^ f.unit x := by
  obtain ⟨k, e, rfl, hk, he⟩ := h
  have htwo : (2 : ℝ) ≠ 0 := two_ne_zero
  by_cases hle : f.unit (k * 2 ^ e) ≤ e
  · exact exists_int_mul_zpow hle k
  -- only the greatest significand has a larger unit, which is twice the power it was given with
  · by_cases hzero : k = 0
    · exact ⟨0, by simp [hzero]⟩
    obtain ⟨hunit, hkint⟩ := eq_greatest_of_lt_unit hd hk he hzero (not_le.1 hle)
    rw [hunit]
    rcases abs_choice k with hs | hs
    · refine ⟨2 ^ (f.digits - 1), ?_⟩
      rw [hs] at hkint
      rw [hkint, zpow_add_one₀ htwo]
      push_cast
      ring
    · refine ⟨-2 ^ (f.digits - 1), ?_⟩
      rw [hs] at hkint
      have hkneg : k = -(2 ^ (f.digits - 1) * 2) := by omega
      rw [hkneg, zpow_add_one₀ htwo]
      push_cast
      ring

theorem rounded_of_isMember {f : Format} (hd : 0 < f.digits) {x : ℝ} (h : f.IsMember x) : f.rounded x = x := by
  obtain ⟨n, hn⟩ := exists_int_mul_unit hd h
  have hpos : (2 : ℝ) ^ f.unit x ≠ 0 := by positivity
  have hdiv : x / 2 ^ f.unit x = n := by
    rw [div_eq_iff hpos]; exact hn
  unfold rounded
  rw [hdiv, nearestEven_intCast]
  exact hn.symm

theorem isMember_intCast {f : Format} {n : ℤ} (hn : |n| ≤ 2 ^ f.digits) (he : f.minExponent ≤ 0) :
    f.IsMember n := ⟨n, 0, by simp, hn, he⟩

section Order

variable {f : Format} {x y : ℝ}

theorem unit_mono (hx : x ≠ 0) (h : |x| ≤ |y|) : f.unit x ≤ f.unit y :=
  max_le_max_right _ (Int.sub_le_sub_right (Int.log_mono_right (abs_pos.2 hx) h) _)

theorem rounded_le_mul_unit {m : ℤ} (h : x ≤ m * 2 ^ f.unit x) : f.rounded x ≤ m * 2 ^ f.unit x := by
  have hpos : (0 : ℝ) < 2 ^ f.unit x := by positivity
  have hle := nearestEven_mono ((div_le_iff₀ hpos).2 h)
  rw [nearestEven_intCast] at hle
  exact mul_le_mul_of_nonneg_right (by exact_mod_cast hle) hpos.le

theorem mul_unit_le_rounded {m : ℤ} (h : m * 2 ^ f.unit x ≤ x) : m * 2 ^ f.unit x ≤ f.rounded x := by
  have hpos : (0 : ℝ) < 2 ^ f.unit x := by positivity
  have hle := nearestEven_mono ((le_div_iff₀ hpos).2 h)
  rw [nearestEven_intCast] at hle
  exact mul_le_mul_of_nonneg_right (by exact_mod_cast hle) hpos.le

theorem rounded_neg (f : Format) (x : ℝ) : f.rounded (-x) = -f.rounded x := by
  rw [rounded, rounded, unit, unit, abs_neg, neg_div, nearestEven_neg]
  push_cast
  ring

theorem rounded_zero (f : Format) : f.rounded 0 = 0 := by
  have h := rounded_neg f 0
  rw [neg_zero] at h
  linarith

/-- **A number underflows** below half the distance between the least members of its format. -/
theorem rounded_eq_zero_of_lt (h : |x| < 2 ^ f.minExponent / 2) : f.rounded x = 0 := by
  have hpos : (0 : ℝ) < 2 ^ f.unit x := by positivity
  have hunit : (2 : ℝ) ^ f.minExponent ≤ 2 ^ f.unit x := zpow_le_zpow_right₀ (by norm_num) (le_max_right _ _)
  have hsmall : |x / 2 ^ f.unit x| < 1 / 2 := by
    rw [abs_div, abs_of_pos hpos, div_lt_iff₀ hpos]
    linarith
  have hnearest : |(nearestEven (x / 2 ^ f.unit x) : ℝ)| < 1 := by
    have hdistance := abs_sub_nearestEven_le (x / 2 ^ f.unit x)
    rw [abs_lt] at hsmall ⊢
    rw [abs_le] at hdistance
    constructor <;> linarith
  have hzero : nearestEven (x / 2 ^ f.unit x) = 0 := Int.abs_lt_one_iff.1 (by exact_mod_cast hnearest)
  rw [rounded, hzero, Int.cast_zero, zero_mul]

theorem rounded_nonneg (h : 0 ≤ x) : 0 ≤ f.rounded x := by
  have hle := mul_unit_le_rounded (f := f) (x := x) (m := 0) (by simpa using h)
  simpa using hle

theorem abs_rounded (f : Format) (x : ℝ) : |f.rounded x| = f.rounded |x| := by
  rcases abs_choice x with h | h
  · rw [h, abs_of_nonneg (rounded_nonneg (abs_eq_self.1 h))]
  · have hneg := rounded_nonneg (f := f) (x := -x) (h ▸ abs_nonneg x)
    rw [rounded_neg] at hneg
    rw [h, rounded_neg, abs_of_nonpos (by linarith)]

/-- **An even multiple of the unit** is reached from half a unit below it. -/
theorem mul_unit_le_rounded_iff {m : ℤ} (hm : Even m) :
    m * 2 ^ f.unit x ≤ f.rounded x ↔ (m - 1 / 2) * 2 ^ f.unit x ≤ x := by
  have hpos : (0 : ℝ) < 2 ^ f.unit x := by positivity
  rw [rounded, mul_le_mul_iff_left₀ hpos, Int.cast_le, le_nearestEven_iff hm, le_div_iff₀ hpos]

/-- **No member of a format lies between** a number and the member nearest to it. -/
theorem rounded_le (hd : 0 < f.digits) (hy : f.IsMember y) (hx : 0 ≤ x) (h : x ≤ y) : f.rounded x ≤ y := by
  rcases hx.eq_or_lt with rfl | hpos
  · rwa [rounded_zero]
  have hunit : f.unit x ≤ f.unit y := unit_mono hpos.ne' (by rwa [abs_of_nonneg hx, abs_of_nonneg (hx.trans h)])
  obtain ⟨n, hn⟩ := exists_int_mul_unit hd hy
  obtain ⟨m, hm⟩ := exists_int_mul_zpow hunit n
  rw [hn, hm] at h ⊢
  exact rounded_le_mul_unit h

theorem le_rounded (hd : 0 < f.digits) (hy : f.IsMember y) (hpos : 0 < y) (h : y ≤ x) : y ≤ f.rounded x := by
  have hx := hpos.trans_le h
  rcases le_or_gt (f.unit x) (f.unit y) with hunit | hunit
  · obtain ⟨n, hn⟩ := exists_int_mul_unit hd hy
    obtain ⟨m, hm⟩ := exists_int_mul_zpow hunit n
    rw [hn, hm] at h ⊢
    exact mul_unit_le_rounded h
  -- a member with a smaller unit lies below the power of two that the number has reached
  · have hlogs : Int.log 2 y < Int.log 2 x ∧ f.unit x = Int.log 2 x - (f.digits - 1 : ℕ) := by
      unfold unit at hunit ⊢
      rw [abs_of_pos hpos, abs_of_pos hx] at hunit
      rw [abs_of_pos hx]
      omega
    have hpower : (2 : ℝ) ^ Int.log 2 x = (2 ^ (f.digits - 1) : ℤ) * 2 ^ f.unit x := by
      push_cast
      rw [← zpow_natCast, ← zpow_add₀ two_ne_zero, hlogs.2]
      congr 1
      omega
    calc y ≤ 2 ^ (Int.log 2 y + 1) := (Int.lt_zpow_succ_log_self (b := 2) (by norm_num) y).le
      _ ≤ 2 ^ Int.log 2 x := zpow_le_zpow_right₀ (by norm_num) hlogs.1
      _ ≤ f.rounded x := by
        rw [hpower]
        exact mul_unit_le_rounded (hpower ▸ Int.zpow_log_le_self (b := 2) (by norm_num) hx)

theorem unit_eq {l : ℤ} (hlow : 2 ^ l ≤ x) (hhigh : x < 2 ^ (l + 1)) :
    f.unit x = max (l - (f.digits - 1 : ℕ)) f.minExponent := by
  have hpos : 0 < x := (by positivity : (0 : ℝ) < 2 ^ l).trans_le hlow
  have hlog : Int.log 2 x = l := by
    have hge := (Int.zpow_le_iff_le_log (b := 2) (by norm_num) hpos).1 (by exact_mod_cast hlow)
    have hlt := (Int.lt_zpow_iff_log_lt (b := 2) (by norm_num) hpos).1 (by exact_mod_cast hhigh)
    omega
  rw [unit, abs_of_pos hpos, hlog]

theorem isMember_zpow {e : ℤ} (he : f.minExponent ≤ e) : f.IsMember (2 ^ e) :=
  ⟨1, e, by simp, by simpa using one_le_pow₀ (by norm_num : (1 : ℤ) ≤ 2), he⟩

/-- **A number overflows** from half a unit below the end of its format. -/
theorem rounded_lt_overflow_iff (hd : 0 < f.digits) (hmin : f.minExponent ≤ f.overflow - f.digits) (hx : 0 ≤ x) :
    f.rounded x < 2 ^ f.overflow ↔ x < (2 ^ f.digits - 1 / 2) * 2 ^ (f.overflow - f.digits) := by
  have hpos : (0 : ℝ) < 2 ^ (f.overflow - f.digits) := by positivity
  have hsplit : (2 : ℝ) ^ f.overflow = 2 ^ f.digits * 2 ^ (f.overflow - f.digits) := by
    rw [← zpow_natCast, ← zpow_add₀ two_ne_zero, add_sub_cancel]
  have hend : (2 ^ f.digits - 1 / 2) * 2 ^ (f.overflow - f.digits) < (2 : ℝ) ^ f.overflow := by
    rw [hsplit]
    exact mul_lt_mul_of_pos_right (by linarith) hpos
  have hhalf : (2 : ℝ) ^ (f.overflow - 1) < (2 ^ f.digits - 1 / 2) * 2 ^ (f.overflow - f.digits) := by
    have htwo : (2 : ℝ) ≤ 2 ^ f.digits := le_self_pow₀ (by norm_num) hd.ne'
    rw [zpow_sub_one₀ two_ne_zero, hsplit, mul_right_comm]
    exact mul_lt_mul_of_pos_right (by linarith) hpos
  rcases lt_or_ge x (2 ^ (f.overflow - 1)) with hsmall | hlarge
  · refine iff_of_true ?_ (hsmall.trans hhalf)
    exact (rounded_le hd (isMember_zpow (by omega)) hx hsmall.le).trans_lt (hhalf.trans hend)
  rcases lt_or_ge x (2 ^ f.overflow) with hbelow | habove
  · have hunit : f.unit x = f.overflow - f.digits := by
      rw [unit_eq hlarge (by simpa using hbelow)]
      omega
    have hiff := mul_unit_le_rounded_iff (f := f) (x := x) (even_two.pow_of_ne_zero (n := f.digits) hd.ne')
    rw [hunit] at hiff
    push_cast at hiff
    rw [← hsplit] at hiff
    exact lt_iff_lt_of_le_iff_le hiff
  · refine iff_of_false (not_lt.2 ?_) (not_lt.2 (hend.le.trans habove))
    exact le_rounded hd (isMember_zpow (by omega)) (by positivity) habove

end Order

/-- **A whole number is rounded to a whole number.** -/
theorem exists_int_eq_rounded {f : Format} (hd : 0 < f.digits) (he : f.minExponent ≤ 0) (n : ℤ) :
    ∃ m : ℤ, f.rounded n = m := by
  rcases le_or_gt |n| (2 ^ f.digits) with hn | hn
  · exact ⟨n, rounded_of_isMember hd (isMember_intCast hn he)⟩
  have hunit : 0 ≤ f.unit n := by
    have hlog : (f.digits : ℤ) ≤ Int.log 2 |(n : ℝ)| := by
      refine (Int.zpow_le_iff_le_log (b := 2) (by norm_num) (abs_pos.2 ?_)).1 ?_
      · rintro h
        rw [Int.cast_eq_zero.1 h, abs_zero] at hn
        exact absurd hn (not_lt.2 (by positivity))
      · rw [zpow_natCast]
        exact_mod_cast hn.le
    exact (by omega : (0 : ℤ) ≤ Int.log 2 |(n : ℝ)| - (f.digits - 1 : ℕ)).trans (le_max_left _ _)
  obtain ⟨m, hm⟩ := exists_int_mul_zpow hunit (nearestEven (n / 2 ^ f.unit n))
  exact ⟨m, hm.trans (by simp)⟩

end Format
end Regrid.Binary
