import Mathlib
import Regrid.Proofs.Cells
import Regrid.Proofs.Exact
import Regrid.Proofs.Stored
/-!
# Counting — whole numbers among the scalars

Whole numbers up to `2 ^ 53`, and some beyond, are scalars of their own: rounding such a scalar in any direction gives
the number back.  So they pass unchanged through an array of real numbers into the integer type that is asked for
(`Dtype.wholeOf_ofInt`), where the value that is not a number becomes zero (`Dtype.storeReal_nan`).
-/
namespace Regrid

/-- **A whole number of 64 bits that the scalars keep**: the scalar nearest to it is the number itself. -/
structure Scalar.Keeps (α : Type) [Scalar α] (n : Int) : Prop where
  least : -9223372036854775808 ≤ n
  most : n ≤ 18446744073709551615
  floor : Scalar.floor (Scalar.ofInt n : α) = n

/-- **Counting scalars**: what double precision promises about whole numbers. -/
class Scalar.Counting (α : Type) [Scalar α] : Prop where
  /-- Whole numbers up to `2 ^ 53` are kept. -/
  floor_ofInt {n : Int} : -9007199254740992 ≤ n → n ≤ 9007199254740992 → Scalar.floor (Scalar.ofInt n : α) = n
  /-- A whole number that is kept may be rounded either way. -/
  ceil_ofInt {n : Int} : Keeps α n → Scalar.ceil (Scalar.ofInt n : α) = n
  ofInt_beq_self {n : Int} : Keeps α n → (Scalar.ofInt n == (Scalar.ofInt n : α)) = true
  isNaN_ofInt {n : Int} : Keeps α n → Scalar.isNaN (Scalar.ofInt n : α) = false
  isNaN_nan : Scalar.isNaN (Scalar.nan : α) = true

instance : Scalar.Counting Exact where
  floor_ofInt _ _ := (Exact.floor_finite _).trans (Int.floor_intCast _)
  ceil_ofInt _ := (Exact.ceil_finite _).trans (Int.ceil_intCast _)
  ofInt_beq_self _ := decide_eq_true rfl
  isNaN_ofInt _ := rfl
  isNaN_nan := rfl

namespace Scalar

variable {α : Type} [Scalar α] {n : Int}

theorem Keeps.isFinite [Lawful α] (h : Keeps α n) : Scalar.isFinite (ofInt n : α) = true := by
  obtain ⟨hleast, hmost, -⟩ := h
  exact Lawful.isFinite_ofInt (by omega) (by omega)

variable [Counting α]

theorem keeps_of_small (hleast : -9007199254740992 ≤ n) (hmost : n ≤ 9007199254740992) : Keeps α n :=
  ⟨by omega, by omega, Counting.floor_ofInt hleast hmost⟩

theorem keeps_zero : Keeps α 0 := keeps_of_small (by decide) (by decide)

theorem Keeps.rint (h : Keeps α n) : Scalar.rint (ofInt n : α) = n := by
  unfold Scalar.rint
  rw [h.floor]
  exact if_pos (Counting.ofInt_beq_self h)

theorem Keeps.trunc (h : Keeps α n) : Scalar.trunc (ofInt n : α) = n := by
  unfold Scalar.trunc
  rw [h.floor, Counting.ceil_ofInt h, ite_self]

end Scalar

namespace Dtype

variable {α : Type} [Scalar α]

/-- **A real number in an integer type**: rounded, and wrapped into range. -/
def wholeOf (t : IntType) (x : α) : t.Value := intOfReal t (roundToInteger x)

theorem storeReal_int (t : IntType) (x : α) : (int t).storeReal x = .ok (wholeOf t x) := rfl

variable [Scalar.Counting α] {n : Int}

theorem roundToInteger_nan : roundToInteger (Scalar.nan : α) = Scalar.ofInt 0 := if_pos Scalar.Counting.isNaN_nan

variable [Scalar.Lawful α]

theorem roundToInteger_ofInt (h : Scalar.Keeps α n) : roundToInteger (Scalar.ofInt n : α) = Scalar.ofInt n := by
  unfold roundToInteger
  rw [Scalar.Counting.isNaN_ofInt h, h.isFinite, h.rint]
  rfl

/-- **A whole number that is kept** comes back from double precision in any integer type. -/
theorem wholeOf_ofInt (t : IntType) (h : Scalar.Keeps α n) : wholeOf t (Scalar.ofInt n : α) = t.wrap n := by
  have hrange := between_minimum_maximum ⟨h.least, h.most⟩
  unfold wholeOf intOfReal
  rw [roundToInteger_ofInt h]
  simp only [h.isFinite, if_true, h.trunc, hrange]

/-- **What is not a number** becomes zero in an integer type. -/
theorem storeReal_nan {d : Dtype} (hd : d.isInteger = true) :
    d.storeReal (Scalar.nan : α) = d.storeReal (Scalar.ofInt 0) := by
  unfold storeReal
  rw [if_pos hd, if_pos hd, roundToInteger_nan, roundToInteger_ofInt Scalar.keeps_zero]

end Dtype
end Regrid
