import Mathlib
import Regrid.Proofs.Arrays
/-!
# Closeness — comparing transforms and grids up to a tolerance

The tolerance of a comparison grows with the number on the right of it.  So a number may be close to a greater one that
is not close to it: such a pair leans.  Comparing two transforms or grids in either order gives the same answer, unless
all of their numbers are near each other and some of the pairs lean, all of them to the same side
(`Grid.isClose_comm_iff`).
-/
namespace Regrid

namespace Exact

/-- **The difference up to which numbers are close** to a number: `1e-8`, and one part in `10 ^ 5` of it. -/
noncomputable def allowance (y : ℝ) : ℝ := 1e-8 + 1e-5 * |y|

/-- **A number is close to another one**, as far as that one allows. -/
noncomputable def closeTo (x y : Exact) : Bool :=
  Scalar.isClose (Scalar.ofDecimal 1 (-5)) (Scalar.ofDecimal 1 (-8)) x y

/-- **Two numbers are near each other**: they differ by no more than the greater of the two allows. -/
def Near : Exact → Exact → Prop
  | finite x, finite y => |x - y| ≤ allowance (max |x| |y|)
  | infinity s, infinity t => s = t
  | _, _ => False

/-- **A pair of numbers leans** to the second one: that one allows their difference, but the first one does not. -/
def Leans : Exact → Exact → Prop
  | finite x, finite y => allowance x < |x - y| ∧ |x - y| ≤ allowance y
  | _, _ => False

/-- **Pairs of numbers lean to one side**: all numbers are near each other, some pair leans, and no two pairs lean to
different sides. -/
def LeanOneWay (pairs : List (Exact × Exact)) : Prop :=
  (∀ p ∈ pairs, Near p.1 p.2) ∧ ¬((∃ p ∈ pairs, Leans p.1 p.2) ↔ ∃ p ∈ pairs, Leans p.2 p.1)

theorem allowance_nonneg (y : ℝ) : 0 ≤ allowance y := by
  unfold allowance
  positivity

theorem allowance_max (x y : ℝ) : allowance (max |x| |y|) = max (allowance x) (allowance y) := by
  have hrate : (0 : ℝ) ≤ 1e-5 := by norm_num
  unfold allowance
  rw [abs_of_nonneg (le_max_of_le_left (abs_nonneg x)), mul_max_of_nonneg _ _ hrate, max_add_add_left]

@[simp] theorem abs_finite (x : ℝ) : Scalar.abs (finite x) = finite |x| := by
  have hnegative : finite x < 0 ↔ x < 0 := by
    rw [ofNat_eq, Nat.cast_zero, finite_lt]
  unfold Scalar.abs
  by_cases h : x < 0
  · rw [if_pos (hnegative.2 h), neg_finite, abs_of_neg h]
  · rw [if_neg (h ∘ hnegative.1), abs_of_nonneg (not_lt.1 h)]

theorem closeTo_finite (x y : ℝ) : closeTo (finite x) (finite y) = true ↔ |x - y| ≤ allowance y := by
  have hrate : (Scalar.ofDecimal 1 (-5) : Exact) = finite 1e-5 := congrArg finite (by norm_num)
  have hleast : (Scalar.ofDecimal 1 (-8) : Exact) = finite 1e-8 := congrArg finite (by norm_num)
  unfold closeTo Scalar.isClose
  simp only [hrate, hleast, isFinite_finite, Bool.and_self, if_true, finite_sub, abs_finite, finite_mul, finite_add,
    finite_le, decide_eq_true_iff]
  rfl

/-- **A number is close to another one** if they are near each other and do not lean to the number itself. -/
theorem closeTo_iff (x y : Exact) : closeTo x y = true ↔ Near x y ∧ ¬Leans y x := by
  match x, y with
  | finite x, finite y =>
    rw [closeTo_finite, Near, Leans, allowance_max, abs_sub_comm y x, le_max_iff, not_and_or,
      not_lt, not_le]
    constructor
    · intro h
      exact ⟨.inr h, .inl h⟩
    · rintro ⟨hx | hy, hright | hleft⟩
      · exact hright
      · exact absurd hx hleft.not_ge
      · exact hy
      · exact hy
  | infinity s, infinity t =>
    have hequal : closeTo (infinity s) (infinity t) = (s == t) := rfl
    rw [hequal, beq_iff_eq]
    exact ⟨fun h => ⟨h, not_false⟩, And.left⟩
  | finite _, infinity _ | finite _, nan | infinity _, finite _ | infinity _, nan | nan, finite _ | nan, infinity _
  | nan, nan => exact ⟨nofun, fun h => h.1.elim⟩

theorem near_comm {x y : Exact} : Near x y ↔ Near y x := by
  match x, y with
  | finite x, finite y => rw [Near, Near, abs_sub_comm, max_comm]
  | infinity s, infinity t => exact eq_comm
  | finite _, infinity _ | finite _, nan | infinity _, finite _ | infinity _, nan | nan, finite _ | nan, infinity _
  | nan, nan => exact Iff.rfl

theorem all_closeTo {xs ys : List Exact} :
    (List.zipWith closeTo xs ys).all id = true ↔ ∀ p ∈ xs.zip ys, closeTo p.1 p.2 = true := by
  have hmap : List.zipWith closeTo xs ys = (xs.zip ys).map fun p => closeTo p.1 p.2 := by
    rw [List.zip_eq_zipWith, List.map_zipWith]
  rw [hmap, List.all_map, List.all_eq_true]
  rfl

/-- **Pairs of close numbers** are near each other, and none leans to its first number. -/
theorem forall_closeTo_iff {pairs : List (Exact × Exact)} : (∀ p ∈ pairs, closeTo p.1 p.2 = true) ↔
    (∀ p ∈ pairs, Near p.1 p.2) ∧ ¬∃ p ∈ pairs, Leans p.2 p.1 := by
  simp only [closeTo_iff, not_exists, not_and]
  exact forall₂_and

theorem forall_closeTo_swap_iff {pairs : List (Exact × Exact)} : (∀ p ∈ pairs.map Prod.swap, closeTo p.1 p.2 = true) ↔
    (∀ p ∈ pairs, Near p.1 p.2) ∧ ¬∃ p ∈ pairs, Leans p.1 p.2 := by
  simp only [List.forall_mem_map, Prod.fst_swap, Prod.snd_swap, closeTo_iff, not_exists, not_and]
  exact forall₂_and.trans (and_congr_left' (forall₂_congr fun p _ => near_comm))

/-- **The sides of all pairs may be swapped** in a comparison, unless the pairs lean one way. -/
theorem closeTo_swap_iff_not_leanOneWay {pairs : List (Exact × Exact)} :
    ((∀ p ∈ pairs, closeTo p.1 p.2 = true) ↔ ∀ p ∈ pairs.map Prod.swap, closeTo p.1 p.2 = true) ↔
      ¬LeanOneWay pairs := by
  rw [forall_closeTo_iff, forall_closeTo_swap_iff, and_congr_right_iff, not_iff_not, LeanOneWay, not_and, not_not]
  exact imp_congr_right fun _ => iff_comm

end Exact

open Exact

/-- **The numbers that are compared** in two transforms. -/
def AffineTransform.pairs {α : Type} (t u : AffineTransform α) : List (α × α) := t.matrix.entries.zip u.matrix.entries

/-- **The numbers that are compared** in two grids of one shape. -/
def Grid.pairs {α : Type} (g h : Grid α) : List (α × α) := g.spacing.zip h.spacing ++ g.transform.pairs h.transform

namespace AffineTransform

theorem pairs_swap {α : Type} (t u : AffineTransform α) : u.pairs t = (t.pairs u).map Prod.swap :=
  (List.zip_swap _ _).symm

theorem isClose_iff (t u : AffineTransform Exact) : t.isClose u = true ↔ ∀ p ∈ t.pairs u, closeTo p.1 p.2 = true :=
  all_closeTo

theorem pairs_affine (a b : RealMatrix 4 4) : (affine a).pairs (affine b) =
    (List.finRange 4).flatMap fun i => (List.finRange 4).map fun j => (finite (a i j), finite (b i j)) := rfl

/-- **Transforms by real numbers** are close if each entry of the second one allows the difference. -/
theorem isClose_affine_iff (a b : RealMatrix 4 4) :
    (affine a).isClose (affine b) = true ↔ ∀ i j, |a i j - b i j| ≤ allowance (b i j) := by
  rw [isClose_iff, pairs_affine]
  simp only [List.forall_mem_flatMap, List.forall_mem_map, List.mem_finRange, forall_const, closeTo_finite]

/-- **Shifts along an axis** compare like their distances. -/
theorem isClose_translation_iff (x y : ℝ) :
    (affine (RealMatrix.translation ![x, 0, 0])).isClose (affine (RealMatrix.translation ![y, 0, 0])) = true ↔
      |x - y| ≤ allowance y := by
  have hentries : ∀ i j : Fin 4, i = 0 ∧ j = 3 ∨
      RealMatrix.translation ![x, 0, 0] i j = RealMatrix.translation ![y, 0, 0] i j := by
    intro i j
    refine Fin.lastCases (.inr rfl) (fun i => ?_) i
    refine Fin.lastCases ?_ (fun j => .inr ?_) j
    · fin_cases i
      · exact .inl ⟨rfl, rfl⟩
      · exact .inr rfl
      · exact .inr rfl
    · rw [RealMatrix.translation, RealMatrix.translation, RealMatrix.parts_castSucc, RealMatrix.parts_castSucc]
  rw [isClose_affine_iff]
  constructor
  · intro h
    exact h 0 3
  · intro h i j
    obtain ⟨rfl, rfl⟩ | hij := hentries i j
    · exact h
    · rw [hij, sub_self, abs_zero]
      exact allowance_nonneg _

end AffineTransform

namespace Grid

theorem pairs_swap {α : Type} (g h : Grid α) : h.pairs g = (g.pairs h).map Prod.swap := by
  rw [pairs, pairs, List.map_append, List.zip_swap, AffineTransform.pairs_swap]

theorem isClose_iff (g h : Grid Exact) : g.isClose h = true ↔
    g.shape = h.shape ∧ ∀ p ∈ g.pairs h, closeTo p.1 p.2 = true := by
  unfold isClose
  rw [Bool.and_eq_true, Bool.and_eq_true, beq_iff_eq, and_assoc, AffineTransform.isClose_iff, pairs,
    List.forall_mem_append, ← all_closeTo]
  rfl

/-- **The order of a comparison does not matter**, unless the numbers that are compared lean one way; grids of different
shapes are not close in either order. -/
theorem isClose_comm_iff :
    (∀ t u : AffineTransform Exact, t.isClose u = u.isClose t ↔ ¬LeanOneWay (t.pairs u)) ∧
    (∀ g h : Grid Exact, g.isClose h = h.isClose g ↔ ¬(g.shape = h.shape ∧ LeanOneWay (g.pairs h))) ∧
    ∀ g h : Grid Exact, g.shape = h.shape ∨ g.isClose h = false ∧ h.isClose g = false := by
  refine ⟨fun t u => ?_, fun g h => ?_, fun g h => ?_⟩
  · rw [Bool.eq_iff_iff, t.isClose_iff, u.isClose_iff, t.pairs_swap u]
    exact closeTo_swap_iff_not_leanOneWay
  · rw [Bool.eq_iff_iff, g.isClose_iff, h.isClose_iff, g.pairs_swap h, @eq_comm _ h.shape, and_congr_right_iff,
      closeTo_swap_iff_not_leanOneWay, not_and]
  · refine or_iff_not_imp_left.2 fun hshape => ⟨?_, ?_⟩
    · exact Bool.eq_false_of_not_eq_true fun hclose => hshape ((g.isClose_iff h).1 hclose).1
    · exact Bool.eq_false_of_not_eq_true fun hclose => hshape ((h.isClose_iff g).1 hclose).1.symm

/-- **A shift by 99999 is close to a shift by 100000**, but not the other way round, and so are the grids with these
transforms. -/
theorem isClose_not_comm :
    let t : AffineTransform Exact := affine (RealMatrix.translation ![99999, 0, 0])
    let u : AffineTransform Exact := affine (RealMatrix.translation ![100000, 0, 0])
    t.isClose u = true ∧ u.isClose t = false ∧
    ∃ g h : Grid Exact, make [2, 3, 4] none (some t) = .ok g ∧ make [2, 3, 4] none (some u) = .ok h ∧
      g.isClose h = true ∧ h.isClose g = false := by
  intro t u
  have hdistance : |(99999 : ℝ) - 100000| = 1 := by norm_num
  have hclose : t.isClose u = true := by
    rw [AffineTransform.isClose_translation_iff, hdistance, allowance]
    norm_num
  have hfar : ¬u.isClose t = true := by
    rw [AffineTransform.isClose_translation_iff, abs_sub_comm, hdistance, allowance]
    norm_num
  let spacing : List Exact := (point (1 : Fin 3 → ℝ)).toList
  have hmake : ∀ d : Fin 3 → ℝ, make [2, 3, 4] none (some (affine (RealMatrix.translation d))) =
      .ok ⟨⟨triple 2 3 4, []⟩, spacing, affine (RealMatrix.translation d)⟩ := by
    intro d
    have hlengths : (RealMatrix.translation d).stepLength = 1 := funext (RealMatrix.stepLength_translation d)
    have hgrid := make_lengths (m := triple 2 3 4) (by decide) (RealMatrix.stepLength_translation_pos (t := d))
    rwa [hlengths] at hgrid
  have hspacing : ∀ p ∈ spacing.zip spacing, closeTo p.1 p.2 = true := by
    have hones : spacing = [finite 1, finite 1, finite 1] := rfl
    rw [hones]
    simp [closeTo_finite, allowance_nonneg]
  refine ⟨hclose, Bool.eq_false_of_not_eq_true hfar, _, _, hmake _, hmake _, ?_, ?_⟩
  · rw [isClose_iff, pairs, List.forall_mem_append]
    exact ⟨rfl, hspacing, (AffineTransform.isClose_iff t u).1 hclose⟩
  · refine Bool.eq_false_of_not_eq_true fun h => hfar ?_
    rw [isClose_iff, pairs, List.forall_mem_append] at h
    exact (AffineTransform.isClose_iff u t).2 h.2.2

end Grid
end Regrid
