import Mathlib
import Regrid.Proofs.Geometry
import Regrid.Proofs.Readings
/-!
# Centres — estimates at the centres of voxels

At the centre of a voxel the nearest and the linear kernel give the voxel itself, whatever its value: the other corners
around it have weight zero and do not count.
-/
namespace Regrid

open Exact

theorem Shape.inside_iff_get {size voxel : Vector Nat 3} :
    Shape.Inside size.toList voxel.toList ↔ ∀ i : Fin 3, voxel.get i < size.get i := forall₂_toList

/-- **The centre of a voxel.** -/
noncomputable def Exact.centre (voxel : Vector Nat 3) : Point Exact := point fun i => (voxel.get i : ℝ)

namespace Kernel

variable {size voxel : Vector Nat 3}

theorem positive_of_inside (h : Shape.Inside size.toList voxel.toList) : ∀ n ∈ size.toList, 0 < n :=
  forall_mem_toList.2 fun i => Nat.zero_lt_of_lt (Shape.inside_iff_get.1 h i)

theorem clampVoxel?_natCast (h : Shape.Inside size.toList voxel.toList) :
    clampVoxel? size (voxel.map fun n : Nat => (n : Int)) = some voxel := by
  rw [clampVoxel?_eq (positive_of_inside h)]
  refine congrArg some (Vector.ext fun i hi => ?_)
  have hlt := Shape.inside_iff_get.1 h ⟨i, hi⟩
  simp only [Vector.get] at hlt
  simp only [Vector.getElem_zipWith, Vector.getElem_map, clamp]
  simp at hlt
  omega

/-- **The nearest voxel** is the one whose half-open cell around its centre has the position in it. -/
theorem nearestVoxel?_point (h : Shape.Inside size.toList voxel.toList) {x : Fin 3 → ℝ}
    (hx : ∀ i, ⌊x i + 1 / 2⌋ = (voxel.get i : ℤ)) : nearestVoxel? size (point x) = some voxel := by
  have hindex : (point x).map (fun x => Scalar.floor (x + Scalar.half)) = voxel.map fun n : Nat => (n : Int) := by
    ext i hi
    simpa [point, Vector.get] using hx ⟨i, hi⟩
  rw [nearestVoxel?, hindex, clampVoxel?_natCast h]

theorem nearestVoxel?_centre (h : Shape.Inside size.toList voxel.toList) :
    nearestVoxel? size (centre voxel) = some voxel := by
  refine nearestVoxel?_point h fun i => ?_
  rw [Int.floor_eq_iff]
  push_cast
  constructor <;> linarith

theorem cornerWeight_zero (corner : Vector (Fin 2) 3) :
    cornerWeight (point 0) corner = if ∀ i, corner.get i = 0 then finite 1 else finite 0 := by
  have hfactor : ∀ i, (if corner.get i = 1 then (point 0 : Point Exact).get i else 1 - (point 0 : Point Exact).get i) =
      if corner.get i = 0 then finite 1 else finite 0 := by
    intro i
    rw [get_point]
    match corner.get i with
    | 0 => simp
    | 1 => simp
  unfold cornerWeight
  simp only [hfactor, Fin.forall_fin_succ]
  by_cases h0 : corner.get 0 = 0 <;> by_cases h1 : corner.get 1 = 0 <;> by_cases h2 : corner.get 2 = 0 <;>
    simp [h0, h1, h2]

/-- **The linear estimate at the centre of a voxel** is the reading of the voxel. -/
theorem linearAt_centre (h : Shape.Inside size.toList voxel.toList) {read : Vector Nat 3 → Except (Fault Exact) Exact}
    (hread : ∀ voxel, Shape.Inside size.toList voxel.toList → ∃ x, read voxel = .ok x) :
    linearAt size read (centre voxel) = read voxel := by
  obtain ⟨x, hx⟩ := hread voxel h
  have hbase : (centre voxel).map Scalar.floor = voxel.map fun n : Nat => (n : Int) := by
    ext i hi
    simp [centre, point, Vector.get]
  have hdistance : Vector.zipWith (fun x i => x - Scalar.ofInt i) (centre voxel) (voxel.map fun n : Nat => (n : Int)) =
      point 0 := by
    ext i hi
    simp [centre, point, Vector.get]
  have hcube : cube 2 = triple 0 0 0 :: (cube 2).tail := rfl
  have htail : ∀ corner ∈ (cube 2).tail, ¬∀ i, corner.get i = 0 := by decide
  unfold linearAt
  simp only [hbase, hdistance, cornerWeight_zero]
  rw [hcube, List.foldlM_cons]
  have hweight : ∀ i : Fin 3, (triple (0 : Fin 2) 0 0).get i = 0 := by decide
  have hfirst : Vector.zipWith (fun (i : Int) (c : Fin 2) => i + c.val) (voxel.map fun n : Nat => (n : Int))
      (triple 0 0 0) = voxel.map fun n : Nat => (n : Int) := by
    ext i hi
    have hzero : (triple (0 : Fin 2) 0 0)[i] = 0 := hweight ⟨i, hi⟩
    simp [hzero]
  rw [hfirst, clampVoxel?_natCast h]
  have hone : (finite 1 == 0) = false := by simp
  simp only [hx, ok_bind, if_pos hweight, hone, Bool.false_eq_true, if_false, Exact.one_mul]
  have hstart : (0 : Exact) + x = x := by simpa using Exact.zero_add x
  rw [hstart]
  -- the other corners have no weight, so that the sum stays what it is
  refine (View.foldlM_eq_ok (g := fun s _ => s) x fun s corner hcorner => ?_).trans ?_
  · obtain ⟨neighbour, hneighbour, hinside⟩ := exists_clampVoxel (positive_of_inside h)
      (Vector.zipWith (fun i (c : Fin 2) => i + c.val) (voxel.map fun n : Nat => (n : Int)) corner)
    obtain ⟨y, hy⟩ := hread neighbour hinside
    have hzero : (finite 0 == 0) = true := by simp
    rw [hneighbour]
    simp only [hy, ok_bind, if_neg (htail corner hcorner), hzero, if_true]
    exact congrArg Except.ok (Exact.add_zero s)
  · rw [List.foldl_fixed]

end Kernel

namespace Sampler

variable {s : Sampler Exact} {voxel : Vector Nat 3} {place : List Nat}

/-- **The field of view** ends half a voxel beyond the outermost centres. -/
theorem valid_point {x : Fin 3 → ℝ} :
    s.valid (point x) = true ↔ ∀ i, -(1 / 2) ≤ x i ∧ x i ≤ s.extent.spatial.get i - 1 / 2 := by
  have haxis : ∀ i : Fin 3, insideAxis (s.extent.spatial.get i) ((point x).get i) = true ↔
      -(1 / 2) ≤ x i ∧ x i ≤ s.extent.spatial.get i - 1 / 2 := by
    intro i
    simp only [insideAxis, get_point, half_eq, neg_finite, ofInt_eq, finite_sub, finite_le, isFinite_finite,
      Bool.and_true, Bool.and_eq_true, decide_eq_true_eq, Int.cast_natCast]
  rw [valid, Vector.all_eq_true]
  constructor
  · intro h i
    refine (haxis i).1 ?_
    simpa [Vector.get] using h i.val i.isLt
  · intro h i hi
    simpa [Vector.get] using (haxis ⟨i, hi⟩).2 (h ⟨i, hi⟩)

theorem valid_centre (h : Shape.Inside s.extent.spatial.toList voxel.toList) : s.valid (centre voxel) = true := by
  refine valid_point.2 fun i => ?_
  have hlt : (voxel.get i : ℝ) + 1 ≤ s.extent.spatial.get i := by exact_mod_cast Shape.inside_iff_get.1 h i
  have hnonneg : (0 : ℝ) ≤ voxel.get i := Nat.cast_nonneg _
  constructor <;> linarith

/-- **At the centre of a voxel** the nearest kernel reads its cell. -/
theorem valueAt_centre_of_cell {volume : Volume Exact} {extent : Extent} {fallback : Option (Literal Exact)}
    {grid : Option (Grid Exact)} {name : Literal Exact} (hvoxel : Shape.Inside extent.spatial.toList voxel.toList)
    (hplace : Shape.Inside extent.series place) {x : volume.dtype.Value Exact}
    (hx : volume.cell? (voxel.toList ++ place) = some x) :
    valueAt ⟨volume, extent, .nearest, fallback, grid, name⟩ (place.map fun i : Nat => .number (.int i))
      (centre voxel) = .ok (.cell ⟨volume.dtype, x⟩, true) := by
  have hread : sample ⟨volume, extent, .nearest, fallback, grid, name⟩ place (centre voxel) = .ok x :=
    sample_nearest_of_cell (Kernel.nearestVoxel?_centre hvoxel) hx
  unfold valueAt
  rw [if_pos (valid_centre hvoxel), place_of_inside hplace, ok_bind, hread]
  rfl

theorem Sound.estimate_nearest_double (hs : s.Sound) {cells : Tensor Exact}
    (hvolume : s.volume = ⟨.real .double, cells⟩) (hsource : s.source = .nearest)
    (hvoxel : Shape.Inside s.extent.spatial.toList voxel.toList) (hplace : Shape.Inside s.extent.series place)
    {p : Point Exact} (hp : Kernel.nearestVoxel? s.extent.spatial p = some voxel) :
    ∃ x, cells.get? (voxel.toList ++ place) = some x ∧ s.estimate place p = x := by
  have h := hs.estimate_nearest hsource hvoxel hplace hp
  rw [hvolume] at h
  exact h

/-- **At the centre of a voxel** the nearest and the linear kernel give the voxel. -/
theorem Sound.estimate_centre (hs : s.Sound) (hsource : ∀ coefficients, s.source ≠ .cubic coefficients)
    (hvoxel : Shape.Inside s.extent.spatial.toList voxel.toList) (hplace : Shape.Inside s.extent.series place) :
    ∃ x, s.volume.cell? (voxel.toList ++ place) = some x ∧
      s.estimate place (centre voxel) = s.volume.dtype.scalar x := by
  cases hkind : s.source with
  | nearest => exact hs.estimate_nearest hkind hvoxel hplace (Kernel.nearestVoxel?_centre hvoxel)
  | linear =>
    obtain ⟨x, hx, -⟩ := hs.exists_cell hvoxel hplace
    refine ⟨x, hx, ?_⟩
    obtain ⟨volume, extent, source, fallback, grid, name⟩ := s
    obtain rfl : source = .linear := hkind
    have hread : ∀ w : Vector Nat 3, Shape.Inside extent.spatial.toList w.toList → ∃ y,
        (volume.cell? (w.toList ++ place)).elim (.error .indexOutside) volume.dtype.toScalar =
          (Except.ok y : Except (Fault Exact) Exact) := by
      intro w hw
      obtain ⟨y, hy, -⟩ := hs.exists_cell hw hplace
      exact ⟨volume.dtype.scalar y, by rw [hy]; exact Dtype.toScalar_eq hs.numeric y⟩
    have hsample : Source.sample volume extent.spatial place (centre voxel) .linear =
        .ok (volume.dtype.scalar x : Exact) := by
      refine (Kernel.linearAt_centre hvoxel hread).trans ?_
      rw [hx]
      exact Dtype.toScalar_eq hs.numeric x
    exact estimate_eq hsample
  | cubic coefficients => exact absurd hkind (hsource coefficients)

theorem Sound.estimate_centre_double (hs : s.Sound) {cells : Tensor Exact} (hvolume : s.volume = ⟨.real .double, cells⟩)
    (hsource : ∀ coefficients, s.source ≠ .cubic coefficients)
    (hvoxel : Shape.Inside s.extent.spatial.toList voxel.toList) (hplace : Shape.Inside s.extent.series place) :
    ∃ x, cells.get? (voxel.toList ++ place) = some x ∧ s.estimate place (centre voxel) = x := by
  have h := hs.estimate_centre hsource hvoxel hplace
  rw [hvolume] at h
  exact h

end Sampler

end Regrid
