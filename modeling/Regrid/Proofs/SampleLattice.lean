import Mathlib
import Regrid.Proofs.BlockMean
import Regrid.Proofs.Written
/-!
# SampleLattice — where the samples of a voxel are

The samples of a plan are the points of a lattice inside the voxel, in the order in which the first axis varies fastest
and symmetric about its centre.  Those of neighbouring voxels make up one lattice, which has every point once
(`OversamplingPlan.offsets_lattice`).
-/
namespace Regrid

open Exact

section Ranges

theorem flatMap_range_mul (f : ℕ) : ∀ m : ℕ,
    ((List.range m).flatMap fun x : ℕ => (List.range f).map fun k => f * x + k) = List.range (m * f)
  | 0 => by rw [Nat.zero_mul]; rfl
  | m + 1 => by
    rw [List.range_succ, List.flatMap_append, flatMap_range_mul f m, List.flatMap_singleton, Nat.succ_mul,
      List.range_add, Nat.mul_comm f m]

theorem reverse_range (n : ℕ) : (List.range n).reverse = (List.range n).map fun k => n - 1 - k := by
  simp only [List.range_eq_range', List.reverse_range', Nat.zero_add]

theorem reverse_flatMap_range {β : Type} (n : ℕ) (g : ℕ → List β) :
    ((List.range n).flatMap g).reverse = (List.range n).flatMap fun k => (g (n - 1 - k)).reverse := by
  rw [List.reverse_flatMap, reverse_range, List.flatMap_map]
  rfl

end Ranges

section Steps

variable {f k : Fin 3 → ℕ}

/-- **The place of a step** in the order in which the first axis varies fastest. -/
def blockRank (f step : Fin 3 → ℕ) : ℕ := step 0 + f 0 * (step 1 + f 1 * step 2)

theorem mem_blockSteps : k ∈ blockSteps f ↔ ∀ i, k i < f i := by
  refine ⟨lt_of_mem_blockSteps, fun h => ?_⟩
  simp only [blockSteps, List.mem_flatMap, List.mem_map, List.mem_range]
  refine ⟨k 2, h 2, k 1, h 1, k 0, h 0, funext fun i => ?_⟩
  fin_cases i <;> rfl

theorem map_blockRank (f : Fin 3 → ℕ) : (blockSteps f).map (blockRank f) = List.range (f 0 * f 1 * f 2) := by
  have hinner : ∀ z, ((List.range (f 1)).flatMap fun y => (List.range (f 0)).map fun x => x + f 0 * (y + f 1 * z)) =
      ((List.range (f 1)).map fun y => f 1 * z + y).flatMap fun w => (List.range (f 0)).map fun x => f 0 * w + x := by
    intro z
    simp only [List.flatMap_map, Nat.add_comm]
  -- the two inner axes make up one axis, and it and the last one make up the range
  calc (blockSteps f).map (blockRank f)
      = (List.range (f 2)).flatMap fun z => (List.range (f 1)).flatMap fun y =>
          (List.range (f 0)).map fun x => x + f 0 * (y + f 1 * z) := by
        simp only [blockSteps, List.map_flatMap, List.map_map]
        rfl
    _ = (List.range (f 2 * f 1)).flatMap fun w => (List.range (f 0)).map fun x => f 0 * w + x := by
        simp only [hinner]
        rw [← List.flatMap_assoc, flatMap_range_mul]
    _ = List.range (f 0 * f 1 * f 2) := by
        rw [flatMap_range_mul, Nat.mul_comm, Nat.mul_comm (f 2), Nat.mul_assoc]

theorem length_blockSteps (f : Fin 3 → ℕ) : (blockSteps f).length = f 0 * f 1 * f 2 := by
  rw [← List.length_map (blockRank f), map_blockRank, List.length_range]

theorem nodup_blockRank (f : Fin 3 → ℕ) : ((blockSteps f).map (blockRank f)).Nodup := by
  rw [map_blockRank]
  exact List.nodup_range

theorem nodup_blockSteps (f : Fin 3 → ℕ) : (blockSteps f).Nodup := (nodup_blockRank f).of_map

theorem getElem?_blockSteps (hk : ∀ i, k i < f i) : (blockSteps f)[blockRank f k]? = some k := by
  have hmem : blockRank f k ∈ (blockSteps f).map (blockRank f) := List.mem_map_of_mem (mem_blockSteps.2 hk)
  rw [map_blockRank, List.mem_range] at hmem
  have hplace : ((blockSteps f).map (blockRank f))[blockRank f k]? = some (blockRank f k) := by
    rw [map_blockRank, List.getElem?_range hmem]
  rw [List.getElem?_map, Option.map_eq_some_iff] at hplace
  obtain ⟨step, hstep, hrank⟩ := hplace
  rw [hstep, List.inj_on_of_nodup_map (nodup_blockRank f) (List.mem_of_getElem? hstep) (mem_blockSteps.2 hk) hrank]

/-- **Backwards**, every axis is gone through from its end. -/
theorem reverse_blockSteps (f : Fin 3 → ℕ) :
    (blockSteps f).reverse = (blockSteps f).map fun step i => f i - 1 - step i := by
  simp only [blockSteps, reverse_flatMap_range, ← List.map_reverse, reverse_range, List.map_flatMap, List.map_map]
  refine List.flatMap_congr fun z _ => List.flatMap_congr fun y _ => List.map_congr_left fun x _ => funext fun i => ?_
  fin_cases i <;> rfl

theorem div_add_step {f voxel step n : Fin 3 → ℕ} (hstep : ∀ i, step i < f i)
    (hn : (fun i => f i * voxel i + step i) = n) : (fun i => n i / f i) = voxel := by
  subst hn
  funext i
  rw [Nat.mul_add_div (Nat.zero_lt_of_lt (hstep i)), Nat.div_eq_of_lt (hstep i), Nat.add_zero]

/-- **The blocks of all voxels** make up the finer voxels, each of which is in one block. -/
theorem flatMap_blockSteps_perm (f m : Fin 3 → ℕ) :
    ((blockSteps m).flatMap fun voxel => (blockSteps f).map fun step i => f i * voxel i + step i).Perm
      (blockSteps fun i => m i * f i) := by
  have hdisjoint : ∀ {voxel voxel' : Fin 3 → ℕ}, voxel ≠ voxel' →
      List.Disjoint ((blockSteps f).map fun step i => f i * voxel i + step i)
        ((blockSteps f).map fun step i => f i * voxel' i + step i) := by
    intro voxel voxel' hne n hn hn'
    obtain ⟨step, hstep, hplace⟩ := List.mem_map.1 hn
    obtain ⟨step', hstep', hplace'⟩ := List.mem_map.1 hn'
    exact hne ((div_add_step (mem_blockSteps.1 hstep) hplace).symm.trans
      (div_add_step (mem_blockSteps.1 hstep') hplace'))
  have hnodup : ((blockSteps m).flatMap fun voxel =>
      (blockSteps f).map fun step i => f i * voxel i + step i).Nodup := by
    refine List.nodup_flatMap.2 ⟨fun voxel _ => ?_, (nodup_blockSteps m).imp hdisjoint⟩
    exact (nodup_blockSteps f).map fun step step' h => funext fun i => Nat.add_left_cancel (congrFun h i)
  refine (List.perm_ext_iff_of_nodup hnodup (nodup_blockSteps _)).2 fun n => ?_
  simp only [List.mem_flatMap, List.mem_map, mem_blockSteps]
  constructor
  · rintro ⟨voxel, hvoxel, step, hstep, rfl⟩ i
    calc f i * voxel i + step i < f i * (voxel i + 1) := Nat.add_lt_add_left (hstep i) _
      _ ≤ f i * m i := Nat.mul_le_mul_left _ (hvoxel i)
      _ = m i * f i := Nat.mul_comm _ _
  · intro hn
    have hpositive : ∀ i, 0 < f i := fun i => Nat.pos_of_lt_mul_left (hn i)
    exact ⟨fun i => n i / f i, fun i => (Nat.div_lt_iff_lt_mul (hpositive i)).2 (hn i), fun i => n i % f i,
      fun i => Nat.mod_lt _ (hpositive i), funext fun i => Nat.div_add_mod _ _⟩

end Steps

namespace OversamplingPlan

/-- **The points of the lattice** that has `f` points in every voxel of an axis and whose first voxel is at zero. -/
noncomputable def latticePoint (f j : ℕ) : ℝ := -(1 / 2) + 1 / (2 * f) + j / f

/-- **The place of a sample** relative to the centre of its voxel. -/
noncomputable def row (p : OversamplingPlan) (step : Fin 3 → ℕ) : Fin 3 → ℝ := fun i =>
  (2 * step i + 1 - p.factors.get i) / (2 * p.factors.get i)

/-- **The places of all samples** relative to the centre of their voxel. -/
noncomputable def rows (p : OversamplingPlan) : List (Fin 3 → ℝ) := (blockSteps p.factors.get).map p.row

variable (p : OversamplingPlan)

theorem offsets_rows : (p.offsets : List (Point Exact)) = p.rows.map point := by
  rw [offsets_eq, rows, List.map_map]
  refine List.map_congr_left fun step _ => ?_
  simp only [offset_eq]
  ext i hi
  match i with
  | 0 | 1 | 2 => simp [triple, point, row]

theorem factors_ne_zero (i : Fin 3) : (p.factors.get i : ℝ) ≠ 0 := by exact_mod_cast (p.positive i).ne'

theorem row_between {step : Fin 3 → ℕ} (hstep : ∀ i, step i < p.factors.get i) (i : Fin 3) :
    -(1 / 2) < p.row step i ∧ p.row step i < 1 / 2 := by
  have hpositive : (0 : ℝ) < 2 * p.factors.get i := by
    have := p.positive i
    positivity
  have hlt : ((step i : ℝ) + 1) ≤ p.factors.get i := by exact_mod_cast hstep i
  have hle : (0 : ℝ) ≤ step i := Nat.cast_nonneg _
  rw [row, lt_div_iff₀ hpositive, div_lt_iff₀ hpositive]
  constructor <;> linarith

theorem row_injective : Function.Injective p.row := fun step step' h => funext fun i => by
  have hi := congrFun h i
  have hne := p.factors_ne_zero i
  simp only [row] at hi
  field_simp at hi
  exact_mod_cast (by linarith : (step i : ℝ) = step' i)

theorem row_opposite {step : Fin 3 → ℕ} (hstep : ∀ i, step i < p.factors.get i) :
    (p.row fun i => p.factors.get i - 1 - step i) = -p.row step := by
  funext i
  have hcast : ((p.factors.get i - 1 - step i : ℕ) : ℝ) = p.factors.get i - 1 - step i := by
    have := hstep i
    rw [Nat.sub_sub, Nat.cast_sub (by omega)]
    push_cast
    ring
  rw [Pi.neg_apply, row, row, hcast, ← neg_div]
  congr 1
  ring

theorem add_row (voxel step : Fin 3 → ℕ) : (fun i => (voxel i : ℝ)) + p.row step = fun i =>
    latticePoint (p.factors.get i) (p.factors.get i * voxel i + step i) := by
  funext i
  have hne := p.factors_ne_zero i
  rw [Pi.add_apply, row, latticePoint]
  push_cast
  field_simp
  ring

theorem reverse_rows : p.rows.reverse = p.rows.map (-·) := by
  rw [rows, ← List.map_reverse, reverse_blockSteps, List.map_map, List.map_map]
  exact List.map_congr_left fun step hstep => row_opposite p (mem_blockSteps.1 hstep)

theorem sum_rows : p.rows.sum = 0 := by
  -- the sum is its own negative
  have hsum := congrArg List.sum p.reverse_rows
  rw [List.sum_reverse, ← List.sum_neg] at hsum
  exact self_eq_neg.1 hsum

theorem foldl_add_point {n : ℕ} : ∀ (l : List (Fin n → ℝ)) (x : Fin n → ℝ),
    (l.map point).foldl Point.add (point x) = point (x + l.sum)
  | [], x => by simp
  | y :: l, x => by
    rw [List.map_cons, List.foldl_cons, add_point, foldl_add_point l, List.sum_cons, add_assoc]

/-- **The samples along an axis** of the first voxels are all points of a lattice, each once. -/
theorem axis_samples (axis : Fin 3) (m : ℕ) :
    ((List.range m).flatMap fun x : ℕ => (List.range (p.factors.get axis)).map fun k =>
      Scalar.ofInt (x : ℤ) + (p.offset axis k : Exact)) =
    (List.range (m * p.factors.get axis)).map fun j => finite (latticePoint (p.factors.get axis) j) := by
  rw [← flatMap_range_mul, List.map_flatMap]
  refine List.flatMap_congr fun x _ => ?_
  rw [List.map_map]
  refine List.map_congr_left fun k _ => ?_
  have hplace := congrFun (p.add_row (fun _ => x) fun _ => k) axis
  rw [offset_eq, ofInt_eq, finite_add]
  exact congrArg finite hplace

theorem nodup_axis_lattice (axis : Fin 3) (n : ℕ) :
    ((List.range n).map fun j => finite (latticePoint (p.factors.get axis) j)).Nodup := by
  refine List.nodup_range.map fun j j' h => ?_
  have hreal := add_left_cancel (Exact.finite.inj h)
  rw [div_left_inj' (p.factors_ne_zero axis)] at hreal
  exact_mod_cast hreal

/-- **The samples of a box of voxels** are all points of a lattice, each once. -/
theorem box_samples_perm (m : Fin 3 → ℕ) :
    ((blockSteps m).flatMap fun voxel => p.offsets.map (Point.add (point fun i => (voxel i : ℝ)))).Perm
      ((blockSteps fun i => m i * p.factors.get i).map fun j =>
        point fun i => latticePoint (p.factors.get i) (j i)) := by
  refine List.Perm.trans (.of_eq ?_) ((flatMap_blockSteps_perm p.factors.get m).map _)
  rw [List.map_flatMap]
  refine List.flatMap_congr fun voxel _ => ?_
  rw [offsets_rows, rows, List.map_map, List.map_map, List.map_map]
  refine List.map_congr_left fun step _ => ?_
  simp only [Function.comp_apply, add_point, add_row]

/-- **The samples of a plan are a lattice**: there are as many as the product of the factors, a row stands where the
order in which the first axis varies fastest puts it, no two rows are the same, all are strictly inside the voxel, the
list read backwards is its negative, and the rows cancel in the sum.  Along an axis the samples of the first voxels are
the points of the lattice with the finer step, each once; so are those of a box of voxels. -/
theorem offsets_lattice (p : OversamplingPlan) :
    (ofLiteral (.list [.number (.int (p.factors.get 0)), .number (.int (p.factors.get 1)),
      .number (.int (p.factors.get 2))]) = (.ok p : Except (Fault Exact) OversamplingPlan)) ∧
    (p.offsets : List (Point Exact)).length = p.factors.get 0 * p.factors.get 1 * p.factors.get 2 ∧
    (∀ k : Fin 3 → ℕ, (∀ i, k i < p.factors.get i) →
      p.offsets[k 0 + p.factors.get 0 * (k 1 + p.factors.get 1 * k 2)]? =
        some (point fun i => (2 * k i + 1 - p.factors.get i) / (2 * p.factors.get i))) ∧
    (p.offsets : List (Point Exact)).Nodup ∧
    (∀ offset ∈ p.offsets, ∃ x : Fin 3 → ℝ, offset = point x ∧ ∀ i, -(1 / 2) < x i ∧ x i < 1 / 2) ∧
    (p.offsets : List (Point Exact)).reverse = p.offsets.map (fun offset => offset.map (-·)) ∧
    p.offsets.foldl Point.add (point 0) = point 0 ∧
    (∀ (axis : Fin 3) (m : ℕ),
      ((List.range m).flatMap fun x : ℕ => (List.range (p.factors.get axis)).map fun k =>
        Scalar.ofInt (x : ℤ) + (p.offset axis k : Exact)) =
      ((List.range (m * p.factors.get axis)).map fun j => finite (latticePoint (p.factors.get axis) j)) ∧
      ((List.range m).flatMap fun x : ℕ => (List.range (p.factors.get axis)).map fun k =>
        Scalar.ofInt (x : ℤ) + (p.offset axis k : Exact)).Nodup) ∧
    ∀ m : Fin 3 → ℕ,
      ((blockSteps m).flatMap fun voxel => p.offsets.map (Point.add (point fun i => (voxel i : ℝ)))).Perm
        ((blockSteps fun i => m i * p.factors.get i).map fun j =>
          point fun i => latticePoint (p.factors.get i) (j i)) := by
  refine ⟨?_, ?_, fun k hk => ?_, ?_, fun offset hoffset => ?_, ?_, ?_, fun axis m => ⟨p.axis_samples axis m, ?_⟩,
    p.box_samples_perm⟩
  · exact ofWholeLiterals_factors .round p
  · rw [offsets_rows, List.length_map, rows, List.length_map, length_blockSteps]
  · rw [offsets_rows, List.getElem?_map, rows, List.getElem?_map]
    change Option.map _ (Option.map _ ((blockSteps p.factors.get)[blockRank p.factors.get k]?)) = _
    rw [getElem?_blockSteps hk]
    rfl
  · rw [offsets_rows]
    exact ((nodup_blockSteps _).map p.row_injective).map point_injective
  · rw [offsets_rows] at hoffset
    obtain ⟨x, hx, rfl⟩ := List.mem_map.1 hoffset
    obtain ⟨step, hstep, rfl⟩ := List.mem_map.1 hx
    exact ⟨_, rfl, p.row_between (mem_blockSteps.1 hstep)⟩
  · rw [offsets_rows, ← List.map_reverse, reverse_rows, List.map_map, List.map_map]
    refine List.map_congr_left fun x _ => ?_
    ext i hi
    simp [point]
  · rw [offsets_rows, foldl_add_point, sum_rows]
    simp
  · rw [p.axis_samples]
    exact p.nodup_axis_lattice axis _

/-- **Two samples by three**: the last row of six is the second along the first axis and the third along the second. -/
theorem offsets_lattice_two_by_three :
    let p : OversamplingPlan := ⟨triple 2 3 1, by decide⟩
    (p.offsets : List (Point Exact)).length = 6 ∧
    (p.offsets : List (Point Exact))[5]? = some (point ![1 / 4, 1 / 3, 0]) := by
  intro p
  obtain ⟨-, hlength, hrow, -⟩ := offsets_lattice p
  refine ⟨hlength, (hrow ![1, 2, 0] (by decide)).trans (congrArg (some ∘ point) (funext fun i => ?_))⟩
  fin_cases i
  · norm_num [p, triple, Vector.get]
  · norm_num [p, triple, Vector.get]
  · simp [p, triple, Vector.get]

end OversamplingPlan

end Regrid
