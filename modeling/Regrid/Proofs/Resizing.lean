import Mathlib
import Regrid.Proofs.Mapping
import Regrid.Tool.Placement
/-!
# Resizing — voxels scaled about an outer corner

Resizing by whole factors takes the centre of an output voxel to the centre of the block of input voxels it covers.  The
estimate then takes one sample for each voxel of the block, and as many output voxels are made as blocks fit.
-/
namespace RealMatrix

/-- **The affine matrix with a linear part and a translation.** -/
def parts (linear : RealMatrix 3 3) (translation : Fin 3 → ℝ) : RealMatrix 4 4 := fun i j =>
  if h : i.val < 3 then if k : j.val < 3 then linear ⟨i, h⟩ ⟨j, k⟩ else translation ⟨i, h⟩
  else if j = 3 then 1 else 0

/-- **The linear part that scales each axis by a factor.** -/
def scaling {n : Nat} (f : Fin n → ℝ) : RealMatrix n n := Matrix.diagonal f

/-- **The matrix that scales voxels by factors** about the outer corner of the first one. -/
noncomputable def resizing (f : Fin 3 → ℝ) : RealMatrix 4 4 := parts (scaling f) fun i => (f i - 1) / 2

section Parts

variable (linear : RealMatrix 3 3) (translation x : Fin 3 → ℝ)

theorem isAffine_parts : (parts linear translation).IsAffine := fun _ => rfl

theorem parts_castSucc (i j : Fin 3) : parts linear translation i.castSucc j.castSucc = linear i j := by
  simp [parts]

theorem parts_last (i : Fin 3) : parts linear translation i.castSucc 3 = translation i := by
  simp [parts]

theorem act_parts (i : Fin 3) : (parts linear translation).act x i = ∑ j, linear i j * x j + translation i := by
  simp only [act_apply, parts_castSucc, parts_last]

end Parts

variable {f : Fin 3 → ℝ}

theorem isAffine_resizing (f : Fin 3 → ℝ) : (resizing f).IsAffine := isAffine_parts _ _

theorem act_resizing (f x : Fin 3 → ℝ) (i : Fin 3) : (resizing f).act x i = f i * x i + (f i - 1) / 2 := by
  rw [resizing, act_parts]
  simp [scaling, Matrix.diagonal_apply]

theorem mul_resizing (a : RealMatrix 4 4) (f : Fin 3 → ℝ) (i : Fin 4) (j : Fin 3) :
    (a * resizing f) i j.castSucc = a i j.castSucc * f j := by
  have hlast : resizing f (Fin.last 3) j.castSucc = 0 :=
    (isAffine_parts _ _ _).trans (if_neg (Fin.castSucc_lt_last j).ne)
  rw [Matrix.mul_apply, Fin.sum_univ_castSucc, hlast]
  simp [resizing, parts_castSucc, scaling, Matrix.diagonal_apply]

theorem stepLength_mul_resizing (a : RealMatrix 4 4) (hf : ∀ i, 0 ≤ f i) (axis : Fin 3) :
    stepLength (a * resizing f) axis = f axis * a.stepLength axis := by
  have hsquares : ∑ i : Fin 3, (a i.castSucc axis.castSucc * f axis) ^ 2 =
      f axis ^ 2 * ∑ i : Fin 3, a i.castSucc axis.castSucc ^ 2 := by
    rw [Finset.mul_sum]
    exact Finset.sum_congr rfl fun i _ => by ring
  simp only [stepLength, mul_resizing, hsquares]
  rw [Real.sqrt_mul (sq_nonneg _), Real.sqrt_sq (hf axis)]

theorem stepLength_resizing (hf : ∀ i, 0 ≤ f i) (axis : Fin 3) : (resizing f).stepLength axis = f axis := by
  have hone : (1 : RealMatrix 4 4).stepLength axis = 1 := by
    simp [stepLength, Matrix.one_apply]
  rw [← one_mul (resizing f), stepLength_mul_resizing 1 hf, hone, mul_one]

theorem sampleCount_of_stepLength_le_one {a : RealMatrix 4 4} {axis : Fin 3} (h : a.stepLength axis ≤ 1) :
    a.sampleCount axis = 1 := by
  have hceil : ⌈(999 / 1000 * a.stepLength axis : ℝ)⌉ ≤ 1 := by
    rw [Int.ceil_le]
    push_cast
    linarith
  rw [sampleCount, max_eq_left hceil]

/-- **Resizing by a whole factor below a thousand** takes as many samples as voxels are covered: shrinking the factor
does not change what it is rounded up to. -/
theorem sampleCount_resizing {n : Fin 3 → ℕ} (hn : ∀ i, 1 ≤ n i) (axis : Fin 3) (hless : n axis ≤ 999) :
    (resizing fun i => (n i : ℝ)).sampleCount axis = n axis := by
  have hone : (1 : ℝ) ≤ n axis := by exact_mod_cast hn axis
  have hbound : (n axis : ℝ) ≤ 999 := by exact_mod_cast hless
  -- a thousandth of the factor is less than one
  have hceil : ⌈(999 / 1000 * n axis : ℝ)⌉ = n axis := by
    rw [Int.ceil_eq_iff]
    push_cast
    constructor <;> linarith
  have hint : (1 : ℤ) ≤ n axis := by exact_mod_cast hn axis
  rw [sampleCount, stepLength_resizing (fun i => Nat.cast_nonneg _), hceil, max_eq_right hint]

/-- **An axis without length** makes a matrix singular if it is affine. -/
theorem stepLength_pos {a : RealMatrix 4 4} (ha : a.IsAffine) (hdet : a.det ≠ 0) (axis : Fin 3) :
    0 < a.stepLength axis := by
  refine Real.sqrt_pos.2 (lt_of_le_of_ne (Finset.sum_nonneg fun i _ => sq_nonneg _) fun hzero => hdet ?_)
  -- the column is zero in the first rows by its length, and in the last row as that of an affine matrix
  refine Matrix.det_eq_zero_of_column_eq_zero axis.castSucc fun i => ?_
  refine Fin.lastCases ?_ (fun i => ?_) i
  · exact (ha _).trans (if_neg (Fin.castSucc_lt_last axis).ne)
  · have hall := (Finset.sum_eq_zero_iff_of_nonneg fun i _ => sq_nonneg _).1 hzero.symm
    exact pow_eq_zero_iff two_ne_zero |>.1 (hall i (Finset.mem_univ i))

end RealMatrix

namespace Regrid

open Exact RealMatrix

namespace Exact

variable {n : Nat}

theorem ofParts_matrix (linear : RealMatrix 3 3) (translation : Fin 3 → ℝ) :
    AffineTransform.ofParts (matrix linear) (point translation) = affine (parts linear translation) := by
  refine congrArg (fun entry => (⟨Matrix.ofFn entry⟩ : AffineTransform Exact)) (funext fun i => funext fun j => ?_)
  simp only [parts]
  split
  · split
    · rw [get_matrix, get_point]
    · rw [get_point]
  · split <;> simp

theorem diagonal_point (x : Fin n → ℝ) : Matrix.diagonal (point x) = matrix (scaling x) := by
  unfold Matrix.diagonal
  refine congrArg Matrix.ofFn (funext fun i => funext fun j => ?_)
  rw [scaling, Matrix.diagonal_apply]
  split <;> simp

theorem replicate_finite (x : ℝ) : (Vector.replicate n (finite x) : Vector Exact n) = point fun _ => x := by
  ext i
  simp [point]

theorem columnLengths_matrix (a : RealMatrix 4 4) : columnLengths (matrix a) = point a.stepLength := by
  have hcolumn (j : Fin 3) : (Vector.ofFn fun i : Fin 3 => ((matrix a).get i.castSucc).get j.castSucc) =
      point fun i => a i.castSucc j.castSucc := by
    simp [point]
  unfold columnLengths
  simp only [hcolumn, norm_point]
  rfl

end Exact

namespace Placement

theorem resizingTransform_point (f : Fin 3 → ℝ) : resizingTransform (point f) = affine (resizing f) := by
  let shifted (distance : ℝ) : RealMatrix 4 4 := parts 1 fun _ => distance
  have hshift (distance : ℝ) : shift (finite distance) = affine (shifted distance) := by
    rw [shift, identity_eq, replicate_finite, ofParts_matrix]
  have hact (distance : ℝ) (x : Fin 3 → ℝ) (i : Fin 3) : (shifted distance).act x i = x i + distance := by
    simp only [shifted, act_parts, Matrix.one_apply]
    simp
  have hscale : AffineTransform.ofParts (Matrix.diagonal (point f)) (Vector.replicate 3 0) =
      affine (parts (scaling f) 0) := by
    rw [diagonal_point, replicate_zero, ofParts_matrix]
  have hproduct : shifted (-(1 / 2)) * (parts (scaling f) 0 * shifted (1 / 2)) = resizing f := by
    have hshifted : ∀ distance, (shifted distance).IsAffine := fun _ => isAffine_parts _ _
    have hright : IsAffine (parts (scaling f) 0 * shifted (1 / 2)) := (isAffine_parts _ _).mul (hshifted _)
    refine ((hshifted _).mul hright).eq_of_act (isAffine_parts _ _) fun x => funext fun i => ?_
    rw [act_mul hright, hact, act_mul (hshifted _), act_parts, act_resizing]
    simp [scaling, Matrix.diagonal_apply, hact]
    ring
  unfold resizingTransform
  simp only [half_eq, neg_finite, hshift, hscale, compose_affine, hproduct]

/-- **At least one output voxel is made** along an axis. -/
theorem fittingSize_pos {n : ℕ} {f : ℝ} (hf : 0 < f) : fittingSize n (finite f) = .ok (Int.ofNat (max 1 ⌊n / f⌋₊)) := by
  have hquotient : quotient? (Scalar.ofInt n) (finite f) = .ok (finite (n / f)) := by
    unfold quotient?
    simp [hf.ne', finite_div _ hf.ne']
  have hfloor : ⌊(n / f : ℝ)⌋ = Int.ofNat ⌊n / f⌋₊ :=
    (Int.natCast_floor_eq_floor (div_nonneg (Nat.cast_nonneg n) hf.le)).symm
  have hmax : max 1 (Int.ofNat ⌊n / f⌋₊) = Int.ofNat (max 1 ⌊n / f⌋₊) := by
    simp
  unfold fittingSize
  rw [hquotient]
  simp only [ok_bind, isNaN_finite, isFinite_finite, floor_finite, hfloor, hmax]
  rfl

/-- **The output sizes** are found for each axis on its own. -/
theorem fittingSizes_ofFn {α : Type} [Scalar α] {shape : Shape} {n : Vector Nat 3} (hshape : shape.take 3 = n.toList)
    {f : Fin 3 → α} {m : Fin 3 → ℕ} (hfit : ∀ i, fittingSize (n.get i) (f i) = .ok (Int.ofNat (m i))) :
    fittingSizes shape (Vector.ofFn f) = .ok ((Vector.ofFn m).toList.map Int.ofNat) := by
  have hpairs : n.toList.zip (Vector.ofFn f).toList = (List.finRange 3).map fun i => (n.get i, f i) := by
    clear hshape hfit
    obtain ⟨⟨spatial⟩, h⟩ := n
    match spatial, h with
    | [x, y, z], _ => rfl
  rw [fittingSizes, hshape, hpairs, List.mapM_map]
  refine (Tensor.list_mapM_eq_pure fun i _ => hfit i).trans ?_
  rfl

theorem fittingSizes_pos {shape : Shape} {n : Vector Nat 3} (hshape : shape.take 3 = n.toList) {f : Fin 3 → ℝ}
    (hf : ∀ i, 0 < f i) :
    fittingSizes shape (point f) = .ok ((Vector.ofFn fun i => max 1 ⌊n.get i / f i⌋₊).toList.map Int.ofNat) :=
  fittingSizes_ofFn hshape fun i => fittingSize_pos (hf i)

/-- **As many output voxels are made** along each axis as fit into it, if there is room for one. -/
theorem fittingSizes_point {shape : Shape} {n : Vector Nat 3} (hshape : shape.take 3 = n.toList) {f : Fin 3 → ℝ}
    (hf : ∀ i, 0 < f i ∧ f i ≤ n.get i) :
    fittingSizes shape (point f) = .ok ((Vector.ofFn fun i => ⌊n.get i / f i⌋₊).toList.map Int.ofNat) := by
  have hone : ∀ i, max 1 ⌊n.get i / f i⌋₊ = ⌊n.get i / f i⌋₊ := fun i =>
    max_eq_right ((Nat.one_le_floor_iff _).2 ((one_le_div (hf i).1).2 (hf i).2))
  rw [fittingSizes_pos hshape fun i => (hf i).1]
  simp only [hone]

theorem fittingSizes_natCast {e : Extent} {f : Fin 3 → ℕ} (hf : ∀ i, 1 ≤ f i ∧ f i ≤ e.spatial.get i) :
    fittingSizes e.toShape (point fun i => (f i : ℝ)) =
      .ok ((Vector.ofFn fun i => e.spatial.get i / f i).toList.map Int.ofNat) := by
  have hspatial : e.toShape.take 3 = e.spatial.toList := List.take_left' Vector.length_toList
  have hreal : ∀ i, 0 < (f i : ℝ) ∧ (f i : ℝ) ≤ e.spatial.get i := fun i =>
    ⟨Nat.cast_pos.2 (hf i).1, Nat.cast_le.2 (hf i).2⟩
  rw [fittingSizes_point hspatial hreal]
  simp only [Nat.floor_div_eq_div]

end Placement

namespace Grid

theorem ofSizes_toShape {α : Type} {e : Extent} (h : ∀ n ∈ e.toShape, 0 < n) :
    (Extent.ofSizes (e.toShape.map Int.ofNat) : Except (Fault α) Extent) = .ok e := by
  have hsizes : (e.toShape.map Int.ofNat).map Int.toNat = e.toShape := by
    rw [List.map_map]
    exact List.map_id _
  have hpositive : ¬(e.toShape.map Int.ofNat).any (· < 1) = true := by
    simp only [List.any_eq_true, List.mem_map, decide_eq_true_eq, not_exists, not_and]
    rintro _ ⟨n, hn, rfl⟩ hlt
    exact absurd (Int.ofNat_le.2 (h n hn)) (not_le.2 hlt)
  rw [Extent.ofSizes, hsizes, Extent.ofShape?_toShape]
  exact if_neg hpositive

theorem positiveSpacing_append {α : Type} [Scalar α] {lengths : Vector α 3} {rest : List α} :
    positiveSpacing (lengths.toList ++ rest) = true ↔ ∀ i, 0 < lengths.get i := by
  have hspatial : (lengths.toList ++ rest).take 3 = lengths.toList := List.take_left' (by simp)
  rw [positiveSpacing, hspatial, List.all_eq_true, forall_mem_toList]
  exact forall_congr' fun i => decide_eq_true_iff

theorem positiveSpacing_columnLengths {a : RealMatrix 4 4} {series : List Exact} :
    positiveSpacing ((columnLengths (matrix a)).toList ++ series) = true ↔ ∀ i, 0 < a.stepLength i := by
  rw [positiveSpacing_append, columnLengths_matrix]
  simp

theorem positiveSpacing_affine {a : RealMatrix 4 4} (ha : ∀ i, 0 < a.stepLength i) :
    positiveSpacing (columnLengths (affine a).matrix).toList = true := by
  rw [← List.append_nil (columnLengths (affine a).matrix).toList]
  exact positiveSpacing_columnLengths.2 ha

/-- **A grid of an extent without empty axes** can be made if the steps along its axes have lengths. -/
theorem make_affine {e : Extent} (he : ∀ n ∈ e.toShape, 0 < n) {a : RealMatrix 4 4} (ha : ∀ i, 0 < a.stepLength i) :
    ∃ spacing, make (e.toShape.map Int.ofNat) none (some (affine a)) = .ok ⟨e, spacing, affine a⟩ := by
  refine ⟨(columnLengths (matrix a)).toList ++ List.replicate e.series.length 1, ?_⟩
  rw [make, ofSizes_toShape he]
  exact if_pos (positiveSpacing_columnLengths.2 ha)

/-- **A grid without a series** has the lengths of its steps as voxel sizes. -/
theorem make_lengths {m : Vector Nat 3} (hm : ∀ i, 0 < m.get i) {a : RealMatrix 4 4} (ha : ∀ i, 0 < a.stepLength i) :
    make (m.toList.map Int.ofNat) none (some (affine a)) = .ok ⟨⟨m, []⟩, (point a.stepLength).toList, affine a⟩ := by
  have hpositive : ∀ n ∈ (⟨m, []⟩ : Extent).toShape, 0 < n :=
    List.forall_mem_append.2 ⟨forall_mem_toList.2 hm, List.forall_mem_nil _⟩
  have hsizes : m.toList = (⟨m, []⟩ : Extent).toShape := by
    rw [Extent.toShape, List.append_nil]
  rw [make, hsizes, ofSizes_toShape hpositive, ← columnLengths_matrix]
  refine (if_pos (positiveSpacing_columnLengths.2 ha)).trans ?_
  simp
  rfl

theorem make_lattice {m : Vector Nat 3} (hm : ∀ i, 0 < m.get i) {a : RealMatrix 4 4} (ha : ∀ i, 0 < a.stepLength i) :
    ∃ spacing, make (m.toList.map Int.ofNat) none (some (affine a)) = .ok ⟨⟨m, []⟩, spacing, affine a⟩ :=
  ⟨_, make_lengths hm ha⟩

theorem make_affine_of_stepLength {e : Extent} (he : ∀ n ∈ e.toShape, 0 < n) {a : RealMatrix 4 4} {i : Fin 3}
    (hi : a.stepLength i = 0) :
    make (e.toShape.map Int.ofNat) none (some (affine a)) = .error (.degenerateGrid (matrix a)) := by
  rw [make, ofSizes_toShape he]
  exact if_neg fun h => (positiveSpacing_columnLengths.1 h i).ne' hi

end Grid

namespace Shape

variable [Capacity] {m s : Vector Nat 3}

/-- **Room for a finer lattice** is room for each of its two factors. -/
theorem reserve_of_mul {rest : Shape} (hm : ∀ i, 0 < m.get i) (hs : ∀ i, 0 < s.get i) (hrest : ∀ n ∈ rest, 0 < n)
    (hroom : (reserve ((Vector.ofFn fun i => s.get i * m.get i).toList ++ rest) : Except (Fault Exact) Unit) = .ok ()) :
    (reserve (m.toList ++ rest) : Except (Fault Exact) Unit) = .ok () ∧
      (reserve s.toList : Except (Fault Exact) Unit) = .ok () := by
  constructor
  · refine reserve_of_le (List.forall_mem_append.2 ⟨forall_mem_toList.2 hm, hrest⟩) ?_ hroom
    refine List.rel_append (forall₂_toList.2 fun i => ?_) (List.forall₂_refl _)
    rw [Vector.get_ofFn]
    exact Nat.le_mul_of_pos_left _ (hs i)
  · refine reserve_of_le (forall_mem_toList.2 hs) (forall₂_toList.2 fun i => ?_) (reserve_of_append hroom)
    rw [Vector.get_ofFn]
    exact Nat.le_mul_of_pos_right _ (hm i)

end Shape

/-- **The extent of the blocks** that fit into the spatial axes of another. -/
def Extent.blocks (e : Extent) (f : Fin 3 → ℕ) : Extent := ⟨Vector.ofFn fun i => e.spatial.get i / f i, []⟩

namespace View

variable [LinearSolver Exact] [LinearSolver.Accurate] [Capacity] {cells : Tensor Exact} {e : Extent} {f : Fin 3 → ℕ}
  {A : RealMatrix 4 4} {order : Literal Exact} {kernel : Kernel}

/-- **The view of an array on a coarser grid** scales by the factors, and takes as many samples along each axis. -/
theorem exists_resizing (spacing spacing' : List Exact) (hcells : cells.shape = e.toShape)
    (hroom : (Shape.reserve e.spatial.toList : Except (Fault Exact) Unit) = .ok ())
    (hf : ∀ i, 1 ≤ f i ∧ f i ≤ e.spatial.get i ∧ f i ≤ 999) (hdet : A.det ≠ 0)
    (horder : Kernel.ofLiteral order = .ok kernel) (hkernel : kernel ≠ .cubic) :
    ∃ v : View Exact, ofVolume ⟨.real .double, cells⟩ (some ⟨e, spacing, affine A⟩)
        (some ⟨e.blocks f, spacing', affine (A * resizing fun i => (f i : ℝ))⟩) .null .null order none = .ok v ∧
      v.reference.extent = e.blocks f ∧ v.sampler.extent = e ∧
      (∀ coefficients, v.sampler.source ≠ .cubic coefficients) ∧
      v.mapping = affine (resizing fun i => (f i : ℝ)) ∧ ∀ i, v.plan.factors.get i = f i := by
  let volume : Volume Exact := ⟨.real .double, cells⟩
  let input : Grid Exact := ⟨e, spacing, affine A⟩
  let reference : Grid Exact := ⟨e.blocks f, spacing', affine (A * resizing fun i => (f i : ℝ))⟩
  obtain ⟨source, hsource, hcubic⟩ : ∃ source, Source.ofKernel volume kernel = .ok source ∧
      ∀ coefficients, source ≠ .cubic coefficients := by
    cases kernel with
    | nearest => exact ⟨.nearest, rfl, by simp⟩
    | linear => exact ⟨.linear, rfl, by simp⟩
    | cubic => exact absurd rfl hkernel
  obtain ⟨plan, hplan, hcount⟩ := OversamplingPlan.plan_null (resizing fun i => (f i : ℝ))
  have hfactors : ∀ i, plan.factors.get i = f i := by
    intro i
    have hi := hcount i
    rw [sampleCount_resizing (fun i => (hf i).1) i (hf i).2.2] at hi
    exact_mod_cast hi
  have hlattice : (Shape.reserveLattice plan.factors.toList : Except (Fault Exact) Unit) = .ok () := by
    refine Shape.reserveLattice_eq_ok (Shape.reserve_of_le (forall_mem_toList.2 plan.positive) ?_ hroom)
    exact forall₂_toList.2 fun i => (hfactors i).trans_le (hf i).2.1
  let v : View Exact := ⟨⟨volume, e, source, none, some input, .text ""⟩, reference,
    affine (resizing fun i => (f i : ℝ)), plan⟩
  have hview : ofVolume volume (some input) (some reference) .null .null order none = .ok v :=
    ofVolume_affine hcells.symm rfl hdet rfl ofLiteral_null (Matrix.one_mul _).symm horder hsource hplan
      fun _ => hlattice
  exact ⟨v, hview, rfl, rfl, hcubic, rfl, hfactors⟩

end View

end Regrid
