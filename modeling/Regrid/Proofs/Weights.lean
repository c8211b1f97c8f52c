import Mathlib
import Regrid.Proofs.Values
import Regrid.Proofs.Written
/-!
# Weights — a kernel as a weighted mean of voxels

In exact arithmetic the nearest and the linear kernel give a weighted mean of the voxels of a volume of finite values
(`Sampler.exists_voxelMean`).  Which voxels these are, and how much they weigh, depends on the position alone; no weight
is negative, and together they are one.
-/
namespace Regrid

open Exact RealMatrix

/-- **The real number in a cell** of a tensor, zero where there is none. -/
def Tensor.realAt (t : Tensor Exact) (index : List Nat) : ℝ := ((t.get? index).getD .nan).toReal

/-- **A tensor of finite numbers.** -/
def Tensor.Finite (t : Tensor Exact) : Prop := ∀ x ∈ t.toList, Scalar.isFinite x = true

theorem Tensor.Finite.get?_eq {t : Tensor Exact} (ht : t.Finite) {index : List Nat} (h : t.shape.Inside index) :
    t.get? index = some (finite (t.realAt index)) := by
  obtain ⟨x, hx, hget⟩ := Tensor.exists_get? h
  obtain ⟨r, rfl⟩ := exists_finite (ht x hx)
  rw [realAt, hget]
  rfl

theorem Tensor.realAt_build {s : Shape} {f : List Nat → ℝ} {index : List Nat} (h : s.Inside index) :
    (Tensor.build s fun index => finite (f index)).realAt index = f index := by
  rw [realAt, get?_build h]
  rfl

theorem Tensor.finite_build (s : Shape) (f : List Nat → ℝ) : (Tensor.build s fun index => finite (f index)).Finite :=
  forall_mem_build fun _ _ => rfl

/-- **A weighted mean of the voxels** of a block: no weight is negative, and together they are one. -/
structure VoxelMean (size : Vector Nat 3) where
  /-- Voxels and their weights. -/
  terms : List (Vector Nat 3 × ℝ)
  inside : ∀ term ∈ terms, Shape.Inside size.toList term.1.toList
  nonneg : ∀ term ∈ terms, 0 ≤ term.2
  total : (terms.map Prod.snd).sum = 1

namespace VoxelMean

variable {size : Vector Nat 3} (m : VoxelMean size) {f g : Vector Nat 3 → ℝ} {a b : ℝ}

/-- **The mean of the values** of voxels. -/
def of (f : Vector Nat 3 → ℝ) : ℝ := (m.terms.map fun term => term.2 * f term.1).sum

theorem of_congr (h : ∀ voxel, Shape.Inside size.toList voxel.toList → f voxel = g voxel) : m.of f = m.of g := by
  refine congrArg List.sum (List.map_congr_left fun term hterm => ?_)
  rw [h term.1 (m.inside term hterm)]

theorem of_const (a : ℝ) : (m.of fun _ => a) = a := by
  simp [of, List.sum_map_mul_right, m.total]

theorem of_combine (a b : ℝ) (f g : Vector Nat 3 → ℝ) :
    (m.of fun voxel => a * f voxel + b * g voxel) = a * m.of f + b * m.of g := by
  simp only [of, ← List.sum_map_mul_left, ← List.sum_map_add]
  refine congrArg List.sum (List.map_congr_left fun term _ => ?_)
  ring

theorem of_mono (h : ∀ voxel, Shape.Inside size.toList voxel.toList → f voxel ≤ g voxel) : m.of f ≤ m.of g :=
  List.sum_le_sum fun term hterm =>
    mul_le_mul_of_nonneg_left (h term.1 (m.inside term hterm)) (m.nonneg term hterm)

theorem le_of (h : ∀ voxel, Shape.Inside size.toList voxel.toList → a ≤ f voxel) : a ≤ m.of f := by
  rw [← m.of_const a]
  exact m.of_mono h

theorem of_le (h : ∀ voxel, Shape.Inside size.toList voxel.toList → f voxel ≤ b) : m.of f ≤ b := by
  rw [← m.of_const b]
  exact m.of_mono h

/-- **The mean of a single voxel.** -/
def single {voxel : Vector Nat 3} (h : Shape.Inside size.toList voxel.toList) : VoxelMean size where
  terms := [(voxel, 1)]
  inside := by simpa using h
  nonneg := by simp
  total := by simp

theorem single_of {voxel : Vector Nat 3} (h : Shape.Inside size.toList voxel.toList) (f : Vector Nat 3 → ℝ) :
    (single h).of f = f voxel := by
  simp [single, of]

end VoxelMean

namespace Kernel

/-- **The share of a corner of the unit cell** in a position inside. -/
noncomputable def cornerShare (t : Fin 3 → ℝ) (corner : Vector (Fin 2) 3) : ℝ :=
  ∏ i, if corner.get i = 1 then t i else 1 - t i

theorem cornerWeight_point (t : Fin 3 → ℝ) (corner : Vector (Fin 2) 3) :
    cornerWeight (point t) corner = finite (cornerShare t corner) := by
  have hfactor : ∀ i, (if corner.get i = 1 then (point t).get i else 1 - (point t).get i) =
      finite (if corner.get i = 1 then t i else 1 - t i) := by
    intro i
    rw [get_point]
    split <;> simp
  unfold cornerWeight
  simp only [hfactor, finite_mul, cornerShare, Fin.prod_univ_three]

theorem cornerShare_nonneg {t : Fin 3 → ℝ} (hzero : ∀ i, 0 ≤ t i) (hone : ∀ i, t i ≤ 1) (corner : Vector (Fin 2) 3) :
    0 ≤ cornerShare t corner := by
  refine Finset.prod_nonneg fun i _ => ?_
  split
  · exact hzero i
  · exact sub_nonneg.2 (hone i)

theorem sum_cornerShare (t : Fin 3 → ℝ) : ((cube 2).map (cornerShare t)).sum = 1 := by
  have hcube : cube 2 = [triple 0 0 0, triple 0 0 1, triple 0 1 0, triple 0 1 1, triple 1 0 0, triple 1 0 1,
    triple 1 1 0, triple 1 1 1] := rfl
  simp only [hcube, List.map_cons, List.map_nil, List.sum_cons, List.sum_nil, cornerShare, Fin.prod_univ_three, triple,
    Vector.get]
  simp
  ring

/-- **The voxel of a block nearest to given indices.** -/
def clamped (size : Vector Nat 3) (index : Vector Int 3) : Vector Nat 3 :=
  Vector.zipWith (fun (n : Nat) (i : Int) => (clamp n i).toNat) size index

theorem inside_clamped {size : Vector Nat 3} (hpos : ∀ n ∈ size.toList, 0 < n) (index : Vector Int 3) :
    Shape.Inside size.toList (clamped size index).toList := by
  rw [clamped, Vector.toList_zipWith]
  exact inside_clamp (by simp) hpos

section Corners

variable {α : Type} [Scalar α] {size : Vector Nat 3}

/-- **The distances of a position** from the first corner of the unit cell around it. -/
def distances (p : Point α) : Point α := Vector.zipWith (fun x i => x - Scalar.ofInt i) p (p.map Scalar.floor)

/-- **The indices of a corner** of the unit cell around a position. -/
def corner (p : Point α) (c : Vector (Fin 2) 3) : Vector Int 3 :=
  Vector.zipWith (fun i (k : Fin 2) => i + k.val) (p.map Scalar.floor) c

/-- **What a corner adds** to the estimate at a position. -/
def cornerTerm (p : Point α) (c : Vector (Fin 2) 3) (x : α) : α :=
  if cornerWeight (distances p) c == 0 then 0 else cornerWeight (distances p) c * x

theorem clampVoxel?_clamped (hpos : ∀ n ∈ size.toList, 0 < n) (index : Vector Int 3) :
    clampVoxel? size index = some (clamped size index) := clampVoxel?_eq hpos index

/-- **What all corners add up to**, where each is read from the voxel that is nearest. -/
def linearSum (size : Vector Nat 3) (g : Vector Nat 3 → α) (p : Point α) : α :=
  (cube 2).foldl (fun s c => s + cornerTerm p c (g (clamped size (corner p c)))) 0

theorem linearAt_eq (hpos : ∀ n ∈ size.toList, 0 < n) {read : Vector Nat 3 → Except (Fault α) α}
    {g : Vector Nat 3 → α} (hread : ∀ voxel, Shape.Inside size.toList voxel.toList → read voxel = .ok (g voxel))
    (p : Point α) : linearAt size read p = .ok (linearSum size g p) := by
  refine View.foldlM_eq_ok (g := fun s c => s + cornerTerm p c (g (clamped size (corner p c)))) 0 fun s c _ => ?_
  have hvoxel : clampVoxel? size (Vector.zipWith (fun i (k : Fin 2) => i + k.val) (p.map Scalar.floor) c) =
      some (clamped size (corner p c)) := clampVoxel?_clamped hpos _
  rw [hvoxel]
  simp only [hread _ (inside_clamped hpos _), ok_bind]
  rfl

end Corners

/-- **The indices of a corner** of the unit cell around a point of real numbers. -/
noncomputable def cornerIndex (x : Fin 3 → ℝ) (corner : Vector (Fin 2) 3) : Vector Int 3 :=
  Vector.ofFn fun i => ⌊x i⌋ + (corner.get i).val

theorem corner_point (x : Fin 3 → ℝ) (c : Vector (Fin 2) 3) : corner (point x) c = cornerIndex x c := by
  ext i hi
  simp [corner, point, cornerIndex, Vector.get]

theorem distances_point (x : Fin 3 → ℝ) : distances (point x) = point fun i => Int.fract (x i) := by
  ext i hi
  simp [distances, point]

/-- **The mean that the linear kernel takes** at a position. -/
noncomputable def linearMean {size : Vector Nat 3} (hpos : ∀ n ∈ size.toList, 0 < n) (x : Fin 3 → ℝ) :
    VoxelMean size where
  terms := (cube 2).map fun corner =>
    (clamped size (cornerIndex x corner), cornerShare (fun i => Int.fract (x i)) corner)
  inside := by
    simp only [List.mem_map]
    rintro _ ⟨corner, -, rfl⟩
    exact inside_clamped hpos _
  nonneg := by
    simp only [List.mem_map]
    rintro _ ⟨corner, -, rfl⟩
    exact cornerShare_nonneg (fun i => Int.fract_nonneg _) (fun i => (Int.fract_lt_one _).le) corner
  total := by
    rw [List.map_map]
    exact sum_cornerShare fun i => Int.fract (x i)

theorem foldl_add_finite {β : Type} (g : β → ℝ) : ∀ (l : List β) (r : ℝ),
    l.foldl (fun s x => s + finite (g x)) (finite r) = finite (r + (l.map g).sum)
  | [], r => by simp
  | x :: l, r => by
    rw [List.foldl_cons, finite_add, foldl_add_finite g l, List.map_cons, List.sum_cons, add_assoc]

theorem weighted_finite (w x : ℝ) : (if finite w == 0 then 0 else finite w * finite x) = finite (w * x) := by
  by_cases hw : w = 0
  · simp [hw]
  · simp [hw]

/-- **The sum of finite readings** is a mean. -/
theorem linearSum_point {size : Vector Nat 3} (hpos : ∀ n ∈ size.toList, 0 < n) {g : Vector Nat 3 → Exact}
    {f : Vector Nat 3 → ℝ} (hg : ∀ voxel, Shape.Inside size.toList voxel.toList → g voxel = finite (f voxel))
    (x : Fin 3 → ℝ) : linearSum size g (point x) = finite ((linearMean hpos x).of f) := by
  have hterm : ∀ c, cornerTerm (point x) c (g (clamped size (corner (point x) c))) =
      finite (cornerShare (fun i => Int.fract (x i)) c * f (clamped size (cornerIndex x c))) := by
    intro c
    rw [hg _ (inside_clamped hpos _), cornerTerm, distances_point, cornerWeight_point, corner_point]
    -- a corner without weight is skipped, but a finite reading there would add nothing either
    exact weighted_finite _ _
  have hstart : (0 : Exact) = finite 0 := by simp
  unfold linearSum
  simp only [hterm]
  rw [hstart, foldl_add_finite, VoxelMean.of, linearMean, List.map_map]
  simp [Function.comp_def]

/-- **The linear kernel takes a mean** of finite readings. -/
theorem linearAt_point {size : Vector Nat 3} (hpos : ∀ n ∈ size.toList, 0 < n)
    {read : Vector Nat 3 → Except (Fault Exact) Exact} {f : Vector Nat 3 → ℝ}
    (hread : ∀ voxel, Shape.Inside size.toList voxel.toList → read voxel = .ok (finite (f voxel))) (x : Fin 3 → ℝ) :
    linearAt size read (point x) = .ok (finite ((linearMean hpos x).of f)) := by
  rw [linearAt_eq hpos (g := fun voxel => finite (f voxel)) hread, linearSum_point hpos fun _ _ => rfl]

end Kernel

namespace Sampler

/-- **The same sampler of other values**, which are real numbers. -/
def ofCells {α : Type} (s : Sampler α) (cells : Tensor α) : Sampler α := { s with volume := ⟨.real .double, cells⟩ }

variable {s : Sampler Exact}

/-- **A sampler of finite values** gives a mean of voxels at each position.  The mean does not depend on the values. -/
theorem exists_voxelMean (hpos : ∀ n ∈ s.extent.spatial.toList, 0 < n)
    (hsource : ∀ coefficients, s.source ≠ .cubic coefficients) (x : Fin 3 → ℝ) :
    ∃ m : VoxelMean s.extent.spatial, ∀ (cells : Tensor Exact) (place : List Nat), cells.Finite →
      cells.shape = s.extent.toShape → Shape.Inside s.extent.series place →
      (s.ofCells cells).estimate place (point x) =
        finite (m.of fun voxel => cells.realAt (voxel.toList ++ place)) := by
  have hread : ∀ (cells : Tensor Exact) (place : List Nat) (voxel : Vector Nat 3), cells.Finite →
      cells.shape = s.extent.toShape → Shape.Inside s.extent.series place →
      Shape.Inside s.extent.spatial.toList voxel.toList →
      (⟨.real .double, cells⟩ : Volume Exact).cell? (voxel.toList ++ place) =
        some (finite (cells.realAt (voxel.toList ++ place))) := by
    intro cells place voxel hfinite hshape hplace hvoxel
    exact hfinite.get?_eq (hshape ▸ hvoxel.append hplace)
  obtain ⟨volume, extent, source, fallback, grid, name⟩ := s
  -- neither the voxel that is nearest nor the corners around the position depend on the values
  cases source with
  | nearest =>
    obtain ⟨voxel, hvoxel, hinside⟩ := Kernel.exists_clampVoxel hpos
      ((point x).map fun x => Scalar.floor (x + Scalar.half))
    refine ⟨.single hinside, fun cells place hfinite hshape hplace => ?_⟩
    rw [VoxelMean.single_of]
    refine estimate_eq ?_
    simp only [ofCells, sample, Source.sample, Kernel.nearestVoxel?]
    rw [hvoxel]
    simp only [hread cells place voxel hfinite hshape hplace hinside]
    rfl
  | linear =>
    refine ⟨Kernel.linearMean hpos x, fun cells place hfinite hshape hplace => estimate_eq ?_⟩
    refine Kernel.linearAt_point hpos (fun voxel hvoxel => ?_) x
    simp only [ofCells, hread cells place voxel hfinite hshape hplace hvoxel]
    rfl
  | cubic coefficients => exact absurd rfl (hsource coefficients)

/-- **A position inside the field of view** is a point of real numbers. -/
theorem exists_point_of_valid {p : Point Exact} (h : s.valid p = true) : ∃ x, p = point x := by
  have hfinite : ∀ i : Fin 3, Scalar.isFinite (p.get i) = true := by
    intro i
    rw [valid, Vector.all_eq_true] at h
    have haxis := h i.val i.isLt
    simp only [Vector.getElem_zipWith, insideAxis, id_eq, Bool.and_eq_true] at haxis
    exact haxis.2
  choose x hx using fun i => exists_finite (hfinite i)
  refine ⟨x, Vector.ext fun i hi => ?_⟩
  have hget := hx ⟨i, hi⟩
  simpa [point, Vector.get] using hget

end Sampler

namespace View

/-- **The same view of other values**, which are real numbers. -/
def ofCells {α : Type} (v : View α) (cells : Tensor α) : View α := { v with sampler := v.sampler.ofCells cells }

section OfCells

variable (v : View Exact) (cells : Tensor Exact)

@[simp] theorem valid_ofCells (p : Point Exact) : (v.ofCells cells).sampler.valid p = v.sampler.valid p := rfl

@[simp] theorem target_ofCells (voxel : List Nat) : (v.ofCells cells).target voxel = v.target voxel := rfl

end OfCells

/-- **A view that takes means** of voxels: no axis of its volume is empty, and its kernel is nearest or linear. -/
structure TakesMeans (v : View Exact) : Prop where
  positive : ∀ n ∈ v.sampler.extent.toShape, 0 < n
  source : ∀ coefficients, v.sampler.source ≠ .cubic coefficients

variable {v : View Exact}

/-- **What is seen of finite values** inside the field of view is a mean of voxels.  The mean does not depend on the
values. -/
theorem TakesMeans.exists_seen (hv : v.TakesMeans) {p : Point Exact} (hvalid : v.sampler.valid p = true) :
    ∃ m : VoxelMean v.sampler.extent.spatial, ∀ (cells : Tensor Exact) (place : List Nat), cells.Finite →
      cells.shape = v.sampler.extent.toShape → Shape.Inside v.sampler.extent.series place →
      (v.ofCells cells).seen place p = finite (m.of fun voxel => cells.realAt (voxel.toList ++ place)) := by
  have hpositive : ∀ n ∈ v.sampler.extent.spatial.toList, 0 < n := fun n hn =>
    hv.positive n (List.mem_append_left _ hn)
  obtain ⟨x, rfl⟩ := Sampler.exists_point_of_valid hvalid
  obtain ⟨m, hm⟩ := Sampler.exists_voxelMean hpositive hv.source x
  refine ⟨m, fun cells place hfinite hshape hplace => ?_⟩
  rw [seen, valid_ofCells, if_pos hvalid]
  exact hm cells place hfinite hshape hplace

theorem blockValue_eq_seen (hactive : v.plan.active = false) (m : Exact) {place : List Nat} (voxel : List Nat) :
    v.blockValue m place voxel = if v.sampler.valid (v.target voxel) then v.seen place (v.target voxel) else m := by
  rw [blockValue_of_inactive hactive]
  split
  · next hvalid => rw [seen, if_pos hvalid]
  · rfl

theorem seen_ofCells_of_invalid {place : List Nat} {p : Point Exact} (hinvalid : v.sampler.valid p = false)
    (cells : Tensor Exact) : (v.ofCells cells).seen place p = .nan := by
  rw [seen, valid_ofCells, hinvalid]
  rfl

/-- **The mean of what is seen** of an array at the samples of a voxel; what is not seen counts as zero. -/
noncomputable def seenMean (v : View Exact) (cells : Tensor Exact) (voxel : List Nat) : ℝ :=
  blockMean v.plan.factors.get fun step => (v.ofCells cells).seen (voxel.drop 3) (v.samplePosition voxel step)

theorem blockValue_ofCells (hactive : v.plan.active = true) {cells : Tensor Exact} (m : Exact) (voxel : List Nat) :
    (v.ofCells cells).blockValue m (voxel.drop 3) voxel = finite (v.seenMean cells voxel) :=
  blockValue_of_active (v := v.ofCells cells) hactive m voxel

end View

namespace ReslicingOptions

variable [LinearSolver Exact] [Capacity] {input reference : Grid Exact} {o : ReslicingOptions Exact} {kernel : Kernel}
  {cells : Tensor Exact} {v : View Exact}

/-- **The view of an array** has its shape, and takes means if the kernel is nearest or linear. -/
theorem takesMeans_of_view (hinput : ∀ n ∈ input.shape, 0 < n) (horder : Kernel.ofLiteral o.order = .ok kernel)
    (hkernel : kernel ≠ .cubic) (hview : o.view ⟨.real .double, cells⟩ input (some reference) = .ok v) :
    v.TakesMeans ∧ v.sampler.extent.toShape = cells.shape := by
  obtain ⟨input', kernel', sampler, hgrid, hkernel', hsampler, hview⟩ := View.ofVolume_eq_ok.1 hview
  obtain ⟨extent, source, hextent, hfits, hsource, rfl⟩ := Sampler.make_eq_ok.1 hsampler
  obtain ⟨-, hs, -⟩ := View.ofSampler_eq_ok.1 hview
  obtain rfl : input = input' := Except.ok.inj hgrid
  obtain rfl : kernel = kernel' := Except.ok.inj (horder.symm.trans hkernel')
  have hshape : cells.shape = extent.toShape := Extent.ofShape?_eq_some hextent
  have hsame : v.sampler.extent = extent := by rw [hs]
  refine ⟨⟨?_, ?_⟩, ?_⟩
  · have hvolume : input.shape = cells.shape := hfits input rfl
    rw [hsame, ← hshape, ← hvolume]
    exact hinput
  · obtain ⟨source', hsource', hplain⟩ := Source.exists_ofKernel cells kernel
    obtain rfl : source = source' := Except.ok.inj (hsource.symm.trans hsource')
    rw [hs]
    exact hplain hkernel
  · rw [hsame, hshape]

/-- **Another array of the same shape** has the same view, of its own values. -/
theorem view_ofCells (horder : Kernel.ofLiteral o.order = .ok kernel) (hkernel : kernel ≠ .cubic)
    (hview : o.view ⟨.real .double, cells⟩ input (some reference) = .ok v) {others : Tensor Exact}
    (hshape : others.shape = cells.shape) :
    o.view ⟨.real .double, others⟩ input (some reference) = .ok (v.ofCells others) := by
  unfold view at hview ⊢
  obtain ⟨input', kernel', sampler, hgrid, hkernel', hsampler, hview⟩ := View.ofVolume_eq_ok.1 hview
  obtain ⟨extent, source, hextent, hfits, hsource, rfl⟩ := Sampler.make_eq_ok.1 hsampler
  obtain ⟨hreference, hs, hinput, htransform, hplan, hroom⟩ := View.ofSampler_eq_ok.1 hview
  obtain rfl : kernel = kernel' := Except.ok.inj (horder.symm.trans hkernel')
  have hvolume : (⟨.real .double, others⟩ : Volume Exact).shape =
      (⟨.real .double, cells⟩ : Volume Exact).shape := hshape
  have hsource' : Source.ofKernel ⟨.real .double, others⟩ kernel = .ok source := by
    cases kernel with
    | nearest | linear => exact hsource
    | cubic => exact absurd rfl hkernel
  have hsampler' : Sampler.make kernel ⟨.real .double, others⟩ o.fallback.given? (some input') .null =
      .ok (v.sampler.ofCells others) := by
    refine Sampler.make_eq_ok.2 ⟨extent, source, hvolume ▸ hextent, fun g hg => (hfits g hg).trans hvolume.symm,
      hsource', ?_⟩
    rw [hs]
    rfl
  refine View.ofVolume_eq_ok.2 ⟨input', kernel, _, hgrid, hkernel', hsampler', ?_⟩
  exact View.ofSampler_eq_ok.2 ⟨hreference, rfl, hinput.trans hvolume.symm, htransform, hplan, hroom⟩

end ReslicingOptions

section Resliced

variable [LinearSolver Exact] [Capacity] {input reference : Grid Exact} {o : ReslicingOptions Exact} {kernel : Kernel}
  {cells others : Tensor Exact} {v : View Exact}

/-- **The array that other values are resliced to**, voxel by voxel, seen from the view of an array of their shape. -/
theorem resliceArray_ofCells (hinput : ∀ n ∈ input.shape, 0 < n) (horder : Kernel.ofLiteral o.order = .ok kernel)
    (hkernel : kernel ≠ .cubic) (hfallback : o.fallback.IsFallback) (hdtype : o.dtype = .null)
    (hview : o.view ⟨.real .double, cells⟩ input (some reference) = .ok v)
    (hroom : (Shape.reserve v.extent.toShape : Except (Fault Exact) Unit) = .ok ())
    (hshape : others.shape = cells.shape) :
    resliceArray ⟨.real .double, others⟩ input (some reference) o = .ok ⟨.real .double,
      Tensor.build v.extent.toShape fun voxel =>
        (v.ofCells others).blockValue o.fallback.outsideValue (voxel.drop 3) voxel⟩ := by
  obtain ⟨hmeans, hextent⟩ := o.takesMeans_of_view hinput horder hkernel hview
  have hpositive : ∀ n ∈ others.shape, 0 < n := by
    rw [hshape, ← hextent]
    exact hmeans.positive
  exact resliceArray_eq_build hpositive hfallback hdtype (o.view_ofCells horder hkernel hview hshape) hroom

/-- **Whether an array can be resliced** does not depend on its values. -/
theorem resliceArray_error_of_shape (hinput : ∀ n ∈ input.shape, 0 < n) (horder : Kernel.ofLiteral o.order = .ok kernel)
    (hkernel : kernel ≠ .cubic) (hfallback : o.fallback.IsFallback) (hdtype : o.dtype = .null) {f : Fault Exact}
    (hf : resliceArray ⟨.real .double, cells⟩ input (some reference) o = .error f)
    (hshape : others.shape = cells.shape) :
    ∃ g, resliceArray ⟨.real .double, others⟩ input (some reference) o = .error g := by
  cases hview : o.view ⟨.real .double, others⟩ input (some reference) with
  | error g => exact ⟨g, by rw [resliceArray, hview, error_bind]⟩
  | ok v =>
    cases hroom : (Shape.reserve v.extent.toShape : Except (Fault Exact) Unit) with
    | error g => exact resliceArray_of_noRoom hview hroom
    | ok =>
      rw [resliceArray_ofCells hinput horder hkernel hfallback hdtype hview hroom hshape.symm] at hf
      cases hf

end Resliced

namespace View

/-- **A voxel as long as two** along the first axis, which begins with the voxel of `unitGrid`. -/
noncomputable def longGrid : Grid Exact := ⟨⟨triple 1 1 1, []⟩, [2, 1, 1], affine (resizing ![2, 1, 1])⟩

/-- **The view of a single voxel** from a grid where one of the two samples is outside. -/
theorem exists_longView {cells : Tensor Exact} (hcells : cells.shape = [1, 1, 1]) {o : ReslicingOptions Exact}
    {kernel : Kernel} (htransform : o.transform = .null)
    (hoversample : o.oversample = .list [.number (.int 2), .number (.int 1), .number (.int 1)])
    (horder : Kernel.ofLiteral o.order = .ok kernel) :
    ∃ v, o.view ⟨.real .double, cells⟩ unitGrid (some longGrid) = .ok v ∧ v.extent.toShape = [1, 1, 1] ∧
      v.sampler.extent.spatial = triple 1 1 1 ∧ v.mapping = affine (resizing ![2, 1, 1]) ∧ v.plan = pairPlan := by
  obtain ⟨source, hsource, -⟩ := Source.exists_ofKernel cells kernel
  have hplan : OversamplingPlan.plan (affine (resizing ![2, 1, 1])) o.oversample = .ok pairPlan := by
    rw [hoversample]
    exact OversamplingPlan.ofRequest_factors pairPlan
  have hview : o.view ⟨.real .double, cells⟩ unitGrid (some longGrid) = .ok
      ⟨⟨⟨.real .double, cells⟩, unitGrid.extent, source, o.fallback.given?, some unitGrid, .text ""⟩, longGrid,
        affine (resizing ![2, 1, 1]), pairPlan⟩ :=
    ofVolume_affine hcells.symm rfl (by simp) rfl (htransform ▸ ofLiteral_null) rfl horder hsource
      hplan fun _ => rfl
  exact ⟨_, hview, rfl, rfl, rfl, rfl⟩

end View

end Regrid
