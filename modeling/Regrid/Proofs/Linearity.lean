import Mathlib
import Regrid.Proofs.Weights
/-!
# Linearity — reslicing a sum with weights

Which voxels an output voxel depends on, and how much they weigh, does not depend on their values.  So with zero outside
the field of view a sum with weights of two arrays is resliced to the sum of what these are resliced to
(`resliceArray_combine`).
-/
namespace Regrid

open Exact

/-- **The sum of two tensors with weights**, cell by cell. -/
noncomputable def Tensor.combine (a b : ℝ) (t u : Tensor Exact) : Tensor Exact :=
  Tensor.build t.shape fun index => finite a * (t.get? index).getD .nan + finite b * (u.get? index).getD .nan

section Combine

variable {a b : ℝ} {t u : Tensor Exact} {s : Shape}

theorem Tensor.combine_eq (ht : t.Finite) (hu : u.Finite) (hshape : u.shape = t.shape) :
    Tensor.combine a b t u = Tensor.build t.shape fun index => finite (a * t.realAt index + b * u.realAt index) := by
  refine Tensor.build_congr fun index h => ?_
  rw [ht.get?_eq h, hu.get?_eq (hshape ▸ h)]
  simp

theorem Tensor.combine_build (f g : List Nat → ℝ) :
    Tensor.combine a b (.build s fun index => finite (f index)) (.build s fun index => finite (g index)) =
      .build s fun index => finite (a * f index + b * g index) := by
  rw [combine_eq (finite_build s f) (finite_build s g) rfl]
  refine build_congr fun index h => ?_
  have hinside : s.Inside index := h
  rw [realAt_build hinside, realAt_build hinside]

theorem Tensor.finite_combine (ht : t.Finite) (hu : u.Finite) (hshape : u.shape = t.shape) :
    (Tensor.combine a b t u).Finite := by
  rw [combine_eq ht hu hshape]
  exact finite_build _ _

end Combine

theorem blockMean_combine (f : Fin 3 → ℕ) (a b : ℝ) (cell cell' : (Fin 3 → ℕ) → Exact) :
    (blockMean f fun step => finite (a * (cell step).toReal + b * (cell' step).toReal)) =
      a * blockMean f cell + b * blockMean f cell' := by
  simp only [blockMean, toReal, Finset.sum_add_distrib, ← Finset.mul_sum]
  ring

namespace View

variable {v : View Exact} {a b : ℝ} {t u : Tensor Exact} {voxel : List Nat}

/-- **What is seen of a sum with weights** is the sum of what is seen, nothing being seen of any outside. -/
theorem TakesMeans.seen_combine (hv : v.TakesMeans) (ht : t.Finite) (hu : u.Finite)
    (htshape : t.shape = v.sampler.extent.toShape) (hushape : u.shape = v.sampler.extent.toShape) {place : List Nat}
    (hplace : Shape.Inside v.sampler.extent.series place) (p : Point Exact) :
    ((v.ofCells (.combine a b t u)).seen place p).toReal =
      a * ((v.ofCells t).seen place p).toReal + b * ((v.ofCells u).seen place p).toReal := by
  cases hvalid : v.sampler.valid p with
  | true =>
    obtain ⟨m, hm⟩ := hv.exists_seen hvalid
    rw [Tensor.combine_eq ht hu (hushape.trans htshape.symm), hm t place ht htshape hplace,
      hm u place hu hushape hplace, hm _ place (Tensor.finite_build _ _) htshape hplace]
    simp only [toReal, ← m.of_combine]
    refine m.of_congr fun voxel hvoxel => ?_
    have hinside : t.shape.Inside (voxel.toList ++ place) := by
      rw [htshape]
      exact hvoxel.append hplace
    exact Tensor.realAt_build hinside
  | false => simp [seen_ofCells_of_invalid hvalid, toReal]

theorem TakesMeans.seenMean_combine (hv : v.TakesMeans) (ht : t.Finite) (hu : u.Finite)
    (htshape : t.shape = v.sampler.extent.toShape) (hushape : u.shape = v.sampler.extent.toShape)
    (hplace : Shape.Inside v.sampler.extent.series (voxel.drop 3)) :
    v.seenMean (.combine a b t u) voxel = a * v.seenMean t voxel + b * v.seenMean u voxel := by
  rw [seenMean, seenMean, seenMean, ← blockMean_combine]
  exact blockMean_congr fun step _ => hv.seen_combine ht hu htshape hushape hplace _

/-- **A plan of single samples** has what is seen at the one position as its mean. -/
theorem seenMean_of_inactive (hactive : v.plan.active = false) :
    v.seenMean t voxel = ((v.ofCells t).seen (voxel.drop 3) (v.target voxel)).toReal := by
  have hone := OversamplingPlan.get_factors_of_inactive hactive
  calc v.seenMean t voxel
      = blockMean v.plan.factors.get
          (fun _ => finite ((v.ofCells t).seen (voxel.drop 3) (v.target voxel)).toReal) :=
        blockMean_congr fun step hstep => by
          have hzero : step = fun _ => 0 := by
            funext i
            have hlt := hstep i
            rw [hone] at hlt
            exact Nat.lt_one_iff.1 hlt
          rw [hzero, samplePosition_zero hactive]
          rfl
    _ = ((v.ofCells t).seen (voxel.drop 3) (v.target voxel)).toReal :=
        blockMean_const (fun i => (hone i).ge) fun _ _ => rfl

/-- **The value of a voxel** with zero outside the field of view is the mean of what is seen. -/
theorem TakesMeans.blockValue_zero (hv : v.TakesMeans) (ht : t.Finite) (htshape : t.shape = v.sampler.extent.toShape)
    (hplace : Shape.Inside v.sampler.extent.series (voxel.drop 3)) :
    (v.ofCells t).blockValue (finite 0) (voxel.drop 3) voxel = finite (v.seenMean t voxel) := by
  -- a single sample outside has the fallback, which is what the mean of nothing seen is
  cases hactive : v.plan.active with
  | true => exact blockValue_ofCells hactive (finite 0) voxel
  | false =>
    rw [blockValue_eq_seen (v := v.ofCells t) hactive, valid_ofCells, target_ofCells, seenMean_of_inactive hactive]
    cases hvalid : v.sampler.valid (v.target voxel) with
    | true =>
      obtain ⟨m, hm⟩ := hv.exists_seen hvalid
      rw [if_pos rfl, hm t _ ht htshape hplace]
      rfl
    | false =>
      rw [if_neg Bool.false_ne_true, seen_ofCells_of_invalid hvalid]
      rfl

end View

section Resliced

variable [LinearSolver Exact] [Capacity] {input reference : Grid Exact} {o : ReslicingOptions Exact} {kernel : Kernel}
  {t u : Tensor Exact} {n : Number Exact} {v : View Exact}

/-- **What an array of finite values is resliced to**, with zero outside the field of view. -/
theorem resliceArray_of_zero (hinput : ∀ n ∈ input.shape, 0 < n) (horder : Kernel.ofLiteral o.order = .ok kernel)
    (hkernel : kernel ≠ .cubic) (hfallback : o.fallback = .number n) (hzero : n.toScalar = finite 0)
    (hdtype : o.dtype = .null) (hview : o.view ⟨.real .double, t⟩ input (some reference) = .ok v)
    (hroom : (Shape.reserve v.extent.toShape : Except (Fault Exact) Unit) = .ok ()) (hu : u.Finite)
    (hshape : u.shape = t.shape) :
    resliceArray ⟨.real .double, u⟩ input (some reference) o =
      .ok ⟨.real .double, Tensor.build v.extent.toShape fun voxel => finite (v.seenMean u voxel)⟩ := by
  obtain ⟨hmeans, hextent⟩ := o.takesMeans_of_view hinput horder hkernel hview
  have houtside : o.fallback.outsideValue = finite 0 := by
    rw [hfallback]
    exact hzero
  rw [resliceArray_ofCells hinput horder hkernel (.inr ⟨n, hfallback⟩) hdtype hview hroom hshape, houtside]
  refine congrArg (fun x : Tensor Exact => Except.ok (⟨.real .double, x⟩ : Volume Exact)) ?_
  exact Tensor.build_congr fun voxel h =>
    hmeans.blockValue_zero hu (hshape.trans hextent.symm) (Extent.inside_toShape h).2

/-- **Reslicing a sum with weights** of two arrays of finite values gives the sum of what they are resliced to, between
any grids and with any plan, if the kernel is nearest or linear and the fallback is zero.  Where one of the arrays
cannot be resliced, neither can the others. -/
theorem resliceArray_combine (hinput : ∀ n ∈ input.shape, 0 < n) (ht : t.Finite) (hu : u.Finite)
    (hshape : u.shape = t.shape) (a b : ℝ) (horder : Kernel.ofLiteral o.order = .ok kernel) (hkernel : kernel ≠ .cubic)
    (hfallback : o.fallback = .number n) (hzero : n.toScalar = finite 0) (hdtype : o.dtype = .null) :
    (∀ v, o.view ⟨.real .double, t⟩ input (some reference) = .ok v →
      (Shape.reserve v.extent.toShape : Except (Fault Exact) Unit) = .ok () → ∃ x y : Tensor Exact,
        resliceArray ⟨.real .double, t⟩ input (some reference) o = .ok ⟨.real .double, x⟩ ∧
        resliceArray ⟨.real .double, u⟩ input (some reference) o = .ok ⟨.real .double, y⟩ ∧
        resliceArray ⟨.real .double, .combine a b t u⟩ input (some reference) o =
          .ok ⟨.real .double, .combine a b x y⟩ ∧
        x.shape = v.extent.toShape ∧ y.shape = v.extent.toShape ∧ x.Finite ∧ y.Finite) ∧
    ∀ f, resliceArray ⟨.real .double, t⟩ input (some reference) o = .error f →
      (∃ g, resliceArray ⟨.real .double, u⟩ input (some reference) o = .error g) ∧
      ∃ g, resliceArray ⟨.real .double, .combine a b t u⟩ input (some reference) o = .error g := by
  have hcombine : (Tensor.combine a b t u).shape = t.shape := rfl
  constructor
  · intro v hview hroom
    obtain ⟨hmeans, hextent⟩ := o.takesMeans_of_view hinput horder hkernel hview
    have hvalues : ∀ {w : Tensor Exact}, w.Finite → w.shape = t.shape →
        resliceArray ⟨.real .double, w⟩ input (some reference) o =
          .ok ⟨.real .double, Tensor.build v.extent.toShape fun voxel => finite (v.seenMean w voxel)⟩ :=
      resliceArray_of_zero hinput horder hkernel hfallback hzero hdtype hview hroom
    refine ⟨_, _, hvalues ht rfl, hvalues hu hshape, ?_, rfl, rfl, Tensor.finite_build _ _, Tensor.finite_build _ _⟩
    rw [hvalues (Tensor.finite_combine ht hu hshape) hcombine, Tensor.combine_build]
    refine congrArg (fun x : Tensor Exact => Except.ok (⟨.real .double, x⟩ : Volume Exact)) ?_
    refine Tensor.build_congr fun voxel h => congrArg finite ?_
    exact hmeans.seenMean_combine ht hu hextent.symm (hshape.trans hextent.symm) (Extent.inside_toShape h).2
  · intro f hf
    have herror : ∀ {w : Tensor Exact}, w.shape = t.shape →
        ∃ g, resliceArray ⟨.real .double, w⟩ input (some reference) o = .error g :=
      resliceArray_error_of_shape hinput horder hkernel (.inr ⟨n, hfallback⟩) hdtype hf
    exact ⟨herror hshape, herror hcombine⟩

end Resliced

/-- **A voxel of three and a voxel of five**, seen from one that is twice as long. -/
theorem resliceArray_combine_long :
    let t : Tensor Exact := Tensor.build [1, 1, 1] fun _ => finite 3
    let u : Tensor Exact := Tensor.build [1, 1, 1] fun _ => finite 5
    let o : ReslicingOptions Exact := ⟨.null, .number (.int 1),
      .list [.number (.int 2), .number (.int 1), .number (.int 1)], .number (.int 0), .null, true⟩
    ∃ x y : Tensor Exact,
      resliceArray ⟨.real .double, t⟩ View.unitGrid (some View.longGrid) o = .ok ⟨.real .double, x⟩ ∧
      resliceArray ⟨.real .double, u⟩ View.unitGrid (some View.longGrid) o = .ok ⟨.real .double, y⟩ ∧
      resliceArray ⟨.real .double, .combine 2 (-1) t u⟩ View.unitGrid (some View.longGrid) o =
        .ok ⟨.real .double, .combine 2 (-1) x y⟩ ∧ x.shape = [1, 1, 1] := by
  intro t u o
  have horder : Kernel.ofLiteral (.number (.int 1) : Literal Exact) = .ok .linear := by
    simp [Kernel.ofLiteral, Kernel.ofDegree?, Number.toScalar]
  have hzero : (.int 0 : Number Exact).toScalar = finite 0 := by simp [Number.toScalar]
  obtain ⟨v, hview, hextent, -⟩ := @View.exists_longView t rfl o _ rfl rfl horder
  have hroom : (Shape.reserve v.extent.toShape : Except (Fault Exact) Unit) = .ok () := by
    rw [hextent]
    rfl
  obtain ⟨x, y, hx, hy, hxy, hshape, -⟩ := (resliceArray_combine (by decide)
    (Tensor.finite_build [1, 1, 1] fun _ => 3) (Tensor.finite_build [1, 1, 1] fun _ => 5) rfl 2 (-1) horder (by simp)
    rfl hzero rfl).1 v hview hroom
  exact ⟨x, y, hx, hy, hxy, hshape.trans hextent⟩

end Regrid
