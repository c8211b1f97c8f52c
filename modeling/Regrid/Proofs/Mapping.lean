import Mathlib
import Regrid.Proofs.Centres
import Regrid.Proofs.Solver
import Regrid.Proofs.Views
import Regrid.Proofs.Walk
import Regrid.Proofs.Written
/-!
# Mapping — from voxels of the reference to voxels of the volume

The mapping of a view takes a voxel of the reference to the voxel of the volume with the world coordinates that the
transform assigns to it.  It is found by solving against the transform of the volume, so that a view exists unless that
transform is singular, as far as its grids and options go.
-/
namespace Regrid

/-- **An outcome is no fault of linear algebra.** -/
def NoAlgebra {α β : Type} (x : Except (Fault α) β) : Prop := ∀ f, x = .error f → f.kind ≠ .algebra

namespace NoAlgebra

variable {α β γ : Type}

theorem ok (x : β) : NoAlgebra (.ok x : Except (Fault α) β) := by
  rintro _ ⟨⟩

theorem error {f : Fault α} (h : decide (f.kind = .algebra) = false) : NoAlgebra (.error f : Except (Fault α) β) := by
  rintro _ ⟨⟩
  exact of_decide_eq_false h

theorem bind {x : Except (Fault α) β} {f : β → Except (Fault α) γ} (hx : NoAlgebra x) (hf : ∀ y, NoAlgebra (f y)) :
    NoAlgebra (x >>= f) := by
  cases x with
  | error e => exact error (decide_eq_false (hx e rfl))
  | ok y => exact hf y

theorem mapM {f : β → Except (Fault α) γ} (hf : ∀ x, NoAlgebra (f x)) : ∀ l : List β, NoAlgebra (l.mapM f)
  | [] => ok []
  | x :: l => by
    rw [List.mapM_cons]
    exact (hf x).bind fun y => (mapM hf l).bind fun ys => ok (y :: ys)

theorem elim {e : Fault α} (h : decide (e.kind = .algebra) = false) : ∀ x : Option β, NoAlgebra (x.elim (.error e) .ok)
  | none => error h
  | some y => ok y

end NoAlgebra

namespace OversamplingPlan

variable {α : Type}

theorem noAlgebra_ofFactors (factors : List Int) :
    NoAlgebra (ofFactors factors : Except (Fault α) OversamplingPlan) := by
  unfold ofFactors
  split
  · simp only []
    split
    · exact .ok _
    · exact .error rfl
  · exact .error rfl

variable [Scalar α]

theorem noAlgebra_checkWeights (p : OversamplingPlan) : NoAlgebra (checkWeights α p) := by
  unfold checkWeights
  split
  · exact .ok _
  · exact .error rfl

theorem noAlgebra_toInt (l : Literal α) : NoAlgebra l.toInt := by
  cases l with
  | number n =>
    cases n with
    | bool | int => exact .ok _
    | real x =>
      simp only [Literal.toInt, Number.toInt]
      split
      · exact .error rfl
      · split
        · exact .ok _
        · exact .error rfl
  | text s => exact NoAlgebra.elim (e := .notNumeric s) rfl _
  | null | list | record => exact .error rfl

theorem noAlgebra_ofWholeLiterals (brackets : Brackets) (factors : List (Literal α)) :
    NoAlgebra (ofWholeLiterals brackets factors) := by
  have hrest : NoAlgebra (do checkWeights α (← ofFactors (← factors.mapM Literal.toInt))) :=
    (NoAlgebra.mapM noAlgebra_toInt _).bind fun _ => (noAlgebra_ofFactors _).bind noAlgebra_checkWeights
  unfold ofWholeLiterals
  split
  · exact (NoAlgebra.error rfl).bind fun _ => hrest
  · exact hrest

theorem noAlgebra_ofRequest (request : Literal α) : NoAlgebra (ofRequest request) := by
  have hcounted : ∀ factors : List (Literal α), NoAlgebra (do
      if factors.length ≠ 3 then .error (.factorCount factors)
      ofWholeLiterals .square factors) := by
    intro factors
    split
    · exact (NoAlgebra.error rfl).bind fun _ => noAlgebra_ofWholeLiterals _ _
    · exact noAlgebra_ofWholeLiterals _ _
  exact (NoAlgebra.elim (e := .ragged) rfl _).bind fun shape => hcounted _

theorem noAlgebra_estimate (mapping : AffineTransform α) : NoAlgebra (estimate mapping) := by
  refine NoAlgebra.mapM (fun axis => ?_) _
  unfold estimateAxis
  simp only []
  split
  · exact .error rfl
  · split
    · exact .error rfl
    · exact .ok _

/-- **Planning samples needs no linear algebra.** -/
theorem noAlgebra_plan (mapping : AffineTransform α) (request : Literal α) : NoAlgebra (plan mapping request) := by
  unfold plan
  split
  · exact noAlgebra_ofRequest request
  · exact (noAlgebra_estimate mapping).bind fun factors => (noAlgebra_ofFactors factors).bind fun p =>
      noAlgebra_checkWeights p

end OversamplingPlan

theorem Shape.noAlgebra_reserve [Capacity] {α : Type} (s : Shape) :
    NoAlgebra (Shape.reserve s : Except (Fault α) Unit) := by
  unfold Shape.reserve
  simp only []
  split
  · exact .error rfl
  · split
    · exact .error rfl
    · exact .ok _

theorem Shape.noAlgebra_reserveLattice [Capacity] {α : Type} (s : Shape) :
    NoAlgebra (Shape.reserveLattice s : Except (Fault α) Unit) := by
  rw [Shape.reserveLattice_eq]
  exact (NoAlgebra.mapM (fun n => Shape.noAlgebra_reserve [n]) s).bind fun _ => Shape.noAlgebra_reserve s

namespace Exact

open RealMatrix

theorem eq_of_apply {a b : RealMatrix 4 4} (ha : a.IsAffine) (hb : b.IsAffine)
    (h : ∀ x : Fin 3 → ℝ, (affine a).apply (point x) = (affine b).apply (point x)) : a = b := by
  refine ha.eq_of_act hb fun x => point_injective ?_
  rw [← apply_affine, ← apply_affine, h x]

/-- **The mapping between spaces**: the only affine matrix that, followed by the first transform, does what the others
do one after the other. -/
theorem exists_unique_mapping {A T B : RealMatrix 4 4} (hA : A.IsAffine) (hT : T.IsAffine) (hB : B.IsAffine)
    {D : RealMatrix 4 4} (hdet : A.det ≠ 0) (hD : A * D = T * B) (D' : RealMatrix 4 4) :
    (D'.IsAffine ∧ ∀ x : Fin 3 → ℝ, (affine A).apply ((affine D').apply (point x)) =
      (affine T).apply ((affine B).apply (point x))) ↔ D' = D := by
  have hTB : IsAffine (T * B) := hT.mul hB
  have hDaffine : D.IsAffine := hA.of_mul (hD ▸ hTB)
  have hside (C : RealMatrix 4 4) (hC : C.IsAffine) (x : Fin 3 → ℝ) :
      (affine A).apply ((affine C).apply (point x)) = (affine (A * C)).apply (point x) := by
    simp only [apply_affine, act_mul hC]
  have hright (x : Fin 3 → ℝ) : (affine T).apply ((affine B).apply (point x)) = (affine (T * B)).apply (point x) := by
    simp only [apply_affine, act_mul hB]
  constructor
  · rintro ⟨hD', h⟩
    have hproduct : A * D' = A * D := by
      rw [hD]
      refine eq_of_apply (hA.mul hD') hTB fun x => ?_
      rw [← hside D' hD', h, hright]
    have hunit : IsUnit A := (Matrix.isUnit_iff_isUnit_det A).2 (isUnit_iff_ne_zero.2 hdet)
    exact hunit.mul_left_cancel hproduct
  · rintro rfl
    exact ⟨hDaffine, fun x => by rw [hside _ hDaffine, hD, hright]⟩

end Exact

namespace View

open Exact

section Solver

variable [LinearSolver Exact] [LinearSolver.Accurate]

theorem solve_of_det_eq_zero {A C : RealMatrix 4 4} (h : A.det = 0) :
    (affine A).solve (affine C) = .error .singular := by
  unfold AffineTransform.solve
  simp only [affine, LinearSolver.Accurate.rank_matrix, ok_bind]
  rw [if_pos (RealMatrix.rank_lt_iff.2 h)]
  rfl

theorem solve_of_det_ne_zero {A C : RealMatrix 4 4} (h : A.det ≠ 0) :
    ∃ D, A * D = C ∧ (affine A).solve (affine C) = .ok (affine D) := by
  have hunit : IsUnit A.det := isUnit_iff_ne_zero.2 h
  obtain ⟨D, hsolve, hD⟩ := LinearSolver.Accurate.leastSquares_matrix A C
  refine ⟨D, hD.mul_eq (Matrix.mul_nonsing_inv_cancel_left A C hunit), ?_⟩
  unfold AffineTransform.solve
  simp only [affine, LinearSolver.Accurate.rank_matrix, ok_bind]
  rw [if_neg fun hrank => h (RealMatrix.rank_lt_iff.1 hrank), hsolve]
  rfl

theorem mappingBetween_eq {A T B D : RealMatrix 4 4} {input reference : Grid Exact}
    (hinput : input.transform = affine A) (hdet : A.det ≠ 0) (hreference : reference.transform = affine B)
    (hD : A * D = T * B) : mappingBetween input reference (affine T) = .ok (affine D) := by
  obtain ⟨D', hD', hsolve⟩ := solve_of_det_ne_zero (C := T * B) hdet
  have hunit : IsUnit A := (Matrix.isUnit_iff_isUnit_det A).2 (isUnit_iff_ne_zero.2 hdet)
  rw [mappingBetween, hinput, hreference, compose_affine, hsolve, hunit.mul_left_cancel (hD'.trans hD.symm)]

variable [Capacity]

/-- **The view of a volume** whose grid has a matrix that is not singular. -/
theorem ofVolume_affine {A B T D : RealMatrix 4 4} {input reference : Grid Exact} {volume : Volume Exact}
    {transform oversample order : Literal Exact} {fallback : Option (Literal Exact)} {kernel : Kernel}
    {source : Source Exact} {plan : OversamplingPlan} (hshape : input.shape = volume.shape)
    (hinput : input.transform = affine A) (hdet : A.det ≠ 0) (hreference : reference.transform = affine B)
    (htransform : AffineTransform.ofLiteral transform = .ok (affine T)) (hD : A * D = T * B)
    (horder : Kernel.ofLiteral order = .ok kernel) (hsource : Source.ofKernel volume kernel = .ok source)
    (hplan : OversamplingPlan.plan (affine D) oversample = .ok plan)
    (hroom : plan.active = true → (Shape.reserveLattice plan.factors.toList : Except (Fault Exact) Unit) = .ok ()) :
    ofVolume volume (some input) (some reference) transform oversample order fallback =
      .ok ⟨⟨volume, input.extent, source, fallback, some input, .text ""⟩, reference, affine D, plan⟩ :=
  ofVolume_of_solved hshape horder hsource htransform (mappingBetween_eq hinput hdet hreference hD) hplan hroom

/-- **What a view is made of**: its grid, its volume, and the matrix between them. -/
theorem of_ofVolume {A B T D : RealMatrix 4 4} {input reference : Grid Exact} {volume : Volume Exact}
    {transform oversample order : Literal Exact} {fallback : Option (Literal Exact)} {v : View Exact}
    (hinput : input.transform = affine A) (hdet : A.det ≠ 0) (hreference : reference.transform = affine B)
    (htransform : AffineTransform.ofLiteral transform = .ok (affine T)) (hD : A * D = T * B)
    (hview : ofVolume volume (some input) (some reference) transform oversample order fallback = .ok v) :
    v.reference = reference ∧ v.sampler.volume = volume ∧ v.sampler.extent = input.extent ∧ v.mapping = affine D := by
  obtain ⟨g, kernel, sampler, hg, -, hsampler, hview⟩ := ofVolume_eq_ok.1 hview
  cases hg
  obtain ⟨extent, source, hextent, hgrid, -, rfl⟩ := Sampler.make_eq_ok.1 hsampler
  obtain ⟨hr, hs, -, ⟨t, ht, hmapping⟩, -, -⟩ := ofSampler_eq_ok.1 hview
  cases hr
  rw [htransform] at ht
  cases ht
  rw [mappingBetween_eq hinput hdet hreference hD] at hmapping
  have hsame : extent = input.extent := by
    have hshape : volume.shape = input.extent.toShape := (hgrid input rfl).symm
    rw [hshape, Extent.ofShape?_toShape] at hextent
    exact (Option.some.inj hextent).symm
  rw [hs]
  exact ⟨rfl, rfl, hsame, (Except.ok.inj hmapping).symm⟩

/-- **The mapping of a view.**  Between grids whose transforms are affine, a view cannot be made for a fault of linear
algebra exactly if the transform of the volume is singular.  Otherwise its mapping is the only affine one that, followed
by the transform of the volume, gives the world coordinates that the transform assigns to a voxel of the reference.
Where one sample is taken per voxel, the value under a cursor is that of the sampler at the position with these world
coordinates. -/
theorem ofSampler_mapping {A T B : RealMatrix 4 4} (hA : A.IsAffine) (hT : T.IsAffine) (hB : B.IsAffine)
    {sampler : Sampler Exact} {input reference : Grid Exact} {transform : Literal Exact} (oversample : Literal Exact)
    (hinput : input.transform = affine A) (hreference : reference.transform = affine B)
    (htransform : AffineTransform.ofLiteral transform = .ok (affine T)) (hshape : input.shape = sampler.volume.shape) :
    ((∃ f, ofSampler sampler (some input) (some reference) transform oversample = .error f ∧ f.kind = .algebra) ↔
      A.det = 0) ∧
    (A.det ≠ 0 → ∃ D : RealMatrix 4 4,
      (∀ D' : RealMatrix 4 4, (D'.IsAffine ∧ ∀ x : Fin 3 → ℝ, (affine A).apply ((affine D').apply (Exact.point x)) =
        (affine T).apply ((affine B).apply (Exact.point x))) ↔ D' = D) ∧
      ofSampler sampler (some input) (some reference) transform oversample = (do
        let plan ← OversamplingPlan.plan (affine D) oversample
        if plan.active then Shape.reserveLattice plan.factors.toList
        return ⟨sampler, reference, affine D, plan⟩) ∧
      (∃ plan, OversamplingPlan.plan (affine D) .null = .ok plan) ∧
      ∀ plan : OversamplingPlan, plan.active = false →
        ∀ (c : Cursor Exact) (x : Fin 3 → ℝ), c.position = .ok (Exact.point x) →
          ∃ p, (affine A).apply (Exact.point p) = (affine T).apply ((affine B).apply (Exact.point x)) ∧
          Walk.perform (View.value ⟨sampler, reference, affine D, plan⟩) c =
            ((do return (← sampler.valueAt c.place (Exact.point p)).1), c)) := by
  have hview : ofSampler sampler (some input) (some reference) transform oversample = (do
      let mapping ← (affine A).solve (affine (T * B))
      let plan ← OversamplingPlan.plan mapping oversample
      if plan.active then Shape.reserveLattice plan.factors.toList
      return ⟨sampler, reference, mapping, plan⟩) := by
    unfold ofSampler mappingBetween
    simp [hshape, htransform, hinput, hreference]
  by_cases hdet : A.det = 0
  · rw [solve_of_det_eq_zero hdet] at hview
    exact ⟨⟨fun _ => hdet, fun _ => ⟨.singular, hview, rfl⟩⟩, fun h => absurd hdet h⟩
  · obtain ⟨D, hD, hsolve⟩ := solve_of_det_ne_zero (C := T * B) hdet
    rw [hsolve, ok_bind] at hview
    have hunique := exists_unique_mapping hA hT hB hdet hD
    refine ⟨⟨?_, fun h => absurd h hdet⟩, fun _ => ⟨D, hunique, hview, ?_, ?_⟩⟩
    -- what follows the solution has faults of its own, none of which is one of linear algebra
    · rintro ⟨f, hf, hkind⟩
      rw [hview] at hf
      refine absurd hkind (NoAlgebra.bind (OversamplingPlan.noAlgebra_plan _ _) (fun plan => ?_) f hf)
      split
      · exact (Shape.noAlgebra_reserveLattice _).bind fun _ => .ok _
      · exact .ok _
    · obtain ⟨plan, hplan, -⟩ := OversamplingPlan.plan_null D
      exact ⟨plan, hplan⟩
    · intro plan hactive c x hx
      refine ⟨D.act x, ?_, ?_⟩
      · rw [← ((hunique D).2 rfl).2 x, apply_affine D]
      · rw [perform_value, valueAt, hx]
        simp only [ok_bind, hactive, Bool.false_eq_true, if_false, apply_affine]

end Solver

/-- **The grid of a single voxel** of size one at the origin. -/
noncomputable def unitGrid : Grid Exact := ⟨⟨triple 1 1 1, []⟩, [1, 1, 1], affine 1⟩

/-- **The sampler of a single voxel** that is not a number. -/
def unitSampler : Sampler Exact :=
  ⟨⟨.real .double, Tensor.build [1, 1, 1] fun _ => .nan⟩, ⟨triple 1 1 1, []⟩, .nearest, none, none, .null⟩

/-- **A quarter turn** followed by a shift. -/
def turn : RealMatrix 4 4 := !![0, -1, 0, 5; 1, 0, 0, 0; 0, 0, 1, 0; 0, 0, 0, 1]

/-- **A stretching** that leaves no angle between the first two axes as it is. -/
def stretch : RealMatrix 4 4 := !![2, 1, 0, 0; 0, 3, 0, -3; 0, 0, 1, 0; 0, 0, 0, 1]

/-- **The matrix of a reference** that a turn takes to the world of a stretching, up to a swap of the first two axes. -/
def unturned : RealMatrix 4 4 := !![3, 0, 0, -3; -1, -2, 0, 5; 0, 0, 1, 0; 0, 0, 0, 1]

/-- **The swap of the first two axes.** -/
def swap : RealMatrix 4 4 := !![0, 1, 0, 0; 1, 0, 0, 0; 0, 0, 1, 0; 0, 0, 0, 1]

theorem isAffine_turn : turn.IsAffine := fun j => by fin_cases j <;> rfl

theorem isAffine_stretch : stretch.IsAffine := fun j => by fin_cases j <;> rfl

theorem det_stretch_ne_zero : stretch.det ≠ 0 := by
  simp [stretch, Matrix.det_succ_row_zero, Fin.sum_univ_succ, Fin.succAbove]

/-- **Six voxels** that tell their indices, seen through the nearest kernel. -/
noncomputable def sixVoxels : Sampler Exact :=
  ⟨⟨.real .double, Tensor.build [2, 3, 1] fun index =>
    finite ((10 * (index[0]?).getD 0 + (index[1]?).getD 0 : ℕ) : ℝ)⟩, ⟨triple 2 3 1, []⟩, .nearest, none, none, .null⟩

theorem valueAt_sixVoxels {i j : ℕ} (hi : i < 3) (hj : j < 2) :
    sixVoxels.valueAt [] (centre (triple j i 0)) =
      .ok (.cell ⟨.real .double, finite ((10 * j + i : ℕ) : ℝ)⟩, true) := by
  have hinside : Shape.Inside sixVoxels.extent.spatial.toList (triple j i 0).toList :=
    .cons hj (.cons hi (.cons one_pos .nil))
  have hcell : sixVoxels.volume.cell? ((triple j i 0).toList ++ []) = some (finite ((10 * j + i : ℕ) : ℝ)) :=
    Tensor.get?_build (.cons hj (.cons hi (.cons one_pos .nil))) _
  exact Sampler.valueAt_centre_of_cell hinside .nil hcell

/-- **Six voxels in a stretched world**, seen through a turn: the mapping to them swaps the first two axes, and so do
the values. -/
theorem ofSampler_turned :
    let input : Grid Exact := ⟨⟨triple 2 3 1, []⟩, [1, 1, 1], affine stretch⟩
    let reference : Grid Exact := ⟨⟨triple 3 2 1, []⟩, [1, 1, 1], affine unturned⟩
    let v : View Exact := ⟨sixVoxels, reference, affine swap, .single⟩
    ofSampler sixVoxels (some input) (some reference) (.ofMatrix turn) (.number (.int 1)) = .ok v ∧
      ∀ i j : ℕ, i < 3 → j < 2 → (Walk.perform v.value (.ofVoxel [i, j, 0])).1 =
        .ok (.cell ⟨.real .double, finite ((10 * j + i : ℕ) : ℝ)⟩) := by
  intro input reference v
  have hunturned : unturned.IsAffine := fun j => by fin_cases j <;> rfl
  have hswap : swap.IsAffine := fun j => by fin_cases j <;> rfl
  have hproduct : stretch * swap = turn * unturned := by
    ext i j
    fin_cases i <;> fin_cases j <;> simp [stretch, swap, turn, unturned, Matrix.mul_apply, Fin.sum_univ_succ]
  have hinput : input.transform = affine stretch := rfl
  have hreference : reference.transform = affine unturned := rfl
  have hshape : input.shape = sixVoxels.volume.shape := rfl
  obtain ⟨D, hunique, hview, -, hvalue⟩ :=
    (ofSampler_mapping isAffine_stretch isAffine_turn hunturned (.number (.int 1)) hinput hreference
      (AffineTransform.ofLiteral_ofMatrix turn) hshape).2 det_stretch_ne_zero
  obtain rfl : swap = D := (hunique swap).1 ⟨hswap, fun x => by
    rw [apply_affine, apply_affine, apply_affine, apply_affine, ← RealMatrix.act_mul hswap, hproduct,
      RealMatrix.act_mul hunturned]⟩
  constructor
  · have hplan : OversamplingPlan.plan (affine swap) (.number (.int 1)) = .ok .single := OversamplingPlan.ofRequest_one
    rw [hview, hplan]
    rfl
  · intro i j hi hj
    have hinside : Shape.Inside [3, 2, 1] [i, j, 0] := .cons hi (.cons hj (.cons one_pos .nil))
    have hroom : (Shape.reserve [3, 2, 1] : Except (Fault Exact) Unit) = .ok () := rfl
    have hcountable : Countable [i, j, 0] := hinside.lt_countless hroom
    have hpoint : View.point [i, j, 0] = Exact.point ![i, j, 0] := by
      refine congrArg Vector.ofFn (funext fun k => ?_)
      fin_cases k <;> simp
    obtain ⟨p, hp, hperform⟩ := hvalue .single rfl _ _ ((position_ofVoxel hcountable).trans (congrArg Except.ok hpoint))
    have hcentre : Exact.point p = centre (triple j i 0) := by
      rw [apply_affine, apply_affine, apply_affine] at hp
      have hworld := congrFun (point_injective hp)
      have h0 : 2 * p 0 + p 1 = 2 * j + i := by
        simpa [RealMatrix.act_apply, stretch, turn, unturned, Fin.sum_univ_succ] using hworld 0
      have h1 : p 1 = i := by
        simpa [RealMatrix.act_apply, stretch, turn, unturned, Fin.sum_univ_succ] using hworld 1
      have h2 : p 2 = 0 := by
        simpa [RealMatrix.act_apply, stretch, turn, unturned, Fin.sum_univ_succ] using hworld 2
      refine congrArg Exact.point (funext fun k => ?_)
      fin_cases k
      · have hfirst : p 0 = j := by linarith
        exact hfirst
      · exact h1
      · exact h2.trans Nat.cast_zero.symm
    rw [hperform, hcentre]
    exact congrArg (fun x : Except (Fault Exact) (Reading Exact × Bool) => do return (← x).1) (valueAt_sixVoxels hi hj)

end View

end Regrid
