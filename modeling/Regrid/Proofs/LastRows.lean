import Mathlib
import Regrid.Proofs.Expressions
import Regrid.Proofs.Parts
/-!
# LastRows — what the last row of a transform decides

A transform acts on points by its first three rows, but it is composed, inverted and solved as a whole.  So the laws of
affine maps rest on a last row `0 0 0 1`.  Reading three rows supplies it, reading four keeps the row that is written
(`AffineTransform.ofLiteral_endsAffine_iff`).  All operations preserve it, and the laws hold exactly where it is there
(`AffineTransform.laws_of_lastRow`).
-/
namespace RealMatrix

variable {a b : RealMatrix 4 4}

/-- **The last homogeneous coordinate of the image of a point.** -/
def weight (a : RealMatrix 4 4) (x : Fin 3 → ℝ) : ℝ := Matrix.mulVec a (homogeneous x) 3

theorem weight_apply (a : RealMatrix 4 4) (x : Fin 3 → ℝ) :
    a.weight x = ∑ j : Fin 3, a 3 j.castSucc * x j + a 3 3 := by
  rw [weight, Matrix.mulVec, dotProduct, Fin.sum_univ_castSucc, show Fin.last 3 = 3 from rfl, homogeneous_last, mul_one]
  simp only [homogeneous_castSucc]

theorem mulVec_eq_snoc (a : RealMatrix 4 4) (x : Fin 3 → ℝ) :
    Matrix.mulVec a (homogeneous x) = Fin.snoc (α := fun _ => ℝ) (a.act x) (a.weight x) := by
  funext i
  refine Fin.lastCases ?_ (fun i => ?_) i
  · rw [Fin.snoc_last]
    rfl
  · rw [Fin.snoc_castSucc]
    rfl

theorem isAffine_iff_weight : a.IsAffine ↔ ∀ x, a.weight x = 1 := by
  constructor
  · intro ha x
    have h := congrFun (mulVec_homogeneous ha x) 3
    rwa [homogeneous_last] at h
  · intro h j
    have hcorner : a 3 3 = 1 := by
      have := h 0
      simpa [weight_apply] using this
    refine Fin.lastCases hcorner (fun j => ?_) j
    have hj := h (Pi.single j 1)
    rw [weight_apply, hcorner] at hj
    rw [if_neg (show j.castSucc ≠ 3 from (Fin.castSucc_lt_last j).ne)]
    simpa [Pi.single_apply] using hj

theorem act_mul_apply (a b : RealMatrix 4 4) (x : Fin 3 → ℝ) (i : Fin 3) :
    act (a * b) x i = a.act (b.act x) i + a i.castSucc 3 * (b.weight x - 1) := by
  have hproduct : act (a * b) x i = ∑ j : Fin 3, a i.castSucc j.castSucc * b.act x j + a i.castSucc 3 * b.weight x := by
    rw [act, ← Matrix.mulVec_mulVec, mulVec_eq_snoc b, Matrix.mulVec, dotProduct, Fin.sum_univ_castSucc, Fin.snoc_last]
    simp only [Fin.snoc_castSucc]
    rfl
  rw [hproduct, act_apply]
  ring

/-- **A product acts as one action after the other** exactly if the right factor is affine or the left one does not
translate. -/
theorem act_mul_iff : (∀ x, act (a * b) x = a.act (b.act x)) ↔ b.IsAffine ∨ ∀ i : Fin 3, a i.castSucc 3 = 0 := by
  constructor
  · intro h
    by_cases hzero : ∀ i : Fin 3, a i.castSucc 3 = 0
    · exact .inr hzero
    · obtain ⟨i, hi⟩ := not_forall.1 hzero
      refine .inl (isAffine_iff_weight.2 fun x => ?_)
      have hx := congrFun (h x) i
      rw [act_mul_apply, add_eq_left, mul_eq_zero] at hx
      linarith [hx.resolve_left hi]
  · rintro (hb | hzero) x
    · exact act_mul hb x
    · funext i
      rw [act_mul_apply, hzero i, zero_mul, add_zero]

/-- **A weight that is nowhere zero** is the same everywhere. -/
theorem weight_eq_corner (h : ∀ x, a.weight x ≠ 0) (x : Fin 3 → ℝ) : a.weight x = a 3 3 := by
  have hrow : ∀ j : Fin 3, a 3 j.castSucc = 0 := by
    intro j
    by_contra hj
    -- far enough along this axis the weight would be zero
    refine h (Pi.single j (-a 3 3 / a 3 j.castSucc)) ?_
    rw [weight_apply]
    simp [Pi.single_apply, mul_div_cancel₀ _ hj]
  rw [weight_apply]
  simp [hrow]

theorem det_eq_zero_of_act (h : ∀ x, a.act x = 0) : a.det = 0 := by
  refine Matrix.det_eq_zero_of_row_eq_zero 0 fun j => ?_
  have horigin : a 0 3 = 0 := by
    have h0 := congrFun (h 0) 0
    simpa [act_apply] using h0
  refine Fin.lastCases horigin (fun j => ?_) j
  have hj := congrFun (h (Pi.single j 1)) 0
  rw [act_apply] at hj
  simpa [Pi.single_apply, horigin] using hj

/-- **The images are found by dividing by the weight** exactly if the matrix is affine, unless it is singular. -/
theorem act_eq_div_weight_iff (hdet : a.det ≠ 0) :
    (∀ x, a.weight x ≠ 0 ∧ ∀ i, a.act x i = a.act x i / a.weight x) ↔ a.IsAffine := by
  rw [isAffine_iff_weight]
  constructor
  · intro h x
    rw [weight_eq_corner (fun x => (h x).1)]
    by_contra hcorner
    refine hdet (det_eq_zero_of_act fun y => funext fun i => ?_)
    obtain ⟨hne, hdiv⟩ := h y
    have hy := hdiv i
    rw [weight_eq_corner (fun x => (h x).1)] at hne hy
    rw [eq_div_iff hne] at hy
    have hproduct : a.act y i * (a 3 3 - 1) = 0 := by linarith
    exact (mul_eq_zero.1 hproduct).resolve_right (sub_ne_zero.2 hcorner)
  · intro h x
    simp [h x]

end RealMatrix

namespace Regrid

open Exact RealMatrix

section Reading

variable {α : Type} [Scalar α]

/-- **The last row of the matrix of a transform is `0 0 0 1`.** -/
def AffineTransform.EndsAffine (t : AffineTransform α) : Prop :=
  ∀ j : Fin 4, (t.matrix.get 3).get j = if j = 3 then 1 else 0

theorem Literal.shape_of_toReals {l : Literal α} {m : Tensor α} (h : l.toReals = .ok m) : l.shape? = some m.shape := by
  obtain ⟨t, ht, hm⟩ := bind_eq_ok.1 h
  rw [(Tensor.mapM_eq_pure_iff.1 hm).1]
  unfold toTensor at ht
  split at ht
  · rename_i u hu
    obtain ⟨s, hs, hlist⟩ := Option.bind_eq_some_iff.1 hu
    unfold Tensor.ofList? at hlist
    split at hlist
    · obtain rfl := Option.some.inj hlist
      obtain rfl := Except.ok.inj ht
      exact hs
    · cases hlist
  · cases ht

theorem vector_mapM_finRange {β : Type} {n : Nat} {f : Fin n → Option β} {v : Vector β n} :
    (Vector.finRange n).mapM f = some v ↔ ∀ i, f i = some (v.get i) := by
  refine (Tensor.vector_mapM_eq_pure_iff (m := Option)).trans (forall₂_toList.trans (forall_congr' fun i => ?_))
  simp [Vector.get]

theorem homogeneous?_eq_some {dim : Nat} {t : Tensor α} {m : Matrix (dim + 1) (dim + 1) α}
    (h : homogeneous? dim t = some m) :
    (t.shape = [dim, dim + 1] ∧ ∀ j, (m.get (Fin.last dim)).get j = if j = Fin.last dim then 1 else 0) ∨
      t.shape = [dim + 1, dim + 1] ∧ ∀ i j : Fin (dim + 1), t.get? [i, j] = some ((m.get i).get j) := by
  unfold homogeneous? at h
  split at h
  · rename_i hshape
    refine .inl ⟨hshape, fun j => ?_⟩
    have hlast := vector_mapM_finRange.1 h (Fin.last dim)
    rw [vector_mapM_finRange] at hlast
    simpa using (hlast j).symm
  · split at h
    · rename_i hshape
      refine .inr ⟨hshape, fun i => ?_⟩
      exact vector_mapM_finRange.1 (vector_mapM_finRange.1 h i)
    · cases h

/-- **A transform as it is written** ends with `0 0 0 1` exactly if four rows, where so many are written, do. -/
theorem AffineTransform.ofLiteral_endsAffine_iff {l : Literal α} {t : AffineTransform α}
    (ht : ofLiteral l = .ok t) : t.EndsAffine ↔ ∀ m, l.toReals = .ok m → m.shape = [4, 4] →
      ∀ j : Fin 4, m.get? [3, j] = some (if j = 3 then 1 else 0) := by
  unfold ofLiteral at ht
  split at ht
  · obtain ⟨matrix, hmatrix, hpure⟩ := bind_eq_ok.1 ht
    obtain rfl := Except.ok.inj hpure
    obtain ⟨m, hm, hrows⟩ := bind_eq_ok.1 hmatrix
    cases hsome : homogeneous? 3 m with
    | none =>
      rw [hsome] at hrows
      cases hrows
    | some rows =>
      rw [hsome] at hrows
      obtain rfl := Except.ok.inj hrows
      rcases homogeneous?_eq_some hsome with ⟨hshape, hlast⟩ | ⟨hshape, hentries⟩
      · refine ⟨fun _ m' hm' hshape' => ?_, fun _ => hlast⟩
        obtain rfl := Except.ok.inj (hm.symm.trans hm')
        rw [hshape] at hshape'
        cases hshape'
      · constructor
        · intro hends m' hm' _ j
          obtain rfl := Except.ok.inj (hm.symm.trans hm')
          exact (hentries 3 j).trans (congrArg some (hends j))
        · intro h j
          exact Option.some.inj ((hentries 3 j).symm.trans (h m hm hshape j))
  · rename_i hgiven
    obtain rfl := Except.ok.inj ht
    have hnull : l = .null := by
      cases l with
      | null => rfl
      | number | text | list | record => exact absurd rfl hgiven
    constructor
    · intro _ m hm hshape
      have hlevels := Literal.shape_of_toReals hm
      rw [hnull, hshape] at hlevels
      simp [Literal.shape?, Literal.levels?] at hlevels
    · intro _ j
      have hentry : (Matrix.identity 4 : Matrix 4 4 α).get 3 =
          Vector.ofFn fun j : Fin 4 => if (3 : Fin 4) = j then 1 else 0 := Vector.get_ofFn _ _
      rw [identity, hentry, Vector.get_ofFn]
      exact if_congr eq_comm rfl rfl

end Reading

namespace Exact

theorem zero_mul_eq (x : Exact) : finite 0 * x = if Scalar.isFinite x then finite 0 else .nan := by
  cases x with
  | finite x => simp
  | infinity s => exact if_pos rfl
  | nan => rfl

theorem nan_add (x : Exact) : Exact.nan + x = .nan := by
  cases x <;> rfl

theorem add_nan (x : Exact) : x + Exact.nan = .nan := by
  cases x <;> rfl

/-- **The coordinate of a column that a last row `0 0 0 1` picks** is lost if another one is not finite. -/
theorem dot_lastRow {row column : Vector Exact 4} (hrow : ∀ j : Fin 4, row.get j = if j = 3 then 1 else 0) :
    Point.dot row column =
      if ∀ i : Fin 3, Scalar.isFinite (column.get i.castSucc) = true then column.get 3 else .nan := by
  have hdot : Point.dot row column = 0 + row.get 0 * column.get 0 + row.get 1 * column.get 1 +
      row.get 2 * column.get 2 + row.get 3 * column.get 3 := by
    simp only [Point.dot, Fin.foldl_succ_last, Fin.foldl_zero]
    rfl
  have hzero : (0 : Exact) = finite 0 := by simp
  have hone : (1 : Exact) = finite 1 := by simp
  rw [hdot, hrow 0, hrow 1, hrow 2, hrow 3]
  simp only [reduceIte, Fin.reduceEq, hzero, hone, zero_mul_eq, Exact.one_mul]
  have hall : (∀ i : Fin 3, Scalar.isFinite (column.get i.castSucc) = true) ↔ Scalar.isFinite (column.get 0) = true ∧
      Scalar.isFinite (column.get 1) = true ∧ Scalar.isFinite (column.get 2) = true :=
    Fin.forall_fin_succ.trans (and_congr Iff.rfl Fin.forall_fin_two)
  rw [if_congr hall rfl rfl]
  by_cases hx : Scalar.isFinite (column.get 0) = true
  · by_cases hy : Scalar.isFinite (column.get 1) = true
    · by_cases hz : Scalar.isFinite (column.get 2) = true
      · simp [hx, hy, hz, Exact.zero_add]
      · simp [hx, hy, hz, nan_add, add_nan]
    · simp [hx, hy, nan_add, add_nan]
  · simp [hx, nan_add, add_nan]

end Exact

namespace AffineTransform

variable {t u : AffineTransform Exact} {a b : RealMatrix 4 4}

theorem endsAffine_affine : (affine a).EndsAffine ↔ a.IsAffine := by
  have hentry : ∀ j : Fin 4, ((affine a).matrix.get 3).get j = finite (a 3 j) := fun j => by simp [affine]
  refine forall_congr' fun j => ?_
  rw [hentry]
  by_cases hj : j = 3
  · simp [hj]
  · simp [hj]

/-- **A composition ends affine** exactly if the right factor has finite entries in its first rows. -/
theorem endsAffine_compose (ht : t.EndsAffine) (hu : u.EndsAffine) : (t.compose u).EndsAffine ↔
    ∀ (i : Fin 3) (j : Fin 4), Scalar.isFinite ((u.matrix.get i.castSucc).get j) = true := by
  have hcolumn : ∀ i j : Fin 4, (Matrix.column u.matrix j).get i = (u.matrix.get i).get j := fun i j =>
    Vector.get_ofFn _ _
  have hentry : ∀ j : Fin 4, ((t.compose u).matrix.get 3).get j =
      if ∀ i : Fin 3, Scalar.isFinite ((u.matrix.get i.castSucc).get j) = true then if j = 3 then 1 else 0
      else .nan := by
    intro j
    have hproduct : ((t.compose u).matrix.get 3).get j = Point.dot (t.matrix.get 3) (Matrix.column u.matrix j) := by
      simp [compose, Matrix.mul, Matrix.ofFn]
    rw [hproduct, dot_lastRow ht]
    simp only [hcolumn, hu j]
  refine Iff.trans (forall_congr' fun j => ?_) forall_comm
  rw [hentry]
  by_cases hfinite : ∀ i : Fin 3, Scalar.isFinite ((u.matrix.get i.castSucc).get j) = true
  · simp [hfinite]
  · rw [if_neg hfinite]
    refine iff_of_false (fun hnan => ?_) hfinite
    split at hnan
    · simp at hnan
    · simp at hnan

/-- **A transform projects**: the image of a point has the first coordinates of the product of the matrix with the point
and a further coordinate one, divided by the last one. -/
def Projects (t : AffineTransform Exact) : Prop :=
  ∀ x : Fin 3 → ℝ, ∃ h : Fin 4 → ℝ, Matrix.apply t.matrix (point (homogeneous x)) = point h ∧ h 3 ≠ 0 ∧
    t.apply (point x) = point fun i => h i.castSucc / h 3

theorem projects_affine : (affine a).Projects ↔ ∀ x, a.weight x ≠ 0 ∧ ∀ i, a.act x i = a.act x i / a.weight x := by
  have hproduct : ∀ x, Matrix.apply (affine a).matrix (point (homogeneous x)) =
      point (Matrix.mulVec a (homogeneous x)) := by
    intro x
    simp only [affine, Matrix.apply, get_matrix, dot_point]
    rfl
  refine forall_congr' fun x => ?_
  rw [hproduct, apply_affine]
  constructor
  · rintro ⟨h, hpoint, hne, hact⟩
    obtain rfl := point_injective hpoint
    exact ⟨hne, congrFun (point_injective hact)⟩
  · rintro ⟨hne, hact⟩
    exact ⟨_, rfl, hne, congrArg point (funext hact)⟩

theorem translation_affine : (affine a).translation = point fun i => a i.castSucc 3 := by
  simp [translation, affine, point]

/-- **The laws of affine transforms rest on the last row.**  A transform that is written ends with `0 0 0 1` unless four
rows are written of which the last is another one.  What is composed, inverted and solved of such transforms of real
numbers is one again, if it exists; an entry that is not finite is lost in the last row.  Such a transform acts as its
matrix does on homogeneous coordinates, and an invertible one only if its last row is this.  Composing is applying one
transform after the other exactly if the first one to be applied ends so, or the other one does not translate. -/
theorem laws_of_lastRow [LinearSolver Exact] [LinearSolver.Accurate] [LinearSolver.Inverting] :
    (∀ (l : Literal Exact) (t : AffineTransform Exact), ofLiteral l = .ok t → (t.EndsAffine ↔
      ∀ m, l.toReals = .ok m → m.shape = [4, 4] → ∀ j : Fin 4, m.get? [3, j] = some (if j = 3 then 1 else 0))) ∧
    (∀ e : TransformExpr Exact, (∀ t ∈ e.leaves, (∃ a, t = affine a) ∧ t.EndsAffine) →
      (∃ a, e.eval = .ok (affine a) ∧ (affine a).EndsAffine) ∨ ∃ f, e.eval = .error f ∧ f.kind = .algebra) ∧
    (∀ t u : AffineTransform Exact, t.EndsAffine → u.EndsAffine → ((t.compose u).EndsAffine ↔
      ∀ (i : Fin 3) (j : Fin 4), Scalar.isFinite ((u.matrix.get i.castSucc).get j) = true)) ∧
    (∀ a : RealMatrix 4 4, ((affine a).EndsAffine → (affine a).Projects) ∧
      (a.det ≠ 0 → (affine a).Projects → (affine a).EndsAffine)) ∧
    ∀ a b : RealMatrix 4 4, (∀ x, ((affine a).compose (affine b)).apply (point x) =
      (affine a).apply ((affine b).apply (point x))) ↔ (affine b).EndsAffine ∨ (affine a).translation = point 0 := by
  refine ⟨fun l t => ofLiteral_endsAffine_iff, fun e he => ?_, fun t u => endsAffine_compose, fun a => ⟨fun ha => ?_,
    fun hdet ha => ?_⟩, fun a b => ?_⟩
  · have hleaves : ∀ t ∈ e.leaves, ∃ a : RealMatrix 4 4, a.IsAffine ∧ t = affine a := by
      intro t ht
      obtain ⟨⟨a, rfl⟩, hends⟩ := he t ht
      exact ⟨a, endsAffine_affine.1 hends, rfl⟩
    rcases TransformExpr.evaluates_or_fails hleaves with ⟨a, ha, heval, -⟩ | ⟨hfault, -⟩
    · exact .inl ⟨a, heval, endsAffine_affine.2 ha⟩
    · exact .inr hfault
  · have hweight := isAffine_iff_weight.1 (endsAffine_affine.1 ha)
    exact projects_affine.2 fun x => by simp [hweight x]
  · exact endsAffine_affine.2 ((act_eq_div_weight_iff hdet).1 (projects_affine.1 ha))
  · rw [endsAffine_affine, translation_affine, point_injective.eq_iff, funext_iff]
    refine Iff.trans (forall_congr' fun x => ?_) act_mul_iff
    rw [compose_affine, apply_affine, apply_affine, apply_affine, point_injective.eq_iff]

/-- **Twice the identity**, whose last row is `0 0 0 2`, is read as it is written.  It should leave points where they
are and takes them twice as far, and after it a translation moves them twice as far too.  The inverse of a translation
ends with `0 0 0 1`, but not what an infinite scaling is composed to. -/
theorem laws_of_lastRow_doubled :
    let doubled : RealMatrix 4 4 := (2 : ℝ) • 1
    let moved : RealMatrix 4 4 := RealMatrix.translation 1
    let endless : AffineTransform Exact := ofParts (Matrix.diagonal (Vector.replicate 3 Scalar.infinity)) (point 0)
    ofLiteral (.ofMatrix doubled) = .ok (affine doubled) ∧ ¬(affine doubled).EndsAffine ∧ ¬(affine doubled).Projects ∧
    (¬∀ x, ((affine moved).compose (affine doubled)).apply (point x) =
      (affine moved).apply ((affine doubled).apply (point x))) ∧
    (∃ t, (TransformExpr.inverse (.given (affine moved))).eval = .ok t ∧ t.EndsAffine) ∧
    endless.EndsAffine ∧ ¬((affine moved).compose endless).EndsAffine := by
  intro doubled moved endless
  obtain ⟨hread, hrun, hcompose, hproject, hlaw⟩ := laws_of_lastRow
  have hdoubled := ofLiteral_ofMatrix doubled
  have hends : ¬(affine doubled).EndsAffine := by
    rw [hread _ _ hdoubled]
    intro h
    have hcorner := h _ (Literal.toReals_ofMatrix doubled) rfl 3
    rw [Tensor.get?_build (.cons (by decide) (.cons (by decide) .nil))] at hcorner
    simp [RealMatrix.entry, doubled] at hcorner
  have hdet : doubled.det ≠ 0 := by
    rw [Matrix.det_smul, Matrix.det_one]
    norm_num
  have hmoved : (affine moved).EndsAffine := endsAffine_affine.2 (isAffine_translation 1)
  have hendless : endless.EndsAffine := by
    intro j
    have hentry : (endless.matrix.get 3).get j = if j = 3 then 1 else 0 := by
      simp [endless, ofParts, Matrix.ofFn]
    exact hentry
  refine ⟨hdoubled, hends, fun h => hends ((hproject doubled).2 hdet h), ?_, ?_, hendless, fun h => ?_⟩
  · rw [hlaw moved doubled]
    rintro (h | h)
    · exact hends h
    · have hshift : moved (Fin.castSucc 0) 3 = 0 := congrFun (point_injective (translation_affine.symm.trans h)) 0
      exact one_ne_zero ((parts_last 1 1 0).symm.trans hshift)
  · have hleaves : ∀ t ∈ (TransformExpr.inverse (.given (affine moved))).leaves,
        (∃ a, t = affine a) ∧ t.EndsAffine := by
      simp only [TransformExpr.leaves, List.mem_singleton, forall_eq]
      exact ⟨⟨moved, rfl⟩, hmoved⟩
    rcases hrun _ hleaves with ⟨a, ha, haffine⟩ | ⟨f, hf, -⟩
    · exact ⟨_, ha, haffine⟩
    · have hinverse : (TransformExpr.inverse (.given (affine moved))).eval = .ok (affine moved⁻¹) := by
        change (do return (⟨← LinearSolver.inverse (Exact.matrix moved)⟩ : AffineTransform Exact)) = _
        rw [LinearSolver.Inverting.inverse_of_det_ne_zero (det_translation_ne_zero 1)]
        rfl
      rw [hf] at hinverse
      cases hinverse
  · have hfinite := (hcompose _ _ hmoved hendless).1 h 0 0
    have hentry : (endless.matrix.get (Fin.castSucc 0)).get 0 = .infinity false := rfl
    rw [hentry] at hfinite
    cases hfinite

end AffineTransform

end Regrid
