import Mathlib
import Regrid.Proofs.Cells
import Regrid.Proofs.Estimate
import Regrid.Tool.Placement
/-!
# Written — matrices and factors as a user writes them

A matrix is written as the list of its rows.  It is read back as it was written, both as a transform and as an
orientation that a resizing can scale.
-/

/-- **The entry of a matrix** at an index of its rows and columns. -/
def RealMatrix.entry (a : RealMatrix 4 4) (index : List Nat) : ℝ :=
  a (Fin.ofNat 4 ((index[0]?).getD 0)) (Fin.ofNat 4 ((index[1]?).getD 0))

namespace Regrid
open Exact RealMatrix

namespace Matrix

variable {α : Type}

/-- **The entry of a matrix of scalars** at an index of its rows and columns. -/
def entry (m : Matrix 4 4 α) (index : List Nat) : α :=
  (m.get (Fin.ofNat 4 ((index[0]?).getD 0))).get (Fin.ofNat 4 ((index[1]?).getD 0))

theorem entry_matrix (a : RealMatrix 4 4) (index : List Nat) :
    (Exact.matrix a).entry index = finite (a.entry index) := by
  simp [entry, RealMatrix.entry, Exact.matrix, ofFn]

end Matrix

/-- **A matrix as it is written**: a list of its rows. -/
def Literal.ofRows {α : Type} (m : Matrix 4 4 α) : Literal α :=
  .list ((List.finRange 4).map fun i => .list ((List.finRange 4).map fun j => .number (.real ((m.get i).get j))))

/-- **A matrix of real numbers as it is written**: a list of its rows. -/
noncomputable def Literal.ofMatrix (a : RealMatrix 4 4) : Literal Exact :=
  .list ((List.finRange 4).map fun i => .list ((List.finRange 4).map fun j => .number (.real (finite (a i j)))))

namespace Literal

section Rows

variable {α : Type} (m : Matrix 4 4 α)

theorem leaves_ofRows : (ofRows m).leaves =
    (Shape.indices [4, 4]).map fun index => .number (.real (m.entry index)) := by
  simp only [ofRows, leaves, List.finRange, Shape.indices, List.range, List.range.loop]
  rfl

theorem toTensor_ofRows : (ofRows m).toTensor =
    .ok (Tensor.build [4, 4] fun index => .number (.real (m.entry index))) := by
  have hshape : (ofRows m).shape? = some [4, 4] := by
    simp [ofRows, shape?, levels?, levelsOfItems?, List.finRange, mostAxes]
  rw [toTensor, hshape, Option.bind_some, leaves_ofRows, Tensor.ofList?_indices]

variable [Scalar α]

theorem toReals_ofRows : (ofRows m).toReals = .ok (Tensor.build [4, 4] m.entry) := by
  rw [toReals, toTensor_ofRows, ok_bind]
  exact Tensor.mapM_build fun index _ => rfl

theorem homogeneous?_entry : homogeneous? 3 (Tensor.build [4, 4] m.entry) = some m := by
  have hget : ∀ i j : Fin 4, (Tensor.build [4, 4] m.entry).get? [i.val, j.val] = some ((m.get i).get j) := by
    intro i j
    rw [Tensor.get?_build (.cons i.isLt (.cons j.isLt .nil))]
    simp [Matrix.entry]
  have hshape : ¬([4, 4] : Shape) = [3, 3 + 1] := by decide
  unfold homogeneous?
  rw [Tensor.shape_build, if_neg hshape, if_pos rfl]
  have hrow : ∀ i : Fin 4, ((Vector.finRange 4).mapM fun j : Fin 4 => some ((m.get i).get j)) =
      some ((Vector.finRange 4).map fun j : Fin 4 => (m.get i).get j) := fun i =>
    Tensor.mapM_eq_pure (m := Option) fun j _ => rfl
  simp only [hget, hrow]
  refine (Tensor.mapM_eq_pure (m := Option) fun i _ => rfl).trans (congrArg some ?_)
  ext i hi j hj
  simp only [Vector.getElem_map, Vector.getElem_finRange]
  rfl

end Rows

theorem ofRows_matrix (a : RealMatrix 4 4) : ofRows (Exact.matrix a) = ofMatrix a := by
  simp [ofRows, ofMatrix, Exact.matrix, Matrix.ofFn]

theorem leaves_ofMatrix (a : RealMatrix 4 4) : (ofMatrix a).leaves =
    (Shape.indices [4, 4]).map fun index => .number (.real (finite (a.entry index))) := by
  rw [← ofRows_matrix, leaves_ofRows]
  simp only [Matrix.entry_matrix]

theorem toTensor_ofMatrix (a : RealMatrix 4 4) : (ofMatrix a).toTensor =
    .ok (Tensor.build [4, 4] fun index => .number (.real (finite (a.entry index)))) := by
  rw [← ofRows_matrix, toTensor_ofRows]
  simp only [Matrix.entry_matrix]

theorem toReals_ofMatrix (a : RealMatrix 4 4) : (ofMatrix a).toReals =
    .ok (Tensor.build [4, 4] fun index => finite (a.entry index)) := by
  have hentry : (Exact.matrix a).entry = fun index => finite (a.entry index) := funext (Matrix.entry_matrix a)
  rw [← ofRows_matrix, toReals_ofRows, hentry]

end Literal

/-- **A matrix is read as it was written.** -/
theorem AffineTransform.ofLiteral_ofRows {α : Type} [Scalar α] (m : Matrix 4 4 α) :
    AffineTransform.ofLiteral (Literal.ofRows m) = .ok ⟨m⟩ := by
  have hmatrix : (Literal.ofRows m).toHomogeneous 3 = .ok m := by
    rw [Literal.toHomogeneous, Literal.toReals_ofRows, ok_bind, Literal.homogeneous?_entry]
  change (do return (⟨← (Literal.ofRows m).toHomogeneous 3⟩ : AffineTransform α)) = _
  rw [hmatrix]
  rfl

theorem AffineTransform.ofLiteral_ofMatrix (a : RealMatrix 4 4) :
    AffineTransform.ofLiteral (Literal.ofMatrix a) = .ok (affine a) := by
  rw [← Literal.ofRows_matrix, ofLiteral_ofRows]
  rfl

theorem Volume.ofLiteral_ofMatrix (a : RealMatrix 4 4) : Volume.ofLiteral (Literal.ofMatrix a) =
    .ok ⟨.real .double, Tensor.build [4, 4] fun index => finite (a.entry index)⟩ := by
  have hdtype : Volume.commonDtype (Literal.ofMatrix a).leaves = .ok (.real .double) := by
    rw [Literal.leaves_ofMatrix]
    rfl
  have hcells : (Tensor.build [4, 4] fun index => (.number (.real (finite (a.entry index))) : Literal Exact)).mapM
      (Dtype.ofLiteral (.real .double)) = .ok (Tensor.build [4, 4] fun index => finite (a.entry index)) :=
    Tensor.mapM_build fun index _ => rfl
  rw [Volume.ofLiteral, hdtype, ok_bind, Volume.ofTypedLiteral, Literal.toTensor_ofMatrix, ok_bind, hcells]
  rfl

theorem Placement.checkScalable_ofMatrix (a : RealMatrix 4 4) :
    Placement.checkScalable (Literal.ofMatrix a) = .ok () := by
  unfold checkScalable
  have hnumbers : (Tensor.build [4, 4] fun index => finite (a.entry index)).toList.filterMap
      (Dtype.asWritten? (.real .double)) = [] := List.filterMap_eq_nil_iff.2 fun _ _ => rfl
  rw [Volume.ofLiteral_ofMatrix]
  simp only [ok_bind, hnumbers]
  rfl

namespace Placement

theorem factorsOfRequest_ofFn {α : Type} [Scalar α] {tool : Tool} {l : Literal α} {n : Fin 3 → ℕ} {f : Fin 3 → α}
    (hgiven : l.isGiven = true)
    (hpad : l.pad 3 none = .ok [.number (.int (n 0)), .number (.int (n 1)), .number (.int (n 2))])
    (hread : ∀ i, factorOf tool (.number (.int (n i))) = .ok (f i)) :
    factorsOfRequest tool l = .ok (Vector.ofFn f) := by
  unfold factorsOfRequest threeOf
  rw [hpad]
  simp only [hgiven, Bool.not_true, Bool.false_eq_true, if_false, ok_bind, List.mapM_cons, List.mapM_nil, hread]
  rfl

theorem factorsOfRequest_of_pad {tool : Tool} {l : Literal Exact} {n : Fin 3 → ℕ} {f : Fin 3 → ℝ}
    (hgiven : l.isGiven = true)
    (hpad : l.pad 3 none = .ok [.number (.int (n 0)), .number (.int (n 1)), .number (.int (n 2))])
    (hread : ∀ i, factorOf tool (.number (.int (n i)) : Literal Exact) = .ok (finite (f i))) :
    factorsOfRequest tool l = .ok (point f) :=
  factorsOfRequest_ofFn hgiven hpad hread

theorem factorOf_natCast {tool : Tool} (htool : tool ≠ .upsample) (n : ℕ) :
    factorOf tool (.number (.int n) : Literal Exact) = .ok (finite n) := by
  cases tool with
  | upsample => exact absurd rfl htool
  | reslice | like | resize | downsample | resizeShape | resizeVoxel =>
    simp [factorOf, Literal.toReal, Number.toReal, Scalar.ofInt?]

theorem factorOf_upsample {n : ℕ} (hn : n ≠ 0) :
    factorOf .upsample (.number (.int n) : Literal Exact) = .ok (finite (1 / n)) := by
  have hne : (n : ℝ) ≠ 0 := Nat.cast_ne_zero.2 hn
  have hone : (1 : Exact) = finite 1 := by simp
  simp only [factorOf, quotient?, Number.toScalar, ofInt_eq, Int.cast_natCast]
  rw [hone, finite_div _ hne]
  simp [hne]

theorem factorsOfRequest_natCast (f : Fin 3 → ℕ) :
    factorsOfRequest .downsample (.list [.number (.int (f 0)), .number (.int (f 1)), .number (.int (f 2))]) =
      .ok (point fun i => (f i : ℝ)) :=
  factorsOfRequest_of_pad (n := f) rfl rfl fun i => factorOf_natCast (by decide) (f i)

end Placement

namespace OversamplingPlan

section Scalars

variable {α : Type} [Scalar α]

theorem ofWholeLiterals_of_isWhole (brackets : Brackets) {p : OversamplingPlan}
    (hwhole : ∀ i, Literal.isWhole (.number (.int (p.factors.get i)) : Literal α) = true)
    (hweights : checkWeights α p = .ok p) : ofWholeLiterals brackets [.number (.int (p.factors.get 0)),
      .number (.int (p.factors.get 1)), .number (.int (p.factors.get 2))] =
        (.ok p : Except (Fault α) OversamplingPlan) := by
  have hfactors : triple (p.factors.get 0) (p.factors.get 1) (p.factors.get 2) = p.factors := triple_get p.factors
  have hplan : ofFactors [(p.factors.get 0 : ℤ), (p.factors.get 1 : ℤ), (p.factors.get 2 : ℤ)] =
      (.ok p : Except (Fault α) OversamplingPlan) := by
    simp only [ofFactors, Int.toNat_natCast, hfactors]
    exact dif_pos p.positive
  unfold ofWholeLiterals
  simp only [List.all_cons, List.all_nil, hwhole, Bool.and_self, Bool.not_true, Bool.false_eq_true, if_false]
  have hints : ([.number (.int (p.factors.get 0)), .number (.int (p.factors.get 1)),
      .number (.int (p.factors.get 2))] : List (Literal α)).mapM Literal.toInt =
        .ok [(p.factors.get 0 : ℤ), (p.factors.get 1 : ℤ), (p.factors.get 2 : ℤ)] := rfl
  rw [hints, ok_bind, hplan, ok_bind, hweights]

/-- **A number asks for as many samples** along each axis. -/
theorem ofRequest_number (n : Number α) :
    ofRequest (.number n) = ofWholeLiterals .square [.number n, .number n, .number n] := by
  have hshape : (Literal.number n : Literal α).shape? = some [] := by
    simp [Literal.shape?, Literal.levels?, Literal.mostAxes]
  unfold ofRequest
  rw [hshape]
  rfl

end Scalars

theorem ofWholeLiterals_factors (brackets : Brackets) (p : OversamplingPlan) : ofWholeLiterals brackets
    [.number (.int (p.factors.get 0)), .number (.int (p.factors.get 1)), .number (.int (p.factors.get 2))] =
      (.ok p : Except (Fault Exact) OversamplingPlan) := by
  have hwhole : ∀ n : ℕ, Literal.isWhole (.number (.int n) : Literal Exact) = true := by
    intro n
    simp [Literal.isWhole, Number.isWhole, Scalar.ofInt?]
  exact ofWholeLiterals_of_isWhole brackets (fun i => hwhole _) (checkWeights_exact p)

/-- **The factors of a plan** ask for it, as a user writes them. -/
theorem ofRequest_factors (p : OversamplingPlan) : ofRequest (.list [.number (.int (p.factors.get 0)),
    .number (.int (p.factors.get 1)), .number (.int (p.factors.get 2))]) =
      (.ok p : Except (Fault Exact) OversamplingPlan) := by
  have hshape : (Literal.list [.number (.int (p.factors.get 0)), .number (.int (p.factors.get 1)),
      .number (.int (p.factors.get 2))] : Literal Exact).shape? = some [3] := by
    simp [Literal.shape?, Literal.levels?, Literal.levelsOfItems?, Literal.mostAxes]
  unfold ofRequest
  rw [hshape]
  exact ofWholeLiterals_factors .square p

theorem ofRequest_one : ofRequest (.number (.int 1)) = (.ok single : Except (Fault Exact) OversamplingPlan) :=
  (ofRequest_number _).trans (ofWholeLiterals_factors .square single)

end OversamplingPlan

end Regrid
