import Mathlib
import Regrid.Proofs.AsReals
import Regrid.Proofs.Weights
/-!
# Corners — which voxels the linear kernel reads

A product of zero and a number that is not finite is not a number, so the linear kernel skips the corners of weight
zero.  What is left decides the estimate (`Sampler.valueAt_linear_reached`): the voxels reached by a corner of another
weight, which are fewer than eight at whole coordinates, beyond the last centre of a voxel, and along axes of size one.
-/
namespace Regrid

open Exact

namespace Exact

theorem isFinite_add (x y : Exact) : Scalar.isFinite (x + y) = (Scalar.isFinite x && Scalar.isFinite y) := by
  cases x with
  | finite x => cases y <;> rfl
  | infinity s =>
    cases y with
    | finite y => rfl
    | infinity t =>
      -- two infinities give an infinity or no number
      change isFinite (if s = t then infinity s else nan) = false
      split <;> rfl
    | nan => rfl
  | nan => rfl

theorem isFinite_finite_mul {w : ℝ} (hw : w ≠ 0) (x : Exact) : Scalar.isFinite (finite w * x) = Scalar.isFinite x := by
  cases x with
  | finite x => rfl
  | infinity s =>
    have hproduct : finite w * infinity s = infinity (turned s w) := if_neg hw
    rw [hproduct]
    rfl
  | nan => rfl

theorem isFinite_foldl_add {β : Type} (g : β → Exact) : ∀ (l : List β) (s : Exact),
    Scalar.isFinite (l.foldl (fun s x => s + g x) s) = true ↔
      Scalar.isFinite s = true ∧ ∀ x ∈ l, Scalar.isFinite (g x) = true
  | [], s => by simp
  | x :: l, s => by
    rw [List.foldl_cons, isFinite_foldl_add g l, isFinite_add, Bool.and_eq_true, List.forall_mem_cons, and_assoc]

end Exact

namespace Kernel

section Reached

variable {α : Type} [Scalar α] {size : Vector Nat 3} {p : Point α}

/-- **A voxel is reached** from a position if it is the nearest to a corner of the unit cell around the position, and
the weight of the corner is not zero. -/
def Reaches (size : Vector Nat 3) (p : Point α) (voxel : Vector Nat 3) : Prop :=
  ∃ c ∈ cube 2, (cornerWeight (distances p) c == 0) = false ∧ clampVoxel? size (corner p c) = some voxel

theorem reaches_iff (hpos : ∀ n ∈ size.toList, 0 < n) {voxel : Vector Nat 3} : Reaches size p voxel ↔
    ∃ c ∈ cube 2, (cornerWeight (distances p) c == 0) = false ∧ clamped size (corner p c) = voxel := by
  simp only [Reaches, clampVoxel?_clamped hpos, Option.some_inj]

theorem Reaches.inside (hpos : ∀ n ∈ size.toList, 0 < n) {voxel : Vector Nat 3} (h : Reaches size p voxel) :
    Shape.Inside size.toList voxel.toList := by
  obtain ⟨c, -, -, rfl⟩ := (reaches_iff hpos).1 h
  exact inside_clamped hpos _

theorem get_clamped (size : Vector Nat 3) (index : Vector Int 3) (i : Fin 3) :
    (clamped size index).get i = (clamp (size.get i) (index.get i)).toNat :=
  Vector.getElem_zipWith (f := fun (n : Nat) (i : Int) => (clamp n i).toNat) i.isLt

theorem get_cornerIndex (x : Fin 3 → ℝ) (c : Vector (Fin 2) 3) (i : Fin 3) :
    (cornerIndex x c).get i = ⌊x i⌋ + (c.get i).val := Vector.get_ofFn _ _

theorem clamp_one (i : Int) : (clamp 1 i).toNat = 0 := by
  unfold clamp
  omega

/-- **A corner has a weight** unless it is a step away along an axis whose coordinate is whole. -/
theorem cornerShare_fract_ne_zero {x : Fin 3 → ℝ} {c : Vector (Fin 2) 3} :
    cornerShare (fun i => Int.fract (x i)) c ≠ 0 ↔ ∀ i, c.get i = 1 → Int.fract (x i) ≠ 0 := by
  rw [cornerShare, Finset.prod_ne_zero_iff]
  constructor
  · intro h i hi
    have hfactor := h i (Finset.mem_univ i)
    rwa [if_pos hi] at hfactor
  · intro h i _
    split
    · next hi => exact h i hi
    · exact (sub_pos.2 (Int.fract_lt_one (x i))).ne'

theorem reaches_point (hpos : ∀ n ∈ size.toList, 0 < n) {x : Fin 3 → ℝ} {voxel : Vector Nat 3} :
    Reaches size (point x) voxel ↔
      ∃ c ∈ cube 2, (∀ i, c.get i = 1 → Int.fract (x i) ≠ 0) ∧ clamped size (cornerIndex x c) = voxel := by
  have hweight : ∀ c, (cornerWeight (distances (point x)) c == 0) = false ↔ ∀ i, c.get i = 1 → Int.fract (x i) ≠ 0 := by
    intro c
    rw [distances_point, cornerWeight_point, ← cornerShare_fract_ne_zero]
    simp
  refine (reaches_iff hpos).trans (exists_congr fun c => and_congr_right fun _ => and_congr (hweight c) ?_)
  rw [corner_point]

/-- **The corners add up** to nothing but what the voxels that are reached give. -/
theorem linearSum_congr (hpos : ∀ n ∈ size.toList, 0 < n) {g g' : Vector Nat 3 → α}
    (h : ∀ voxel, Reaches size p voxel → g voxel = g' voxel) : linearSum size g p = linearSum size g' p := by
  refine List.foldl_ext _ _ _ fun s c hc => congrArg (s + ·) ?_
  unfold cornerTerm
  cases hweight : cornerWeight (distances p) c == 0 with
  | true => rfl
  | false => rw [h _ ((reaches_iff hpos).2 ⟨c, hc, hweight, rfl⟩)]

theorem isFinite_cornerTerm (x : Fin 3 → ℝ) (c : Vector (Fin 2) 3) (y : Exact) :
    Scalar.isFinite (cornerTerm (point x) c y) = true ↔
      ((cornerWeight (distances (point x)) c == 0) = false → Scalar.isFinite y = true) := by
  rw [cornerTerm, distances_point, cornerWeight_point]
  by_cases hw : cornerShare (fun i => Int.fract (x i)) c = 0
  · simp [hw]
  · simp [hw, isFinite_finite_mul hw]

/-- **The corners add up to a finite number** exactly if all voxels that are reached are finite. -/
theorem isFinite_linearSum (hpos : ∀ n ∈ size.toList, 0 < n) (g : Vector Nat 3 → Exact) (x : Fin 3 → ℝ) :
    Scalar.isFinite (linearSum size g (point x)) = true ↔
      ∀ voxel, Reaches size (point x) voxel → Scalar.isFinite (g voxel) = true := by
  have hstart : Scalar.isFinite (0 : Exact) = true := by simp
  -- several corners may be nearest to one voxel, so the sum is taken over corners and not over voxels
  rw [linearSum, isFinite_foldl_add, and_iff_right hstart]
  simp only [isFinite_cornerTerm]
  constructor
  · intro h voxel hreaches
    obtain ⟨c, hc, hweight, rfl⟩ := (reaches_iff hpos).1 hreaches
    exact h c hc hweight
  · intro h c hc hweight
    exact h _ ((reaches_iff hpos).2 ⟨c, hc, hweight, rfl⟩)

end Reached

end Kernel

/-- **The number that a voxel stands for**, at a place in the series. -/
def Volume.numberAt {α : Type} [Scalar α] (x : Volume α) (place : List Nat) (voxel : Vector Nat 3) : α :=
  (x.asReals.cell? (voxel.toList ++ place)).getD (Scalar.nan : α)

namespace Sampler

section Linear

variable {α : Type} [Scalar α] {kernel : Kernel} {x x' : Volume α} {fallback fallback' : Option (Literal α)}
  {grid grid' : Option (Grid α)} {name name' : Literal α} {s s' : Sampler α} {place : List Nat} {p : Point α}

theorem shape_of_make (hs : make kernel x fallback grid name = .ok s) : x.shape = s.extent.toShape := by
  obtain ⟨extent, source, hextent, -, -, rfl⟩ := make_eq_ok.1 hs
  exact Extent.ofShape?_eq_some hextent

theorem spatial_pos (hs : make kernel x fallback grid name = .ok s) (hpositive : ∀ n ∈ x.shape, 0 < n) :
    ∀ n ∈ s.extent.spatial.toList, 0 < n := by
  rw [shape_of_make hs] at hpositive
  exact (List.forall_mem_append.1 hpositive).1

theorem extent_eq_of_shape (hs : make kernel x fallback grid name = .ok s)
    (hs' : make kernel x' fallback' grid' name' = .ok s') (hshape : x'.shape = x.shape) : s'.extent = s.extent := by
  have hsame := congrArg Extent.ofShape? ((shape_of_make hs').symm.trans (hshape.trans (shape_of_make hs)))
  rw [Extent.ofShape?_toShape, Extent.ofShape?_toShape] at hsame
  exact Option.some.inj hsame

theorem valid_of_extent (hextent : s'.extent = s.extent) (p : Point α) : s'.valid p = s.valid p := by
  rw [valid, valid, hextent]

theorem inside_asReals (hs : make kernel x fallback grid name = .ok s) (hplace : Shape.Inside s.extent.series place)
    {voxel : Vector Nat 3} (hvoxel : Shape.Inside s.extent.spatial.toList voxel.toList) :
    x.asReals.cells.shape.Inside (voxel.toList ++ place) := by
  have hshape : x.asReals.cells.shape = x.shape := rfl
  rw [hshape, shape_of_make hs]
  exact hvoxel.append hplace

theorem cell?_numberAt (hs : make kernel x fallback grid name = .ok s) (hplace : Shape.Inside s.extent.series place)
    {voxel : Vector Nat 3} (hvoxel : Shape.Inside s.extent.spatial.toList voxel.toList) :
    x.asReals.cell? (voxel.toList ++ place) = some (x.numberAt place voxel) := by
  obtain ⟨y, -, hy⟩ := Tensor.exists_get? (inside_asReals hs hplace hvoxel)
  have hcell : x.asReals.cell? (voxel.toList ++ place) = some y := hy
  rw [Volume.numberAt, hcell]
  rfl

/-- **A linear sampler** weighs the numbers that the voxels of its volume stand for. -/
theorem valueAt_linear (hs : make .linear x fallback grid name = .ok s) (hnumeric : x.dtype.IsNumeric)
    (hpositive : ∀ n ∈ x.shape, 0 < n) (hplace : Shape.Inside s.extent.series place) (hvalid : s.valid p = true) :
    s.valueAt (place.map fun i : Nat => .number (.int i)) p =
      .ok (.cell ⟨.real .double, Kernel.linearSum s.extent.spatial (x.numberAt place) p⟩, true) := by
  have hspatial := spatial_pos hs hpositive
  have hread : ∀ voxel, Shape.Inside s.extent.spatial.toList voxel.toList →
      (x.cell? (voxel.toList ++ place)).elim (.error .indexOutside) x.dtype.toScalar =
        (Except.ok (x.numberAt place voxel) : Except (Fault α) α) := by
    intro voxel hvoxel
    have hcell := cell?_numberAt hs hplace hvoxel
    rw [Volume.cell?_asReals] at hcell
    obtain ⟨y, hy, hscalar⟩ := Option.map_eq_some_iff.1 hcell
    rw [hy, ← hscalar]
    exact Dtype.toScalar_eq hnumeric y
  obtain ⟨extent, source, -, -, hsource, rfl⟩ := make_eq_ok.1 hs
  cases hsource
  rw [valueAt, if_pos hvalid, place_of_inside hplace, ok_bind]
  simp only [sample, Source.sample, Kernel.linearAt_eq hspatial hread]
  rfl

end Linear

/-- **The linear kernel depends on the voxels that it reaches**, and on no others.  Inside the field of view its value
is finite exactly if all voxels are that are nearest to a corner whose weight is not zero.  Other voxels may be replaced
by any values, finite or not, and even the type of the cells may change. -/
theorem valueAt_linear_reached {x : Volume Exact} {fallback : Option (Literal Exact)} {grid : Option (Grid Exact)}
    {name : Literal Exact} {s : Sampler Exact} (hs : make .linear x fallback grid name = .ok s)
    (hnumeric : x.dtype.IsNumeric) (hpositive : ∀ n ∈ x.shape, 0 < n) {place : List Nat}
    (hplace : Shape.Inside s.extent.series place) {p : Point Exact} (hvalid : s.valid p = true) :
    ∃ y : Exact, s.valueAt (place.map fun i : Nat => .number (.int i)) p = .ok (.cell ⟨.real .double, y⟩, true) ∧
      (Scalar.isFinite y = true ↔ ∀ voxel, Kernel.Reaches s.extent.spatial p voxel →
        ∃ r, x.asReals.cell? (voxel.toList ++ place) = some (finite r)) ∧
      ∀ (x' : Volume Exact) (fallback' : Option (Literal Exact)) (grid' : Option (Grid Exact)) (name' : Literal Exact)
        (s' : Sampler Exact), make .linear x' fallback' grid' name' = .ok s' → x'.dtype.IsNumeric → x'.shape = x.shape →
        (∀ voxel, Kernel.Reaches s.extent.spatial p voxel →
          x'.asReals.cell? (voxel.toList ++ place) = x.asReals.cell? (voxel.toList ++ place)) →
        s'.valueAt (place.map fun i : Nat => .number (.int i)) p = .ok (.cell ⟨.real .double, y⟩, true) := by
  have hspatial := spatial_pos hs hpositive
  have hnumber : ∀ voxel, Kernel.Reaches s.extent.spatial p voxel →
      x.asReals.cell? (voxel.toList ++ place) = some (x.numberAt place voxel) :=
    fun voxel hreaches => cell?_numberAt hs hplace (hreaches.inside hspatial)
  refine ⟨_, valueAt_linear hs hnumeric hpositive hplace hvalid, ?_, ?_⟩
  · obtain ⟨r, rfl⟩ := exists_point_of_valid hvalid
    refine (Kernel.isFinite_linearSum hspatial _ r).trans (forall₂_congr fun voxel hreaches => ?_)
    rw [hnumber voxel hreaches]
    constructor
    · intro h
      obtain ⟨r, hr⟩ := exists_finite h
      exact ⟨r, congrArg some hr⟩
    · rintro ⟨r, hr⟩
      rw [Option.some.inj hr]
      rfl
  · intro x' fallback' grid' name' s' hs' hnumeric' hshape hsame
    have hextent := extent_eq_of_shape hs hs' hshape
    have hvalid' := (valid_of_extent hextent p).trans hvalid
    rw [valueAt_linear hs' hnumeric' (hshape ▸ hpositive) (hextent ▸ hplace) hvalid', hextent]
    -- the two volumes give the same number wherever a corner of some weight is read
    have hagree : ∀ voxel, Kernel.Reaches s.extent.spatial p voxel →
        x'.numberAt place voxel = x.numberAt place voxel := by
      intro voxel hreaches
      rw [Volume.numberAt, hsame voxel hreaches]
      rfl
    rw [Kernel.linearSum_congr hspatial hagree]

/-- **A voxel beside one that is not a number**, seen from a position whose coordinate along both is whole.  Along an
axis of size one both corners are nearest to the same voxel. -/
theorem valueAt_linear_reached_beside_nan :
    let volume (other : Exact) : Volume Exact :=
      ⟨.real .double, Tensor.build [2, 1, 1] fun index => if index = [0, 0, 0] then finite 5 else other⟩
    let sampler (other : Exact) : Sampler Exact := ⟨volume other, ⟨triple 2 1 1, []⟩, .linear, none, none, .text ""⟩
    ∃ y : Exact, Scalar.isFinite y = true ∧ ∀ other,
      (sampler other).valueAt [] (point ![0, 1 / 4, 0]) = .ok (.cell ⟨.real .double, y⟩, true) := by
  intro volume sampler
  have hvalid : (sampler .nan).valid (point ![0, 1 / 4, 0]) = true := by
    refine valid_point.2 fun i => ?_
    fin_cases i <;> norm_num [sampler, triple, Vector.get]
  have hcell : ∀ other, (volume other).asReals.cell? [0, 0, 0] = some (finite 5) := by
    intro other
    have hinside : Shape.Inside [2, 1, 1] [0, 0, 0] := .cons (by decide) (.cons (by decide) (.cons (by decide) .nil))
    rw [Volume.cell?_asReals]
    exact congrArg (Option.map _) (Tensor.get?_build hinside _)
  have hreached : ∀ voxel, Kernel.Reaches (triple 2 1 1) (point ![0, 1 / 4, 0]) voxel → voxel = triple 0 0 0 := by
    intro voxel hreaches
    obtain ⟨c, -, hweight, rfl⟩ := (Kernel.reaches_point (by decide)).1 hreaches
    have hfirst : c.get 0 = 0 := by
      by_contra hne
      exact hweight 0 (Fin.eq_one_of_ne_zero _ hne) (by simp)
    have hzero : ∀ i, (Kernel.clamped (triple 2 1 1) (Kernel.cornerIndex ![0, 1 / 4, 0] c)).get i = 0 := by
      intro i
      rw [Kernel.get_clamped, Kernel.get_cornerIndex]
      fin_cases i
      · simp [hfirst, Kernel.clamp]
      · exact Kernel.clamp_one _
      · exact Kernel.clamp_one _
    rw [← triple_get (Kernel.clamped _ _), hzero, hzero, hzero]
  obtain ⟨y, hy, hfinite, hothers⟩ := @valueAt_linear_reached (volume .nan) none none .null (sampler .nan) rfl
    Dtype.isNumeric_double (by decide) [] .nil _ hvalid
  refine ⟨y, hfinite.2 fun voxel hreaches => ?_, fun other => ?_⟩
  · rw [hreached voxel hreaches]
    exact ⟨5, hcell .nan⟩
  · refine hothers (volume other) none none .null (sampler other) rfl Dtype.isNumeric_double rfl ?_
    intro voxel hreaches
    rw [hreached voxel hreaches]
    exact (hcell other).trans (hcell .nan).symm

end Sampler

end Regrid
