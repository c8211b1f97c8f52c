import Mathlib
import Regrid.Proofs.Corners
/-!
# Trilinear — the function that the linear kernel computes

Of finite voxels the linear kernel gives the clamped trilinear interpolant (`Sampler.valueAt_linear_trilinear`).  Its
laws determine it (`Kernel.IsTrilinear.unique`): it is the voxel at each centre, straight along each axis between two
neighbouring integers, and outside the box of the centres what it is at the nearest position inside.
-/
namespace Regrid

open Exact

/-- **The values at two neighbouring integers**, joined by a straight line. -/
noncomputable def lerp (h : ℤ → ℝ) (x : ℝ) : ℝ := (1 - Int.fract x) * h ⌊x⌋ + Int.fract x * h (⌊x⌋ + 1)

section Lerp

variable {h : ℤ → ℝ} {m : ℤ} {x : ℝ}

@[simp] theorem lerp_intCast (h : ℤ → ℝ) (m : ℤ) : lerp h m = h m := by
  simp [lerp]

@[simp] theorem lerp_natCast (h : ℤ → ℝ) (m : ℕ) : lerp h m = h m := by
  simp [lerp]

/-- **A cell is closed**: its line passes through the values at both ends. -/
theorem lerp_cell (hlow : m ≤ x) (hhigh : x ≤ m + 1) : lerp h x = h m + (h (m + 1) - h m) * (x - m) := by
  obtain hlt | rfl := hhigh.lt_or_eq
  · have hfloor : ⌊x⌋ = m := Int.floor_eq_iff.2 ⟨hlow, hlt⟩
    rw [lerp, Int.fract, hfloor]
    ring
  · have hcast : (m : ℝ) + 1 = ((m + 1 : ℤ) : ℝ) := by push_cast; rfl
    rw [hcast, lerp_intCast]
    push_cast
    ring

/-- **Two neighbouring cells** in one formula, without a case for the integer that they share. -/
theorem lerp_cells (hlow : m - 1 ≤ x) (hhigh : x ≤ m + 1) :
    lerp h x = h m + (h (m + 1) - h m) * max (x - m) 0 + (h m - h (m - 1)) * min (x - m) 0 := by
  obtain hleft | hright := le_total x m
  · have hcell : lerp h x = h (m - 1) + (h (m - 1 + 1) - h (m - 1)) * (x - ((m - 1 : ℤ) : ℝ)) := by
      refine lerp_cell ?_ ?_ <;> push_cast <;> linarith
    rw [hcell, sub_add_cancel, max_eq_right (sub_nonpos.2 hleft), min_eq_left (sub_nonpos.2 hleft)]
    push_cast
    ring
  · rw [lerp_cell hright hhigh, max_eq_left (sub_nonneg.2 hright), min_eq_right (sub_nonneg.2 hright)]
    ring

/-- **A function is straight on a cell** if it is affine between the two integers, both included. -/
def StraightOn (k : ℤ) (u : ℝ → ℝ) : Prop := ∃ a b : ℝ, ∀ t ∈ Set.Icc (k : ℝ) (k + 1), u t = a + b * t

theorem straightOn_lerp (k : ℤ) (h : ℤ → ℝ) : StraightOn k (lerp h) := by
  refine ⟨h k - (h (k + 1) - h k) * k, h (k + 1) - h k, fun t ht => ?_⟩
  rw [lerp_cell ht.1 ht.2]
  ring

theorem StraightOn.lerp {k : ℤ} {u : ℤ → ℝ → ℝ} (hu : ∀ i, StraightOn k (u i)) (y : ℝ) :
    StraightOn k fun t => lerp (fun i => u i t) y := by
  choose a b hab using hu
  refine ⟨Regrid.lerp a y, Regrid.lerp b y, fun t ht => ?_⟩
  simp only [fun i => hab i t ht]
  unfold Regrid.lerp
  ring

theorem StraightOn.eq_of_ends {k : ℤ} {u u' : ℝ → ℝ} (hu : StraightOn k u) (hu' : StraightOn k u') (hstart : u k = u' k)
    (hend : u (k + 1) = u' (k + 1)) {t : ℝ} (ht : t ∈ Set.Icc (k : ℝ) (k + 1)) : u t = u' t := by
  obtain ⟨a, b, hab⟩ := hu
  obtain ⟨a', b', hab'⟩ := hu'
  have hle : (k : ℝ) ≤ k + 1 := by linarith
  rw [hab _ ⟨le_rfl, hle⟩, hab' _ ⟨le_rfl, hle⟩] at hstart
  rw [hab _ ⟨hle, le_rfl⟩, hab' _ ⟨hle, le_rfl⟩] at hend
  obtain rfl : b = b' := by linarith
  rw [hab t ht, hab' t ht]
  linarith

theorem lerp_const (hfirst : h ⌊x⌋ = h m) (hsecond : h (⌊x⌋ + 1) = h m) : lerp h x = h m := by
  rw [lerp, hfirst, hsecond]
  ring

/-- **The values along an axis**, continued beyond both ends by the outermost ones. -/
def bordered (n : ℕ) (h : ℕ → ℝ) (i : ℤ) : ℝ := h (Kernel.clamp n i).toNat

theorem bordered_natCast {n m : ℕ} (hm : m < n) (h : ℕ → ℝ) : bordered n h m = h m := by
  have hclamp : (Kernel.clamp n m).toNat = m := by
    unfold Kernel.clamp
    omega
  rw [bordered, hclamp]

theorem StraightOn.lerp_bordered {k : ℤ} {u : ℕ → ℝ → ℝ} (hu : ∀ i, StraightOn k (u i)) (n : ℕ) (y : ℝ) :
    StraightOn k fun t => Regrid.lerp (bordered n fun i => u i t) y := .lerp (fun _ => hu _) y

/-- **Beyond both ends of an axis** nothing changes. -/
theorem lerp_bordered {n : ℕ} (hn : 0 < n) (h : ℕ → ℝ) (x : ℝ) :
    lerp (bordered n h) (min (max x 0) (n - 1)) = lerp (bordered n h) x := by
  have hlast : (0 : ℝ) ≤ n - 1 := sub_nonneg.2 (by exact_mod_cast hn)
  have hcast : (n : ℝ) - 1 = ((n - 1 : ℤ) : ℝ) := by push_cast; rfl
  have hsame : ∀ i j, Kernel.clamp n i = Kernel.clamp n j → bordered n h i = bordered n h j := by
    intro i j hij
    rw [bordered, bordered, hij]
  unfold Kernel.clamp at hsame
  obtain hneg | hnonneg := lt_or_ge x 0
  · have hfloor : ⌊x⌋ < 0 := Int.floor_lt.2 (by exact_mod_cast hneg)
    rw [max_eq_right hneg.le, min_eq_left hlast, ← Int.cast_zero (R := ℝ), lerp_intCast]
    symm
    refine lerp_const (hsame _ _ ?_) (hsame _ _ ?_) <;> omega
  rw [max_eq_left hnonneg]
  obtain hinside | hbeyond := le_total x (n - 1)
  · rw [min_eq_left hinside]
  · have hfloor : (n : ℤ) - 1 ≤ ⌊x⌋ := Int.le_floor.2 (hcast ▸ hbeyond)
    rw [min_eq_right hbeyond, hcast, lerp_intCast]
    symm
    refine lerp_const (hsame _ _ ?_) (hsame _ _ ?_) <;> omega

/-- **The line through values that change continuously** depends continuously on its argument. -/
theorem continuous_lerp {Z : Type} [TopologicalSpace Z] {h : Z → ℤ → ℝ} {u : Z → ℝ}
    (hh : ∀ i, Continuous fun z => h z i) (hu : Continuous u) : Continuous fun z => lerp (h z) (u z) := by
  refine continuous_iff_continuousAt.2 fun z => ?_
  let m := ⌊u z⌋
  -- around the argument the line lies in the cells on both sides of an integer
  have hnear : ∀ᶠ z' in nhds z, u z' ∈ Set.Ioo ((m : ℝ) - 1) (m + 1) := by
    refine hu.continuousAt.eventually_mem (Ioo_mem_nhds ?_ (Int.lt_floor_add_one _))
    have hle : (m : ℝ) ≤ u z := Int.floor_le _
    linarith
  have hcells : (fun z' => lerp (h z') (u z')) =ᶠ[nhds z] fun z' =>
      h z' m + (h z' (m + 1) - h z' m) * max (u z' - m) 0 + (h z' m - h z' (m - 1)) * min (u z' - m) 0 :=
    hnear.mono fun z' hz' => lerp_cells hz'.1.le hz'.2.le
  refine ContinuousAt.congr (Continuous.continuousAt ?_) hcells.symm
  have h0 := hh m
  have h1 := hh (m + 1)
  have h2 := hh (m - 1)
  fun_prop

end Lerp

namespace Kernel

/-- **The position nearest** to a given one in the box of the centres of voxels. -/
noncomputable def clampedPosition (size : Vector Nat 3) (x : Fin 3 → ℝ) : Fin 3 → ℝ :=
  fun i => min (max (x i) 0) (size.get i - 1)

/-- **The clamped trilinear interpolant** of the values of voxels, by its laws. -/
structure IsTrilinear (size : Vector Nat 3) (f : Vector Nat 3 → ℝ) (g : (Fin 3 → ℝ) → ℝ) : Prop where
  /-- At the centre of a voxel it is the voxel. -/
  centre : ∀ voxel, Shape.Inside size.toList voxel.toList → g (fun i => voxel.get i) = f voxel
  /-- It is straight on each cell of an axis, while the other coordinates stay. -/
  straight : ∀ (x : Fin 3 → ℝ) (axis : Fin 3) (k : ℤ), StraightOn k fun t => g (Function.update x axis t)
  /-- It does not change on the way to the nearest position in the box of the centres. -/
  clamped : ∀ x, g x = g (clampedPosition size x)

section Trilinear

variable {size : Vector Nat 3} {f : Vector Nat 3 → ℝ} {g g' : (Fin 3 → ℝ) → ℝ}

theorem sub_one_nonneg (hpos : ∀ n ∈ size.toList, 0 < n) (i : Fin 3) : (0 : ℝ) ≤ size.get i - 1 := by
  have hcast : (1 : ℝ) ≤ size.get i := by exact_mod_cast forall_mem_toList.1 hpos i
  linarith

namespace IsTrilinear

/-- **Two interpolants agree along an axis** of the box if they do at the integers. -/
theorem eq_of_integers (hg : IsTrilinear size f g) (axis : Fin 3) (hg' : IsTrilinear size f g') {x : Fin 3 → ℝ}
    (hlow : 0 ≤ x axis) (hhigh : x axis ≤ size.get axis - 1)
    (h : ∀ n < size.get axis, g (Function.update x axis n) = g' (Function.update x axis n)) : g x = g' x := by
  let k := ⌊x axis⌋₊
  have hfloor : (k : ℝ) ≤ x axis := Nat.floor_le hlow
  have hlt : x axis < k + 1 := Nat.lt_floor_add_one _
  have hfirst : k < size.get axis := by
    have hcast : (k : ℝ) < size.get axis := by linarith
    exact_mod_cast hcast
  obtain heq | hne := hfloor.eq_or_lt
  · simpa [heq] using h k hfirst
  have hsecond : k + 1 < size.get axis := by
    have hcast : ((k + 1 : ℕ) : ℝ) < size.get axis := by
      push_cast
      linarith
    exact_mod_cast hcast
  have hx := (hg.straight x axis k).eq_of_ends (hg'.straight x axis k) (h k hfirst)
    (by exact_mod_cast h (k + 1) hsecond) ⟨hfloor, hlt.le⟩
  rwa [Function.update_eq_self] at hx

/-- **The laws determine the interpolant**: there is only one. -/
theorem unique (hpos : ∀ n ∈ size.toList, 0 < n) (hg : IsTrilinear size f g) (hg' : IsTrilinear size f g') :
    g = g' := by
  have hbox : ∀ x : Fin 3 → ℝ, (∀ i, 0 ≤ x i) → (∀ i, x i ≤ size.get i - 1) → g x = g' x := by
    intro x hlow hhigh
    -- along one axis after the other the coordinate is moved to the integers around it
    refine hg.eq_of_integers 0 hg' (hlow 0) (hhigh 0) fun n0 h0 => ?_
    refine hg.eq_of_integers 1 hg' (by simpa using hlow 1) (by simpa using hhigh 1) fun n1 h1 => ?_
    refine hg.eq_of_integers 2 hg' (by simpa using hlow 2) (by simpa using hhigh 2) fun n2 h2 => ?_
    have hcentre : Function.update (Function.update (Function.update x 0 (n0 : ℝ)) 1 (n1 : ℝ)) 2 (n2 : ℝ) =
        fun i => ((triple n0 n1 n2).get i : ℝ) := by
      funext i
      fin_cases i <;> simp [triple, Vector.get]
    have hinside : Shape.Inside size.toList (triple n0 n1 n2).toList := by
      refine Shape.inside_iff_get.2 fun i => ?_
      fin_cases i
      exacts [h0, h1, h2]
    rw [hcentre, hg.centre _ hinside, hg'.centre _ hinside]
  funext x
  rw [hg.clamped, hg'.clamped]
  refine hbox _ (fun i => le_min (le_max_right _ _) (sub_one_nonneg hpos i)) fun i => min_le_right _ _

end IsTrilinear

/-- **Three nested lines**, one along each axis. -/
noncomputable def trilinear (size : Vector Nat 3) (f : Vector Nat 3 → ℝ) (x : Fin 3 → ℝ) : ℝ :=
  lerp (bordered (size.get 0) fun i => lerp (bordered (size.get 1) fun j =>
    lerp (bordered (size.get 2) fun k => f (triple i j k)) (x 2)) (x 1)) (x 0)

theorem clamped_triple (size : Vector Nat 3) (i j k : ℤ) : clamped size (triple i j k) =
    triple (clamp (size.get 0) i).toNat (clamp (size.get 1) j).toNat (clamp (size.get 2) k).toNat := by
  rw [← triple_get (clamped size (triple i j k)), get_clamped, get_clamped, get_clamped]
  rfl

theorem linearMean_of (hpos : ∀ n ∈ size.toList, 0 < n) (f : Vector Nat 3 → ℝ) (x : Fin 3 → ℝ) :
    (linearMean hpos x).of f = trilinear size f x := by
  have hcube : cube 2 = [triple 0 0 0, triple 0 0 1, triple 0 1 0, triple 0 1 1, triple 1 0 0, triple 1 0 1,
    triple 1 1 0, triple 1 1 1] := rfl
  have hindex : ∀ a b c : Fin 2,
      cornerIndex x (triple a b c) = triple (⌊x 0⌋ + a.val) (⌊x 1⌋ + b.val) (⌊x 2⌋ + c.val) := by
    intro a b c
    rw [← triple_get (cornerIndex x _), get_cornerIndex, get_cornerIndex, get_cornerIndex]
    rfl
  have hshare : ∀ a b c : Fin 2, cornerShare (fun i => Int.fract (x i)) (triple a b c) =
      (if a = 1 then Int.fract (x 0) else 1 - Int.fract (x 0)) *
        (if b = 1 then Int.fract (x 1) else 1 - Int.fract (x 1)) *
          if c = 1 then Int.fract (x 2) else 1 - Int.fract (x 2) := by
    intro a b c
    rw [cornerShare, Fin.prod_univ_three]
    rfl
  simp only [VoxelMean.of, linearMean, hcube, List.map_cons, List.map_nil, List.sum_cons, List.sum_nil, hindex, hshare,
    clamped_triple]
  unfold trilinear lerp bordered
  simp
  ring

theorem isTrilinear_trilinear (hpos : ∀ n ∈ size.toList, 0 < n) (f : Vector Nat 3 → ℝ) :
    IsTrilinear size f (trilinear size f) where
  centre := by
    intro voxel hvoxel
    have hlt := Shape.inside_iff_get.1 hvoxel
    simp only [trilinear, lerp_natCast, bordered_natCast (hlt _)]
    rw [triple_get]
  straight := by
    intro x axis k
    unfold trilinear
    obtain rfl | rfl | rfl : axis = 0 ∨ axis = 1 ∨ axis = 2 := by fin_cases axis <;> simp
    all_goals simp only [Function.update_self, Function.update_of_ne, ne_eq, Fin.reduceEq, not_false_eq_true]
    -- the coordinate that moves is the argument of one of the three lines, and the other two stay
    · exact straightOn_lerp k _
    · exact .lerp_bordered (fun i => straightOn_lerp k _) _ _
    · exact .lerp_bordered (fun i => .lerp_bordered (fun j => straightOn_lerp k _) _ _) _ _
  clamped := by
    intro x
    have hsize := forall_mem_toList.1 hpos
    simp only [trilinear, clampedPosition, lerp_bordered (hsize _)]

theorem continuous_trilinear (size : Vector Nat 3) (f : Vector Nat 3 → ℝ) : Continuous (trilinear size f) := by
  refine continuous_lerp (fun i => continuous_lerp (fun j => continuous_lerp (fun k => ?_) ?_) ?_) ?_ <;> fun_prop

end Trilinear

end Kernel

namespace Sampler

variable {x : Volume Exact} {fallback : Option (Literal Exact)} {grid : Option (Grid Exact)} {name : Literal Exact}
  {s : Sampler Exact} {place : List Nat}

/-- **The linear kernel is the clamped trilinear interpolant** of a volume of finite numbers.  The field of view has a
function that is the voxel at each centre, is straight on each closed cell of an axis, and does not change on the way to
the box of the centres; it is continuous, there is no other, and inside the field of view a linear sampler gives its
values. -/
theorem valueAt_linear_trilinear (hs : make .linear x fallback grid name = .ok s) (hnumeric : x.dtype.IsNumeric)
    (hpositive : ∀ n ∈ x.shape, 0 < n) (hfinite : Tensor.Finite x.asReals.cells)
    (hplace : Shape.Inside s.extent.series place) :
    ∃ g : (Fin 3 → ℝ) → ℝ,
      Kernel.IsTrilinear s.extent.spatial (fun voxel => Tensor.realAt x.asReals.cells (voxel.toList ++ place)) g ∧
      Continuous g ∧
      (∀ g', Kernel.IsTrilinear s.extent.spatial
        (fun voxel => Tensor.realAt x.asReals.cells (voxel.toList ++ place)) g' → g' = g) ∧
      ∀ p, s.valid p = true → ∃ y, p = point y ∧
        s.valueAt (place.map fun i : Nat => .number (.int i)) p = .ok (.cell ⟨.real .double, finite (g y)⟩, true) := by
  have hspatial := spatial_pos hs hpositive
  have hnumber : ∀ voxel : Vector Nat 3, Shape.Inside s.extent.spatial.toList voxel.toList →
      x.numberAt place voxel = finite (Tensor.realAt x.asReals.cells (voxel.toList ++ place)) := by
    intro voxel hvoxel
    have hcell : x.asReals.cell? (voxel.toList ++ place) = some (finite _) :=
      hfinite.get?_eq (inside_asReals hs hplace hvoxel)
    rw [Volume.numberAt, hcell]
    rfl
  have hg := Kernel.isTrilinear_trilinear hspatial
    fun voxel => Tensor.realAt x.asReals.cells (voxel.toList ++ place)
  refine ⟨_, hg, Kernel.continuous_trilinear _ _, fun g' hg' => hg'.unique hspatial hg, fun p hvalid => ?_⟩
  obtain ⟨y, rfl⟩ := exists_point_of_valid hvalid
  refine ⟨y, rfl, ?_⟩
  rw [valueAt_linear hs hnumeric hpositive hplace hvalid, Kernel.linearSum_point hspatial hnumber, Kernel.linearMean_of]

/-- **Beyond the centres** of two voxels the kernel gives the last one: along the first axis both corners are nearest
to it, and the other two axes have a single voxel. -/
theorem valueAt_linear_trilinear_beyond_centres :
    let cells : Tensor Exact := Tensor.build [2, 1, 1] fun index => finite (if index = [1, 0, 0] then 5 else 3)
    let s : Sampler Exact := ⟨⟨.real .double, cells⟩, ⟨triple 2 1 1, []⟩, .linear, none, none, .text ""⟩
    s.valueAt [] (point ![3 / 2, -(1 / 2), 1 / 4]) = .ok (.cell ⟨.real .double, finite 5⟩, true) := by
  intro cells s
  have hvalid : s.valid (point ![3 / 2, -(1 / 2), 1 / 4]) = true := by
    refine valid_point.2 fun i => ?_
    fin_cases i <;> norm_num [s, triple, Vector.get]
  let volume : Volume Exact := ⟨.real .double, cells⟩
  have hreals : volume.asReals.cells = cells := Tensor.map_scalar_double cells
  have hfinite : Tensor.Finite volume.asReals.cells := hreals ▸ Tensor.finite_build _ _
  obtain ⟨g, hg, -, -, hvalue⟩ := @valueAt_linear_trilinear volume none none .null s [] rfl Dtype.isNumeric_double
    (by decide) hfinite .nil
  obtain ⟨y, hy, hread⟩ := hvalue _ hvalid
  obtain rfl := point_injective hy
  have hinside : Shape.Inside [2, 1, 1] [1, 0, 0] := .cons (by decide) (.cons (by decide) (.cons (by decide) .nil))
  let last : Vector Nat 3 := triple 1 0 0
  have hlast : g (fun i => last.get i) = 5 := (hg.centre last hinside).trans (hreals ▸ Tensor.realAt_build hinside)
  have hclamped : Kernel.clampedPosition (triple 2 1 1) ![3 / 2, -(1 / 2), 1 / 4] = fun i => (last.get i : ℝ) := by
    funext i
    fin_cases i <;> norm_num [Kernel.clampedPosition, last, triple, Vector.get]
  rw [← hlast, ← hclamped, ← hg.clamped]
  exact hread

end Sampler

end Regrid
