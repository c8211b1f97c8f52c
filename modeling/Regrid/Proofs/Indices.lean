import Mathlib
import Regrid.Proofs.Corners
import Regrid.Proofs.PartViews
/-!
# Indices — where a volume is read

At every position of an array, also at one that is not finite or far away, a kernel reads its volume at indices inside
it and nowhere else.  The nearest kernel reads the voxel whose centre is at most half a voxel away, and the last one if
there are two (`Sampler.valuesAt_inside`).
-/
namespace Regrid

namespace Tensor

section Action

variable {β γ ε : Type}

theorem list_forM_congr {f g : β → Except ε Unit} {l : List β} (h : ∀ x ∈ l, f x = g x) : l.forM f = l.forM g := by
  induction l with
  | nil => rfl
  | cons x l ih => rw [List.forM, List.forM, h x List.mem_cons_self, ih fun y hy => h y (List.mem_cons_of_mem x hy)]

theorem mapM_congr {f g : β → Except ε γ} {t : Tensor β} (h : ∀ x ∈ t.toList, f x = g x) : t.mapM f = t.mapM g := by
  have hcells : t.cells.mapM f = t.cells.mapM g := by
    refine eq_of_map_toList ?_
    rw [toList_mapM, toList_mapM]
    exact list_mapM_congr h
  rw [mapM, mapM, hcells]

theorem toList_map (f : β → γ) (t : Tensor β) : (t.map f).toList = t.toList.map f := Vector.toList_map

end Action

end Tensor

namespace Kernel

section Bounded

variable {size : Vector Nat 3}

/-- **Indices bounded by the sizes of a block.** -/
def bounded (size : Vector Nat 3) (index : Vector Int 3) : Vector Int 3 :=
  Vector.zipWith (fun (n : Nat) (i : Int) => clamp n i) size index

theorem get_bounded (size : Vector Nat 3) (index : Vector Int 3) (axis : Fin 3) :
    (bounded size index).get axis = clamp (size.get axis) (index.get axis) :=
  Vector.getElem_zipWith (f := fun (n : Nat) (i : Int) => clamp n i) axis.isLt

theorem toNat_bounded (size : Vector Nat 3) (index : Vector Int 3) :
    (bounded size index).map Int.toNat = clamped size index := Vector.map_zipWith

theorem clamp_between {n : Nat} (hn : 0 < n) (i : Int) : 0 ≤ clamp n i ∧ clamp n i ≤ n - 1 := by
  unfold clamp
  omega

end Bounded

section Faults

variable {β γ ε : Type}

theorem foldlM_congr {f g : γ → β → Except ε γ} : ∀ {l : List β} (s : γ), (∀ s, ∀ x ∈ l, f s x = g s x) →
    l.foldlM f s = l.foldlM g s
  | [], _, _ => rfl
  | x :: l, s, h => by
    rw [List.foldlM_cons, List.foldlM_cons, h s x List.mem_cons_self]
    exact congrArg _ (funext fun t => foldlM_congr t fun u y hy => h u y (List.mem_cons_of_mem x hy))

/-- **A fold that fails** does so at one of its steps. -/
theorem exists_of_foldlM_error {f : γ → β → Except ε γ} {e : ε} : ∀ {l : List β} {s : γ},
    l.foldlM f s = .error e → ∃ s, ∃ x ∈ l, f s x = .error e
  | [], _, h => by cases h
  | x :: l, s, h => by
    rw [List.foldlM_cons] at h
    cases hstep : f s x with
    | error e' =>
      rw [hstep, error_bind] at h
      exact ⟨s, x, List.mem_cons_self, hstep.trans h⟩
    | ok t =>
      rw [hstep, ok_bind] at h
      obtain ⟨u, y, hy, hfault⟩ := exists_of_foldlM_error h
      exact ⟨u, y, List.mem_cons_of_mem x hy, hfault⟩

end Faults

section Corners

variable {α : Type} [Scalar α] {size : Vector Nat 3} {read read' : Vector Nat 3 → Except (Fault α) α} {p : Point α}

/-- **The linear kernel goes through the corners**, each of which is read from the voxel that is nearest. -/
theorem linearAt_steps (hpos : ∀ n ∈ size.toList, 0 < n) : linearAt size read p =
    (cube 2).foldlM (fun s c => do
      let x ← read (clamped size (corner p c))
      return s + cornerTerm p c x) 0 := by
  unfold linearAt
  refine foldlM_congr _ fun s c _ => ?_
  have hvoxel : clampVoxel? size (Vector.zipWith (fun i (k : Fin 2) => i + k.val) (p.map Scalar.floor) c) =
      some (clamped size (corner p c)) := clampVoxel?_clamped hpos _
  rw [hvoxel]
  rfl

theorem linearAt_congr (hpos : ∀ n ∈ size.toList, 0 < n)
    (h : ∀ c ∈ cube 2, read' (clamped size (corner p c)) = read (clamped size (corner p c))) :
    linearAt size read' p = linearAt size read p := by
  rw [linearAt_steps hpos, linearAt_steps hpos]
  exact foldlM_congr _ fun s c hc => by rw [h c hc]

theorem exists_of_linearAt_error (hpos : ∀ n ∈ size.toList, 0 < n) {f : Fault α} (h : linearAt size read p = .error f) :
    ∃ c ∈ cube 2, read (clamped size (corner p c)) = .error f := by
  rw [linearAt_steps hpos] at h
  obtain ⟨s, c, hc, hstep⟩ := exists_of_foldlM_error h
  refine ⟨c, hc, ?_⟩
  cases hread : read (clamped size (corner p c)) with
  | error f' =>
    rw [hread] at hstep
    exact hstep
  | ok y =>
    rw [hread] at hstep
    cases hstep

end Corners

end Kernel

namespace Source

variable {α : Type} [Scalar α]

/-- **The indices that a kernel computes for a position**: those of the voxel around it, or of the corners of its unit
cell.  They may lie outside the volume.  The cubic kernel reads coefficients and no voxels. -/
def computed (p : Point α) : Source α → List (Vector Int 3)
  | nearest => [p.map fun x => Scalar.floor (x + Scalar.half)]
  | linear => (Kernel.cube 2).map (Kernel.corner p)
  | cubic _ => []

theorem sample_nearest {size : Vector Nat 3} (hpos : ∀ n ∈ size.toList, 0 < n) (x : Volume α) (place : List Nat)
    (p : Point α) : nearest.sample x size place p =
      (x.cell? ((Kernel.clamped size (p.map fun x => Scalar.floor (x + Scalar.half))).toList ++ place)).elim
        (.error .indexOutside) .ok := by
  simp only [sample, Kernel.nearestVoxel?, Kernel.clampVoxel?_clamped hpos]

end Source

namespace Sampler

/-- **The cell with spatial indices** at a place in the series. -/
def cellAt {α : Type} (s : Sampler α) (place : List Nat) (index : Vector Int 3) : Option (s.volume.dtype.Value α) :=
  s.volume.cell? ((index.map Int.toNat).toList ++ place)

theorem cellAt_bounded {α : Type} (s : Sampler α) (place : List Nat) (index : Vector Int 3) :
    s.cellAt place (Kernel.bounded s.extent.spatial index) =
      s.volume.cell? ((Kernel.clamped s.extent.spatial index).toList ++ place) := by
  rw [cellAt, Kernel.toNat_bounded]

theorem exists_cellAt_bounded {α : Type} {s : Sampler α} {place : List Nat} (hshape : s.volume.shape = s.extent.toShape)
    (hpos : ∀ n ∈ s.extent.spatial.toList, 0 < n) (hplace : Shape.Inside s.extent.series place) (i : Vector Int 3) :
    ∃ c, s.cellAt place (Kernel.bounded s.extent.spatial i) = some c := by
  have hinside : s.volume.cells.shape.Inside ((Kernel.clamped s.extent.spatial i).toList ++ place) := by
    rw [show s.volume.cells.shape = s.extent.toShape from hshape]
    exact (Kernel.inside_clamped hpos i).append hplace
  obtain ⟨c, -, hc⟩ := Tensor.exists_get? hinside
  exact ⟨c, (s.cellAt_bounded place i).trans hc⟩

section Used

variable {α : Type} [Scalar α]

/-- **The position that is read** in an array for one of its positions: the first voxel stands for one that is not
valid. -/
def readPosition (s : Sampler α) (p : Point α) : Point α := if s.valid p then p else Vector.replicate 3 0

/-- **The indices at which a volume is read** for a position of an array. -/
def used (s : Sampler α) (p : Point α) : List (Vector Int 3) :=
  (s.source.computed (s.readPosition p)).map (Kernel.bounded s.extent.spatial)

/-- **A sampler reads inside its volume** at the positions of an array. -/
structure ReadsInside (s : Sampler α) (series : List (Literal α)) (place : List Nat) (points : Points α) : Prop where
  /-- The indices that are used are those of voxels. -/
  index : ∀ p ∈ points.toList, ∀ index ∈ s.used p, ∀ axis,
    0 ≤ index.get axis ∧ index.get axis ≤ s.extent.spatial.get axis - 1
  /-- There is a cell at each of them. -/
  cell : ∀ p ∈ points.toList, ∀ index ∈ s.used p, ∃ c, s.cellAt place index = some c
  /-- A sample is missing only for a cell that is no number. -/
  fault : ∀ p ∈ points.toList, ∀ f, s.sample place (s.readPosition p) = .error f →
    ∃ index ∈ s.used p, ∃ c, s.cellAt place index = some c ∧ s.volume.dtype.toScalar c = .error f
  /-- No other cell matters. -/
  only : ∀ cells : Tensor (s.volume.dtype.Value α),
    (∀ p ∈ points.toList, ∀ index ∈ s.used p,
      cells.get? ((index.map Int.toNat).toList ++ place) = s.cellAt place index) →
    ({ s with volume := ⟨s.volume.dtype, cells⟩ } : Sampler α).valuesAt series points = s.valuesAt series points

variable {s : Sampler α} {series : List (Literal α)} {place : List Nat} {index : Vector Int 3} {p : Point α}

theorem get_of_mem_used (hpos : ∀ n ∈ s.extent.spatial.toList, 0 < n) (hindex : index ∈ s.used p) (axis : Fin 3) :
    0 ≤ index.get axis ∧ index.get axis ≤ s.extent.spatial.get axis - 1 := by
  obtain ⟨i, -, rfl⟩ := List.mem_map.1 hindex
  rw [Kernel.get_bounded]
  exact Kernel.clamp_between (forall_mem_toList.1 hpos axis) _

theorem valuesAt_of_place (hseries : s.place series = .ok place) (hplace : Shape.Inside s.extent.series place)
    (points : Points α) : s.valuesAt series points = valuesOf (s.readings place) s.valid s.beside points := by
  rw [← valuesAt_eq hplace]
  unfold valuesAt
  rw [hseries, place_of_inside hplace]

theorem valuesOf_congr {d : Dtype} {read read' : Point α → Except (Fault α) (d.Value α)} {valid : Point α → Bool}
    {beside : Dtype → Except (Fault α) (Dtype × Volume α)} {points : Points α}
    (h : ∀ p ∈ points.toList, read' (if valid p then p else Vector.replicate 3 0) =
      read (if valid p then p else Vector.replicate 3 0)) :
    valuesOf ⟨d, read'⟩ valid beside points = valuesOf ⟨d, read⟩ valid beside points := by
  let safe (p : Point α) : Point α := if valid p then p else Vector.replicate 3 0
  have hread : ∀ q ∈ (points.map safe).toList, read' q = read q := by
    intro q hq
    rw [Tensor.toList_map] at hq
    obtain ⟨p, hp, rfl⟩ := List.mem_map.1 hq
    exact h p hp
  have hvalues : (points.map safe).mapM read' = (points.map safe).mapM read := Tensor.mapM_congr hread
  unfold valuesOf
  refine congrArg₂ (· >>= ·) (Tensor.list_forM_congr fun q hq => ?_) (funext fun _ => ?_)
  · simp only [hread q hq]
  · exact congrArg (· >>= _) hvalues

theorem valuesOf_ok {d : Dtype} (value : Point α → d.Value α) (valid : Point α → Bool)
    (beside : Dtype → Except (Fault α) (Dtype × Volume α)) (points : Points α) :
    valuesOf ⟨d, fun p => .ok (value p)⟩ valid beside points = (do
      let (e, outside) ← beside d
      Volume.choose e (points.map valid)
        ⟨d, points.map fun p => value (if valid p then p else Vector.replicate 3 0)⟩ outside) := by
  let safe (p : Point α) : Point α := if valid p then p else Vector.replicate 3 0
  have hvalues : ((points.map safe).mapM fun p => (.ok (value p) : Except (Fault α) (d.Value α))) =
      .ok ((points.map safe).map value) := Tensor.mapM_eq_map (fun _ => rfl) _
  have hmap : (points.map safe).map value = points.map fun p => value (safe p) := by
    rw [Tensor.map, Tensor.map, Tensor.map, Vector.map_map]
    rfl
  rw [← hmap]
  unfold valuesOf
  refine (congrArg₂ (· >>= ·) (Tensor.list_forM_eq_pure (m := Except (Fault α)) fun _ _ => rfl) rfl).trans ?_
  rw [pure_bind, hvalues, ok_bind]

/-- **A kernel other than the cubic one reads inside the volume**, whatever the positions are. -/
theorem readsInside (hsource : ∀ coefficients, s.source ≠ .cubic coefficients)
    (hshape : s.volume.shape = s.extent.toShape) (hpos : ∀ n ∈ s.extent.spatial.toList, 0 < n)
    (hseries : s.place series = .ok place) (hplace : Shape.Inside s.extent.series place) (points : Points α) :
    s.ReadsInside series place points where
  index p _ index hindex := get_of_mem_used hpos hindex
  cell p _ index hindex := by
    obtain ⟨i, -, rfl⟩ := List.mem_map.1 hindex
    exact exists_cellAt_bounded hshape hpos hplace i
  fault p _ f hf := by
    have hcell := exists_cellAt_bounded hshape hpos hplace
    simp only [cellAt_bounded] at hcell
    obtain ⟨volume, extent, source, fallback, grid, name⟩ := s
    cases source with
    | nearest =>
      obtain ⟨c, hc⟩ := hcell _
      rw [sample, Source.sample_nearest hpos, hc] at hf
      cases hf
    | linear =>
      obtain ⟨corner, hcorner, hread⟩ := Kernel.exists_of_linearAt_error hpos hf
      obtain ⟨c, hc⟩ := hcell (Kernel.corner (readPosition _ p) corner)
      rw [hc] at hread
      exact ⟨_, List.mem_map_of_mem (List.mem_map_of_mem hcorner), c, (cellAt_bounded _ place _).trans hc, hread⟩
    | cubic coefficients => exact absurd rfl (hsource coefficients)
  only cells h := by
    obtain ⟨volume, extent, source, fallback, grid, name⟩ := s
    rw [valuesAt_of_place hseries hplace,
      valuesAt_of_place (s := ⟨⟨volume.dtype, cells⟩, extent, source, fallback, grid, name⟩) hseries hplace]
    cases source with
    | nearest =>
      refine valuesOf_congr fun p hp => ?_
      have hcell := h p hp _ (List.mem_map_of_mem List.mem_cons_self)
      rw [cellAt_bounded, Kernel.toNat_bounded] at hcell
      change Source.nearest.sample ⟨volume.dtype, cells⟩ extent.spatial place _ =
        Source.nearest.sample volume extent.spatial place _
      rw [Source.sample_nearest hpos, Source.sample_nearest hpos]
      exact congrArg (Option.elim · _ _) hcell
    | linear =>
      refine valuesOf_congr fun p hp => Kernel.linearAt_congr hpos fun corner hcorner => ?_
      have hcell := h p hp _ (List.mem_map_of_mem (List.mem_map_of_mem hcorner))
      rw [cellAt_bounded, Kernel.toNat_bounded] at hcell
      exact congrArg (Option.elim · _ _) hcell
    | cubic coefficients => exact absurd rfl (hsource coefficients)

variable {kernel : Kernel} {x : Volume α} {fallback : Option (Literal α)} {grid : Option (Grid α)} {name : Literal α}

theorem source_ne_cubic (hs : make kernel x fallback grid name = .ok s) (hkernel : kernel ≠ .cubic)
    (coefficients : Tensor α) : s.source ≠ .cubic coefficients := by
  obtain ⟨extent, source, -, -, hsource, rfl⟩ := make_eq_ok.1 hs
  cases kernel with
  | nearest | linear =>
    cases hsource
    intro h
    cases h
  | cubic => exact absurd rfl hkernel

theorem volume_of_make (hs : make kernel x fallback grid name = .ok s) : s.volume = x := by
  obtain ⟨extent, source, -, -, -, rfl⟩ := make_eq_ok.1 hs
  rfl

/-- **The nearest kernel gives a voxel** at every position. -/
theorem exists_nearest (hs : make .nearest x fallback grid name = .ok s) (hpositive : ∀ n ∈ x.shape, 0 < n)
    (hseries : s.place series = .ok place) (hplace : Shape.Inside s.extent.series place) :
    ∃ value : Point α → x.dtype.Value α,
      (∀ p, x.cell? ((Kernel.clamped s.extent.spatial (p.map fun x => Scalar.floor (x + Scalar.half))).toList ++
        place) = some (value p)) ∧
      (∀ p, s.valid p = true → s.valueAt series p = .ok (.cell ⟨x.dtype, value p⟩, true)) ∧
      ∀ points : Points α, s.valuesAt series points = (do
        let (d, outside) ← s.beside x.dtype
        Volume.choose d (points.map s.valid) ⟨x.dtype, points.map fun p => value (s.readPosition p)⟩ outside) := by
  have hpos := spatial_pos hs hpositive
  have hcell := exists_cellAt_bounded ((volume_of_make hs).symm ▸ shape_of_make hs) hpos hplace
  simp only [cellAt_bounded] at hcell
  obtain ⟨extent, source, -, -, hsource, rfl⟩ := make_eq_ok.1 hs
  cases hsource
  choose value hvalue using fun p : Point α => hcell (p.map fun x => Scalar.floor (x + Scalar.half))
  have hsample : ∀ p : Point α, Source.nearest.sample x extent.spatial place p = .ok (value p) := fun p => by
    rw [Source.sample_nearest hpos, hvalue p]
    rfl
  refine ⟨value, hvalue, fun p hvalid => ?_, fun points => ?_⟩
  · rw [valueAt, if_pos hvalid, hseries, ok_bind]
    change (do return (.cell ⟨x.dtype, ← Source.nearest.sample x extent.spatial place p⟩, true) :
      Except (Fault α) (Reading α × Bool)) = _
    rw [hsample]
    rfl
  · rw [valuesAt_of_place hseries hplace]
    have hreadings : Source.nearest.sample x extent.spatial place = fun p => .ok (value p) := funext hsample
    exact (congrArg (fun read => valuesOf ⟨x.dtype, read⟩ _ _ points) hreadings).trans (valuesOf_ok value _ _ points)

end Used

section Exact

variable {s : Sampler Exact} {series : List (Literal Exact)} {place : List Nat}

open Exact

/-- **The position that is read** is always inside the field of view. -/
theorem valid_readPosition (hpos : ∀ n ∈ s.extent.spatial.toList, 0 < n) (p : Point Exact) :
    s.valid (s.readPosition p) = true := by
  rw [readPosition]
  split
  · assumption
  · rw [replicate_zero, valid_point]
    intro i
    have hone : (1 : ℝ) ≤ s.extent.spatial.get i := by exact_mod_cast forall_mem_toList.1 hpos i
    rw [Pi.zero_apply]
    constructor <;> linarith

theorem nearest_point (x : Fin 3 → ℝ) (i : Fin 3) :
    ((point x).map fun y => Scalar.floor (y + Scalar.half)).get i = ⌊x i + 1 / 2⌋ := by
  have hget : ((point x).map fun y => Scalar.floor (y + Scalar.half)).get i =
      Scalar.floor ((point x).get i + Scalar.half) := Vector.getElem_map _ _
  rw [hget, get_point, half_eq, finite_add, floor_finite]

/-- **The indices of a valid position** are at most one beyond the volume. -/
theorem computed_between {p : Point Exact} (hvalid : s.valid p = true) {index : Vector Int 3}
    (hindex : index ∈ s.source.computed p) (axis : Fin 3) :
    -1 ≤ index.get axis ∧ index.get axis ≤ s.extent.spatial.get axis := by
  obtain ⟨x, rfl⟩ := exists_point_of_valid hvalid
  obtain ⟨hlow, hhigh⟩ := valid_point.1 hvalid axis
  cases hsource : s.source with
  | nearest =>
    rw [hsource, Source.computed, List.mem_singleton] at hindex
    rw [hindex, nearest_point, Int.le_floor, ← Int.cast_le (R := ℝ)]
    have hfloor := Int.floor_le (x axis + 1 / 2)
    push_cast
    constructor <;> linarith
  | linear =>
    rw [hsource, Source.computed] at hindex
    obtain ⟨c, -, rfl⟩ := List.mem_map.1 hindex
    have hfirst : -1 ≤ ⌊x axis⌋ := by
      rw [Int.le_floor]
      push_cast
      linarith
    have hlast : ⌊x axis⌋ < s.extent.spatial.get axis := by
      rw [Int.floor_lt]
      push_cast
      linarith
    have hcorner := (c.get axis).isLt
    rw [Kernel.corner_point, Kernel.get_cornerIndex]
    omega
  | cubic coefficients =>
    rw [hsource, Source.computed] at hindex
    cases hindex

theorem clamp_floor_half {n : ℕ} {x : ℝ} (hn : 0 < n) (hlow : -(1 / 2) ≤ x) (hhigh : x ≤ n - 1 / 2) :
    |x - ((Kernel.clamp n ⌊x + 1 / 2⌋).toNat : ℝ)| ≤ 1 / 2 ∧
      ∀ j : ℕ, j < n → |x - j| ≤ 1 / 2 → j ≤ (Kernel.clamp n ⌊x + 1 / 2⌋).toNat := by
  have hfloor := Int.floor_le (x + 1 / 2)
  have hnext := Int.lt_floor_add_one (x + 1 / 2)
  have hnonneg : 0 ≤ ⌊x + 1 / 2⌋ := Int.floor_nonneg.2 (by linarith)
  obtain hlt | hlast := lt_or_ge ⌊x + 1 / 2⌋ (n : ℤ)
  · have hindex : ((Kernel.clamp n ⌊x + 1 / 2⌋).toNat : ℤ) = ⌊x + 1 / 2⌋ := by
      unfold Kernel.clamp
      omega
    have hreal : ((Kernel.clamp n ⌊x + 1 / 2⌋).toNat : ℝ) = ⌊x + 1 / 2⌋ := by exact_mod_cast hindex
    refine ⟨by rw [hreal, abs_le]; constructor <;> linarith, fun j _ hj => ?_⟩
    have hle : (j : ℤ) ≤ ⌊x + 1 / 2⌋ := Int.le_floor.2 (by push_cast; linarith [(abs_le.1 hj).1])
    omega
  -- only the far edge of the last voxel is rounded beyond it
  · have hindex : (Kernel.clamp n ⌊x + 1 / 2⌋).toNat + 1 = n := by
      unfold Kernel.clamp
      omega
    have hreal : ((Kernel.clamp n ⌊x + 1 / 2⌋).toNat : ℝ) + 1 = n := by exact_mod_cast hindex
    have hedge : (n : ℝ) ≤ ⌊x + 1 / 2⌋ := by exact_mod_cast hlast
    refine ⟨by rw [abs_le]; constructor <;> linarith, fun j hj _ => ?_⟩
    omega

/-- **A volume is read inside**, whatever the positions are at which many values are asked for: the indices used are
those of cells, and no other cell matters.  In exact arithmetic the position that is read is always valid, and an index
is at most one beyond the volume before it is bounded.  The nearest kernel then gives the voxel whose centre is at most
half a voxel away along every axis, and the last one if there are two. -/
theorem valuesAt_inside :
    (∀ {α : Type} [Scalar α] {kernel : Kernel} {x : Volume α} {fallback : Option (Literal α)} {grid : Option (Grid α)}
      {name : Literal α} {s : Sampler α} {series : List (Literal α)} {place : List Nat},
      make kernel x fallback grid name = .ok s → kernel ≠ .cubic → (∀ n ∈ x.shape, 0 < n) →
      s.place series = .ok place → Shape.Inside s.extent.series place → ∀ points : Points α,
        s.volume = x ∧ s.ReadsInside series place points) ∧
    (∀ {kernel : Kernel} {x : Volume Exact} {fallback : Option (Literal Exact)} {grid : Option (Grid Exact)}
      {name : Literal Exact} {s : Sampler Exact}, make kernel x fallback grid name = .ok s → (∀ n ∈ x.shape, 0 < n) →
      ∀ p : Point Exact, s.valid (s.readPosition p) = true ∧ ∀ index ∈ s.source.computed (s.readPosition p), ∀ axis,
        -1 ≤ index.get axis ∧ index.get axis ≤ s.extent.spatial.get axis) ∧
    ∀ {x : Volume Exact} {fallback : Option (Literal Exact)} {grid : Option (Grid Exact)} {name : Literal Exact}
      {s : Sampler Exact} {series : List (Literal Exact)} {place : List Nat},
      make .nearest x fallback grid name = .ok s → (∀ n ∈ x.shape, 0 < n) →
      s.place series = .ok place → Shape.Inside s.extent.series place →
      ∃ value : Point Exact → x.dtype.Value Exact,
        (∀ points : Points Exact, s.valuesAt series points = (do
          let (d, outside) ← s.beside x.dtype
          Volume.choose d (points.map s.valid) ⟨x.dtype, points.map fun p => value (s.readPosition p)⟩ outside)) ∧
        ∀ p, s.valid p = true →
          s.valueAt series p = .ok (.cell ⟨x.dtype, value p⟩, true) ∧
          ∃ (r : Fin 3 → ℝ) (voxel : Vector Nat 3), p = point r ∧
            x.cell? (voxel.toList ++ place) = some (value p) ∧
            ∀ axis, voxel.get axis < s.extent.spatial.get axis ∧ |r axis - voxel.get axis| ≤ 1 / 2 ∧
              ∀ j : ℕ, j < s.extent.spatial.get axis → |r axis - j| ≤ 1 / 2 → j ≤ voxel.get axis := by
  refine ⟨fun hs hkernel hpositive hseries hplace points => ⟨volume_of_make hs, ?_⟩, fun hs hpositive p => ?_,
    fun hs hpositive hseries hplace => ?_⟩
  · exact readsInside (source_ne_cubic hs hkernel) ((volume_of_make hs).symm ▸ shape_of_make hs)
      (spatial_pos hs hpositive) hseries hplace points
  · have hvalid := valid_readPosition (spatial_pos hs hpositive) p
    exact ⟨hvalid, fun index hindex => computed_between hvalid hindex⟩
  · have hpos := spatial_pos hs hpositive
    obtain ⟨value, hcell, hvalue, hvalues⟩ := exists_nearest hs hpositive hseries hplace
    refine ⟨value, hvalues, fun p hvalid => ⟨hvalue p hvalid, ?_⟩⟩
    obtain ⟨r, rfl⟩ := exists_point_of_valid hvalid
    refine ⟨r, _, rfl, hcell _, fun axis => ?_⟩
    obtain ⟨hlow, hhigh⟩ := valid_point.1 hvalid axis
    rw [Kernel.get_clamped, nearest_point]
    have hsize := forall_mem_toList.1 hpos axis
    exact ⟨Kernel.clamp_lt hsize _, clamp_floor_half hsize hlow hhigh⟩

/-- **Two voxels in a row, seen from their common border and from the far edge**: the second one is given both times.
The cursor counts from the end of the series, and no coordinate is too far away. -/
theorem valuesAt_inside_edges :
    let x : Volume Exact := ⟨.real .double, Tensor.build [2, 1, 1, 2] fun index =>
      finite (if index = [1, 0, 0, 1] then 5 else 3)⟩
    let s : Sampler Exact := ⟨x, ⟨triple 2 1 1, [2]⟩, .nearest, none, none, .text ""⟩
    let linear : Sampler Exact := { s with source := .linear }
    let points : Points Exact := Tensor.build [2] fun index =>
      if index = [0] then Vector.replicate 3 .nan else point fun _ => 10 ^ 30
    linear.ReadsInside [.number (.int (-1))] [1] points ∧
    linear.valid (linear.readPosition (Vector.replicate 3 .nan)) = true ∧
    s.valueAt [.number (.int (-1))] (point ![1 / 2, 0, 0]) = .ok (.cell ⟨.real .double, finite 5⟩, true) ∧
    s.valueAt [.number (.int (-1))] (point ![3 / 2, 1 / 2, -(1 / 2)]) =
      .ok (.cell ⟨.real .double, finite 5⟩, true) := by
  intro x s linear points
  have hplace : Shape.Inside [2] [1] := .cons (by decide) .nil
  have hsizes : ∀ n ∈ x.shape, 0 < n := by decide
  obtain ⟨hreads, hread, hnearest⟩ := valuesAt_inside
  have hmake : make .linear x none none .null = .ok linear := rfl
  obtain ⟨value, -, hvalue⟩ := @hnearest x none none .null s [.number (.int (-1))] [1] rfl hsizes rfl hplace
  have hlast : ∀ r : Fin 3 → ℝ, s.valid (point r) = true → |r 0 - 1| ≤ 1 / 2 →
      s.valueAt [.number (.int (-1))] (point r) = .ok (.cell ⟨.real .double, finite 5⟩, true) := by
    intro r hvalid hr
    obtain ⟨hgiven, r', voxel, hpoint, hcell, hvoxel⟩ := hvalue _ hvalid
    obtain rfl := point_injective hpoint
    have h0 : voxel.get 0 = 1 := le_antisymm (Nat.lt_succ_iff.1 (hvoxel 0).1)
      ((hvoxel 0).2.2 1 (by decide) (by rwa [Nat.cast_one]))
    have h1 : voxel.get 1 = 0 := Nat.lt_one_iff.1 (hvoxel 1).1
    have h2 : voxel.get 2 = 0 := Nat.lt_one_iff.1 (hvoxel 2).1
    rw [← triple_get voxel, h0, h1, h2] at hcell
    have hfive : some (finite 5) = some (value (point r)) := hcell
    rw [hgiven, ← Option.some.inj hfive]
  refine ⟨(@hreads Exact _ .linear x none none .null linear _ _ rfl (by decide) hsizes rfl hplace points).2,
    (hread hmake hsizes _).1, hlast _ (valid_point.2 fun i => ?_) ?_, hlast _ (valid_point.2 fun i => ?_) ?_⟩
  · fin_cases i <;> norm_num [s, triple, Vector.get]
  · norm_num [abs_le]
  · fin_cases i <;> norm_num [s, triple, Vector.get]
  · norm_num [abs_le]

end Exact

end Sampler

end Regrid
