import Mathlib
import Regrid.Proofs.Sampling
import Regrid.Proofs.Walk
/-!
# Readings — one voxel under a cursor, and in a block

Where one sample is taken per voxel, a cursor and a block read the same estimate.  Where several are taken, both add
the finite samples inside the field of view in the same order: the cursor with the precision of the samples, the block
with double precision.
-/
namespace Regrid.View

variable {α : Type}

theorem place_ofVoxel (voxel : List Nat) : (Cursor.ofVoxel voxel : Cursor α).place =
    (voxel.drop 3).map fun i : Nat => .number (.int i) := by
  simp [Cursor.ofVoxel, Cursor.place, Function.comp_def]

variable [Scalar α]

/-- **The position of a voxel.** -/
def point (voxel : List Nat) : Point α := Vector.ofFn fun i : Fin 3 => Scalar.ofInt ((voxel[i.val]?).getD 0)

/-- **A sum of samples**, each partial sum of which is stored with a precision. -/
def sum (p : Precision) (samples : List α) : α := samples.foldl (fun s x => Scalar.narrow p (s + x)) 0

/-- **An average of samples**, which is computed with a precision. -/
def mean (p : Precision) (normalization : α) (samples : List α) : α :=
  Scalar.narrow p (sum p samples * Scalar.narrow p normalization)

/-- **A sample counts** if its position is valid and its value is finite. -/
def counted? (v : View α) (place : List Nat) (p : Point α) : Option α :=
  if v.sampler.valid p && Scalar.isFinite (v.sampler.estimate place p) then some (v.sampler.estimate place p) else none

/-- **The samples of a voxel** that count. -/
def samples (v : View α) (place voxel : List Nat) : List α :=
  ((v.plan.offsets.map (Point.add (point voxel))).map v.mapping.apply).filterMap (v.counted? place)

/-- **The position of a voxel in the volume**, when one sample is taken. -/
def target (v : View α) (voxel : List Nat) : Point α := v.mapping.apply (point voxel)

theorem lattice_eq (size : Vector Nat 3) : lattice size = Tensor.build size.toList (point (α := α)) := rfl

theorem point_take (voxel : List Nat) : (point (voxel.take 3) : Point α) = point voxel := by
  unfold point
  congr 1
  funext i
  rw [List.getElem?_take_of_lt i.isLt]

theorem foldlM_eq_ok {β γ ε : Type} {f : γ → β → Except ε γ} {g : γ → β → γ} : ∀ {l : List β} (s : γ),
    (∀ s, ∀ x ∈ l, f s x = .ok (g s x)) → l.foldlM f s = .ok (l.foldl g s)
  | [], _, _ => rfl
  | x :: l, s, h => by
    rw [List.foldlM_cons, h s x List.mem_cons_self, ok_bind, List.foldl_cons]
    exact foldlM_eq_ok _ fun t y hy => h t y (List.mem_cons_of_mem x hy)

theorem offsets_ne_nil (p : OversamplingPlan) : p.offsets (α := α) ≠ [] := by
  have h : ∀ i : Fin 3, 0 ∈ List.range (p.factors.get i) := fun i => List.mem_range.2 (p.positive i)
  refine List.ne_nil_of_mem (a := triple (p.offset 0 0) (p.offset 1 0) (p.offset 2 0)) ?_
  exact List.mem_flatMap.2 ⟨0, h 2, List.mem_flatMap.2 ⟨0, h 1, List.mem_map.2 ⟨0, h 0, rfl⟩⟩⟩

variable [Scalar.Lawful α] {v : View α}

theorem position_ofVoxel {voxel : List Nat} (h : Countable voxel) :
    (Cursor.ofVoxel voxel : Cursor α).position = .ok (point voxel) := by
  have hreal : ∀ x ∈ (Cursor.ofVoxel voxel : Cursor α).spatial.toList, x.toReal = .ok (x.toScalar : α) := by
    intro x hx
    obtain ⟨i, rfl⟩ : ∃ i : Fin 3, x = .int ((voxel[i.val]?).getD 0) := by
      simpa [Cursor.ofVoxel, eq_comm] using hx
    have hless : (voxel[i.val]?).getD 0 < 1152921504606846976 := by
      cases hget : voxel[i.val]? with
      | none => decide
      | some n => exact h n (List.mem_of_getElem? hget)
    have hfinite : Scalar.isFinite (Scalar.ofInt ((voxel[i.val]?).getD 0 : Nat) : α) = true :=
      Scalar.Lawful.isFinite_ofInt (by omega) (by omega)
    rw [Number.toReal, Scalar.ofInt?]
    simp only [hfinite, if_true]
    rfl
  have hpoint : (Cursor.ofVoxel voxel : Cursor α).spatial.map Number.toScalar = point voxel := by
    simp [Cursor.ofVoxel, point, Vector.map_ofFn, Function.comp_def, Number.toScalar]
  rw [Cursor.position, Tensor.mapM_eq_pure hreal, hpoint]
  rfl

/-- **A cursor asks the sampler** where one sample is taken. -/
theorem valueAt_of_inactive (hactive : v.plan.active = false) {voxel : List Nat} (hcount : Countable voxel) :
    v.valueAt (.ofVoxel voxel) = do
      return (← v.sampler.valueAt ((voxel.drop 3).map fun i : Nat => .number (.int i)) (v.target voxel)).1 := by
  unfold valueAt
  rw [position_ofVoxel hcount, place_ofVoxel]
  simp only [ok_bind, hactive, Bool.false_eq_true, if_false]
  rfl

/-- **A cursor reads the estimate** where one sample is taken. -/
theorem readAt_of_inactive (hs : v.sampler.Sound) (hactive : v.plan.active = false) {voxel : List Nat}
    (hcount : Countable voxel) (hplace : Shape.Inside v.sampler.extent.series (voxel.drop 3)) :
    v.readAt voxel = if v.sampler.valid (v.target voxel) then .ok (v.sampler.estimate (voxel.drop 3) (v.target voxel))
      else v.sampler.outside.toReal := by
  rw [← hs.toReal_valueAt hplace, readAt, valueAt_of_inactive hactive hcount, bind_assoc]
  simp only [pure_bind]

/-- **The average of samples under a cursor** is computed with the precision of the samples. -/
theorem average_eq (hs : v.sampler.Sound) {place : List Nat} (hplace : Shape.Inside v.sampler.extent.series place)
    (points : List (Point α)) : v.average (place.map fun i : Nat => .number (.int i)) points =
      .ok (.cell ⟨.real (sumPrecision v.sampler.dtype),
        mean (sumPrecision v.sampler.dtype) v.plan.normalization (points.filterMap (v.counted? place))⟩) := by
  have hnum := hs.dtype_numeric
  have hstep : ∀ sum : α, ∀ p ∈ points, (do
      if !v.sampler.valid p then return sum
      let x ← v.sampler.sample (← v.sampler.place (place.map fun i : Nat => .number (.int i))) p
      if ← v.sampler.dtype.isFinite x then
        return Scalar.narrow (sumPrecision v.sampler.dtype) (sum + (← v.sampler.dtype.convert (.real .double) x))
      else return sum) = (Except.ok ((v.counted? place p).elim sum fun x =>
        Scalar.narrow (sumPrecision v.sampler.dtype) (sum + x)) : Except (Fault α) α) := by
    intro sum p _
    obtain ⟨x, hx, -⟩ := hs.exists_sample hplace p
    rw [Sampler.place_of_inside hplace, counted?, Sampler.estimate_eq hx]
    cases hvalid : v.sampler.valid p with
    | false => rfl
    | true =>
      simp only [ok_bind, hx, Dtype.isFinite_eq hnum, Dtype.convert_double hnum]
      cases Scalar.isFinite (v.sampler.dtype.scalar x) <;> rfl
  have hsum : points.foldl (fun sum p => (v.counted? place p).elim sum fun x =>
      Scalar.narrow (sumPrecision v.sampler.dtype) (sum + x)) 0 =
        sum (sumPrecision v.sampler.dtype) (points.filterMap (v.counted? place)) := by
    rw [sum, List.foldl_filterMap]
    congr 1
    funext sum p
    cases v.counted? place p <;> rfl
  unfold average
  simp only []
  rw [foldlM_eq_ok _ hstep, hsum]
  rfl

/-- **A cursor reads the average** in the precision of the samples where several are taken. -/
theorem readAt_of_active (hs : v.sampler.Sound) (hactive : v.plan.active = true) {voxel : List Nat}
    (hcount : Countable voxel) (hplace : Shape.Inside v.sampler.extent.series (voxel.drop 3)) :
    v.readAt voxel =
      .ok (mean (sumPrecision v.sampler.dtype) v.plan.normalization (v.samples (voxel.drop 3) voxel)) := by
  have hread : v.valueAt (.ofVoxel voxel) = .ok (.cell ⟨.real (sumPrecision v.sampler.dtype),
      mean (sumPrecision v.sampler.dtype) v.plan.normalization (v.samples (voxel.drop 3) voxel)⟩) := by
    unfold valueAt
    rw [position_ofVoxel hcount, place_ofVoxel]
    simp only [ok_bind, hactive, if_true, average_eq hs hplace]
    rfl
  unfold readAt
  rw [hread]
  exact congrArg Except.ok (Scalar.Lawful.narrow_double _)

section Block

variable {place : List Nat}

/-- **A block has the estimates** where one sample is taken, and the merged fallback where a position is not valid. -/
theorem blockAt_of_inactive (hs : v.sampler.Sound) (hactive : v.plan.active = false)
    (hplace : Shape.Inside v.sampler.extent.series place) {m : α} (hm : v.sampler.merged = .ok m) :
    v.blockAt place = .ok (Tensor.build v.extent.spatial.toList fun voxel =>
      if v.sampler.valid (v.target voxel) then v.sampler.estimate place (v.target voxel) else m) := by
  obtain ⟨d, x, hd, hvalues, hscalar⟩ := hs.valuesAt_of_ok hplace v.extent.spatial.toList v.target hm
  have hreals : (Tensor.build v.extent.spatial.toList x).mapM (d.convert (.real .double)) =
      .ok (Tensor.build v.extent.spatial.toList fun index => d.scalar (x index)) :=
    Tensor.mapM_build fun index _ => Dtype.convert_double hd _
  have hpoints : (lattice v.extent.spatial).map v.mapping.apply = Tensor.build v.extent.spatial.toList v.target :=
    Tensor.map_build _ _
  unfold blockAt plainBlock
  simp only [hactive, Bool.false_eq_true, if_false, hpoints, hvalues, ok_bind, Volume.toReals]
  rw [hreals, ok_bind, lattice_eq, Tensor.shape_build, Tensor.broadcast?_self]
  exact congrArg Except.ok (congrArg (Tensor.build _) (funext hscalar))

/-- **One sample of every voxel** is added to the sums, or zero if it does not count. -/
theorem addSamples_eq (hs : v.sampler.Sound) (hplace : Shape.Inside v.sampler.extent.series place) {m : α}
    (hm : v.sampler.merged = .ok m) (sums : List Nat → α) (offset : Point α) :
    v.addSamples (place.map fun i : Nat => .number (.int i)) (lattice v.extent.spatial)
      ((Shape.indices v.extent.spatial.toList).map sums) offset =
        .ok ((Shape.indices v.extent.spatial.toList).map fun voxel =>
          sums voxel + (v.counted? place (v.mapping.apply (Point.add (point voxel) offset))).getD 0) := by
  let position (voxel : List Nat) : Point α := v.mapping.apply (Point.add (point voxel) offset)
  obtain ⟨d, x, hd, hvalues, hscalar⟩ := hs.valuesAt_of_ok hplace v.extent.spatial.toList position hm
  have hpoints : (lattice v.extent.spatial).map (fun p => v.mapping.apply (Point.add p offset)) =
      Tensor.build v.extent.spatial.toList position := Tensor.map_build _ _
  have hterms : ((Shape.indices v.extent.spatial.toList).map fun voxel => (position voxel, x voxel)).mapM
      (fun (p, y) => do
        let finite ← d.isFinite y
        if v.sampler.valid p && finite then d.toScalar y else return 0) =
      (Except.ok ((Shape.indices v.extent.spatial.toList).map fun voxel =>
        (v.counted? place (position voxel)).getD 0) : Except (Fault α) (List α)) := by
    rw [List.mapM_map]
    refine Tensor.list_mapM_eq_pure (m := Except (Fault α)) fun voxel _ => ?_
    simp only [Function.comp_apply, Dtype.isFinite_eq hd, Dtype.toScalar_eq hd, ok_bind, hscalar, counted?]
    cases v.sampler.valid (position voxel) with
    | false => rfl
    | true =>
      simp only [Bool.true_and, if_true]
      cases Scalar.isFinite (v.sampler.estimate place (position voxel)) <;> rfl
  have hzip : List.zip (Tensor.build v.extent.spatial.toList position).toList
      (Tensor.build v.extent.spatial.toList x).cells.toList =
        (Shape.indices v.extent.spatial.toList).map fun voxel => (position voxel, x voxel) := by
    rw [Tensor.toList_build, show (Tensor.build v.extent.spatial.toList x).cells.toList = _ from Tensor.toList_build x,
      List.zip_map']
  have hsums : List.zipWith (· + ·) ((Shape.indices v.extent.spatial.toList).map sums)
      ((Shape.indices v.extent.spatial.toList).map fun voxel => (v.counted? place (position voxel)).getD 0) =
        (Shape.indices v.extent.spatial.toList).map fun voxel =>
          sums voxel + (v.counted? place (position voxel)).getD 0 := by
    rw [List.zipWith_map, List.zipWith_self]
  have hadded : (do
      let terms ← (List.zip (Tensor.build v.extent.spatial.toList position).toList
        (Tensor.build v.extent.spatial.toList x).cells.toList).mapM (fun (p, y) => do
          let finite ← d.isFinite y
          if v.sampler.valid p && finite then d.toScalar y else return 0)
      return List.zipWith (· + ·) ((Shape.indices v.extent.spatial.toList).map sums) terms) =
      (Except.ok ((Shape.indices v.extent.spatial.toList).map fun voxel =>
        sums voxel + (v.counted? place (position voxel)).getD 0) : Except (Fault α) (List α)) := by
    rw [hzip, hterms, ok_bind, hsums]
    rfl
  unfold addSamples
  simp only [hpoints, hvalues, ok_bind]
  rw [← hadded]
  cases d with
  | bool | int | real => exact if_neg (by simp [Volume.shape, lattice_eq])
  | complex | span | text | other => exact hd.elim

/-- **All samples of every voxel** are added to the sums one after the other. -/
theorem foldlM_addSamples (hs : v.sampler.Sound) (hplace : Shape.Inside v.sampler.extent.series place) {m : α}
    (hm : v.sampler.merged = .ok m) : ∀ (offsets : List (Point α)) (sums : List Nat → α),
    offsets.foldlM (v.addSamples (place.map fun i : Nat => .number (.int i)) (lattice v.extent.spatial))
      ((Shape.indices v.extent.spatial.toList).map sums) =
        .ok ((Shape.indices v.extent.spatial.toList).map fun voxel =>
          offsets.foldl (fun sum offset =>
            sum + (v.counted? place (v.mapping.apply (Point.add (point voxel) offset))).getD 0) (sums voxel))
  | [], _ => rfl
  -- for any sums so far, as those of the first samples become the next ones
  | offset :: offsets, sums => by
    rw [List.foldlM_cons, addSamples_eq hs hplace hm, ok_bind, foldlM_addSamples hs hplace hm offsets]
    rfl

/-- **Adding zero for a sample that does not count** leaves the sum of those that count. -/
theorem foldl_getD_eq_sum {β : Type} (f : β → Option α) : ∀ (l : List β) {s : α}, s + Scalar.ofInt 0 = s →
    l.foldl (fun sum x => sum + (f x).getD 0) s =
      (l.filterMap f).foldl (fun sum y => Scalar.narrow .double (sum + y)) s
  | [], _, _ => rfl
  -- the sum so far is one that adding zero leaves alone, which a negative zero would not be
  | x :: l, s, h => by
    rw [List.foldl_cons]
    cases hx : f x with
    | none =>
      have hzero : s + (none : Option α).getD 0 = s := h
      rw [List.filterMap_cons_none hx, hzero]
      exact foldl_getD_eq_sum f l h
    | some y =>
      rw [List.filterMap_cons_some hx, List.foldl_cons, Scalar.Lawful.narrow_double]
      exact foldl_getD_eq_sum f l (Scalar.Lawful.add_add_zero y h)

/-- **A block has the averages** in double precision where several samples are taken. -/
theorem blockAt_of_active (hs : v.sampler.Sound) (hactive : v.plan.active = true)
    (hplace : Shape.Inside v.sampler.extent.series place) {m : α} (hm : v.sampler.merged = .ok m) :
    v.blockAt place = .ok (Tensor.build v.extent.spatial.toList fun voxel =>
      mean .double v.plan.normalization (v.samples place voxel)) := by
  have hstart : List.replicate (lattice (α := α) v.extent.spatial).shape.count (0 : α) =
      (Shape.indices v.extent.spatial.toList).map fun _ => 0 := by
    rw [List.map_const', Shape.length_indices]
    rfl
  have hmean : ∀ voxel : List Nat, v.plan.offsets.foldl (fun sum offset =>
      sum + (v.counted? place (v.mapping.apply (Point.add (point voxel) offset))).getD 0) 0 * v.plan.normalization =
        mean .double v.plan.normalization (v.samples place voxel) := by
    intro voxel
    have hsum := foldl_getD_eq_sum (fun offset => v.counted? place (v.mapping.apply (Point.add (point voxel) offset)))
      v.plan.offsets (s := (0 : α)) Scalar.Lawful.zero_add_zero
    rw [hsum, mean, sum, samples, List.filterMap_map, List.filterMap_map, Scalar.Lawful.narrow_double,
      Scalar.Lawful.narrow_double]
    rfl
  unfold blockAt averagedBlock
  rw [if_pos hactive, hstart, foldlM_addSamples hs hplace hm, ok_bind]
  have hcells : (Tensor.ofList? (lattice (α := α) v.extent.spatial).shape
      ((Shape.indices v.extent.spatial.toList).map fun voxel => v.plan.offsets.foldl (fun sum offset =>
        sum + (v.counted? place (v.mapping.apply (Point.add (point voxel) offset))).getD 0) 0)) = _ :=
    Tensor.ofList?_indices _
  rw [hcells, Option.map_some, Tensor.map_build]
  exact congrArg Except.ok (congrArg (Tensor.build _) (funext hmean))

theorem blockAt_of_error (hs : v.sampler.Sound) (hplace : Shape.Inside v.sampler.extent.series place) {f : Fault α}
    (hf : v.sampler.merged = .error f) : v.blockAt place = .error f := by
  have hvalues : ∀ g : Point α → Point α, v.sampler.valuesAt (place.map fun i : Nat => .number (.int i))
      ((lattice v.extent.spatial).map g) = .error f := by
    intro g
    rw [lattice_eq, Tensor.map_build]
    exact hs.valuesAt_of_error hplace _ _ hf
  unfold blockAt
  by_cases hactive : v.plan.active = true
  · rw [if_pos hactive, averagedBlock]
    cases hoffsets : v.plan.offsets (α := α) with
    | nil => exact absurd hoffsets (offsets_ne_nil v.plan)
    -- a plan has at least one offset, and the block of its samples fails already
    | cons offset offsets =>
      rw [List.foldlM_cons, addSamples]
      simp only [hvalues, error_bind]
  · rw [if_neg hactive, plainBlock, hvalues]
    rfl

end Block

end Regrid.View
