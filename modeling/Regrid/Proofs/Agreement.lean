import Mathlib
import Regrid.Proofs.Drivers
/-!
# Agreement — when the two ways of evaluating a view agree

A cursor and the blocks agree exactly where narrow averages are those of double precision and the fallback is not
changed when it is stored beside the samples (`View.Sound.agree_iff`).  On volumes of double precision they always do.
-/
namespace Regrid

/-- **Two outcomes agree**: they are the same value, or faults of the same sort. -/
def Agree {α β : Type} : Except (Fault α) β → Except (Fault α) β → Prop
  | .ok x, .ok y => x = y
  | .error e, .error f => e.kind = f.kind
  | _, _ => False

section Agree

variable {α β γ : Type}

theorem Agree.refl : ∀ x : Except (Fault α) β, Agree x x
  | .ok _ => rfl
  | .error _ => rfl

theorem Agree.bind {x y : Except (Fault α) β} (h : Agree x y) (f : β → Except (Fault α) γ) :
    Agree (x >>= f) (y >>= f) := by
  match x, y, h with
  | .ok x, .ok _, rfl => exact Agree.refl (f x)
  | .error _, .error _, h => exact h

theorem Agree.of_bind {x y : Except (Fault α) β} {f : β → γ} (hf : Function.Injective f)
    (h : Agree (x >>= fun z => .ok (f z)) (y >>= fun z => .ok (f z))) : Agree x y := by
  match x, y, h with
  | .ok _, .ok _, h => exact hf h
  | .error _, .error _, h => exact h

end Agree

theorem Tensor.build_inj {β : Type} {s : Shape} {f g : List Nat → β} :
    Tensor.build s f = Tensor.build s g ↔ ∀ index, s.Inside index → f index = g index := by
  refine ⟨fun h index hi => ?_, Tensor.build_congr⟩
  have hget := congrArg (Tensor.get? · index) h
  simp only [Tensor.get?_build hi] at hget
  exact Option.some.inj hget

namespace View

variable {α : Type}

open Walk

theorem start_axes (v : View α) : v.start.axes = v.extent.axes := by
  simp [start, Cursor.start, Cursor.axes, Extent.axes, extent]

variable [Scalar α] {v : View α}

/-- **A view does not depend on the way it is evaluated**: averages are the same in the precision of the samples and in
double precision, the fallback can be stored beside the samples where a cursor reports no fault, and it is the same
there where it is read. -/
structure Consistent (v : View α) : Prop where
  averages : v.plan.active = true → ∀ voxel, v.extent.toShape.Inside voxel →
    mean (sumPrecision v.sampler.dtype) v.plan.normalization (v.samples (voxel.drop 3) voxel) =
      mean .double v.plan.normalization (v.samples (voxel.drop 3) voxel)
  merges : (v.plan.active = true ∨ ∀ voxel, v.extent.toShape.Inside voxel → v.sampler.valid (v.target voxel) = true) →
    ∃ m, v.sampler.merged = .ok m
  outside : v.plan.active = false → ∀ voxel, v.extent.toShape.Inside voxel → v.sampler.valid (v.target voxel) = false →
    Agree v.sampler.merged v.sampler.outside.toReal

theorem cursorValue_of_inactive (hactive : v.plan.active = false) (voxel : List Nat) :
    v.cursorValue (voxel.drop 3) voxel = if v.sampler.valid (v.target voxel) then
      .ok (v.sampler.estimate (voxel.drop 3) (v.target voxel)) else v.sampler.outside.toReal := by
  simp [cursorValue, hactive]

theorem perform_store (w : Walk α (Tensor α)) (dtype : Literal α) (c : Cursor α) :
    (perform (w >>= fun t => liftM (store t dtype)) c).1 = (perform w c).1 >>= fun t => store t dtype :=
  fst_run_bind_lift w (fun t => store t dtype) c

theorem copyReals_of_noRoom [Capacity] {f : Fault α}
    (hroom : (Shape.reserve v.extent.toShape : Except (Fault α) Unit) = .error f) (c : Cursor α) :
    (perform v.copyReals c).1 = .error f := by
  unfold copyReals
  rw [hroom, perform_bind_error (perform_lift _ c)]

theorem resampleReals_of_noRoom [Capacity] {f : Fault α}
    (hroom : (Shape.reserve v.extent.toShape : Except (Fault α) Unit) = .error f) (c : Cursor α) :
    ∃ g, (perform v.resampleReals c).1 = .error g := by
  unfold resampleReals
  cases hlattice : (Shape.reserveLattice v.extent.spatial.toList : Except (Fault α) Unit) with
  | error g => exact ⟨g, by rw [perform_bind_error (perform_lift _ c)]⟩
  | ok _ => exact ⟨f, by rw [perform_bind_ok (perform_lift _ c), hroom, perform_bind_error (perform_lift _ c)]⟩

/-- **All values of a view**, read one at a time or block by block. -/
def values [Capacity] (v : View α) (vectorize : Bool) : Except (Fault α) (Tensor α) :=
  (perform (if vectorize then v.resampleReals else v.copyReals) v.start).1

theorem values_of_noRoom [Capacity] {f : Fault α}
    (hroom : (Shape.reserve v.extent.toShape : Except (Fault α) Unit) = .error f) :
    ∀ vectorize, ∃ g, v.values vectorize = .error g
  | false => ⟨f, copyReals_of_noRoom hroom v.start⟩
  | true => resampleReals_of_noRoom hroom v.start

theorem perform_store_null {w : Walk α (Tensor α)} {c c' : Cursor α} {t : Tensor α} (h : perform w c = (.ok t, c')) :
    perform (w >>= fun t => liftM (store t .null)) c = (.ok ⟨.real .double, t⟩, c') :=
  perform_bind_ok h _

section Volume

variable [LinearSolver α] [Capacity] {volume : Volume α} {inputGrid reference : Option (Grid α)}
  {transform oversample order : Literal α} {fallback : Option (Literal α)}

theorem toShape_of_ofVolume (h : ofVolume volume inputGrid reference transform oversample order fallback = .ok v) :
    reference = some v.reference ∧ v.extent.toShape = v.reference.extent.spatial.toList ++ volume.shape.drop 3 := by
  obtain ⟨input, kernel, sampler, -, -, hsampler, hview⟩ := ofVolume_eq_ok.1 h
  obtain ⟨extent, source, hextent, -, -, rfl⟩ := Sampler.make_eq_ok.1 hsampler
  obtain ⟨hreference, hs, -⟩ := ofSampler_eq_ok.1 hview
  refine ⟨hreference, ?_⟩
  rw [Extent.ofShape?_eq_some hextent, Extent.toShape, Extent.toShape, View.extent, hs,
    List.drop_left' (Vector.length_toList)]

theorem sampler_of_ofVolume (h : ofVolume volume inputGrid reference transform oversample order fallback = .ok v) :
    v.sampler.volume = volume ∧ v.sampler.fallback = fallback := by
  obtain ⟨input, kernel, sampler, -, -, hsampler, hview⟩ := ofVolume_eq_ok.1 h
  obtain ⟨extent, source, -, -, -, rfl⟩ := Sampler.make_eq_ok.1 hsampler
  obtain ⟨-, hs, -⟩ := ofSampler_eq_ok.1 hview
  rw [hs]
  exact ⟨rfl, rfl⟩

theorem sound_sampler_of_ofVolume (hnumeric : volume.dtype.IsNumeric)
    (hstored : ∀ x ∈ volume.cells.toList, volume.dtype.Stored x) (hpositive : ∀ n ∈ volume.shape, 0 < n)
    (hfallback : ∀ l, fallback = some l → ∃ n, l = .number n)
    (h : ofVolume volume inputGrid reference transform oversample order fallback = .ok v) : v.sampler.Sound := by
  obtain ⟨input, kernel, sampler, -, -, hsampler, hview⟩ := ofVolume_eq_ok.1 h
  obtain ⟨extent, source, hextent, -, -, rfl⟩ := Sampler.make_eq_ok.1 hsampler
  obtain ⟨-, hs, -⟩ := ofSampler_eq_ok.1 hview
  rw [hs]
  exact ⟨Extent.ofShape?_eq_some hextent, hpositive, hnumeric, hstored, hfallback⟩

theorem sound_of_ofVolume (hnumeric : volume.dtype.IsNumeric)
    (hstored : ∀ x ∈ volume.cells.toList, volume.dtype.Stored x) (hpositive : ∀ n ∈ volume.shape, 0 < n)
    (hfallback : ∀ l, fallback = some l → ∃ n, l = .number n)
    (h : ofVolume volume inputGrid reference transform oversample order fallback = .ok v)
    (hroom : (Shape.reserve v.extent.toShape : Except (Fault α) Unit) = .ok ()) : v.Sound :=
  ⟨sound_sampler_of_ofVolume hnumeric hstored hpositive hfallback h, hroom⟩

end Volume

variable [Scalar.Lawful α]

theorem Sound.agree_iff_of_active [Capacity] (hv : v.Sound) (hactive : v.plan.active = true) {c : Cursor α}
    (hc : c.axes = v.extent.axes) :
    Agree (perform v.copyReals c).1 (perform v.resampleReals c).1 ↔ v.Consistent := by
  have hcopy := hv.copyReals_of_ok hc (x := fun voxel => mean (sumPrecision v.sampler.dtype) v.plan.normalization
    (v.samples (voxel.drop 3) voxel)) fun voxel _ => if_pos hactive
  rw [hcopy]
  cases hm : v.sampler.merged with
  -- the blocks store the fallback beside the samples even if no sample needs it
  | error f =>
    rw [hv.resampleReals_of_error hc hm]
    refine ⟨False.elim, fun h => ?_⟩
    obtain ⟨m, hm'⟩ := h.merges (.inl hactive)
    rw [hm] at hm'; cases hm'
  | ok m =>
    have hblock : ∀ voxel, v.blockValue m (voxel.drop 3) voxel =
        mean .double v.plan.normalization (v.samples (voxel.drop 3) voxel) := fun voxel => if_pos hactive
    rw [hv.resampleReals_of_ok hc hm]
    simp only [Agree, hblock, Tensor.build_inj]
    constructor
    · intro h
      refine ⟨fun _ => h, fun _ => ⟨m, hm⟩, fun hinactive => ?_⟩
      rw [hactive] at hinactive; cases hinactive
    · intro h
      exact h.averages hactive

theorem Sound.agree_iff_of_valid [Capacity] (hv : v.Sound) (hactive : v.plan.active = false)
    (hvalid : ∀ voxel, v.extent.toShape.Inside voxel → v.sampler.valid (v.target voxel) = true) {c : Cursor α}
    (hc : c.axes = v.extent.axes) :
    Agree (perform v.copyReals c).1 (perform v.resampleReals c).1 ↔ v.Consistent := by
  have hcopy := hv.copyReals_of_ok hc (x := fun voxel => v.sampler.estimate (voxel.drop 3) (v.target voxel))
    fun voxel h => by rw [cursorValue_of_inactive hactive, if_pos (hvalid voxel h)]
  rw [hcopy]
  cases hm : v.sampler.merged with
  | error f =>
    rw [hv.resampleReals_of_error hc hm]
    refine ⟨False.elim, fun h => ?_⟩
    obtain ⟨m, hm'⟩ := h.merges (.inr hvalid)
    rw [hm] at hm'; cases hm'
  | ok m =>
    rw [hv.resampleReals_of_ok hc hm]
    constructor
    · intro _
      refine ⟨fun h => ?_, fun _ => ⟨m, hm⟩, fun _ voxel h hinvalid => ?_⟩
      · rw [hactive] at h; cases h
      · rw [hvalid voxel h] at hinvalid; cases hinvalid
    · intro _
      refine Tensor.build_congr fun voxel h => ?_
      rw [blockValue_of_inactive hactive, if_pos (hvalid voxel h)]

theorem Sound.agree_iff_of_invalid [Capacity] (hv : v.Sound) (hactive : v.plan.active = false) {voxel : List Nat}
    (hvoxel : v.extent.toShape.Inside voxel) (hinvalid : v.sampler.valid (v.target voxel) = false) {c : Cursor α}
    (hc : c.axes = v.extent.axes) :
    Agree (perform v.copyReals c).1 (perform v.resampleReals c).1 ↔ v.Consistent := by
  -- the fallback is read, so that all depends on whether it is the same on both sides
  have hconsistent : v.Consistent ↔ Agree v.sampler.merged v.sampler.outside.toReal := by
    refine ⟨fun h => h.outside hactive voxel hvoxel hinvalid, fun h => ⟨fun h => ?_, ?_, fun _ _ _ _ => h⟩⟩
    · rw [hactive] at h; cases h
    · rintro (h | h)
      · rw [hactive] at h; cases h
      · rw [h voxel hvoxel] at hinvalid; cases hinvalid
  have hnone : v.cursorValue (voxel.drop 3) voxel = v.sampler.outside.toReal := by
    rw [cursorValue_of_inactive hactive, hinvalid]
    rfl
  rw [hconsistent]
  cases ho : v.sampler.outside.toReal with
  | error e =>
    have hcopy : (perform v.copyReals c).1 = .error e := by
      refine hv.copyReals_of_error hc (fun index _ => ?_) ⟨voxel, hvoxel, hnone.trans ho⟩
      rw [cursorValue_of_inactive hactive, ho]
      split
      · exact .inl ⟨_, rfl⟩
      · exact .inr rfl
    rw [hcopy]
    cases hm : v.sampler.merged with
    | error f => rw [hv.resampleReals_of_error hc hm]; exact eq_comm
    | ok m => rw [hv.resampleReals_of_ok hc hm]; exact Iff.rfl
  | ok o =>
    have hcopy := hv.copyReals_of_ok hc (x := fun voxel => v.blockValue o (voxel.drop 3) voxel) fun index _ => by
      rw [cursorValue_of_inactive hactive, blockValue_of_inactive hactive, ho]
      split <;> rfl
    rw [hcopy]
    cases hm : v.sampler.merged with
    | error f => rw [hv.resampleReals_of_error hc hm]; exact Iff.rfl
    | ok m =>
      rw [hv.resampleReals_of_ok hc hm]
      simp only [Agree, Tensor.build_inj, blockValue_of_inactive hactive]
      constructor
      · intro h
        have hvalue := h voxel hvoxel
        rw [hinvalid] at hvalue
        exact hvalue.symm
      · rintro rfl _ _
        rfl

/-- **The two ways of evaluating a view agree** exactly if it does not depend on them. -/
theorem Sound.agree_iff [Capacity] (hv : v.Sound) {c : Cursor α} (hc : c.axes = v.extent.axes) :
    Agree (perform v.copyReals c).1 (perform v.resampleReals c).1 ↔ v.Consistent := by
  cases hactive : v.plan.active with
  | true => exact hv.agree_iff_of_active hactive hc
  | false =>
    by_cases hvalid : ∀ voxel, v.extent.toShape.Inside voxel → v.sampler.valid (v.target voxel) = true
    · exact hv.agree_iff_of_valid hactive hvalid hc
    · obtain ⟨voxel, hvoxel⟩ := not_forall.1 hvalid
      obtain ⟨hinside, hinvalid⟩ := Classical.not_imp.1 hvoxel
      exact hv.agree_iff_of_invalid hactive hinside (Bool.eq_false_of_not_eq_true hinvalid) hc

omit [Scalar.Lawful α] in
/-- **A view does not depend on the way it is evaluated** if its samples are added with double precision, and its
fallback is the same beside them. -/
theorem consistent_of_outside (hprecision : sumPrecision v.sampler.dtype = .double) {m : α}
    (hmerged : v.sampler.merged = .ok m) (houtside : v.sampler.outside.toReal = .ok m) : v.Consistent := by
  refine ⟨fun _ voxel _ => by rw [hprecision], fun _ => ⟨m, hmerged⟩, fun _ _ _ _ => ?_⟩
  rw [hmerged, houtside]
  exact Agree.refl _

/-- **A fallback of double precision** is not changed when it is stored beside samples of double precision. -/
theorem merged_eq_outside {s : Sampler α} (hvolume : s.volume.dtype = .real .double)
    (hfallback : ∀ l, s.fallback = some l → ∃ x, l = .number (.real x)) :
    ∃ m, s.merged = .ok m ∧ s.outside.toReal = .ok m := by
  have hdtype : s.dtype = .real .double := by
    obtain h | h := s.dtype_cases
    · exact h.trans hvolume
    · exact h
  unfold Sampler.merged Sampler.outside
  cases hf : s.fallback with
  | none =>
    simp only [hvolume]
    exact ⟨_, rfl, rfl⟩
  | some l =>
    obtain ⟨x, rfl⟩ := hfallback l hf
    simp only [hdtype]
    exact ⟨x, congrArg Except.ok (Scalar.Lawful.narrow_double x), rfl⟩

omit [Scalar α] [Scalar.Lawful α] in
theorem sumPrecision_double {s : Sampler α}
    (hdtype : s.volume.dtype = .real .double ∨ ∃ t, s.volume.dtype = .int t) : sumPrecision s.dtype = .double := by
  obtain hd | hd := s.dtype_cases
  · obtain h | ⟨t, h⟩ := hdtype
    · rw [hd, h]
      rfl
    · rw [hd, h]
      rfl
  · rw [hd]
    rfl

omit [Scalar.Lawful α] in
/-- **A cursor and the blocks** give a voxel the same value if they have the same fallback, and add samples alike. -/
theorem cursorValue_eq_blockValue (hprecision : sumPrecision v.sampler.dtype = .double) {m : α}
    (ho : v.sampler.outside.toReal = .ok m) (voxel : List Nat) :
    v.cursorValue (voxel.drop 3) voxel = .ok (v.blockValue m (voxel.drop 3) voxel) := by
  rw [cursorValue, blockValue, hprecision, ho]
  split
  · rfl
  · split <;> rfl

variable [Capacity]

/-- **The values of a view** whose fallback is the same number for a cursor and for the blocks. -/
theorem Sound.values_eq (hv : v.Sound) (hprecision : sumPrecision v.sampler.dtype = .double) {m : α}
    (hm : v.sampler.merged = .ok m) (ho : v.sampler.outside.toReal = .ok m) (vectorize : Bool) :
    v.values vectorize = .ok (Tensor.build v.extent.toShape fun voxel => v.blockValue m (voxel.drop 3) voxel) := by
  cases vectorize with
  | false =>
    have hcopy := hv.copyReals_of_ok v.start_axes fun voxel _ => cursorValue_eq_blockValue hprecision ho voxel
    exact congrArg Prod.fst hcopy
  | true => exact congrArg Prod.fst (hv.resampleReals_of_ok v.start_axes hm)

/-- **On samples of double precision** a cursor and the blocks give the same values. -/
theorem Sound.evaluate_of_double (hv : v.Sound) (hvolume : v.sampler.volume.dtype = .real .double)
    (hfallback : ∀ l, v.sampler.fallback = some l → ∃ x, l = .number (.real x)) : ∃ x : List Nat → α,
    (∀ c : Cursor α, c.axes = v.extent.axes →
      perform v.copyReals c = (.ok (Tensor.build v.extent.toShape x), v.start) ∧
        perform v.resampleReals c = (.ok (Tensor.build v.extent.toShape x), v.start)) ∧
    ∀ voxel, v.extent.toShape.Inside voxel → v.readAt voxel = .ok (x voxel) := by
  obtain ⟨m, hm, ho⟩ := merged_eq_outside hvolume hfallback
  have hvalue := cursorValue_eq_blockValue (sumPrecision_double (.inl hvolume)) ho
  refine ⟨fun voxel => v.blockValue m (voxel.drop 3) voxel, fun c hc => ⟨?_, hv.resampleReals_of_ok hc hm⟩, ?_⟩
  · exact hv.copyReals_of_ok hc fun voxel _ => hvalue voxel
  · exact fun voxel h => (hv.readAt_eq h).trans (hvalue voxel)

end View

end Regrid
