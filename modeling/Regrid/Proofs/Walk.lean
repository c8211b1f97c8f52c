import Mathlib
import Regrid.Proofs.Lawful
import Regrid.Proofs.Tensor
import Regrid.View.Resample
/-!
# Walk — where a cursor stands while a view is read

A walk changes the cursor step by step.  Between two voxels of the lattice the cursor stands at whole indices, so a
move to a voxel takes it there whatever voxel it comes from, and a walk over the lattice reads at each voxel what a
cursor reads that is put there directly.
-/
namespace Regrid

section Steps

variable {σ ε β γ : Type} {t : ExceptT ε (StateM σ) β} {s s' : σ}

theorem run_bind_ok {x : β} (h : StateT.run (ExceptT.run t) s = (.ok x, s')) (f : β → ExceptT ε (StateM σ) γ) :
    StateT.run (ExceptT.run (t >>= f)) s = StateT.run (ExceptT.run (f x)) s' := by
  rw [ExceptT.run_bind, StateT.run_bind, h]
  rfl

theorem run_bind_error {e : ε} (h : StateT.run (ExceptT.run t) s = (.error e, s')) (f : β → ExceptT ε (StateM σ) γ) :
    StateT.run (ExceptT.run (t >>= f)) s = (.error e, s') := by
  rw [ExceptT.run_bind, StateT.run_bind, h]
  rfl

/-- **What follows without a look at the state** depends on the answer alone. -/
theorem fst_run_bind_lift (t : ExceptT ε (StateM σ) β) (f : β → Except ε γ) (s : σ) :
    (StateT.run (ExceptT.run (t >>= fun x => liftM (f x))) s).1 = (StateT.run (ExceptT.run t) s).1 >>= f := by
  cases h : StateT.run (ExceptT.run t) s with
  | mk x s' => cases x with
    | error e => rw [run_bind_error h]; rfl
    | ok x => rw [run_bind_ok h]; rfl

end Steps

namespace Walk

variable {α β γ : Type}

/-- **Taking the steps of a walk** from a cursor: the answer, and the cursor at the end. -/
def perform (w : Walk α β) (c : Cursor α) : Except (Fault α) β × Cursor α := StateT.run (ExceptT.run w) c

@[simp] theorem perform_pure (x : β) (c : Cursor α) : perform (pure x : Walk α β) c = (.ok x, c) := rfl

@[simp] theorem perform_lift (x : Except (Fault α) β) (c : Cursor α) : perform (liftM x : Walk α β) c = (x, c) := rfl

@[simp] theorem perform_get (c : Cursor α) : perform (get : Walk α (Cursor α)) c = (.ok c, c) := rfl

@[simp] theorem perform_modify (f : Cursor α → Cursor α) (c : Cursor α) :
    perform (modify f : Walk α PUnit) c = (.ok (), f c) := rfl

theorem perform_bind_ok {w : Walk α β} {c c' : Cursor α} {x : β} (h : perform w c = (.ok x, c')) (f : β → Walk α γ) :
    perform (w >>= f) c = perform (f x) c' := run_bind_ok h f

theorem perform_bind_error {w : Walk α β} {c c' : Cursor α} {e : Fault α} (h : perform w c = (.error e, c'))
    (f : β → Walk α γ) : perform (w >>= f) c = (.error e, c') := run_bind_error h f

theorem perform_map (f : β → γ) (w : Walk α β) (c : Cursor α) :
    perform (f <$> w) c = (f <$> (perform w c).1, (perform w c).2) := by
  rw [← bind_pure_comp]
  cases h : perform w c with
  | mk x c' => cases x with
    | error e => rw [perform_bind_error h]; rfl
    | ok y => rw [perform_bind_ok h]; rfl

/-- **A walk answers**: from every cursor with a property it gives one answer, and leaves a cursor with the property. -/
def Answers (P : Cursor α → Prop) (w : Walk α β) (x : Except (Fault α) β) : Prop :=
  ∀ c, P c → ∃ c', P c' ∧ perform w c = (x, c')

variable {P : Cursor α → Prop}

theorem Answers.pure (x : β) : Answers P (pure x) (.ok x) := fun c hc => ⟨c, hc, rfl⟩

theorem Answers.bind {w : Walk α β} {x : Except (Fault α) β} {f : β → Walk α γ} {g : β → Except (Fault α) γ}
    (hw : Answers P w x) (hf : ∀ y, Answers P (f y) (g y)) : Answers P (w >>= f) (x >>= g) := by
  intro c hc
  obtain ⟨c₁, hc₁, hrun⟩ := hw c hc
  cases x with
  | error e => exact ⟨c₁, hc₁, perform_bind_error hrun f⟩
  | ok y =>
    obtain ⟨c₂, hc₂, hrest⟩ := hf y c₁ hc₁
    exact ⟨c₂, hc₂, (perform_bind_ok hrun f).trans hrest⟩

theorem Answers.list_mapM {f : β → Walk α γ} {g : β → Except (Fault α) γ} : ∀ {l : List β},
    (∀ x ∈ l, Answers P (f x) (g x)) → Answers P (l.mapM f) (l.mapM g)
  | [], _ => Answers.pure []
  | x :: l, h => by
    rw [List.mapM_cons, List.mapM_cons]
    refine Answers.bind (h x List.mem_cons_self) fun y => ?_
    refine Answers.bind (Answers.list_mapM fun z hz => h z (List.mem_cons_of_mem x hz)) fun ys => ?_
    exact Answers.pure (y :: ys)

theorem Answers.buildM {s : Shape} {f : List Nat → Walk α β} {g : List Nat → Except (Fault α) β}
    (h : ∀ index, s.Inside index → Answers P (f index) (g index)) :
    Answers P (Tensor.buildM s f) (Tensor.buildM s g) := by
  have hcells : Answers P (s.indexVector.mapM f) (s.indexVector.mapM g) := by
    intro c hc
    obtain ⟨c', hc', hlist⟩ := Answers.list_mapM (fun x hx => h x (Shape.mem_indexVector.1 hx)) c hc
    rw [← Tensor.toList_mapM, ← Tensor.toList_mapM, perform_map] at hlist
    obtain ⟨hfst, hsnd⟩ := Prod.mk.inj hlist
    exact ⟨c', hc', Prod.ext (Tensor.eq_of_map_toList hfst) hsnd⟩
  exact Answers.bind hcells fun cells => Answers.pure (⟨s, cells⟩ : Tensor β)

end Walk

namespace Cursor

variable {α : Type}

/-- **The cursor at a voxel.** -/
def ofVoxel (voxel : List Nat) : Cursor α :=
  ⟨Vector.ofFn fun i : Fin 3 => .int ((voxel[i.val]?).getD 0), (voxel.drop 3).map fun i : Nat => .int i⟩

theorem toList_ofVoxel {voxel : List Nat} (h : 3 ≤ voxel.length) :
    (ofVoxel voxel : Cursor α).toList = voxel.map fun i : Nat => .int i := by
  obtain ⟨x, y, z, rest, rfl⟩ : ∃ x y z rest, voxel = x :: y :: z :: rest := by
    match voxel, h with
    | x :: y :: z :: rest, _ => exact ⟨x, y, z, rest, rfl⟩
  simp [ofVoxel, toList, Vector.toList_ofFn, List.ofFn_succ]

theorem toList_injective {c c' : Cursor α} (h : c.toList = c'.toList) : c = c' := by
  obtain ⟨spatial, series⟩ := c
  obtain ⟨spatial', series'⟩ := c'
  have hlen : spatial.toList.length = spatial'.toList.length := by simp
  obtain ⟨hs, hl⟩ := List.append_inj h hlen
  have hspatial : spatial = spatial' := Vector.toList_inj.1 hs
  have hseries : series = series' := hl
  rw [hspatial, hseries]

theorem set_ofVoxel {voxel : List Nat} (h : 3 ≤ voxel.length) (axis i : Nat) :
    (ofVoxel voxel : Cursor α).set axis (.int i) = ofVoxel (voxel.set axis i) := by
  apply toList_injective
  rw [toList_set, toList_ofVoxel h, toList_ofVoxel (by simpa using h), List.map_set]

theorem reset_ofVoxel (voxel : List Nat) : (ofVoxel voxel : Cursor α).reset = start (voxel.length - 3) := by
  simp [reset, ofVoxel]

theorem start_eq_ofVoxel (n : Nat) : (start n : Cursor α) = ofVoxel (List.replicate (3 + n) 0) := by
  apply toList_injective
  rw [toList_ofVoxel (by simp)]
  simp [start, toList, ← List.replicate_append_replicate]

end Cursor

namespace View

variable {α : Type} {v : View α}

open Walk

theorem axisSlot_natCast {c : Cursor α} {axis : Nat} (h : axis < c.axes) : axisSlot c axis = .ok axis := by
  have hbound : axis < if (axis : Int) < 3 then 3 else c.axes := by
    split <;> omega
  have hslot : Shape.axis? (if (axis : Int) < 3 then 3 else c.axes) axis = some axis := by
    rw [Shape.axis?, if_pos (Int.natCast_nonneg axis), if_pos (by exact_mod_cast hbound), Int.toNat_natCast]
  rw [axisSlot, hslot]
  rfl

theorem lt_axes_of_get? {c : Cursor α} {axis : Nat} {v : Number α} (h : c.get? axis = some v) : axis < c.axes := by
  rw [← Cursor.length_toList]
  exact (List.getElem?_eq_some_iff.1 h).1

theorem perform_index {c : Cursor α} {axis : Nat} {v : Number α} (h : c.get? axis = some v) :
    perform (index axis) c = (.ok v, c) := by
  unfold index
  rw [perform_bind_ok (perform_get c), axisSlot_natCast (lt_axes_of_get? h), perform_bind_ok (perform_lift _ c), h]
  rfl

/-- **A voxel whose indices can be counted.** -/
def Countable (voxel : List Nat) : Prop := ∀ i ∈ voxel, i < Shape.countless

/-- **A cursor stands at a voxel** of a lattice with a number of axes. -/
def AtVoxel (axes : Nat) (c : Cursor α) : Prop := ∃ voxel, voxel.length = axes ∧ c = .ofVoxel voxel

theorem atVoxel_start (n : Nat) : AtVoxel (3 + n) (Cursor.start n : Cursor α) :=
  ⟨List.replicate (3 + n) 0, List.length_replicate, Cursor.start_eq_ofVoxel n⟩

theorem AtVoxel.reset_eq {c : Cursor α} (h : AtVoxel v.extent.axes c) : c.reset = v.start := by
  obtain ⟨voxel, hlen, rfl⟩ := h
  rw [Cursor.reset_ofVoxel, hlen, Extent.axes, Nat.add_sub_cancel_left]
  rfl

theorem countable_of_inside [Capacity] {voxel : List Nat} (h : v.extent.toShape.Inside voxel)
    (hroom : (Shape.reserve v.extent.toShape : Except (Fault α) Unit) = .ok ()) : Countable voxel :=
  h.lt_countless hroom

variable [Scalar α]

theorem perform_moveIndex {c : Cursor α} {axis : Nat} {o : Int} (h : c.get? axis = some (.int o)) (k : Int) :
    perform (moveIndex axis (.int k)) c = (.ok (), c.set axis (.int (o + k))) := by
  have hsum : (Number.int o : Number α).add (.int k) = .ok (.int (o + k)) := rfl
  unfold moveIndex
  rw [perform_bind_ok (perform_index h), hsum, perform_bind_ok (perform_lift _ c), perform_bind_ok (perform_get c),
    axisSlot_natCast (lt_axes_of_get? h), perform_bind_ok (perform_lift _ c)]
  rfl

theorem perform_setIndex {c : Cursor α} {axis : Nat} {o : Int} (h : c.get? axis = some (.int o)) (i : Int) :
    perform (setIndex axis (.int i)) c = (.ok (), c.set axis (.int i)) := by
  have hstep : (Number.int i : Number α).add (Number.neg (.int o)) = .ok (.int (i + -o)) := rfl
  have hsum : o + (i + -o) = i := by omega
  unfold setIndex
  rw [perform_bind_ok (perform_index h), hstep, perform_bind_ok (perform_lift _ c), perform_moveIndex h, hsum]

/-- **A move along one axis** to the index of a voxel, unless the cursor is there. -/
def moveAxis (i axis : Nat) : Walk α Unit := do
  if !(← index axis).equals i then setIndex axis (.int i)

theorem perform_moveAxis (pre post : List Nat) {o i : Nat} (hlen : 3 ≤ (pre ++ o :: post).length) :
    perform (moveAxis i pre.length : Walk α Unit) (Cursor.ofVoxel (pre ++ o :: post)) =
      (.ok (), Cursor.ofVoxel (pre ++ i :: post)) := by
  have hget : (Cursor.ofVoxel (pre ++ o :: post) : Cursor α).get? pre.length = some (.int o) := by
    rw [Cursor.get?, Cursor.toList_ofVoxel hlen]
    simp
  rw [moveAxis, perform_bind_ok (perform_index hget)]
  by_cases hthere : o = i
  · subst hthere
    simp [Number.equals]
  · rw [if_pos (by simpa [Number.equals] using hthere), perform_setIndex hget, Cursor.set_ofVoxel hlen]
    simp

/-- **The moves along the last axes** take a cursor to a voxel that it agrees with along the axes before. -/
theorem perform_moveTo_suffix : ∀ (pre : List Nat) {post old : List Nat}, old.length = post.length →
    3 ≤ (pre ++ post).length →
    perform ((post.zip (List.range' pre.length post.length)).forM fun (i, axis) => (moveAxis i axis : Walk α Unit))
      (Cursor.ofVoxel (pre ++ old)) = (.ok (), Cursor.ofVoxel (pre ++ post))
  | pre, [], [], _, _ => rfl
  -- on the axes that are left, those before them agreeing already
  | pre, i :: post, o :: old, hsize, hlen => by
    have hstep := perform_moveAxis (α := α) (o := o) (i := i) pre old (by simp at hlen hsize ⊢; omega)
    have hrest := perform_moveTo_suffix (pre ++ [i]) (by simpa using hsize) (by simpa using hlen)
    rw [List.length_append, List.length_singleton, List.append_assoc, List.append_assoc] at hrest
    rw [List.length_cons, List.range'_succ, List.zip_cons_cons]
    exact (perform_bind_ok hstep _).trans hrest

theorem perform_moveTo {voxel old : List Nat} (hsize : old.length = voxel.length) (hlen : 3 ≤ voxel.length) :
    perform (moveTo voxel : Walk α Unit) (Cursor.ofVoxel old) = (.ok (), Cursor.ofVoxel voxel) := by
  have h := perform_moveTo_suffix (α := α) [] hsize hlen
  rw [moveTo, List.range_eq_range']
  exact h

theorem perform_value (c : Cursor α) : perform v.value c = (v.valueAt c, c) := by
  unfold value
  exact perform_bind_ok (perform_get c) _

/-- **The value at a voxel**, as a cursor reads it that is put there. -/
def readAt (v : View α) (voxel : List Nat) : Except (Fault α) α := do (← v.valueAt (.ofVoxel voxel)).toReal

/-- **A step of a walk over a lattice** reads the voxel it moves to. -/
theorem answers_step {voxel : List Nat} (h : v.extent.toShape.Inside voxel) : Answers (AtVoxel v.extent.axes) (do
      moveTo voxel
      (← v.value).toReal) (v.readAt voxel) := by
  rintro c ⟨old, hold, rfl⟩
  have hlen : voxel.length = v.extent.axes := by rw [h.length_eq, Extent.length_toShape]
  have haxes : 3 ≤ voxel.length := by rw [hlen, Extent.axes]; omega
  refine ⟨.ofVoxel voxel, ⟨voxel, hlen, rfl⟩, ?_⟩
  have hvalue := perform_value (v := v) (.ofVoxel voxel)
  rw [perform_bind_ok (perform_moveTo (hold.trans hlen.symm) haxes), readAt]
  -- a fault of the reading is given after the move, so that the cursor is at the voxel either way
  cases hr : v.valueAt (.ofVoxel voxel) with
  | error e =>
    rw [hr] at hvalue
    exact perform_bind_error hvalue _
  | ok r =>
    rw [hr] at hvalue
    exact perform_bind_ok hvalue _

/-- **The values of the block at a place in the series.** -/
def blockAt (v : View α) (place : List Nat) : Except (Fault α) (Tensor α) :=
  let series : List (Literal α) := place.map fun i : Nat => .number (.int i)
  if v.plan.active then v.averagedBlock series (lattice v.extent.spatial)
  else v.plainBlock series (lattice v.extent.spatial)

/-- **The values of all voxels**, gathered from the blocks. -/
def gather (v : View α) (blocks : Tensor (Tensor α)) : Tensor α :=
  Tensor.build v.extent.toShape fun voxel =>
    ((blocks.get? (voxel.drop 3)).bind fun block => block.get? (voxel.take 3)).getD Scalar.nan

/-- **A step of a walk over the series** evaluates the block of the place it moves to. -/
theorem answers_block {place : List Nat} (h : Shape.Inside v.extent.series place) :
    Answers (fun c => c.series.length = v.extent.series.length) (do
      modify fun c => { c with series := place.map fun i : Nat => .int i }
      let series := (← get).place
      if v.plan.active then v.averagedBlock series (lattice v.extent.spatial)
      else v.plainBlock series (lattice v.extent.spatial)) (v.blockAt place) := by
  intro c _
  let c' : Cursor α := { c with series := place.map fun i : Nat => .int i }
  have hplace : c'.place = place.map fun i : Nat => .number (.int i) := by
    simp [c', Cursor.place]
  refine ⟨c', by simpa [c'] using h.length_eq, ?_⟩
  rw [perform_bind_ok (perform_modify _ c), perform_bind_ok (perform_get c'), hplace, blockAt]
  by_cases hactive : v.plan.active = true
  · rw [if_pos hactive, if_pos hactive, perform_lift]
  · rw [if_neg hactive, if_neg hactive, perform_lift]

variable [Capacity]

/-- **A walk over the lattice** reads every voxel as a cursor does that is put there. -/
theorem perform_copyReals (hroom : (Shape.reserve v.extent.toShape : Except (Fault α) Unit) = .ok ()) {c : Cursor α}
    (hc : c.axes = v.extent.axes) : ∃ c', AtVoxel v.extent.axes c' ∧
      perform v.copyReals c = perform (liftM (Tensor.buildM v.extent.toShape v.readAt) >>= fun t =>
        View.reset >>= fun _ => pure t) c' := by
  have hreset : c.reset = Cursor.start v.extent.series.length := by
    have hseries : c.series.length = v.extent.series.length := Nat.add_left_cancel hc
    rw [Cursor.reset, hseries]
  -- the walk starts at the first voxel wherever the cursor was, and stands at a voxel after each step
  obtain ⟨c', hc', hrun⟩ := Answers.buildM (fun index hi => answers_step hi) _
    (atVoxel_start (α := α) v.extent.series.length)
  refine ⟨c', hc', ?_⟩
  unfold copyReals
  rw [hroom, perform_bind_ok (perform_lift _ c)]
  unfold View.reset
  rw [perform_bind_ok (perform_modify _ c), hreset]
  cases hvalues : Tensor.buildM v.extent.toShape v.readAt with
  | error e =>
    rw [hvalues] at hrun
    rw [perform_bind_error hrun, perform_bind_error (perform_lift _ _)]
  | ok t =>
    rw [hvalues] at hrun
    rw [perform_bind_ok hrun, perform_bind_ok (perform_lift _ _)]

theorem copyReals_of_ok (hroom : (Shape.reserve v.extent.toShape : Except (Fault α) Unit) = .ok ()) {c : Cursor α}
    (hc : c.axes = v.extent.axes) {t : Tensor α} (h : Tensor.buildM v.extent.toShape v.readAt = .ok t) :
    perform v.copyReals c = (.ok t, v.start) := by
  obtain ⟨c', hc', hrun⟩ := perform_copyReals hroom hc
  rw [hrun, h, perform_bind_ok (perform_lift _ _)]
  unfold View.reset
  rw [perform_bind_ok (perform_modify _ c'), hc'.reset_eq, perform_pure]

theorem copyReals_of_error (hroom : (Shape.reserve v.extent.toShape : Except (Fault α) Unit) = .ok ()) {c : Cursor α}
    (hc : c.axes = v.extent.axes) {e : Fault α} (h : Tensor.buildM v.extent.toShape v.readAt = .error e) :
    (perform v.copyReals c).1 = .error e := by
  obtain ⟨c', -, hrun⟩ := perform_copyReals hroom hc
  rw [hrun, h, perform_bind_error (perform_lift _ _)]

/-- **A walk over the series** gathers the blocks of all places. -/
theorem perform_resampleReals (hroom : (Shape.reserve v.extent.toShape : Except (Fault α) Unit) = .ok ())
    {c : Cursor α} (hc : c.axes = v.extent.axes) : ∃ c' : Cursor α, c'.reset = v.start ∧
      perform v.resampleReals c = perform (liftM (Tensor.buildM v.extent.series v.blockAt) >>= fun blocks =>
        View.reset >>= fun _ => pure (v.gather blocks)) c' := by
  have hlattice : (Shape.reserveLattice v.extent.spatial.toList : Except (Fault α) Unit) = .ok () :=
    Shape.reserveLattice_eq_ok (Shape.reserve_of_append hroom)
  have hseries : c.reset.series.length = v.extent.series.length := by
    simpa [Cursor.reset, Cursor.start] using Nat.add_left_cancel hc
  obtain ⟨c', hc', hrun⟩ := Answers.buildM (fun index hi => answers_block hi) c.reset hseries
  refine ⟨c', congrArg Cursor.start hc', ?_⟩
  unfold resampleReals
  rw [hlattice, perform_bind_ok (perform_lift _ c), hroom, perform_bind_ok (perform_lift _ c)]
  unfold View.reset
  rw [perform_bind_ok (perform_modify _ c)]
  cases hblocks : Tensor.buildM v.extent.series v.blockAt with
  | error e =>
    rw [hblocks] at hrun
    exact (perform_bind_error hrun _).trans (perform_bind_error (perform_lift _ _) _).symm
  | ok t =>
    rw [hblocks] at hrun
    exact (perform_bind_ok hrun _).trans (perform_bind_ok (perform_lift _ _) _).symm

theorem resampleReals_of_ok (hroom : (Shape.reserve v.extent.toShape : Except (Fault α) Unit) = .ok ())
    {c : Cursor α} (hc : c.axes = v.extent.axes) {blocks : Tensor (Tensor α)}
    (h : Tensor.buildM v.extent.series v.blockAt = .ok blocks) :
    perform v.resampleReals c = (.ok (v.gather blocks), v.start) := by
  obtain ⟨c', hreset, hrun⟩ := perform_resampleReals hroom hc
  rw [hrun, h, perform_bind_ok (perform_lift _ _)]
  unfold View.reset
  rw [perform_bind_ok (perform_modify _ c'), hreset, perform_pure]

theorem resampleReals_of_error (hroom : (Shape.reserve v.extent.toShape : Except (Fault α) Unit) = .ok ())
    {c : Cursor α} (hc : c.axes = v.extent.axes) {e : Fault α}
    (h : Tensor.buildM v.extent.series v.blockAt = .error e) : (perform v.resampleReals c).1 = .error e := by
  obtain ⟨c', -, hrun⟩ := perform_resampleReals hroom hc
  rw [hrun, h, perform_bind_error (perform_lift _ _)]

end View
end Regrid
