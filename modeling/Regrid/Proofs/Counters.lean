import Mathlib
import Regrid.Proofs.Agreement
/-!
# Counters — a cursor after any history

Moves, assignments and resets act on each index of a cursor as on a counter of its own, and reading a value acts on
none.  A driver starts at the first voxel wherever the cursor is, so that what was done with the cursor before cannot be
seen in the array (`View.index_after`).
-/
namespace Regrid

namespace Walk

variable {α β γ : Type} {P : Cursor α → Prop}

/-- **A walk keeps** a property of the cursor, whether it answers or fails. -/
def Keeps (P : Cursor α → Prop) (w : Walk α β) : Prop := ∀ c, P c → P (perform w c).2

theorem Keeps.pure (x : β) : Keeps P (pure x) := fun _ h => h

theorem Keeps.lift (x : Except (Fault α) β) : Keeps P (liftM x) := fun _ h => h

theorem Keeps.modify {f : Cursor α → Cursor α} (hf : ∀ c, P c → P (f c)) : Keeps P (modify f : Walk α PUnit) := hf

theorem Keeps.bind {w : Walk α β} {f : β → Walk α γ} (hw : Keeps P w) (hf : ∀ x, Keeps P (f x)) :
    Keeps P (w >>= f) := by
  intro c hc
  have hnext := hw c hc
  cases h : perform w c with
  | mk x c' =>
    rw [h] at hnext
    cases x with
    | error e => rwa [perform_bind_error h]
    | ok x =>
      rw [perform_bind_ok h]
      exact hf x c' hnext

/-- **Looking at the cursor** first, whose property may then be used. -/
theorem Keeps.bind_get {f : Cursor α → Walk α β} (hf : ∀ c, P c → Keeps P (f c)) : Keeps P (get >>= f) := by
  intro c hc
  rw [perform_bind_ok (perform_get c)]
  exact hf c hc c hc

theorem Keeps.list_mapM {f : β → Walk α γ} : ∀ {l : List β}, (∀ x ∈ l, Keeps P (f x)) → Keeps P (l.mapM f)
  | [], _ => Keeps.pure []
  | x :: _, h => by
    rw [List.mapM_cons]
    refine (h x List.mem_cons_self).bind fun y => ?_
    refine (Keeps.list_mapM fun z hz => h z (List.mem_cons_of_mem x hz)).bind fun ys => ?_
    exact Keeps.pure (y :: ys)

theorem Keeps.list_forM {f : β → Walk α PUnit} (h : ∀ x, Keeps P (f x)) : ∀ l : List β, Keeps P (l.forM f)
  | [] => Keeps.pure PUnit.unit
  | x :: l => (h x).bind fun _ => Keeps.list_forM h l

theorem Keeps.buildM {s : Shape} {f : List Nat → Walk α β} (h : ∀ index, s.Inside index → Keeps P (f index)) :
    Keeps P (Tensor.buildM s f) := by
  have hcells : Keeps P (s.indexVector.mapM f) := by
    intro c hc
    have hlist := Keeps.list_mapM (fun x hx => h x (Shape.mem_indexVector.1 hx)) c hc
    rwa [← Tensor.toList_mapM, perform_map] at hlist
  exact hcells.bind fun cells => Keeps.pure (⟨s, cells⟩ : Tensor β)

end Walk

namespace View

variable {α : Type}

open Walk

/-- **What can be done with a cursor** over some axes. -/
inductive Operation (axes : Nat)
  | move (axis : Fin axes) (step : Int)
  | assign (axis : Fin axes) (i : Int)
  | reset
  | read

namespace Operation

/-- **The counter of an axis** after an operation. -/
def count {axes : Nat} (axis : Fin axes) (n : Int) : Operation axes → Int
  | move k step => if k = axis then n + step else n
  | assign k i => if k = axis then i else n
  | reset => 0
  | read => n

/-- **An operation as steps of a cursor** over a view.  A value that is read is left alone. -/
def walk [Scalar α] (v : View α) : Operation v.extent.axes → Walk α Unit
  | move axis step => moveIndex axis (.int step)
  | assign axis i => setIndex axis (.int i)
  | reset => View.reset
  | read => (fun _ => ()) <$> v.value

end Operation

/-- **A cursor is at counters**: the index of each axis is the integer that its counter is at. -/
def AtCounters {axes : Nat} (counters : Fin axes → Int) (c : Cursor α) : Prop :=
  c.toList = List.ofFn fun axis => .int (counters axis)

section AtCounters

variable {axes : Nat} {counters : Fin axes → Int} {c : Cursor α}

theorem AtCounters.axes_eq (h : AtCounters counters c) : c.axes = axes := by
  rw [← Cursor.length_toList, h, List.length_ofFn]

theorem AtCounters.get? (h : AtCounters counters c) (axis : Fin axes) : c.get? axis = some (.int (counters axis)) := by
  rw [Cursor.get?, h, List.getElem?_ofFn, dif_pos axis.isLt]

theorem AtCounters.set (h : AtCounters counters c) (axis : Fin axes) (i : Int) :
    AtCounters (fun k => if axis = k then i else counters k) (c.set axis (.int i)) := by
  rw [AtCounters, Cursor.toList_set, h]
  refine List.ext_getElem (by simp) fun n hn hn' => ?_
  simp [List.getElem_set, Fin.ext_iff, apply_ite (Number.int (α := α))]

theorem atCounters_reset (h : c.axes = axes) : AtCounters (fun _ : Fin axes => 0) c.reset := by
  rw [AtCounters, Cursor.toList_reset, h, List.ofFn_const]

end AtCounters

theorem atCounters_start (v : View α) : AtCounters (fun _ : Fin v.extent.axes => 0) v.start := by
  have hreset : v.start.reset = v.start := by simp [start, Cursor.start, Cursor.reset]
  rw [← hreset]
  exact atCounters_reset v.start_axes

theorem AtCounters.eq_start {v : View α} {c : Cursor α} (h : AtCounters (fun _ : Fin v.extent.axes => 0) c) :
    c = v.start :=
  Cursor.toList_injective (h.trans (atCounters_start v).symm)

theorem reset_eq_start {v : View α} {c : Cursor α} (h : c.axes = v.extent.axes) : c.reset = v.start :=
  (atCounters_reset h).eq_start

section Restarts

variable {β γ : Type} {v : View α}

/-- **A walk restarts**: its answer is the same from every cursor over the view, and it ends at the first voxel if it
has one. -/
def Restarts (v : View α) (w : Walk α β) : Prop := ∀ c : Cursor α, c.axes = v.extent.axes →
  (perform w c).1 = (perform w v.start).1 ∧ ∀ y, (perform w c).1 = .ok y → (perform w c).2 = v.start

/-- **Steps between two resets** restart. -/
theorem restarts_between {w : Walk α β} (hw : Keeps (fun c : Cursor α => c.axes = v.extent.axes) w) (f : β → γ) :
    v.Restarts (View.reset >>= fun _ => w >>= fun x => View.reset >>= fun _ => pure (f x)) := by
  intro c hc
  have hfirst : ∀ c : Cursor α, c.axes = v.extent.axes → perform View.reset c = (.ok (), v.start) := fun c hc => by
    rw [View.reset, perform_modify, reset_eq_start hc]
  -- the first reset hides where the cursor was, and the steps after it keep the axes that the second one sets to zero
  rw [perform_bind_ok (hfirst c hc), perform_bind_ok (hfirst v.start v.start_axes)]
  refine ⟨rfl, fun y hy => ?_⟩
  have haxes := hw v.start v.start_axes
  cases hrun : perform w v.start with
  | mk x c' =>
    rw [hrun] at haxes
    cases x with
    | error e =>
      rw [perform_bind_error hrun] at hy
      cases hy
    | ok x => rw [perform_bind_ok hrun, perform_bind_ok (hfirst c' haxes), perform_pure]

theorem Restarts.lift_bind {w : Walk α β} (hw : v.Restarts w) (x : Except (Fault α) γ) :
    v.Restarts (liftM x >>= fun _ => w) := by
  intro c hc
  cases x with
  | error e =>
    rw [perform_bind_error (perform_lift _ c), perform_bind_error (perform_lift _ v.start)]
    exact ⟨rfl, nofun⟩
  | ok x =>
    rw [perform_bind_ok (perform_lift _ c), perform_bind_ok (perform_lift _ v.start)]
    exact hw c hc

theorem Restarts.bind_lift {w : Walk α β} (hw : v.Restarts w) (f : β → Except (Fault α) γ) :
    v.Restarts (w >>= fun x => liftM (f x)) := by
  intro c hc
  obtain ⟨hsame, hend⟩ := hw c hc
  have hfst : ∀ c, (perform (w >>= fun x => liftM (f x)) c).1 = (perform w c).1 >>= f := fst_run_bind_lift w f
  refine ⟨by rw [hfst, hfst, hsame], fun y hy => ?_⟩
  cases hrun : perform w c with
  | mk x c' =>
    rw [hrun] at hend
    cases x with
    | error e =>
      rw [perform_bind_error hrun] at hy
      cases hy
    | ok x =>
      rw [perform_bind_ok hrun, perform_lift]
      exact hend x rfl

end Restarts

variable [Scalar α] {v : View α}

theorem perform_read (c : Cursor α) : (perform (Operation.read.walk v) c).2 = c := by
  rw [Operation.walk, perform_map, perform_value]

/-- **One operation** moves the counters, each on its own; only a reading can fail. -/
theorem AtCounters.step {counters : Fin v.extent.axes → Int} {c : Cursor α} (h : AtCounters counters c)
    (o : Operation v.extent.axes) :
    AtCounters (fun axis => o.count axis (counters axis)) (perform (o.walk v) c).2 ∧
      (o ≠ .read → (perform (o.walk v) c).1 = .ok ()) := by
  cases o with
  | move axis step =>
    rw [Operation.walk, perform_moveIndex (h.get? axis)]
    refine ⟨?_, fun _ => rfl⟩
    have hset := h.set axis (counters axis + step)
    refine hset.trans (congrArg List.ofFn (funext fun k => congrArg Number.int ?_))
    simp only [Operation.count]
    split <;> simp_all
  | assign axis i =>
    rw [Operation.walk, perform_setIndex (h.get? axis)]
    exact ⟨h.set axis i, fun _ => rfl⟩
  | reset =>
    rw [Operation.walk, View.reset, perform_modify]
    exact ⟨atCounters_reset h.axes_eq, fun _ => rfl⟩
  | read =>
    rw [perform_read]
    exact ⟨h, fun hne => absurd rfl hne⟩

/-- **The cursor after a history** of operations, a reading that fails included. -/
def after (v : View α) (history : List (Operation v.extent.axes)) : Cursor α :=
  history.foldl (fun c o => (perform (o.walk v) c).2) v.start

/-- **The counter of an axis after a history** of operations. -/
def counter {axes : Nat} (history : List (Operation axes)) (axis : Fin axes) : Int :=
  history.foldl (fun n o => o.count axis n) 0

/-- **A history** leaves the cursor where the counters are. -/
theorem atCounters_after (v : View α) (history : List (Operation v.extent.axes)) :
    AtCounters (counter history) (v.after history) := by
  have hrun : ∀ (history : List (Operation v.extent.axes)) (counters : Fin v.extent.axes → Int) (c : Cursor α),
      AtCounters counters c → AtCounters (fun axis => history.foldl (fun n o => o.count axis n) (counters axis))
        (history.foldl (fun c o => (perform (o.walk v) c).2) c) := by
    intro history
    induction history with
    | nil => exact fun _ _ h => h
    | cons o history ih => exact fun _ _ h => ih _ _ (h.step o).1
  exact hrun history (fun _ => 0) v.start (atCounters_start v)

section Drivers

variable {n : Nat}

omit [Scalar α] in
theorem keeps_index (axis : Int) : Keeps (fun c : Cursor α => c.axes = n) (index axis) := by
  refine Keeps.bind_get fun c _ => (Keeps.lift _).bind fun slot => ?_
  cases c.get? slot with
  | some x => exact Keeps.pure x
  | none => exact Keeps.lift (.error .indexOutside)

theorem keeps_moveIndex (axis : Int) (step : Number α) :
    Keeps (fun c : Cursor α => c.axes = n) (moveIndex axis step) := by
  refine (keeps_index axis).bind fun x => (Keeps.lift _).bind fun y => Keeps.bind_get fun c hc => ?_
  exact (Keeps.lift _).bind fun slot _ _ => (Cursor.axes_set c slot y).trans hc

theorem keeps_moveTo (voxel : List Nat) : Keeps (fun c : Cursor α => c.axes = n) (moveTo voxel) := by
  refine Keeps.list_forM (fun p => (keeps_index _).bind fun current => ?_) _
  split
  · exact (keeps_index _).bind fun x => (Keeps.lift _).bind fun y => keeps_moveIndex _ _
  · exact Keeps.pure _

theorem keeps_value (v : View α) : Keeps (fun c : Cursor α => c.axes = n) v.value := fun c hc => by
  rwa [perform_value]

end Drivers

theorem restarts_copyReals [Capacity] (v : View α) : v.Restarts v.copyReals := by
  refine Restarts.lift_bind (restarts_between (Keeps.buildM fun voxel _ => ?_) id) _
  exact (keeps_moveTo voxel).bind fun _ => (keeps_value v).bind fun _ => Keeps.lift _

theorem restarts_resampleReals [Capacity] (v : View α) : v.Restarts v.resampleReals := by
  refine Restarts.lift_bind (Restarts.lift_bind (restarts_between (Keeps.buildM fun place hplace => ?_) v.gather) _) _
  refine (Keeps.modify fun c _ => ?_).bind fun _ => Keeps.bind_get fun c _ => ?_
  · simp only [Cursor.axes, List.length_map, hplace.length_eq, Extent.axes]
  · split
    · exact Keeps.lift _
    · exact Keeps.lift _

/-- **The driver of a view**, block by block or one value at a time. -/
def drive [Capacity] (v : View α) (vectorize : Bool) (dtype : Literal α) : Walk α (Volume α) :=
  if vectorize then v.resample dtype else v.copy dtype

theorem restarts_drive [Capacity] (v : View α) (vectorize : Bool) (dtype : Literal α) :
    v.Restarts (v.drive vectorize dtype) := by
  cases vectorize with
  | false => exact (restarts_copyReals v).bind_lift fun t => store t dtype
  | true => exact (restarts_resampleReals v).bind_lift fun t => store t dtype

/-- **The indices after any history** of moves, assignments, resets and readings are counters, one for each axis, which
all operations but a reading succeed in moving.  A driver then gives what it gives on a new view, and leaves every
index at zero. -/
theorem index_after [Capacity] (v : View α) (history : List (Operation v.extent.axes)) :
    (∀ axis : Fin v.extent.axes,
      perform (index axis) (v.after history) = (.ok (.int (counter history axis)), v.after history)) ∧
    (∀ o : Operation v.extent.axes, o ≠ .read → (perform (o.walk v) (v.after history)).1 = .ok ()) ∧
    ∀ (vectorize : Bool) (dtype : Literal α),
      (perform (v.drive vectorize dtype) (v.after history)).1 = (perform (v.drive vectorize dtype) v.start).1 ∧
      ∀ t, (perform (v.drive vectorize dtype) (v.after history)).1 = .ok t → ∀ axis : Fin v.extent.axes,
        perform (index axis) (perform (v.drive vectorize dtype) (v.after history)).2 =
          (.ok (.int 0), (perform (v.drive vectorize dtype) (v.after history)).2) := by
  have hcounters := atCounters_after v history
  refine ⟨fun axis => perform_index (hcounters.get? axis), fun o ho => (hcounters.step o).2 ho,
    fun vectorize dtype => ?_⟩
  obtain ⟨hsame, hend⟩ := restarts_drive v vectorize dtype (v.after history) hcounters.axes_eq
  refine ⟨hsame, fun t ht axis => ?_⟩
  rw [hend t ht]
  exact perform_index ((atCounters_start v).get? axis)

example : counter [.move 0 4, .assign 3 (-7), .move 0 (-9), .read, .move 3 2] (0 : Fin 4) = -5 := by decide

end View
end Regrid
