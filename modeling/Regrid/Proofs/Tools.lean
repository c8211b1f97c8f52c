import Mathlib
import Regrid.Proofs.Options
/-!
# Tools — from a volume that is given to the one that is written

A tool opens a volume, finds its grid and the output grid, and finishes by reslicing between them and writing what comes
out (`Tool.perform_resliceTo`).  With a converter, it gives the values back in a type of cells
(`Tool.fst_perform_resliceTo_converter`): on an array in memory, without a writer, in the type that the array has.  What
it reports on the way does not change the answer.
-/
namespace Regrid

namespace Task

variable {α β γ : Type}

theorem perform_bind_ok {t : Task α β} {w w' : Workspace α} {x : β} (h : perform t w = (.ok x, w'))
    (f : β → Task α γ) : perform (t >>= f) w = perform (f x) w' := run_bind_ok h f

theorem perform_bind_error {t : Task α β} {w w' : Workspace α} {e : Fault α} (h : perform t w = (.error e, w'))
    (f : β → Task α γ) : perform (t >>= f) w = (.error e, w') := run_bind_error h f

theorem fst_perform_lift (x : Except (Fault α) β) (w : Workspace α) : (perform (liftM x : Task α β) w).1 = x := by
  cases x <;> rfl

theorem fst_perform_lift_bind (x : Except (Fault α) β) (f : β → Task α γ) (w : Workspace α) :
    (perform (liftM x >>= f) w).1 = x >>= fun y => (perform (f y) w).1 := by
  cases x <;> rfl

theorem fst_perform_bind {t : Task α β} {f : β → Task α γ} {g : β → Except (Fault α) γ}
    (h : ∀ x w, (perform (f x) w).1 = g x) (w : Workspace α) : (perform (t >>= f) w).1 = (perform t w).1 >>= g := by
  cases ht : perform t w with
  | mk r w' =>
    cases r with
    | error e => rw [perform_bind_error ht]; rfl
    | ok x => rw [perform_bind_ok ht]; exact h x w'

theorem fst_perform_get_bind (f : Workspace α → Task α γ) (w : Workspace α) :
    (perform (get >>= f) w).1 = (perform (f w) w).1 := rfl

end Task

theorem Input.read_array {α : Type} [Scalar α] (x : Volume α) (files : FileTree α) :
    (Input.array x).read files .null = .ok (x, Info.ofArray x) := rfl

theorem Input.inspect_array {α : Type} [Scalar α] (x : Volume α) (files : FileTree α) :
    (Input.array x).inspect files = .ok (Info.ofArray x) := rfl

theorem Tensor.reshape?_self {β : Type} (t : Tensor β) : t.reshape? t.shape = some t := dif_pos rfl

namespace Shape

theorem count_append_ones (n : Nat) : ∀ s : Shape, count (s ++ List.replicate n 1) = count s
  | [] => by
    rw [List.nil_append, count_eq_prod, List.prod_replicate, Nat.one_pow]
    rfl
  | m :: s => by
    rw [List.cons_append, count, count_append_ones n s, count]

theorem count_padded (s : Shape) : s.count = s.padded.count := (count_append_ones _ s).symm

theorem padded_of_le {s : Shape} (h : 3 ≤ s.length) : s.padded = s := by
  rw [padded, Nat.sub_eq_zero_of_le h, List.replicate_zero, List.append_nil]

theorem length_padded (s : Shape) : 3 ≤ s.padded.length := by
  rw [padded, List.length_append, List.length_replicate]
  omega

theorem take_padded_append (s : Shape) : s.padded.take 3 ++ s.drop 3 = s.padded := by
  by_cases h : 3 ≤ s.length
  · rw [padded_of_le h, List.take_append_drop]
  · have hlength : s.padded.length = 3 := by
      rw [padded, List.length_append, List.length_replicate]
      omega
    rw [List.take_of_length_le hlength.le, List.drop_eq_nil_of_le (by omega), List.append_nil]

theorem offset?_append_ones (n : Nat) {s : Shape} {index : List Nat} (h : s.Inside index) :
    offset? (s ++ List.replicate n 1) (index ++ List.replicate n 0) = offset? s index := by
  induction h with
  | nil =>
    induction n with
    | zero => rfl
    | succ n ih =>
      rw [List.nil_append, List.nil_append] at ih
      have hstep : offset? (List.replicate (n + 1) 1) (List.replicate (n + 1) 0) =
          (offset? (List.replicate n 1) (List.replicate n 0)).map (0 * count (List.replicate n 1) + ·) := rfl
      rw [List.nil_append, List.nil_append, hstep, ih]
      simp [offset?]
  | cons hi _ ih =>
    simp only [List.cons_append, offset?, if_pos hi, ih, count_append_ones]

end Shape

/-- **A tensor with at least three axes**, of which the added ones have size one. -/
def Tensor.padded {β : Type} (t : Tensor β) : Tensor β :=
  ⟨t.shape.padded, t.shape.count_padded ▸ t.cells⟩

theorem Tensor.reshape?_padded {β : Type} (t : Tensor β) : t.reshape? t.shape.padded = some t.padded :=
  dif_pos t.shape.count_padded

theorem Tensor.padded_of_le {β : Type} {t : Tensor β} (h : 3 ≤ t.shape.length) : t.padded = t := by
  have hself := t.reshape?_padded
  rw [Shape.padded_of_le h, t.reshape?_self] at hself
  exact (Option.some.inj hself).symm

theorem Tensor.get?_padded {β : Type} {t : Tensor β} {index : List Nat} (h : t.shape.Inside index) :
    t.padded.get? (index ++ List.replicate (3 - t.shape.length) 0) = t.get? index := by
  obtain ⟨k, hk, -, -⟩ := h.exists_offset
  have hpadded : t.padded.shape.offset? (index ++ List.replicate (3 - t.shape.length) 0) = some k :=
    (Shape.offset?_append_ones _ h).trans hk
  have hcast : ∀ {m n : Nat} (h : m = n) (v : Vector β m), (h ▸ v : Vector β n).toList = v.toList := by
    rintro m _ rfl v
    rfl
  have hcells : t.padded.toList = t.toList := hcast t.shape.count_padded t.cells
  rw [get?_of_offset hpadded, get?_of_offset hk, hcells]

/-- **A volume with at least three axes**, of which the added ones have size one. -/
def Volume.padded {α : Type} (x : Volume α) : Volume α := ⟨x.dtype, x.cells.padded⟩

theorem Volume.padded_of_le {α : Type} {x : Volume α} (h : 3 ≤ x.shape.length) : x.padded = x :=
  congrArg (mk x.dtype) (Tensor.padded_of_le h)

/-- **A volume opens**: this is known about it, and these are its cells under a shape of at least three axes. -/
structure Input.Opens {α : Type} [Scalar α] (x : Input α) (files : FileTree α) (info : Info α) (cells : Volume α) :
    Prop where
  inspect : x.inspect files = .ok info
  axes : 3 ≤ info.shape.length
  read : ∃ stored, x.read files .null = .ok (stored, info) ∧
    stored.reshape? (info.shape.take 3 ++ stored.shape.drop 3) = some cells

theorem Input.Opens.spatial {α : Type} [Scalar α] {x : Input α} {files : FileTree α} {info : Info α} {cells : Volume α}
    (h : x.Opens files info cells) {e : Extent} (hshape : cells.shape = e.toShape) :
    info.shape.take 3 = e.spatial.toList := by
  obtain ⟨-, haxes, stored, -, hreshape⟩ := h
  obtain ⟨t, ht, rfl⟩ := Option.map_eq_some_iff.1 hreshape
  have hcells : t.shape = info.shape.take 3 ++ stored.shape.drop 3 := by
    unfold Tensor.reshape? at ht
    split at ht
    · cases ht
      rfl
    · cases ht
  have hsame : info.shape.take 3 ++ stored.shape.drop 3 = e.spatial.toList ++ e.series := hcells.symm.trans hshape
  exact (List.append_inj hsame (by simp [haxes])).1

theorem Input.opens_array {α : Type} [Scalar α] (x : Volume α) (files : FileTree α) :
    (Input.array x).Opens files (Info.ofArray x) x.padded := by
  refine ⟨inspect_array x files, Shape.length_padded _, x, read_array x files, ?_⟩
  have hshape : (Info.ofArray x).shape.take 3 ++ x.shape.drop 3 = x.cells.shape.padded :=
    Shape.take_padded_append x.shape
  rw [hshape, Volume.reshape?, Tensor.reshape?_padded]
  rfl

theorem Input.opens_array_of_le {α : Type} [Scalar α] {x : Volume α} (h : 3 ≤ x.shape.length) (files : FileTree α) :
    (Input.array x).Opens files (Info.ofArray x) x := by
  have hopens := opens_array x files
  rwa [Volume.padded_of_le h] at hopens

theorem Info.shape_ofArray {α : Type} [Scalar α] {x : Volume α} (h : 3 ≤ x.shape.length) :
    (Info.ofArray x).shape = x.shape := Shape.padded_of_le h

namespace Tool

variable {α : Type} [Scalar α] [LinearSolver α]

theorem fst_perform_resliceReported [Capacity] (x : Volume α) (input reference : Grid α) (o : ReslicingOptions α)
    (w : Workspace α) :
    (Task.perform (resliceReported x input reference o) w).1 = resliceArray x input (some reference) o := by
  unfold resliceReported resliceArray
  rw [Task.fst_perform_lift_bind]
  refine bind_congr fun v => ?_
  cases v.plan.active <;> rfl

omit [LinearSolver α] in
theorem inputGrid_of_isGiven {tool : Tool} {x : Volume α} {info : Info α} {affine : Literal α}
    (h : affine.isGiven = true) : tool.inputGrid x info affine = (do
      let transform ← AffineTransform.ofLiteral affine
      Grid.make (x.shape.map Int.ofNat) none (some transform)) := by
  unfold inputGrid
  rw [h]
  rfl

/-- **The orientation of a volume**: the one that is given, or else the one it has. -/
def orientation (o : ToolOptions α) (info : Info α) : Except (Fault α) (AffineTransform α) :=
  if o.inputAffine.isGiven then AffineTransform.ofLiteral o.inputAffine else .ok ⟨info.affine⟩

omit [LinearSolver α] in
theorem perform_inputGrid {tool : Tool} {o : ToolOptions α} {info : Info α} {cells : Volume α} {t : AffineTransform α}
    {input : Grid α} (hzooms : tool.readsZooms = true → o.inputAffine.isGiven = true)
    (horientation : orientation o info = .ok t)
    (hinput : Grid.make (cells.shape.map Int.ofNat) none (some t) = .ok input) (w : Workspace α) :
    Task.perform (tool.inputGrid cells info o.inputAffine) w = (.ok input, w) := by
  have hplain : ¬(!o.inputAffine.isGiven && tool.readsZooms) = true := by
    simp only [Bool.and_eq_true, Bool.not_eq_true', not_and, Bool.not_eq_true]
    intro hnone
    by_contra hreads
    rw [hzooms (Bool.eq_true_of_not_eq_false hreads)] at hnone
    cases hnone
  unfold inputGrid
  rw [if_neg hplain]
  unfold orientation at horientation
  split at horientation
  · next hgiven =>
    rw [if_pos hgiven, horientation]
    exact congrArg (·, w) hinput
  · next hgiven =>
    cases horientation
    rw [if_neg hgiven]
    exact congrArg (·, w) hinput

variable [Capacity]

/-- **The last steps of a tool**: reslicing between two grids, and writing what comes out. -/
def finish (tool : Tool) (o : ToolOptions α) (x : Input α) (info : Info α) (cells : Volume α)
    (input reference : Grid α) : Task α (Written α) := do
  let y ← resliceReported cells input reference o.reslicing
  (o.writer.getD (tool.standardWriter x)).write
    { FileOptions.none with affine := some (.ok reference.transform.matrix) } (FileHints.ofInfo info) y

/-- **A tool on a volume that opens** finds the grids and goes on to its last steps. -/
theorem perform_resliceTo_of_opens {tool : Tool} {o : ToolOptions α} {x : Input α} {w : Workspace α} {info : Info α}
    {cells : Volume α} (hopens : x.Opens w.files info cells) (hsurplus : o.surplus = false) (p : Placement α) :
    Task.perform (tool.resliceTo o x p) w = Task.perform (do
      let input ← tool.inputGrid cells info o.inputAffine
      let sizes ← p.sizes cells.shape
      let reference ← Grid.make sizes none (some (← p.transform input.transform))
      tool.finish o x info cells input reference) w := by
  obtain ⟨-, -, stored, hread, hreshape⟩ := hopens
  unfold resliceTo
  simp only [hsurplus, Bool.false_eq_true, if_false]
  refine (Task.perform_bind_ok (x := w) rfl _).trans ?_
  rw [hread]
  refine (Task.perform_bind_ok rfl _).trans ?_
  simp only [hreshape]
  rfl

theorem fst_perform_resliceTo_of_surplus {o : ToolOptions α} (hsurplus : o.surplus = true) (tool : Tool) (x : Input α)
    (p : Placement α) (w : Workspace α) : (Task.perform (tool.resliceTo o x p) w).1 = .error .wrongKind := by
  unfold resliceTo
  rw [if_pos hsurplus]
  rfl

/-- **A tool on a volume that opens** comes to its last steps once the grids are found. -/
theorem perform_resliceTo {tool : Tool} {o : ToolOptions α} {x : Input α} {w w' : Workspace α} {info : Info α}
    {cells : Volume α} {input reference : Grid α} {p : Placement α} {sizes : List Int} {t : AffineTransform α}
    (hopens : x.Opens w.files info cells) (hsurplus : o.surplus = false)
    (hinput : Task.perform (tool.inputGrid cells info o.inputAffine) w = (.ok input, w'))
    (hsizes : p.sizes cells.shape = .ok sizes) (htransform : p.transform input.transform = .ok t)
    (hreference : Grid.make sizes none (some t) = .ok reference) :
    Task.perform (tool.resliceTo o x p) w = Task.perform (tool.finish o x info cells input reference) w' := by
  rw [perform_resliceTo_of_opens hopens hsurplus]
  refine (Task.perform_bind_ok hinput _).trans ?_
  rw [hsizes]
  refine (Task.perform_bind_ok rfl _).trans ?_
  rw [htransform]
  refine (Task.perform_bind_ok rfl _).trans ?_
  rw [hreference]
  exact Task.perform_bind_ok rfl _

theorem run_reslice (o : ToolOptions α) (x : Input α) :
    reslice.run .none o x = reslice.resliceTo o x (Placement.ofOrientation o.outputAffine o.outputShape) := by
  rw [run_eq_runWith, ToolOptions.orElse_none]
  rfl

/-- **A tool for resizing** finds the output grid by what is known of the volume. -/
theorem perform_run_resizing {tool : Tool} (hreslice : tool ≠ .reslice) (hlike : tool ≠ .like)
    {making use : ToolOptions α} {x : Input α} {w : Workspace α} {info : Info α} {p : Placement α}
    (hinspect : x.inspect w.files = .ok info)
    (hplacement : Placement.ofResizing tool (use.orElse making) info = .ok p) :
    Task.perform (tool.run making use x) w = Task.perform (tool.resliceTo (use.orElse making) x p) w := by
  have hinspected : Task.perform (Task.inspect x) w = (.ok info, w) := by
    refine (Task.perform_bind_ok (x := w) rfl _).trans ?_
    rw [hinspect]
    rfl
  rw [run_eq_runWith]
  unfold runWith
  cases tool with
  | reslice => exact absurd rfl hreslice
  | like => exact absurd rfl hlike
  | resize | upsample | downsample | resizeShape | resizeVoxel =>
    refine (Task.perform_bind_ok hinspected _).trans ?_
    rw [hplacement]
    exact Task.perform_bind_ok rfl _

theorem fst_perform_finish_converter {tool : Tool} {o : ToolOptions α} {dtype : Literal α} {x : Input α}
    (hwriter : o.writer.getD (tool.standardWriter x) = .converter dtype) (info : Info α) (cells : Volume α)
    (input reference : Grid α) (w : Workspace α) :
    (Task.perform (tool.finish o x info cells input reference) w).1 =
      resliceArray cells input (some reference) o.reslicing >>= fun y =>
        .array <$> Writer.convert y [dtype] (.ok (some info.dtype)) := by
  unfold finish
  rw [hwriter, ← fst_perform_resliceReported cells input reference o.reslicing w]
  refine Task.fst_perform_bind (fun y w' => ?_) w
  have hconvert : Writer.convert y [.null, dtype] (.ok (some info.dtype)) =
      Writer.convert y [dtype] (.ok (some info.dtype)) := rfl
  rw [← hconvert]
  change (Task.perform (liftM (Writer.convert y [.null, dtype] (.ok (some info.dtype))) >>= fun v =>
    pure (Written.array v)) w').1 = _
  rw [Task.fst_perform_lift_bind]
  rfl

theorem fst_perform_finish_array {tool : Tool} {o : ToolOptions α} (hwriter : o.writer = none) (x cells : Volume α)
    (input reference : Grid α) (w : Workspace α) :
    (Task.perform (tool.finish o (.array x) (Info.ofArray x) cells input reference) w).1 = (do
      let y ← resliceArray cells input (some reference) o.reslicing
      return .array (← y.toStored x.dtype)) := by
  have hconverter : o.writer.getD (tool.standardWriter (.array x)) = .converter .null := by
    rw [hwriter]
    rfl
  rw [fst_perform_finish_converter hconverter]
  exact bind_congr fun y => map_eq_pure_bind _ _

/-- **Reslicing from a grid to a placement**, and what follows from the array that comes out. -/
def reslicedTo (o : ToolOptions α) (p : Placement α) (cells : Volume α)
    (next : Volume α → Except (Fault α) (Written α)) (input : Grid α) : Except (Fault α) (Written α) := do
  let sizes ← p.sizes cells.shape
  let reference ← Grid.make sizes none (some (← p.transform input.transform))
  resliceArray cells input (some reference) o.reslicing >>= next

/-- **A tool with a converter** finds the grid of a volume, reslices from it, and converts the values. -/
theorem fst_perform_resliceTo_converter {tool : Tool} {o : ToolOptions α} {dtype : Literal α} {x : Input α}
    {w : Workspace α} {info : Info α} {cells : Volume α}
    (hopens : x.Opens w.files info cells) (hsurplus : o.surplus = false)
    (hwriter : o.writer.getD (tool.standardWriter x) = .converter dtype) (p : Placement α) :
    (Task.perform (tool.resliceTo o x p) w).1 = (Task.perform (tool.inputGrid cells info o.inputAffine) w).1 >>=
      reslicedTo o p cells fun y => .array <$> Writer.convert y [dtype] (.ok (some info.dtype)) := by
  rw [perform_resliceTo_of_opens hopens hsurplus p]
  refine Task.fst_perform_bind (fun input w' => ?_) w
  unfold reslicedTo
  rw [Task.fst_perform_lift_bind]
  refine bind_congr fun sizes => ?_
  rw [Task.fst_perform_lift_bind]
  refine bind_congr fun t => ?_
  rw [Task.fst_perform_lift_bind]
  exact bind_congr fun reference => fst_perform_finish_converter hwriter info cells input reference w'

/-- **A tool on an array with an orientation** reslices it between the grid of the array and the output grid. -/
theorem fst_perform_resliceTo {tool : Tool} {o : ToolOptions α} {x : Volume α} (haxes : 3 ≤ x.shape.length)
    (hsurplus : o.surplus = false) (hwriter : o.writer = none) (haffine : o.inputAffine.isGiven = true)
    (p : Placement α) (w : Workspace α) : (Task.perform (tool.resliceTo o (.array x) p) w).1 = (do
      let input ← Grid.make (x.shape.map Int.ofNat) none (some (← AffineTransform.ofLiteral o.inputAffine))
      let sizes ← p.sizes x.shape
      let reference ← Grid.make sizes none (some (← p.transform input.transform))
      let y ← resliceArray x input (some reference) o.reslicing
      return .array (← y.toStored x.dtype)) := by
  have hconverter : o.writer.getD (tool.standardWriter (.array x)) = .converter .null := by
    rw [hwriter]
    rfl
  rw [fst_perform_resliceTo_converter (Input.opens_array_of_le haxes w.files) hsurplus hconverter,
    inputGrid_of_isGiven haffine, Task.fst_perform_lift_bind, bind_assoc]
  refine bind_congr fun t => ?_
  rw [Task.fst_perform_lift]
  simp only [map_eq_pure_bind]
  rfl

/-- **A tool for resizing**, used on an array in memory, chooses the output grid by what is known of the array. -/
theorem fst_perform_run_resizing {tool : Tool} (hreslice : tool ≠ .reslice) (hlike : tool ≠ .like)
    (o : ToolOptions α) (x : Volume α) (w : Workspace α) : (Task.perform (tool.run .none o (.array x)) w).1 =
      Placement.ofResizing tool o (Info.ofArray x) >>= fun p =>
        (Task.perform (tool.resliceTo o (.array x) p) w).1 := by
  rw [run_eq_runWith, ToolOptions.orElse_none]
  unfold runWith
  cases tool with
  | reslice => exact absurd rfl hreslice
  | like => exact absurd rfl hlike
  | resize | upsample | downsample | resizeShape | resizeVoxel =>
    simp only [Task.inspect, bind_assoc]
    rw [Task.fst_perform_get_bind, Input.inspect_array, Task.fst_perform_lift_bind, ok_bind]
    exact Task.fst_perform_lift_bind _ _ w

end Tool

end Regrid
