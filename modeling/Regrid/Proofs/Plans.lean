import Mathlib
import Regrid.CommandLine.Run
import Regrid.Matrix.Numeric
import Regrid.Proofs.Placing
import Regrid.Proofs.Views
/-!
# Plans — what is planned is what is done

A plan is made from what is known of a volume without its cells, a reslicing from the volume that has been read.  Both
find the same grid, and so the same mapping and the same samples (`Request.perform_run_plan`).
-/
namespace Regrid

variable {α : Type} [Scalar α]

namespace Task

variable {β γ : Type}

omit [Scalar α] in
@[simp] theorem perform_lift (x : Except (Fault α) β) (w : Workspace α) : perform (liftM x : Task α β) w = (x, w) := by
  cases x <;> rfl

omit [Scalar α] in
@[simp] theorem perform_get (w : Workspace α) : perform (get : Task α (Workspace α)) w = (.ok w, w) := rfl

omit [Scalar α] in
theorem perform_bind_eq_ok {t : Task α β} {f : β → Task α γ} {w w' : Workspace α} {y : γ} :
    perform (t >>= f) w = (.ok y, w') ↔
      ∃ x w₁, perform t w = (.ok x, w₁) ∧ perform (f x) w₁ = (.ok y, w') := by
  cases h : perform t w with
  | mk x w₁ =>
    cases x with
    | error e => simp [perform_bind_error h]
    | ok x => simp [perform_bind_ok h]

omit [Scalar α] in
theorem perform_bind_congr {t : Task α β} {f g : β → Task α γ} {w : Workspace α}
    (h : ∀ x w', perform t w = (.ok x, w') → perform (f x) w' = perform (g x) w') :
    perform (t >>= f) w = perform (t >>= g) w := by
  cases ht : perform t w with
  | mk x w' =>
    cases x with
    | error e => rw [perform_bind_error ht, perform_bind_error ht]
    | ok x => rw [perform_bind_ok ht, perform_bind_ok ht, h x w' ht]

omit [Scalar α] in
theorem forM_singleton (x : β) (f : β → Task α PUnit) : [x].forM f = f x := by
  rw [List.forM_eq_forM, List.forM_cons, List.forM_nil, bind_pure_unit]

omit [Scalar α] in
theorem perform_lift_bind_lift (x : Except (Fault α) β) (f : β → Except (Fault α) γ) (w : Workspace α) :
    perform (liftM x >>= fun y => liftM (f y)) w = (x >>= f, w) := by
  cases x with
  | error e => exact perform_bind_error (perform_lift _ w) _
  | ok y => exact (perform_bind_ok (perform_lift _ w) _).trans (perform_lift _ w)

omit [Scalar α] in
theorem perform_lift_bind_eq_ok {x : Except (Fault α) β} {f : β → Task α γ} {w w' : Workspace α} {y : γ} :
    perform (liftM x >>= f) w = (.ok y, w') ↔ ∃ z, x = .ok z ∧ perform (f z) w = (.ok y, w') := by
  simp [perform_bind_eq_ok]

end Task

section Shapes

variable {β γ : Type}

omit [Scalar α] in
theorem Tensor.shape_of_mapM {t : Tensor β} {f : β → Except (Fault α) γ} {u : Tensor γ} (h : t.mapM f = .ok u) :
    u.shape = t.shape := by
  unfold mapM at h
  obtain ⟨cells, -, h⟩ := bind_eq_ok.1 h
  cases h
  rfl

omit [Scalar α] in
theorem Tensor.shape_of_reshape? {t u : Tensor β} {shape : Shape} (h : t.reshape? shape = some u) :
    u.shape = shape ∧ t.shape.count = shape.count := by
  unfold reshape? at h
  split at h
  · next hcount =>
    cases h
    exact ⟨rfl, hcount⟩
  · cases h

theorem Volume.shape_of_cast {v u : Volume α} {d : Dtype} (h : v.cast d = .ok u) : u.shape = v.shape := by
  unfold cast at h
  obtain ⟨cells, hcells, h⟩ := bind_eq_ok.1 h
  cases h
  exact Tensor.shape_of_mapM hcells

omit [Scalar α] in
theorem Volume.shape_of_reshape? {v u : Volume α} {shape : Shape} (h : v.reshape? shape = some u) :
    u.shape = shape ∧ v.shape.count = shape.count := by
  obtain ⟨t, ht, rfl⟩ := Option.map_eq_some_iff.1 h
  exact Tensor.shape_of_reshape? ht

omit [Scalar α] in
/-- **The cells in a file** have the shape of the image, unless there are none. -/
theorem Image.shape_cellsFrom (i : Image α) (compressed : Bool) :
    (i.cellsFrom compressed).shape = i.volume.shape ∨ (i.cellsFrom compressed).shape = [0] := by
  unfold cellsFrom
  split
  · cases h : i.volume.reshape? [0] with
    | none => exact .inl rfl
    | some v => exact .inr (Volume.shape_of_reshape? h).1
  · exact .inl rfl

end Shapes

namespace Input

/-- **What is read with the cells of a volume** is known without them.  The cells have the shape that is known, up to
padding, except those of a compressed image without voxels. -/
theorem inspect_of_read {x : Input α} {files : FileTree α} {stored : Volume α} {info : Info α}
    (h : x.read files .null = .ok (stored, info)) :
    x.inspect files = .ok info ∧ (info.shape = stored.shape.padded ∨ stored.shape = [0]) := by
  unfold read at h
  unfold inspect
  obtain ⟨⟨found, origin⟩, hfound, h⟩ := bind_eq_ok.1 h
  rw [hfound, ok_bind]
  cases found with
  | array v =>
    cases h
    exact ⟨rfl, .inl rfl⟩
  | image i =>
    obtain ⟨d, hd, h⟩ := bind_eq_ok.1 h
    obtain ⟨cells, hcells, h⟩ := bind_eq_ok.1 h
    cases h
    cases hd
    refine ⟨rfl, ?_⟩
    rw [Volume.shape_of_cast hcells]
    refine (Image.shape_cellsFrom i _).imp (fun hshape => ?_) id
    rw [hshape]
    rfl
  | literal l =>
    dsimp only at h
    cases hl : Volume.ofLiteral l with
    | error f => rw [hl] at h; cases h
    | ok v =>
      rw [hl] at h
      cases h
      simp only [hl]
      exact ⟨rfl, .inl rfl⟩

/-- **The cells of a volume that has a grid** have the shape that is known of it. -/
theorem shape_of_read {x : Input α} {files : FileTree α} {stored cells : Volume α} {info : Info α}
    (hread : x.read files .null = .ok (stored, info))
    (hreshape : stored.reshape? (info.shape.take 3 ++ stored.shape.drop 3) = some cells)
    (hpositive : ∀ n ∈ cells.shape, 0 < n) : cells.shape = info.shape := by
  obtain ⟨hcells, hcount⟩ := Volume.shape_of_reshape? hreshape
  rw [hcells]
  obtain hshape | hempty := (inspect_of_read hread).2
  · rw [hshape, Shape.take_padded_append]
  -- no cells at all fit a grid, none of whose axes is empty
  · rw [hempty] at hcount
    rw [hcells, hempty] at hpositive
    have hpos : 0 < Shape.count (info.shape.take 3 ++ List.drop 3 [0]) := by
      rw [Shape.count_eq_prod]
      exact List.prod_pos hpositive
    exact absurd hcount hpos.ne

end Input

namespace Grid

theorem of_make {sizes : List Int} {spacing : Option (List α)} {t : AffineTransform α} {g : Grid α}
    (h : make sizes spacing (some t) = .ok g) : g.transform = t ∧ Extent.ofSizes (α := α) sizes = .ok g.extent := by
  unfold make at h
  obtain ⟨e, he, h⟩ := bind_eq_ok.1 h
  obtain ⟨given, -, h⟩ := bind_eq_ok.1 h
  cases given with
  | some spacing =>
    cases h
    exact ⟨rfl, he⟩
  | none =>
    unfold complete at h
    dsimp only at h
    split at h
    · cases h
      exact ⟨rfl, he⟩
    · cases h

end Grid

omit [Scalar α] in
theorem Workspace.printedLines_cons (files : FileTree α) (e : Event) (log : List Event) :
    (⟨files, e :: log⟩ : Workspace α).printedLines =
      (⟨files, log⟩ : Workspace α).printedLines ++ e.printed?.toList := by
  simp only [printedLines, events, List.reverse_cons, List.filterMap_append, List.append_cancel_left_eq]
  cases h : e.printed? <;> simp [h]

namespace Task

/-- **The grid of a header** has no empty axes.  Finding it prints nothing. -/
theorem of_perform_gridOf {h : Header α} {w w' : Workspace α} {g : Grid α}
    (hgrid : perform (gridOf h) w = (.ok g, w')) :
    (∀ n ∈ h.shape, 0 < n) ∧ w'.printedLines = w.printedLines := by
  have hmade : (Grid.ofHeader h).1 = .ok g := by
    rw [← fst_perform_gridOf h w, hgrid]
  refine ⟨Extent.positive_of_ofSizes (Grid.of_make hmade).2, ?_⟩
  unfold gridOf at hgrid
  cases hheader : Grid.ofHeader h with
  | mk grid mismatch =>
    rw [hheader] at hgrid hmade
    obtain rfl : grid = .ok g := hmade
    cases mismatch with
    | false =>
      cases hgrid
      rfl
    | true =>
      cases hgrid
      exact (Workspace.printedLines_cons _ .zoomMismatch _).trans (List.append_nil _)

theorem perform_inspect (x : Input α) (w : Workspace α) : perform (inspect x) w = (x.inspect w.files, w) :=
  perform_lift _ w

theorem perform_gridOfInput {x : Input α} {w : Workspace α} {info : Info α} (h : x.inspect w.files = .ok info) :
    perform (gridOfInput x) w = perform (gridOf info.toHeader) w := by
  unfold gridOfInput
  exact perform_bind_ok ((perform_inspect x w).trans (by rw [h])) _

theorem printedLines_of_gridOfInput {x : Input α} {w w' : Workspace α} {g : Grid α}
    (h : perform (gridOfInput x) w = (.ok g, w')) : w'.printedLines = w.printedLines := by
  unfold gridOfInput at h
  obtain ⟨info, w₁, hinspect, h⟩ := perform_bind_eq_ok.1 h
  obtain rfl : w = w₁ := congrArg Prod.snd ((perform_inspect x w).symm.trans hinspect)
  exact (of_perform_gridOf h).2

end Task

namespace Tool

variable [LinearSolver α]

/-- **The steps of a tool up to its view** of a volume on the output grid. -/
def viewing [Capacity] (tool : Tool) (o : ToolOptions α) (x : Input α) (p : Placement α) :
    Task α (View α × Info α × Grid α) := do
  if o.surplus then throw .wrongKind
  let (cells, info) ← x.read (← get).files .null
  let some cells := cells.reshape? (info.shape.take 3 ++ cells.shape.drop 3) | throw .shapeMismatch
  let input ← tool.inputGrid cells info o.inputAffine
  let sizes ← p.sizes cells.shape
  let reference ← Grid.make sizes none (some (← p.transform input.transform))
  return (← o.reslicing.view cells input (some reference), info, reference)

/-- **The steps of a tool from its view on**: evaluating it, and writing the values. -/
def evaluating [Capacity] (tool : Tool) (o : ToolOptions α) (x : Input α) (made : View α × Info α × Grid α) :
    Task α (Written α) := do
  let (view, info, reference) := made
  if view.plan.active then Task.report (.oversampled view.plan)
  let y ← o.reslicing.evaluate view
  (o.writer.getD (tool.standardWriter x)).write
    { FileOptions.none with affine := some (.ok reference.transform.matrix) } (FileHints.ofInfo info) y

theorem resliceTo_eq_viewing_bind [Capacity] (tool : Tool) (o : ToolOptions α) (x : Input α) (p : Placement α) :
    tool.resliceTo o x p = tool.viewing o x p >>= tool.evaluating o x := by
  unfold resliceTo viewing evaluating resliceReported
  cases hsurplus : o.surplus with
  | true => rfl
  | false =>
    simp only [Bool.false_eq_true, if_false, bind_assoc]
    refine bind_congr fun w => bind_congr fun found => ?_
    cases found.1.reshape? (found.2.shape.take 3 ++ found.1.shape.drop 3) with
    | none => rfl
    | some cells =>
      simp only [bind_assoc, pure_bind]
      refine bind_congr fun input => bind_congr fun sizes => bind_congr fun t => bind_congr fun reference =>
        bind_congr fun view => ?_
      cases view.plan.active <;> rfl

variable {o : ToolOptions α} {x : Input α} {p : Placement α} {w w' : Workspace α} {v : View α} {info : Info α}
  {reference : Grid α}

omit [LinearSolver α] in
/-- **The grid of a volume that has been read** is the one found without its cells. -/
theorem perform_gridOfInput_of_inputGrid {tool : Tool} (hreads : tool.readsZooms = true) {stored cells : Volume α}
    {input : Grid α} (hread : x.read w.files .null = .ok (stored, info))
    (hreshape : stored.reshape? (info.shape.take 3 ++ stored.shape.drop 3) = some cells)
    (hinput : Task.perform (tool.inputGrid cells info .null) w = (.ok input, w')) :
    Task.perform (Task.gridOfInput x) w = (.ok input, w') := by
  have hplain : tool.inputGrid cells info .null = Task.gridOf { info.toHeader with shape := cells.shape } := by
    unfold inputGrid
    exact if_pos (by simpa [Literal.isGiven] using hreads)
  rw [hplain] at hinput
  have hpositive : ∀ n ∈ cells.shape, 0 < n := (Task.of_perform_gridOf hinput).1
  rw [Input.shape_of_read hread hreshape hpositive] at hinput
  rw [Task.perform_gridOfInput (Input.inspect_of_read hread).1]
  exact hinput

/-- **A tool that comes to its view** has found the grid of the volume as it is found without the cells. -/
theorem of_perform_viewing [Capacity] {tool : Tool} (hreads : tool.readsZooms = true) (hnone : o.inputAffine = .null)
    (h : Task.perform (tool.viewing o x p) w = (.ok (v, info, reference), w')) :
    ∃ (cells : Volume α) (input : Grid α), Task.perform (Task.gridOfInput x) w = (.ok input, w') ∧
      p.transform input.transform = .ok reference.transform ∧
      o.reslicing.view cells input (some reference) = .ok v := by
  unfold viewing at h
  cases hsurplus : o.surplus with
  | true =>
    rw [if_pos hsurplus] at h
    cases h
  | false =>
    simp only [hsurplus, Bool.false_eq_true, if_false, hnone] at h
    obtain ⟨s, w₁, hs, h⟩ := Task.perform_bind_eq_ok.1 h
    cases hs
    obtain ⟨⟨stored, info'⟩, hread, h⟩ := Task.perform_lift_bind_eq_ok.1 h
    dsimp only at h
    cases hreshape : stored.reshape? (info'.shape.take 3 ++ stored.shape.drop 3) with
    | none =>
      rw [hreshape] at h
      cases h
    | some cells =>
      rw [hreshape] at h
      obtain ⟨input, w₁, hinput, h⟩ := Task.perform_bind_eq_ok.1 h
      obtain ⟨sizes, -, h⟩ := Task.perform_lift_bind_eq_ok.1 h
      obtain ⟨t, ht, h⟩ := Task.perform_lift_bind_eq_ok.1 h
      obtain ⟨reference', hreference, h⟩ := Task.perform_lift_bind_eq_ok.1 h
      obtain ⟨v', hv, h⟩ := Task.perform_lift_bind_eq_ok.1 h
      cases h
      refine ⟨cells, input, perform_gridOfInput_of_inputGrid hreads hread hreshape hinput, ?_, hv⟩
      rw [ht, (Grid.of_make hreference).1]

end Tool

theorem Tool.run_like [Capacity] [LinearSolver α] {o : ToolOptions α} {reference : Input α}
    (h : o.reference = some reference) (x : Input α) : Tool.like.run o .none x =
    Task.gridOfInput reference >>= fun grid => Tool.like.viewing o x (.ofGrid grid) >>= Tool.like.evaluating o x := by
  have horElse : ToolOptions.none.orElse o = o := rfl
  rw [Tool.run_eq_runWith]
  unfold Tool.runWith
  simp only [horElse, h, pure_bind, Tool.resliceTo_eq_viewing_bind]

namespace Request

variable {w w' : Workspace α}

/-- **Reading a transform** leaves the workspace as it is. -/
theorem snd_perform_readTransform (l : Literal α) (w : Workspace α) : (Task.perform (readTransform l) w).2 = w := by
  cases l with
  | text path =>
    simp only [readTransform]
    rw [Task.perform_bind_ok (Task.perform_get w), Task.perform_lift_bind_lift]
  | _ => rfl

variable [LinearSolver α]

/-- **The steps of a reslicing onto a reference** up to the view of an image, and the options of the tool. -/
def viewing [Capacity] (common : CommonOptions α) (reference : String) (options : ResamplingOptions α)
    (image : String) : Task α (ToolOptions α × View α × Info α × Grid α) := do
  let transform ← readTransform common.transform
  let files := (← get).files
  let w ← writer .like options
  let order ← (orderLiteral options.order : Except (Fault α) (Literal α))
  let o := making files .like options (.reference reference) transform (oversampleLiteral common.oversample) order w
  let grid ← Task.gridOfInput (inputAt files reference)
  return (o, ← Tool.like.viewing o (.path image) (.ofGrid grid))

omit [Scalar α] [LinearSolver α] in
@[simp] theorem common_plan (common : CommonOptions α) (reference : String) :
    (plan common reference).common = common := rfl

omit [Scalar α] [LinearSolver α] in
@[simp] theorem common_resample (tool : Tool) (operand : Operand α) (common : CommonOptions α)
    (options : ResamplingOptions α) : (resample tool operand common options).common = common := rfl

/-- **Reslicing an image onto a reference** builds its view, and then evaluates it. -/
theorem perform_run_like [Capacity] {common : CommonOptions α} {image : String}
    (himages : w.files.expandVolumes common.images FileTree.volumeExtensions = [image]) (reference : String)
    (options : ResamplingOptions α) :
    Task.perform (run (.resample .like (.reference reference) common options)) w =
      Task.perform (viewing common reference options image >>= fun (o, made) =>
        discard (Tool.like.evaluating o (.path image) made)) w := by
  unfold run viewing
  simp only [common_resample]
  rw [bind_assoc]
  refine Task.perform_bind_congr fun transform w₁ h₁ => ?_
  obtain rfl : w = w₁ := (snd_perform_readTransform _ w).symm.trans (congrArg Prod.snd h₁)
  rw [bind_assoc]
  refine Task.perform_bind_congr fun s w₂ h₂ => ?_
  cases h₂
  simp only [bind_assoc, himages]
  refine Task.perform_bind_congr fun writer w₂ h₂ => Task.perform_bind_congr fun order w₃ h₃ => ?_
  rw [Task.forM_singleton, Tool.run_like rfl]
  simp only [pure_bind, discard, LawfulFunctor.map_const, Function.comp_apply, map_bind]

/-- **A plan for one image** is made once the grid of the reference is found. -/
theorem perform_run_plan_of_grid [Capacity] {common : CommonOptions α} {image reference : String}
    {transform : Literal α} {grid : Grid α}
    (himages : w.files.expandVolumes common.images FileTree.volumeExtensions = [image])
    (htransform : Task.perform (readTransform common.transform) w = (.ok transform, w))
    (hreference : Task.perform (Task.gridOfInput (inputAt w.files reference)) w = (.ok grid, w')) :
    Task.perform (run (.plan common reference)) w =
      Task.perform (planImage grid transform (oversampleLiteral common.oversample) image) w' := by
  unfold run
  simp only [common_plan]
  rw [Task.perform_bind_ok htransform, Task.perform_bind_ok (Task.perform_get w)]
  simp only [himages]
  rw [Task.perform_bind_ok hreference, Task.forM_singleton]

/-- **The plan for an image** is printed, and nothing else. -/
theorem perform_planImage {reference input : Grid α} {transform oversample : Literal α} {image : String}
    {t mapping : AffineTransform α} {p : OversamplingPlan}
    (hinput : Task.perform (Task.gridOfInput (.path image)) w = (.ok input, w'))
    (ht : AffineTransform.ofLiteral transform = .ok t) (hmapping : View.mappingBetween input reference t = .ok mapping)
    (hplan : OversamplingPlan.plan mapping oversample = .ok p) :
    ∃ w'', Task.perform (planImage reference transform oversample image) w = (.ok (), w'') ∧
      w''.printedLines = w'.printedLines ++ [planLine image p] := by
  unfold planImage
  rw [Task.perform_bind_ok hinput, ht, Task.perform_bind_ok (Task.perform_lift _ w'), hmapping,
    Task.perform_bind_ok (Task.perform_lift _ w'), hplan, Task.perform_bind_ok (Task.perform_lift _ w')]
  have hprinted := Workspace.printedLines_cons w'.files (.printed (planLine image p))
  cases p.active with
  | false => exact ⟨_, rfl, hprinted _⟩
  | true =>
    refine ⟨_, rfl, (hprinted _).trans (congrArg (· ++ _) ?_)⟩
    exact (Workspace.printedLines_cons _ (.oversampled p) _).trans (List.append_nil _)

/-- **A reslicing onto a reference is planned as it is done**: it goes through the view of the image, and once it has
come to that, the plan succeeds and prints the factors of the view. -/
theorem perform_run_plan [Capacity] {common : CommonOptions α} {image : String}
    (himages : w.files.expandVolumes common.images FileTree.volumeExtensions = [image]) (reference : String)
    (options : ResamplingOptions α) :
    Task.perform (run (.resample .like (.reference reference) common options)) w =
      Task.perform (viewing common reference options image >>= fun (o, made) =>
        discard (Tool.like.evaluating o (.path image) made)) w ∧
    ∀ o v info grid w', Task.perform (viewing common reference options image) w = (.ok (o, v, info, grid), w') →
      (Task.perform (run (.plan common reference)) w).1 = .ok () ∧
      (Task.perform (run (.plan common reference)) w).2.printedLines = w.printedLines ++ [planLine image v.plan] := by
  refine ⟨perform_run_like himages reference options, fun o v info grid w' h => ?_⟩
  -- the steps up to the view are opened one by one: all that the plan needs has succeeded on the way
  unfold viewing at h
  obtain ⟨transform, w₁, htransform, h⟩ := Task.perform_bind_eq_ok.1 h
  obtain rfl : w = w₁ := (snd_perform_readTransform _ w).symm.trans (congrArg Prod.snd htransform)
  obtain ⟨s, w₁, hs, h⟩ := Task.perform_bind_eq_ok.1 h
  cases hs
  obtain ⟨writer, -, h⟩ := Task.perform_lift_bind_eq_ok.1 h
  obtain ⟨order, -, h⟩ := Task.perform_lift_bind_eq_ok.1 h
  obtain ⟨found, w₁, hreference, h⟩ := Task.perform_bind_eq_ok.1 h
  obtain ⟨made, w₂, hmade, h⟩ := Task.perform_bind_eq_ok.1 h
  cases h
  obtain ⟨cells, input, hinput, hfound, hview⟩ := Tool.of_perform_viewing rfl rfl hmade
  obtain ⟨input', kernel, sampler, hinput', -, -, hview⟩ := View.ofVolume_eq_ok.1 hview
  cases hinput'
  obtain ⟨hgrid, -, -, ⟨t, ht, hmapping⟩, hplan, -⟩ := View.ofSampler_eq_ok.1 hview
  cases hgrid
  have hsame : v.reference.transform = found.transform := (Except.ok.inj hfound).symm
  have hmapped : View.mappingBetween input found t = .ok v.mapping := by
    rwa [View.mappingBetween, ← hsame]
  obtain ⟨w₃, hrun, hprinted⟩ := perform_planImage hinput ht hmapped hplan
  have hplanned := (perform_run_plan_of_grid himages htransform hreference).trans hrun
  rw [hplanned]
  refine ⟨rfl, hprinted.trans (congrArg (· ++ _) ?_)⟩
  rw [Task.printedLines_of_gridOfInput hinput, Task.printedLines_of_gridOfInput hreference]

/-- **The factors of the view** that a reslicing has come to. -/
def factors? {β : Type} (r : Except (Fault Float) (ToolOptions Float × View Float × β)) : Option (Vector Nat 3) :=
  r.toOption.map fun (_, v, _) => v.plan.factors

/-- **A file with a volume of ones** of a shape. -/
def ones (shape : Shape) : File Float := .array ⟨.int .uint8, Tensor.build shape fun _ => IntType.uint8.wrap 1⟩

/-- **A volume in a file** that a transform in another one doubles along the first axis. -/
theorem perform_run_plan_doubled :
    let w : Workspace Float := .ofFiles [("x.npy", ones [2, 1, 1]), ("r.npy", ones [1, 1, 1]),
      ("t.txt", .text "2 0 0 0\n0 1 0 0\n0 0 1 0\n0 0 0 1\n")]
    let common : CommonOptions Float := ⟨["x.npy"], .text "t.txt", none, false⟩
    let options : ResamplingOptions Float := ⟨.text "1", .null, .null, .null, .null, .null⟩
    factors? (Task.perform (viewing common "r.npy" options "x.npy") w).1 = some (triple 2 1 1) ∧
    (Task.perform (run (.plan common "r.npy")) w).1 = .ok () ∧
    (Task.perform (run (.plan common "r.npy")) w).2.printedLines = ["x.npy: [ 2 1 1 ]"] := by
  intro w common options
  have himages : w.files.expandVolumes common.images FileTree.volumeExtensions = ["x.npy"] := by decide +kernel
  have hfactors : factors? (Task.perform (viewing common "r.npy" options "x.npy") w).1 = some (triple 2 1 1) := by
    decide +kernel
  refine ⟨hfactors, ?_⟩
  have hplan := (perform_run_plan himages "r.npy" options).2
  cases hrun : Task.perform (viewing common "r.npy" options "x.npy") w with
  | mk r w' =>
    rw [hrun] at hfactors
    cases r with
    | error f => cases hfactors
    | ok made =>
      obtain ⟨o, v, info, grid⟩ := made
      obtain ⟨hok, hprinted⟩ := hplan o v info grid w' hrun
      refine ⟨hok, hprinted.trans ?_⟩
      have hv : v.plan.factors = triple 2 1 1 := Option.some.inj hfactors
      rw [planLine, OversamplingPlan.bracketed, hv]
      rfl

end Request

end Regrid
