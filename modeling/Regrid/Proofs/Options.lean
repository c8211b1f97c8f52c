import Mathlib
import Regrid.Matrix.Numeric
import Regrid.Proofs.Parts
import Regrid.Proofs.Walk
import Regrid.Tool.Run
/-!
# Options — given when a tool is made, or when it is used

A tool hands a use on from step to step: a resizing to a shape works out factors and passes them to the resizing by
factors, which passes an output grid to the reslicing.  Each step looks up some of the options among those of the
making.  What comes out is as if all options had been completed beforehand (`Tool.run_eq_runWith`), so that it does not
matter which of the options a tool was made with (`Tool.run_of_divides`).
-/
namespace Regrid

namespace Task

variable {α β γ : Type}

theorem lift_pure (y : β) : (liftM (pure y : Except (Fault α) β) : Task α β) = pure y := rfl

theorem lift_bind (y : Except (Fault α) β) (f : β → Except (Fault α) γ) :
    (liftM (y >>= f) : Task α γ) = liftM y >>= fun z => liftM (f z) := by
  cases y <;> rfl

variable [Scalar α]

theorem perform_inspect_bind {x : Input α} {w : Workspace α} {info : Info α} (h : x.inspect w.files = .ok info)
    (f : Info α → Task α β) : perform (inspect x >>= f) w = perform (f info) w := by
  have hinspect : perform (inspect x) w = (x.inspect w.files, w) := rfl
  rw [h] at hinspect
  exact run_bind_ok hinspect f

/-- **What follows an inspection** may inspect the volume again: the workspace stays as it is. -/
theorem inspect_bind_congr {x : Input α} {f g : Info α → Task α β}
    (h : ∀ info w, x.inspect w.files = .ok info → perform (f info) w = perform (g info) w) :
    inspect x >>= f = inspect x >>= g := by
  refine funext fun w => ?_
  cases hinfo : x.inspect w.files with
  | error e =>
    have hinspect : perform (inspect x) w = (x.inspect w.files, w) := rfl
    rw [hinfo] at hinspect
    exact (run_bind_error hinspect f).trans (run_bind_error hinspect g).symm
  | ok info => exact (perform_inspect_bind hinfo f).trans ((h info w hinfo).trans (perform_inspect_bind hinfo g).symm)

end Task

namespace Literal

variable {α : Type}

theorem given?_orElse (a b : Literal α) : (a.orElse b).given? = (a.given? <|> b.given?) := by
  cases a with
  | null => rfl
  | number | text | list | record => rfl

theorem orElse_null : ∀ l : Literal α, l.orElse .null = l
  | .null => rfl
  | .number _ | .text _ | .list _ | .record _ => rfl

theorem length_of_pad {l : Literal α} {ls : List (Literal α)} (h : l.pad 3 none = .ok ls) : ls.length = 3 := by
  have hlength : ∀ (items : List (Literal α)) (last : Literal α), items.length ≤ 3 →
      (items ++ List.replicate ((3 : ℤ) - items.length).toNat last).length = 3 := by
    intro items last hitems
    rw [List.length_append, List.length_replicate]
    omega
  unfold pad at h
  cases hl : l.items? with
  | none =>
    rw [hl] at h
    cases h
    exact hlength [l] l (Nat.le_add_left 1 2)
  | some xs =>
    rw [hl] at h
    dsimp only at h
    cases hlast : (takeSigned 3 xs).getLast? with
    | none =>
      rw [hlast] at h
      cases h
    | some last =>
      rw [hlast] at h
      cases h
      exact hlength (takeSigned 3 xs) last (List.length_take_le 3 xs)

end Literal

theorem ToolOptions.orElse_none {α : Type} (o : ToolOptions α) : o.orElse .none = o := by
  simp [orElse, none, Literal.orElse_null]

/-- **An option is divided** between the making of a tool and its use: it is given at the use, and then the making may
give anything, or it is left to the making. -/
def Divided {β : Type} (absent given making use : β) : Prop :=
  given ≠ absent ∧ use = given ∨ use = absent ∧ making = given

theorem Divided.orElse_eq {α : Type} {given making use : Literal α} (h : Divided .null given making use) :
    use.orElse making = given := by
  obtain ⟨hgiven, rfl⟩ | ⟨rfl, rfl⟩ := h
  · cases use with
    | null => exact absurd rfl hgiven
    | number | text | list | record => rfl
  · rfl

theorem Divided.or_eq {β : Type} {given making use : Option β} (h : Divided none given making use) :
    (use <|> making) = given := by
  obtain ⟨hgiven, rfl⟩ | ⟨rfl, rfl⟩ := h
  · cases use with
    | none => exact absurd rfl hgiven
    | some y => rfl
  · rfl

/-- **The options of a tool are divided** between its making and its use, as far as it takes them at both: a grid, a
factor, a voxel size or a shape is taken by the tools that it is meant for.  The orientation of the input is given at
the use. -/
structure ToolOptions.Divides {α : Type} (tool : Tool) (given making use : ToolOptions α) : Prop where
  reference : tool = .like → Divided Option.none given.reference making.reference use.reference
  factor : tool = .resize ∨ tool = .upsample ∨ tool = .downsample →
    Divided .null given.factor making.factor use.factor
  voxelSize : tool = .resizeVoxel → Divided .null given.voxelSize making.voxelSize use.voxelSize
  outputShape : tool ≠ .like → Divided .null given.outputShape making.outputShape use.outputShape
  outputAffine : tool = .reslice → Divided .null given.outputAffine making.outputAffine use.outputAffine
  transform : Divided .null given.transform making.transform use.transform
  order : Divided .null given.order making.order use.order
  oversample : Divided .null given.oversample making.oversample use.oversample
  fallback : Divided .null given.fallback making.fallback use.fallback
  vectorize : Divided .null given.vectorize making.vectorize use.vectorize
  writer : Divided Option.none given.writer making.writer use.writer
  inputAffine : making.inputAffine = .null ∧ use.inputAffine = given.inputAffine
  surplus : making.surplus = false ∧ use.surplus = given.surplus

namespace Placement

variable {α : Type} [Scalar α]

theorem length_of_sizesOfRequest {l : Literal α} {sizes : List Int} (h : sizesOfRequest l = .ok sizes) :
    sizes.length = 3 := by
  unfold sizesOfRequest at h
  cases hpad : l.pad 3 none with
  | error e =>
    rw [hpad] at h
    cases h
  | ok ls =>
    rw [hpad] at h
    exact (Tensor.list_mapM_eq_pure_iff.1 h).length_eq.symm.trans (Literal.length_of_pad hpad)

theorem sizesOfRequest_ints {sizes : List Int} (h : sizes.length = 3) :
    sizesOfRequest (.list (sizes.map fun n => .number (.int n)) : Literal α) = .ok sizes := by
  match sizes, h with
  | [x, y, z], _ => rfl

theorem factorsOfRequest_reals {tool : Tool} (htool : tool ≠ .upsample) (f : Vector α 3) :
    factorsOfRequest tool (.list (f.toList.map fun x => .number (.real x))) = .ok f := by
  obtain ⟨⟨f⟩, hf⟩ := f
  match f, hf with
  | [x, y, z], _ =>
    cases tool with
    | upsample => exact absurd rfl htool
    | reslice | like | resize | downsample | resizeShape | resizeVoxel => rfl

/-- **The placement of a resizing** reads the option that the tool is meant for. -/
theorem ofResizing_congr {tool : Tool} {o o' : ToolOptions α} (haffine : o.inputAffine = o'.inputAffine)
    (hshape : o.outputShape = o'.outputShape)
    (hfactor : tool = .resize ∨ tool = .upsample ∨ tool = .downsample → o.factor = o'.factor)
    (hsize : tool = .resizeVoxel → o.voxelSize = o'.voxelSize) (hreslice : tool ≠ .reslice) (hlike : tool ≠ .like) :
    ofResizing tool o = ofResizing tool o' := by
  funext info
  unfold ofResizing
  rw [haffine, hshape]
  cases tool with
  | reslice => exact absurd rfl hreslice
  | like => exact absurd rfl hlike
  | resize | upsample | downsample => rw [hfactor (by decide)]
  | resizeShape => rfl
  | resizeVoxel => rw [hsize rfl]

/-- **The placement of a resizing by factors** that are known. -/
def ofFactors (o : ToolOptions α) (info : Info α) (factors : Vector α 3) : Except (Fault α) (Placement α) := do
  checkScalable o.inputAffine
  return ofFactor factors (← resizedSizes o.outputShape info.shape factors)

end Placement

namespace Target

variable {α : Type} [Scalar α]

theorem orElse_ofLiterals (affine shape affine' shape' : Literal α) :
    (ofLiterals affine shape).orElse (ofLiterals affine' shape') =
      ofLiterals (affine.orElse affine') (shape.orElse shape') := by
  simp only [ofLiterals, orElse, Literal.given?_orElse]
  cases affine.given? <;> cases shape.given? <;> rfl

theorem placement_ofLiterals (affine shape : Literal α) :
    (ofLiterals affine shape).placement = Placement.ofOrientation affine shape := by
  cases affine <;> cases shape <;> rfl

end Target

namespace Tool

section Division

variable {α : Type} [Scalar α] [LinearSolver α] [Capacity]

/-- **Using a tool with all its options**: nothing is looked up any more. -/
def runWith (tool : Tool) (o : ToolOptions α) (x : Input α) : Task α (Written α) := do
  let placement ← match tool with
    | .reslice => pure (Placement.ofOrientation o.outputAffine o.outputShape)
    | .like =>
      let some reference := o.reference | throw .noReference
      pure (Placement.ofGrid (← Task.gridOfInput reference))
    | _ => Placement.ofResizing tool o (← Task.inspect x)
  tool.resliceTo o x placement

theorem resliceFor_ofPlacement (tool : Tool) (making use : ToolOptions α) (x : Input α) (p : Placement α) :
    tool.resliceFor making use x (.ofPlacement p) = tool.resliceTo (use.orElse making) x p := rfl

/-- **Resizing by a factor** that is looked up. -/
theorem resizeBy_eq_runWith {tool : Tool} (htool : tool = .resize ∨ tool = .upsample ∨ tool = .downsample)
    (making use : ToolOptions α) (x : Input α) :
    tool.resizeBy making use x = tool.runWith (use.orElse making) x := by
  unfold resizeBy runWith
  simp only [resliceFor_ofPlacement]
  obtain rfl | rfl | rfl := htool <;>
  · simp only [Placement.ofResizing, Task.lift_bind, Task.lift_pure, bind_assoc, pure_bind]
    rfl

/-- **Resizing by factors that are passed on**: those of the making are not looked up. -/
theorem perform_resizeBy_withFactors {tool : Tool} (htool : tool ≠ .upsample) (making use : ToolOptions α)
    (factors : Vector α 3) {x : Input α} {info : Info α} {w : Workspace α} (hinfo : x.inspect w.files = .ok info) :
    Task.perform (tool.resizeBy making (use.withFactors factors) x) w = Task.perform
      (liftM (Placement.ofFactors (use.orElse making) info factors) >>= tool.resliceTo (use.orElse making) x) w := by
  unfold resizeBy Placement.ofFactors
  rw [Task.perform_inspect_bind hinfo]
  have hfactors : Placement.factorsOfRequest tool ((use.withFactors factors).factor.orElse making.factor) =
      .ok factors := Placement.factorsOfRequest_reals htool factors
  simp only [hfactors, Task.lift_bind, Task.lift_pure, bind_assoc, pure_bind]
  rfl

theorem resizeToVoxelSize_eq_runWith (making use : ToolOptions α) (x : Input α) :
    resizeToVoxelSize making use x = resizeVoxel.runWith (use.orElse making) x := by
  unfold resizeToVoxelSize runWith
  refine Task.inspect_bind_congr fun info w hinfo => ?_
  have hlook : use.voxelSize.orElse making.voxelSize = (use.orElse making).voxelSize := rfl
  simp only [hlook, Placement.ofResizing]
  cases hgiven : (use.orElse making).voxelSize.isGiven with
  | false => rfl
  | true =>
    cases hfactors : Placement.factorsToVoxelSize (columnLengths info.affine) (use.orElse making).voxelSize with
    | error e => rfl
    | ok factors => exact perform_resizeBy_withFactors (by decide) making use factors hinfo

theorem resizeToShape_eq_runWith (making use : ToolOptions α) (x : Input α) :
    resizeToShape making use x = resizeShape.runWith (use.orElse making) x := by
  unfold resizeToShape runWith
  refine Task.inspect_bind_congr fun info w hinfo => ?_
  have hlook : use.outputShape.orElse making.outputShape = (use.orElse making).outputShape := rfl
  simp only [hlook, Placement.ofResizing]
  cases hgiven : (use.orElse making).outputShape.isGiven with
  | false => rfl
  | true =>
    cases hsizes : Placement.sizesOfRequest (use.orElse making).outputShape with
    | error e => rfl
    | ok sizes =>
      have hlift : Task.perform (liftM (Except.ok sizes : Except (Fault α) (List Int))) w = (.ok sizes, w) := rfl
      refine (run_bind_ok hlift _).trans ?_
      simp only [Bool.not_true, Bool.false_eq_true, if_false, ok_bind]
      cases hfactors : (Placement.factorsBetween info.shape sizes : Except (Fault α) (Vector α 3)) with
      | error e => rfl
      | ok factors =>
        -- the sizes are passed on as numbers, and the step by factors reads them again
        have htool : resizeShape ≠ .upsample := by decide
        have hpassed := perform_resizeBy_withFactors htool making (use.withSizes sizes) factors hinfo
        have hresized : Placement.resizedSizes ((use.withSizes sizes).orElse making).outputShape info.shape factors =
            .ok fun _ => .ok sizes :=
          congrArg (fun s => Except.ok fun _ => s)
            (Placement.sizesOfRequest_ints (Placement.length_of_sizesOfRequest hsizes))
        rw [Placement.ofFactors, hresized] at hpassed
        exact hpassed

/-- **Using a tool** comes to using it with the options of the use completed by those of the making, at whatever step
each of them is looked up. -/
theorem run_eq_runWith (tool : Tool) (making use : ToolOptions α) (x : Input α) :
    tool.run making use x = tool.runWith (use.orElse making) x := by
  cases tool with
  | reslice =>
    unfold run resliceFor runWith
    rw [Target.orElse_ofLiterals, Target.placement_ofLiterals]
    rfl
  | like =>
    unfold run resliceLike runWith
    simp only [resliceFor_ofPlacement]
    have hlook : (use.reference <|> making.reference) = (use.orElse making).reference := rfl
    rw [hlook]
    cases (use.orElse making).reference with
    | none => rfl
    | some reference => simp only [pure_bind]
  | resize => exact resizeBy_eq_runWith (.inl rfl) making use x
  | upsample => exact resizeBy_eq_runWith (.inr (.inl rfl)) making use x
  | downsample => exact resizeBy_eq_runWith (.inr (.inr rfl)) making use x
  | resizeShape => exact resizeToShape_eq_runWith making use x
  | resizeVoxel => exact resizeToVoxelSize_eq_runWith making use x

/-- **Reslicing to a placement** reads the options of the last step alone. -/
theorem resliceTo_congr {o o' : ToolOptions α} (hsurplus : o.surplus = o'.surplus) (hwriter : o.writer = o'.writer)
    (haffine : o.inputAffine = o'.inputAffine) (hreslicing : o.reslicing = o'.reslicing) (tool : Tool) (x : Input α) :
    tool.resliceTo o x = tool.resliceTo o' x := by
  funext p
  unfold resliceTo
  rw [hsurplus, hwriter, haffine, hreslicing]

/-- **It does not matter where an option is given**: a tool that is made with some of its options and used with the
others does what it does if all are given at the use, which goes before the making. -/
theorem run_of_divides {tool : Tool} {given making use : ToolOptions α} (h : given.Divides tool making use)
    (x : Input α) : tool.run making use x = tool.run .none given x := by
  have haffine : (use.orElse making).inputAffine = given.inputAffine := by
    obtain ⟨hmaking, huse⟩ := h.inputAffine
    exact (congrArg₂ Literal.orElse huse hmaking).trans (Literal.orElse_null _)
  have hsurplus : (use.orElse making).surplus = given.surplus := by
    obtain ⟨hmaking, huse⟩ := h.surplus
    exact (congrArg₂ or huse hmaking).trans (Bool.or_false _)
  have hreslicing : (use.orElse making).reslicing = given.reslicing := by
    unfold ToolOptions.reslicing ToolOptions.orElse
    dsimp only
    rw [h.transform.orElse_eq, h.order.orElse_eq, h.oversample.orElse_eq, h.fallback.orElse_eq,
      h.vectorize.orElse_eq]
  have hshape : tool ≠ .like → (use.orElse making).outputShape = given.outputShape := fun htool =>
    (h.outputShape htool).orElse_eq
  rw [run_eq_runWith, run_eq_runWith, ToolOptions.orElse_none]
  unfold runWith
  rw [resliceTo_congr hsurplus h.writer.or_eq haffine hreslicing]
  cases tool with
  | reslice =>
    have houtput : (use.orElse making).outputAffine = given.outputAffine := (h.outputAffine rfl).orElse_eq
    rw [houtput, hshape (by decide)]
  | like =>
    have hreference : (use.orElse making).reference = given.reference := (h.reference rfl).or_eq
    rw [hreference]
  | resize | upsample | downsample | resizeShape | resizeVoxel =>
    have hplacement := Placement.ofResizing_congr haffine (hshape (by decide)) (fun htool => (h.factor htool).orElse_eq)
      (fun htool => (h.voxelSize htool).orElse_eq) (by decide) (by decide)
    simp only [hplacement]

end Division

/-- **Zero and false are given** at the use, so that an order, a shape and a way of evaluating of the making give way to
them; the value outside is left to the making, and is zero as well. -/
theorem run_of_divides_zeros :
    let zero : Literal Float := .number (.int 0)
    let shape : Literal Float := .list [.number (.int 2), .number (.int 1)]
    let given : ToolOptions Float :=
      { ToolOptions.none with
        outputShape := shape, order := zero, fallback := zero, vectorize := .number (.bool false) }
    let making : ToolOptions Float :=
      { ToolOptions.none with
        outputShape := .number (.int 5), order := .number (.int 3), fallback := zero, vectorize := .number (.bool true)
        factor := .number (.int 7) }
    let use : ToolOptions Float := { given with fallback := .null }
    let x : Input Float := .literal (.list [.number (.int 1), .number (.int 2), .number (.int 3)])
    given.Divides .resizeShape making use ∧ resizeShape.run making use x = resizeShape.run .none given x := by
  intro zero shape given making use x
  have hdivides : given.Divides .resizeShape making use :=
    { reference := fun h => by cases h
      factor := fun h => absurd h (by decide)
      voxelSize := fun h => by cases h
      outputShape := fun _ => .inl ⟨nofun, rfl⟩
      outputAffine := fun h => by cases h
      transform := .inr ⟨rfl, rfl⟩
      order := .inl ⟨nofun, rfl⟩
      oversample := .inr ⟨rfl, rfl⟩
      fallback := .inr ⟨rfl, rfl⟩
      vectorize := .inl ⟨nofun, rfl⟩
      writer := .inr ⟨rfl, rfl⟩
      inputAffine := ⟨rfl, rfl⟩
      surplus := ⟨rfl, rfl⟩ }
  exact ⟨hdivides, run_of_divides hdivides x⟩

end Tool
end Regrid
