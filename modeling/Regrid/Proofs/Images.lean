import Mathlib
import Regrid.Matrix.Numeric
import Regrid.Proofs.Marks
import Regrid.Proofs.Placing
/-!
# Images — a volume as an image, and as an array with an orientation

The cells of an image are read as real numbers, while an array keeps the type of its cells.  Where a converter follows,
both come to the same stored values, unless a missing voxel is marked: the mark is not a number beside the cells of an
image, and zero beside those of an array of integers.
-/
namespace Regrid

variable {α : Type} [Scalar α]

section Opening

theorem Tensor.map_padded {β γ : Type} (f : β → γ) (t : Tensor β) : (t.map f).padded = t.padded.map f := by
  have hcast : ∀ {m n : Nat} (h : m = n) (v : Vector β m), (h ▸ v.map f : Vector γ n) = (h ▸ v : Vector β n).map f := by
    rintro m _ rfl v
    rfl
  exact congrArg (mk t.shape.padded) (hcast t.shape.count_padded t.cells)

theorem Volume.asReals_padded (x : Volume α) : x.asReals.padded = x.padded.asReals :=
  congrArg (mk (.real .double)) (Tensor.map_padded x.dtype.scalar x.cells)

/-- **An image opens** with the real numbers its cells stand for. -/
theorem Input.opens_image [Scalar.Lawful α] {i : Image α} (h : i.volume.dtype.IsNumeric) (files : FileTree α) :
    (Input.image i).Opens files (Info.ofImage i) i.volume.padded.asReals := by
  have hread : (Input.image i).read files .null = .ok (i.volume.asReals, Info.ofImage i) := by
    have hcells : imageCells i.volume none = .ok i.volume.asReals := Volume.cast_double h
    exact congrArg (fun y : Except (Fault α) (Volume α) => do return (← y, Info.ofImage i)) hcells
  refine ⟨rfl, Shape.length_padded _, i.volume.asReals, hread, ?_⟩
  have hshape : (Info.ofImage i).shape.take 3 ++ i.volume.asReals.shape.drop 3 = i.volume.asReals.cells.shape.padded :=
    Shape.take_padded_append i.volume.shape
  rw [hshape, Volume.reshape?, Tensor.reshape?_padded, ← Volume.asReals_padded]
  rfl

end Opening

/-- **The view of an array** from its grid to a placement. -/
def ToolOptions.viewFrom [Capacity] [LinearSolver α] (o : ToolOptions α) (p : Placement α) (x : Volume α)
    (input : Grid α) : Except (Fault α) (View α) := do
  let sizes ← p.sizes x.shape
  let reference ← Grid.make sizes .none (some (← p.transform input.transform))
  o.reslicing.view x input (some reference)

/-- **The view of an array** whose orientation is given, on the output grid of the options. -/
def ToolOptions.viewOf [Capacity] [LinearSolver α] (o : ToolOptions α) (x : Volume α)
    (orientation : AffineTransform α) : Except (Fault α) (View α) :=
  Grid.make (x.shape.map Int.ofNat) .none (some orientation) >>=
    o.viewFrom (Placement.ofOrientation o.outputAffine o.outputShape) x

namespace Tool

variable [LinearSolver α] [Capacity] {o : ToolOptions α} {dtype : Literal α}

section Image

variable [Scalar.Lawful α]

/-- **Integers are resliced to a placement** like the real numbers they stand for, up to the marks for missing cells. -/
theorem reslicedTo_asReals {x : Volume α} {input input' : Grid α} {p : Placement α}
    {next : Volume α → Except (Fault α) (Written α)} (hdtype : x.dtype = .real .double ∨ ∃ t, x.dtype = .int t)
    (hpositive : ∀ n ∈ x.shape, 0 < n) (hfallback : o.fallback.IsFallback) (hextent : input'.extent = input.extent)
    (htransform : input'.transform = input.transform)
    (hnumber : ∀ k t, o.reslicing.vectorize = true → o.fallback = .number (.int k) → x.dtype = .int t →
      Kernel.ofLiteral o.reslicing.order = .ok .nearest → t.holds k = true)
    (hdefault : o.fallback = .null → x.dtype = .real .double ∨ View.IgnoresMarks next ∨
      ∀ v, o.viewFrom p x input = .ok v → v.ShowsNoFallback) :
    reslicedTo o p x.asReals next input' = reslicedTo o p x next input := by
  have hshape : x.asReals.shape = x.shape := rfl
  unfold reslicedTo
  rw [hshape, htransform]
  cases hsizes : p.sizes x.shape with
  | error f => rfl
  | ok sizes =>
    cases ht : p.transform input.transform with
    | error f => rfl
    | ok t =>
      simp only [ok_bind]
      cases hreference : Grid.make sizes none (some t) with
      | error f => rfl
      | ok reference =>
        simp only [ok_bind]
        refine resliceArray_bind_asReals next hdtype hpositive rfl hfallback hextent htransform hnumber fun hnone => ?_
        refine (hdefault hnone).imp_right (Or.imp_right fun hshown v hv => hshown v ?_)
        unfold ToolOptions.viewFrom
        rw [hsizes, ok_bind, ht, ok_bind, hreference, ok_bind, hv]

variable [Scalar.Counting α]

/-- **An image is resliced like the array of its cells** that is given its orientation, where a converter follows.  Two
things may tell them apart: a mark for missing voxels, if no fallback is given, integers are resliced, and real numbers
come out; and a fallback that wraps around beside integers. -/
theorem reslice_image_eq_array {i : Image α} {affine : Literal α}
    (hdtype : i.volume.dtype = .real .double ∨ ∃ t, i.volume.dtype = .int t)
    (hlength : Grid.positiveSpacing (columnLengths i.orientation).toList = true) (hgiven : affine.isGiven = true)
    (haffine : AffineTransform.ofLiteral affine = .ok ⟨i.orientation⟩) (hinput : o.inputAffine = .null)
    (hwriter : o.writer = some (.converter dtype)) (hfallback : o.fallback.IsFallback)
    (hnumber : ∀ k t, o.reslicing.vectorize = true → o.fallback = .number (.int k) → i.volume.dtype = .int t →
      Kernel.ofLiteral o.reslicing.order = .ok .nearest → t.holds k = true)
    (hdefault : o.fallback = .null → i.volume.dtype = .real .double ∨ Writer.StoresIntegers dtype i.volume.dtype ∨
      ∀ v, o.viewOf i.volume.padded ⟨i.orientation⟩ = .ok v → v.ShowsNoFallback) (w : Workspace α) :
    (Task.perform (reslice.run .none o (.image i)) w).1 =
      (Task.perform (reslice.run .none { o with inputAffine := affine } (.array i.volume)) w).1 := by
  have hnumeric := Dtype.isNumeric_of_double_or_int hdtype
  rw [run_reslice, run_reslice]
  by_cases hsurplus : o.surplus = true
  · exact (fst_perform_resliceTo_of_surplus hsurplus _ _ _ w).trans
      (fst_perform_resliceTo_of_surplus (o := { o with inputAffine := affine }) hsurplus _ _ _ w).symm
  · have hplain : o.surplus = false := Bool.eq_false_of_not_eq_true hsurplus
    have himage : orientation o (Info.ofImage i) = .ok ⟨i.orientation⟩ := by
      rw [orientation, hinput]
      rfl
    have harray : (Task.perform (reslice.inputGrid i.volume.padded (Info.ofArray i.volume) affine) w).1 =
        Grid.make (i.volume.padded.shape.map Int.ofNat) none (some ⟨i.orientation⟩) := by
      rw [inputGrid_of_isGiven hgiven, haffine]
      rfl
    have hconverter : ∀ x : Input α, o.writer.getD (reslice.standardWriter x) = .converter dtype := fun x => by
      rw [hwriter, Option.getD_some]
    refine (fst_perform_resliceTo_converter (Input.opens_image hnumeric w.files) hplain (hconverter _) _).trans
      (Eq.trans ?_ (fst_perform_resliceTo_converter (o := { o with inputAffine := affine })
        (Input.opens_array i.volume w.files) hplain (hconverter _) _).symm)
    refine Eq.trans ?_ (congrArg (· >>= _) harray.symm)
    cases he : (Extent.ofSizes (i.volume.padded.shape.map Int.ofNat) : Except (Fault α) Extent) with
    | error f =>
      have hextent : (Extent.ofSizes (i.volume.padded.asReals.shape.map Int.ofNat) : Except (Fault α) Extent) =
          .error f := he
      rw [fst_perform_inputGrid_of_noExtent reslice himage hextent w, Grid.make_of_noExtent he]
      rfl
    | ok e =>
      have hextent : (Extent.ofSizes (i.volume.padded.asReals.shape.map Int.ofNat) : Except (Fault α) Extent) =
          .ok e := he
      obtain ⟨spacing, hgrid⟩ := exists_fst_perform_inputGrid reslice himage hlength hextent w
      obtain ⟨spacing', hmake⟩ := Grid.exists_make (t := ⟨i.orientation⟩) he hlength
      rw [hgrid, hmake, ok_bind, ok_bind]
      refine reslicedTo_asReals (o := o) (x := i.volume.padded) hdtype (Extent.positive_of_ofSizes he) hfallback rfl rfl
        hnumber fun hnone => ?_
      obtain hdouble | hintegers | hshown := hdefault hnone
      · exact .inl hdouble
      · refine .inr (.inl fun s f f' hf => ?_)
        exact congrArg (Written.array <$> ·) (hintegers.ignoresMarks s f f' hf)
      · refine .inr (.inr fun v hv => hshown v ?_)
        unfold ToolOptions.viewOf
        rwa [hmake, ok_bind]

end Image

end Tool

/-- **An image of a single voxel** that is an integer. -/
def Image.ofInt16 (orientation : Matrix 4 4 α) (n : Int) : Image α :=
  ⟨⟨.int .int16, Tensor.build [1, 1, 1] fun _ => IntType.int16.wrap n⟩, some orientation,
    .nifti none (List.replicate 7 1)⟩

open Exact RealMatrix in
/-- **A voxel of an image** that is turned out of the field of view, and stored with the type it had. -/
theorem Tool.reslice_image_eq_array_turned :
    let i : Image Exact := .ofInt16 (matrix 1) 5
    let o : ToolOptions Exact :=
      { ToolOptions.none with
        outputAffine := .ofMatrix View.turn, order := .number (.int 0), writer := some (.converter .null) }
    (Task.perform (reslice.run .none o (.image i)) (.ofFiles [])).1 =
      (Task.perform (reslice.run .none { o with inputAffine := .ofMatrix 1 } (.array i.volume)) (.ofFiles [])).1 := by
  intro i o
  have hlength : Grid.positiveSpacing (columnLengths i.orientation).toList = true :=
    Grid.positiveSpacing_affine (stepLength_pos isAffine_one (by simp))
  have hintegers : Writer.StoresIntegers (.null : Literal Exact) (.int .int16) := by
    intro t e he
    cases he
    rfl
  exact reslice_image_eq_array (i := i) (.inr ⟨.int16, rfl⟩) hlength rfl (AffineTransform.ofLiteral_ofMatrix 1) rfl rfl
    (.inl rfl) (fun k t _ hk => by cases hk) (fun _ => .inr (.inl hintegers)) _

section Float

/-- **A row of a matrix** of whole numbers as it is written. -/
def Literal.wholeRow (a b c d : Int) : Literal Float :=
  .list [.number (.int a), .number (.int b), .number (.int c), .number (.int d)]

/-- **An orientation with unit voxels** as it is written, shifted along the first axis. -/
def Literal.shifted (x : Int) : Literal Float :=
  .list [wholeRow 1 0 0 x, wholeRow 0 1 0 0, wholeRow 0 0 1 0, wholeRow 0 0 0 1]

/-- **Which values of an array of double precision** are not numbers. -/
def Written.missing : Except (Fault Float) (Written Float) → List Bool
  | .ok (.array ⟨.real .double, t⟩) => t.toList.map fun x : Float => Scalar.isNaN x
  | _ => []

/-- **A missing voxel of integers** that is stored as a real number is marked in an image, and zero in an array. -/
theorem Tool.reslice_image_ne_array :
    let i : Image Float := .ofInt16 (Matrix.identity 4) 5
    let o : ToolOptions Float :=
      { ToolOptions.none with
        outputAffine := .shifted 5, order := .number (.int 0), writer := some (.converter (.text "float64")) }
    AffineTransform.ofLiteral (.shifted 0) = .ok ⟨i.orientation⟩ ∧
      (Task.perform (reslice.run .none o (.image i)) (.ofFiles [])).1 ≠
        (Task.perform (reslice.run .none { o with inputAffine := .shifted 0 } (.array i.volume)) (.ofFiles [])).1 := by
  intro i o
  have hmatrix : (Literal.shifted 0).toHomogeneous 3 = .ok i.orientation := by
    have hsome : ((Literal.shifted 0).toHomogeneous 3).toOption = some i.orientation := by decide +kernel
    cases hm : (Literal.shifted 0).toHomogeneous 3 with
    | error f => rw [hm] at hsome; cases hsome
    | ok m => rw [hm] at hsome; exact congrArg Except.ok (Option.some.inj hsome)
  have himage : Written.missing (Task.perform (reslice.run .none o (.image i)) (.ofFiles [])).1 = [true] := by
    decide +kernel
  have harray : Written.missing (Task.perform (reslice.run .none { o with inputAffine := .shifted 0 }
      (.array i.volume)) (.ofFiles [])).1 = [false] := by
    decide +kernel
  refine ⟨?_, fun hsame => ?_⟩
  · exact congrArg (fun m : Except (Fault Float) (Matrix 4 4 Float) => AffineTransform.mk <$> m) hmatrix
  · rw [hsame, harray] at himage
    cases himage

end Float

end Regrid
