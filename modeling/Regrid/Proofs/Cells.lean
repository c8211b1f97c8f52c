import Mathlib
import Regrid.Proofs.Lawful
import Regrid.Proofs.Tensor
import Regrid.Volume
/-!
# Cells — cells as real numbers

Truth values, integers and real numbers up to double precision stand for real numbers (`Dtype.scalar`), which a
conversion to double precision gives.  A type that can stand in for another keeps these numbers; storing a cell once
more in its own type keeps the cell.
-/
namespace Regrid

namespace Dtype

/-- **The types whose cells are samples**: truth values, integers, and real numbers up to double precision. -/
def IsNumeric : Dtype → Prop
  | .bool | .int _ => True
  | .real p => p ≠ .extended
  | _ => False

theorem isNumeric_double : IsNumeric (.real .double) := by
  simp [IsNumeric]

variable {α : Type}

/-- **A type absorbs another** if the values of both stand side by side in it: its own, truth values, and every type
beside double precision. -/
def Absorbs (d e : Dtype) : Prop := d = e ∨ e = .bool ∨ d = .real .double

theorem join_of_absorbs {d e : Dtype} (hd : d.IsNumeric) (he : e.IsNumeric) (h : d.Absorbs e) :
    (join d e : Except (Fault α) Dtype) = .ok d := by
  obtain rfl | rfl | rfl := h
  · cases d with
    | bool => rfl
    | int t => cases t <;> rfl
    | real p => cases p <;> rfl
    | complex | span | text | other => exact hd.elim
  · cases d with
    | bool | int | real => rfl
    | complex | span | text | other => exact hd.elim
  · cases e with
    | bool => rfl
    | int t => cases t <;> rfl
    | real p =>
      cases p with
      | extended => exact absurd rfl he
      | half | single | double => rfl
    | complex | span | text | other => exact he.elim

variable [Scalar α]

/-- **The real number a cell stands for.** -/
def scalar : (d : Dtype) → d.Value α → α
  | .bool, b => Scalar.ofBool b
  | .int _, n => Scalar.ofInt n.val
  | .real _, x => x
  | _, _ => Scalar.nan

/-- **A cell is stored**: its type keeps it as it is. -/
def Stored (d : Dtype) (x : d.Value α) : Prop := d.convert d x = .ok x

theorem toScalar_eq {d : Dtype} (hd : d.IsNumeric) (x : d.Value α) : d.toScalar x = .ok (d.scalar x) := by
  cases d with
  | bool | int | real => rfl
  | complex | span | text | other => exact hd.elim

theorem stored_int (t : IntType) (n : t.Value) : Stored (α := α) (.int t) n := by
  have hn : t.wrap n.val = n := Subtype.ext (IntType.residue_eq_self n.property)
  exact congrArg Except.ok hn

theorem stored_real {p : Precision} {x : α} : Stored (.real p) x ↔ Scalar.narrow p x = x :=
  ⟨fun h => Except.ok.inj h, fun h => congrArg Except.ok h⟩

theorem range_of_holds {t : IntType} {n : Int} (h : t.holds n = true) :
    -9223372036854775808 ≤ n ∧ n ≤ 18446744073709551615 := by
  cases t <;>
    simp [IntType.holds, IntType.minimum, IntType.maximum, IntType.count, IntType.signed, IntType.bits] at h <;> omega

theorem bounds_of_holds {t : IntType} {n : Int} (h : t.holds n = true) :
    -18446744073709551616 ≤ n ∧ n ≤ 18446744073709551616 := by
  obtain ⟨hlow, hhigh⟩ := range_of_holds h
  omega

/-- **The integers of 64 bits**, with a sign or without one. -/
theorem between_minimum_maximum {n : Int} (h : -9223372036854775808 ≤ n ∧ n ≤ 18446744073709551615) :
    (decide (IntType.int64.minimum ≤ n) && decide (n ≤ IntType.uint64.maximum)) = true := by
  simp [IntType.minimum, IntType.maximum, IntType.count, IntType.signed, IntType.bits]
  omega

theorem scalar_wrap_ofBool (t : IntType) (b : Bool) :
    scalar (α := α) (.int t) (t.wrap (Number.ofBool b)) = Scalar.ofBool b := by
  cases t <;> cases b <;> rfl

variable [Scalar.Lawful α]

theorem convert_double {d : Dtype} (hd : d.IsNumeric) (x : d.Value α) :
    d.convert (.real .double) x = .ok (d.scalar x) := by
  cases d with
  | bool => rfl
  | int t => exact congrArg Except.ok (Scalar.Lawful.storeInt_double _)
  | real p => exact congrArg Except.ok (Scalar.Lawful.narrow_double _)
  | complex | span | text | other => exact hd.elim

theorem isFinite_ofBool (b : Bool) : Scalar.isFinite (Scalar.ofBool b : α) = true := by
  cases b
  · exact Scalar.Lawful.isFinite_ofInt (by decide) (by decide)
  · exact Scalar.Lawful.isFinite_ofInt (by decide) (by decide)

theorem isFinite_eq {d : Dtype} (hd : d.IsNumeric) (x : d.Value α) :
    d.isFinite x = .ok (Scalar.isFinite (d.scalar x)) := by
  cases d with
  | bool => exact congrArg Except.ok (isFinite_ofBool x).symm
  | int t =>
    obtain ⟨hlow, hhigh⟩ := bounds_of_holds x.property
    exact congrArg Except.ok (Scalar.Lawful.isFinite_ofInt hlow hhigh).symm
  | real p => rfl
  | complex | span | text | other => exact hd.elim

theorem stored_double (x : α) : Stored (.real .double) x := stored_real.2 (Scalar.Lawful.narrow_double x)

theorem stored_of_convert {d e : Dtype} (hd : d.IsNumeric) (he : e.IsNumeric) {x : d.Value α} {y : e.Value α}
    (h : d.convert e x = .ok y) : e.Stored y := by
  cases e with
  | bool => rfl
  | int t => exact stored_int t y
  | real p =>
    rw [stored_real]
    cases d with
    | bool => cases h; exact Scalar.Lawful.narrow_ofBool p x
    | int t => cases h; exact Scalar.Lawful.narrow_storeInt p x.val
    | real q => cases h; exact Scalar.Lawful.narrow_narrow p x
    | complex | span | text | other => exact hd.elim
  | complex | span | text | other => exact he.elim

/-- **A type can stand in for another**: it has all its numbers. -/
inductive Widens : Dtype → Dtype → Prop
  | same {d : Dtype} : d.IsNumeric → Widens d d
  | boolInt : Widens .bool (.int .int64)
  | boolReal : Widens .bool (.real .double)
  | intReal (t : IntType) : Widens (.int t) (.real .double)

theorem Widens.isNumeric {d e : Dtype} : Widens d e → d.IsNumeric ∧ e.IsNumeric
  | .same h => ⟨h, h⟩
  | .boolInt => ⟨trivial, trivial⟩
  | .boolReal | .intReal _ => ⟨trivial, isNumeric_double⟩

/-- **A stored cell keeps its number** in a type that can stand in for its own. -/
theorem Widens.convert {d e : Dtype} (h : Widens d e) {x : d.Value α} (hx : d.Stored x) :
    ∃ y, d.convert e x = .ok y ∧ e.scalar y = d.scalar x := by
  cases h with
  | same hd => exact ⟨x, hx, rfl⟩
  | boolInt => exact ⟨IntType.int64.wrap (Number.ofBool x), rfl, by cases x <;> rfl⟩
  | boolReal => exact ⟨Scalar.ofBool x, rfl, rfl⟩
  | intReal t => exact ⟨Scalar.storeInt .double x.val, rfl, Scalar.Lawful.storeInt_double _⟩

theorem missing_numeric {d : Dtype} (hd : d.IsNumeric) :
    (missing d : Cell α).dtype = d ∧ (missing d : Cell α).dtype.Stored (missing d : Cell α).value := by
  cases d with
  | bool => exact ⟨rfl, rfl⟩
  | int t => exact ⟨rfl, stored_int t _⟩
  | real p => exact ⟨rfl, stored_real.2 (Scalar.Lawful.narrow_nan p)⟩
  | complex | span | text | other => exact hd.elim

theorem convert_of_absorbs {d e : Dtype} (hd : d.IsNumeric) (he : e.IsNumeric) (h : d.Absorbs e) {z : e.Value α}
    (hz : e.Stored z) : ∃ z', e.convert d z = .ok z' ∧ d.scalar z' = e.scalar z := by
  obtain rfl | rfl | rfl := h
  · exact ⟨z, hz, rfl⟩
  · cases d with
    | bool => exact ⟨z, rfl, rfl⟩
    | int t => exact ⟨t.wrap (Number.ofBool z), rfl, scalar_wrap_ofBool t z⟩
    | real p => exact ⟨Scalar.ofBool z, rfl, rfl⟩
    | complex | span | text | other => exact hd.elim
  · exact ⟨e.scalar z, convert_double he z, rfl⟩

end Dtype

namespace Volume

variable {α : Type} [Scalar α] {d e : Dtype} {s : Shape}

theorem cast_build (he : e.IsNumeric) {x : List Nat → d.Value α} {y : List Nat → e.Value α}
    (h : ∀ index, s.Inside index → d.convert e (x index) = .ok (y index)) :
    cast ⟨d, Tensor.build s x⟩ e = .ok ⟨e, Tensor.build s y⟩ := by
  have hcells : (Tensor.build s x).mapM (d.convert e) = .ok (Tensor.build s y) := Tensor.mapM_build h
  have hsettled : settled ⟨d, Tensor.build s x⟩ e = e := by
    cases e with
    | text n => exact he.elim
    | _ => rfl
  have hcast : ∀ e', e' = e → (do return ⟨e', ← (Tensor.build s x).mapM (d.convert e')⟩ : Except (Fault α) (Volume α)) =
      .ok ⟨e, Tensor.build s y⟩ := by
    rintro _ rfl
    rw [hcells]
    rfl
  exact hcast _ hsettled

/-- **Choosing between the cells of a volume and a single cell** takes the cells where the choice says so. -/
theorem choose_single [Scalar.Lawful α] {c : Dtype} (hd : d.IsNumeric) (hc : c.IsNumeric) (he : e.IsNumeric)
    {b : List Nat → Bool} {x : List Nat → d.Value α} {x' : List Nat → e.Value α} {z : c.Value α} {z' : e.Value α}
    (hx : ∀ index, s.Inside index → d.convert e (x index) = .ok (x' index)) (hz : c.convert e z = .ok z') :
    choose e (Tensor.build s b) ⟨d, Tensor.build s x⟩ ⟨c, Tensor.build [] fun _ => z⟩ =
      .ok ⟨e, Tensor.build s fun index => if b index then x' index else z'⟩ := by
  have hcells : (Tensor.buildM s fun index => do
      return (← (Tensor.build s b).get? index, ← (Tensor.build s x').get? index,
        ← (Tensor.build s fun _ => z').get? index)) = some (Tensor.build s fun index => (b index, x' index, z')) :=
    Tensor.buildM_eq_pure fun index hi => by
      rw [Tensor.get?_build hi, Tensor.get?_build hi, Tensor.get?_build hi]
      rfl
  have hchosen : (Tensor.build s fun index => (b index, x' index, z')).mapM
      (fun t => if t.1 then e.convert e t.2.1 else e.convert e t.2.2) =
        .ok (Tensor.build s fun index => if b index then x' index else z') :=
    Tensor.mapM_build fun index hi => by
      have hx' : e.convert e (x' index) = .ok (x' index) := Dtype.stored_of_convert hd he (hx index hi)
      have hz' : e.convert e z' = .ok z' := Dtype.stored_of_convert hc he hz
      cases b index
      · exact hz'
      · exact hx'
  unfold choose
  rw [cast_build he hx, cast_build he fun _ _ => hz]
  simp only [Tensor.shape_build, shape, Shape.join?_self, Shape.join?_nil, Option.bind_some, ok_bind]
  simp only [Tensor.broadcast?_self, Tensor.broadcast?_single, Option.bind_eq_bind, Option.bind_some] at hcells ⊢
  rw [hcells]
  simp only [hchosen, ok_bind]
  rfl

end Volume
end Regrid
