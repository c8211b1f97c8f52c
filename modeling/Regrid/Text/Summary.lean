import Regrid.Fault.Message
import Regrid.View
/-!
# Summary — one-line texts of transforms, grids, plans and views

A summary names what a value is and lists its parts.  Voxel sizes are rounded to six decimals.
-/
namespace Regrid

/-- **The double nearest to a double rounded to `places` decimals.** -/
def Text.roundedTo (places : Nat) (x : Float) : Float :=
  match Binary.ofFloat x with
  | .finite negative significand exponent =>
    let (num, den) := Binary.quotient significand exponent
    let d := Decimal.nearest negative num den (-places)
    let magnitude := Binary.floatOfDecimal d.coefficient d.exponent
    if negative then -magnitude else magnitude
  | _ => x

def AffineTransform.summary (t : AffineTransform Float) : String := Fault.transformText t.matrix

def Grid.summary (g : Grid Float) : String :=
  let spacing := g.spacing.map fun x => Scalar.text .double (Text.roundedTo 6 x)
  s!"Grid(shape={Fault.shapeText g.shape}, spacing={Text.roundList spacing}, transform={g.transform.summary})"

def OversamplingPlan.factorsText (p : OversamplingPlan) : String := Text.squareList (p.factors.toList.map toString)

def OversamplingPlan.summary (p : OversamplingPlan) : String := s!"OversamplingPlan(factors={p.factorsText})"

def View.summary (v : View Float) : String :=
  s!"Reslice(shape={Fault.shapeText v.extent.toShape}, oversampling={v.plan.factorsText})"

end Regrid
