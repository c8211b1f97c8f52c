import Regrid.Scalar
import Regrid.Text.Blank
import Regrid.Text.Digit
/-!
# Numeral — reading numbers from text

A numeral has an optional sign, digits that may be grouped by single underscores, and for a real number a point and an
exponent.  Blanks around it do not count.  The names of the values that are not finite are read in either case.
-/
namespace Regrid.Text

/-- **Digits of a numeral with their grouping marks removed**: each mark stands between two digits. -/
def ungroup : List Char → Option (List Char)
  | [] => some []
  | [c] => if isDigit c then some [c] else none
  | c :: '_' :: d :: r =>
    if isDigit c && isDigit d then (ungroup (d :: r)).map (c :: ·) else none
  | c :: r => if isDigit c then (ungroup r).map (c :: ·) else none

def digitsValue (cs : List Char) : Nat := cs.foldl (fun n c => 10 * n + (digitValue? c).getD 0) 0

/-- **A sign and what follows it.** -/
def splitSign : List Char → Bool × List Char
  | '-' :: r => (true, r)
  | '+' :: r => (false, r)
  | r => (false, r)

/-- **Splitting at the first character that satisfies a condition**, which is dropped. -/
def splitAtChar (p : Char → Bool) (cs : List Char) : List Char × Option (List Char) :=
  match cs.dropWhile fun c => !p c with
  | [] => (cs, none)
  | _ :: r => (cs.takeWhile fun c => !p c, some r)

/-- **The most digits of a whole number.** -/
def mostDigits : Nat := 4300

/-- **Reading a whole number.**  Zeros in front count as digits. -/
def readInt? (s : String) : Option Int :=
  let (negative, cs) := splitSign (trim s.toList)
  (ungroup cs).bind fun ds =>
    if ds.isEmpty || mostDigits < ds.length then none
    else some (if negative then -(digitsValue ds : Int) else digitsValue ds)

/-- **Reading an unsigned real number** as a coefficient and an exponent of ten. -/
def readDecimal? (cs : List Char) : Option (Nat × Int) := do
  let (mantissa, exponent) := splitAtChar (fun c => c == 'e' || c == 'E') cs
  let (whole, fraction) := splitAtChar (· == '.') mantissa
  let whole ← ungroup whole
  let fraction ← ungroup (fraction.getD [])
  if whole.isEmpty && fraction.isEmpty then none
  let shift : Int ← match exponent with
    | none => pure 0
    | some cs =>
      let (negative, ds) := splitSign cs
      let ds ← ungroup ds
      if ds.isEmpty then none
      pure (if negative then -(digitsValue ds : Int) else digitsValue ds)
  return (digitsValue (whole ++ fraction), shift - fraction.length)

/-- **The names of values that are not finite.** -/
def names : List String := ["inf", "infinity", "nan"]

def isReal (s : String) : Bool :=
  let (_, cs) := splitSign (trim s.toList)
  names.contains (String.ofList (cs.map Char.toLower)) || (readDecimal? cs).isSome

def readReal? {α : Type} [Scalar α] (s : String) : Option α :=
  let (negative, cs) := splitSign (trim s.toList)
  let signed (x : α) : α := if negative then -x else x
  match String.ofList (cs.map Char.toLower) with
  | "inf" | "infinity" => some (signed Scalar.infinity)
  | "nan" => some Scalar.nan
  | _ => (readDecimal? cs).map fun (c, e) => signed (Scalar.ofDecimal c e)

end Regrid.Text
