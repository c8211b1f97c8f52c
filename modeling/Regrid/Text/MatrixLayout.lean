import Regrid.Scalar.Double
import Regrid.Matrix
/-!
# MatrixLayout — matrices as aligned columns of numbers

All entries of a matrix share one width.  A number has as many decimals as it needs, at most four, and a point even
if it has none; the decimals it lacks are blank, so that the points stand below one another.  Once an entry reaches
`10 ^ 8` all entries are written with an exponent, and then with the same number of decimals.
-/
namespace Regrid.Text

/-- **How a matrix is laid out**: the most decimals of an entry, the magnitude from which entries have an exponent,
and the fewest digits of an exponent. -/
structure MatrixLayout where
  decimals : Nat
  scientificFrom : Nat
  exponentDigits : Nat

/-- **Four decimals, exponents from `10 ^ 8` on, and two digits in an exponent.** -/
def matrixLayout : MatrixLayout := ⟨4, 100000000, 2⟩

/-- **A number in columns**: its sign and whole part, its decimals, and its exponent. -/
structure Columns where
  whole : String
  fraction : List Char
  exponent : Int

/-- **The decimal of at most `places` decimals for a finite value**: its shortest text if that is short enough, and
the exact value rounded otherwise. -/
def cutOff (negative : Bool) (significand : Nat) (exponent : Int) (places : Int) : Decimal :=
  let short := Decimal.shortest (Binary.format .double) negative significand exponent
  if -places ≤ short.exponent then short
  else
    let (num, den) := Binary.quotient significand exponent
    (Decimal.nearest negative num den (-places)).trim

/-- **The columns of a value in positional notation.** -/
def positionalColumns (l : MatrixLayout) (negative : Bool) (significand : Nat) (exponent : Int) : Columns :=
  let (whole, fraction) := (cutOff negative significand exponent l.decimals).parts
  ⟨(if negative then "-" else "") ++ String.ofList whole, fraction, 0⟩

/-- **The columns of a value in scientific notation.** -/
def scientificColumns (l : MatrixLayout) (negative : Bool) (significand : Nat) (exponent : Int) : Columns :=
  let sign := if negative then "-" else ""
  if significand = 0 then ⟨sign ++ "0", [], 0⟩
  else
    let (num, den) := Binary.quotient significand exponent
    let leading := Decimal.magnitude num den
    let d := cutOff negative significand exponent (l.decimals - leading)
    let ds := Decimal.digits d.coefficient
    ⟨sign ++ String.ofList (ds.take 1), ds.drop 1, d.exponent + ds.length - 1⟩

/-- **The columns of a value in scientific notation with a number of decimals**: the digits of its exact value. -/
def filledColumns (decimals : Nat) (negative : Bool) (significand : Nat) (exponent : Int) : Columns :=
  let sign := if negative then "-" else ""
  if significand = 0 then ⟨sign ++ "0", List.replicate decimals '0', 0⟩
  else
    let (num, den) := Binary.quotient significand exponent
    let d := Decimal.nearest negative num den (Decimal.magnitude num den - decimals)
    let ds := Decimal.digits d.coefficient
    ⟨sign ++ String.ofList (ds.take 1), (ds.drop 1).take decimals, d.exponent + ds.length - 1⟩

/-- **The greatest of a list of lengths.** -/
def widest (ns : List Nat) : Nat := ns.foldl max 0

/-- **The text of every entry**, all of one width. -/
def alignedEntries (l : MatrixLayout) (entries : List Float) : List String :=
  let values := entries.map Binary.ofFloat
  let scientific := values.any fun
    | .finite _ significand exponent =>
      let (num, den) := Binary.quotient significand exponent
      l.scientificFrom * den ≤ num
    | _ => false
  let finite := values.filterMap fun
    | .finite negative significand exponent => some <|
      if scientific then scientificColumns l negative significand exponent
      else positionalColumns l negative significand exponent
    | _ => none
  let decimals := widest (finite.map (·.fraction.length))
  let exponents := finite.map fun c =>
    if scientific then Decimal.exponentText l.exponentDigits c.exponent else ""
  let exponentWidth := widest (exponents.map String.length)
  let right := decimals + exponentWidth + 1
  let special := values.filterMap fun
    | .nan => some 3
    | .infinity negative => some (if negative then 4 else 3)
    | _ => none
  let left := widest (finite.map (·.whole.length) ++ special.map (· - right))
  let pad (n : Nat) (s : String) := String.ofList (List.replicate (n - s.length) ' ') ++ s
  values.map fun
    | .finite negative significand exponent =>
      if scientific then
        let c := filledColumns decimals negative significand exponent
        pad left c.whole ++ "." ++ String.ofList c.fraction ++ Decimal.exponentText (exponentWidth - 2) c.exponent
      else
        let c := positionalColumns l negative significand exponent
        pad left c.whole ++ "." ++ String.ofList (c.fraction ++ List.replicate (decimals - c.fraction.length) ' ')
    | .infinity true => pad (left + right) "-inf"
    | .infinity false => pad (left + right) "inf"
    | .nan => pad (left + right) "nan"

/-- **The rows of a matrix, one below the other.** -/
def ofMatrix {m n : Nat} (a : Matrix m n Float) : String :=
  let texts := alignedEntries matrixLayout a.entries
  let rows := (List.range m).map fun i => "[" ++ ", ".intercalate ((texts.drop (i * n)).take n) ++ "]"
  "[" ++ ",\n ".intercalate rows ++ "]"

end Regrid.Text
