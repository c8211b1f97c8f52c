import Regrid.Fault
import Regrid.Text.Display
import Regrid.Text.MatrixLayout
/-!
# Message — the wording of faults

A fault that this library detects itself has a message; one that follows from a conversion or from arithmetic has none.
-/
namespace Regrid.Fault

open Text

def shapeText (s : Shape) : String := roundList (s.map toString)

/-- **A list of whole numbers in a message.** -/
def intsText (s : List Int) : String := roundList (s.map toString)

def sequenceText : Brackets → List (Literal Float) → String
  | .round, ls => roundList (ofLiterals ls)
  | .square, ls => squareList (ofLiterals ls)

/-- **The text of a transform**: its name and its matrix. -/
def transformText (m : Matrix 4 4 Float) : String := "AffineTransform(" ++ ofMatrix m ++ ")"

/-- **The message of a fault**, if it has one. -/
def message? : Fault Float → Option String
  | gridAxes shape => some s!"Grids must have at least three axes. Got shape {intsText shape}."
  | gridSizes shape => some s!"Grid sizes must be positive. Got {intsText shape}."
  | gridSpacing spacing =>
    some s!"Grid spacing must be positive. Got {roundList (spacing.map (Scalar.text .double))}."
  | degenerateGrid transform => some s!"Grid transform is degenerate: {transformText transform}."
  | matrixShape dim next shape =>
    let (m, n) := (ofNumber dim, ofNumber next)
    some s!"Expected a ({m}, {n}) or ({n}, {n}) matrix. Got {shapeText shape}."
  | pointShape shape => some s!"Points must have 3 coordinates. Got shape {shapeText shape}."
  | singular => some "Singular matrix"
  | volumeAxes shape => some s!"Interpolated volumes must have at least three axes. Got shape {shapeText shape}."
  | gridMismatch grid volume =>
    some s!"Grid shape {shapeText grid} does not match volume shape {shapeText volume}."
  | inputGridMismatch grid volume =>
    some s!"Input grid shape {shapeText grid} does not match volume shape {shapeText volume}."
  | unknownOrder order => some s!"Interpolation order {standalone order} not implemented"
  | factorsNotWhole brackets factors =>
    some s!"oversample factors must be integers. Got {sequenceText brackets factors}."
  | factorsNotPositive factors =>
    some s!"oversample factors must be greater than zero. Got {intsText factors}."
  | factorCount factors =>
    some s!"Expected one oversample factor per spatial axis. Got {sequenceText .square factors}."
  | noFactor => some "No resizing factor provided"
  | noOutputShape => some "No output shape provided"
  | noVoxelSize => some "No output voxel size provided"
  | noReference => some "No reference volume provided"
  | unhandledInput => some "Input type '<class 'list'>' not handled"
  | noSuchVolume path => some s!"No such volume: {path}"
  | unwritable extension => some s!"Cannot write files with extension {extension}"
  | _ => none

def Kind.words : Kind → String
  | value => "a value does not fit"
  | type => "a value is of the wrong kind"
  | index => "an index lies outside"
  | division => "division by zero"
  | overflow => "a number is too large"
  | dimension => "there are too few axes"
  | oversample => "the oversampling factors do not fit"
  | algebra => "a linear system has no solution"
  | missingFile => "there is no such file"
  | directory => "a directory stands where a file is meant"
  | notDirectory => "a file stands where a directory is meant"
  | system => "a path cannot be used"
  | compression _ => "a file is not compressed as its name says"
  | serialized => "a file holds no object"
  | capability => "a value does not have an operation"
  | memory => "there is no room for an array"
  | key => "a code has no meaning"
  | imageFile => "a file holds no image"
  | encoding => "a file holds no text"
  | runtime => "coordinates have the wrong shape"
  | promotion => "two types of cells have no common one"
  | operation => "a type of cells does not have an operation"
  | niftiHeader | mghHeader => "an image format cannot store a volume"
  | noData => "a file is empty"

/-- **What a user is told about a fault**: its message, or words for its sort. -/
def description (f : Fault Float) : String := f.message?.getD f.kind.words

end Regrid.Fault
