import Regrid.Literal
import Regrid.Fault
import Regrid.Text.Blank
import Regrid.Text.Numeral
/-!
# NumberTable — tables of numbers in text files

A row of a table is a line of numbers with blanks between them.  What follows a number sign is a comment, and lines
without numbers are skipped.  A table of one row or one column is a list, and a single entry a number.
-/
namespace Regrid.Text

variable {α : Type}

/-- **The pieces of a text between separators**, empty ones left out. -/
def pieces (separator : Char → Bool) (s : List Char) : List (List Char) :=
  (s.splitOnP separator).filter (!·.isEmpty)

def lines (s : String) : List (List Char) := s.toList.splitOnP fun c => c == '\n' || c == '\r'

/-- **The entries of a line**, without its comment. -/
def entries (line : List Char) : List String :=
  (pieces isSeparator (line.takeWhile (· != '#'))).map String.ofList

/-- **Reading an entry**: its digits are those of ASCII, and not grouped. -/
def readEntry? [Scalar α] (entry : String) : Option α :=
  if entry.toList.all fun c => c.toNat < 0x80 && c != '_' then readReal? entry else none

/-- **Dropping the brackets of a table around a single row, column or entry.** -/
def squeeze (rows : List (List (Literal α))) : Literal α :=
  match rows with
  | [[x]] => x
  | [row] => .list row
  | rows => if rows.all (·.length == 1) then .list rows.flatten else .list (rows.map .list)

/-- **A table of numbers**, whose rows have to be equally long. -/
def readTable [Scalar α] (s : String) : Except (Fault α) (Literal α) := do
  let rows := ((lines s).map entries).filter (!·.isEmpty)
  let numbers ← rows.mapM fun row => row.mapM fun entry =>
    match readEntry? entry with
    | some x => Except.ok (Literal.number (.real x))
    | none => .error (.notNumeric entry)
  match numbers with
  | [] => return .list []
  | first :: rest => if rest.all (·.length == first.length) then return squeeze numbers else .error .ragged

end Regrid.Text
