import Regrid.Literal
import Regrid.Text.Hidden
/-!
# Display — how values are written in messages

Numbers have their shortest digits, text is quoted, and sequences are bracketed with commas between their items.
-/
namespace Regrid.Text

/-- **A number in lower case hexadecimal**, with at least `width` digits. -/
def hexadecimal (width n : Nat) : String :=
  let ds := Nat.toDigits 16 n
  String.ofList (List.replicate (width - ds.length) '0' ++ ds)

/-- **A character inside quotes.** -/
def quotedChar (quote c : Char) : String :=
  if c == quote || c == '\\' then "\\" ++ c.toString
  else if c == '\n' then "\\n"
  else if c == '\r' then "\\r"
  else if c == '\t' then "\\t"
  else if !isHidden c then c.toString
  else if c.toNat < 0x100 then "\\x" ++ hexadecimal 2 c.toNat
  else if c.toNat < 0x10000 then "\\u" ++ hexadecimal 4 c.toNat
  else "\\U" ++ hexadecimal 8 c.toNat

/-- **A text in quotes**: single ones, unless it has single quotes and no double ones. -/
def quoted (s : String) : String :=
  let quote := if s.toList.contains '\'' && !s.toList.contains '"' then '"' else '\''
  quote.toString ++ String.join (s.toList.map (quotedChar quote)) ++ quote.toString

def squareList (items : List String) : String := "[" ++ ", ".intercalate items ++ "]"

/-- **A list in round brackets**; a list of one item keeps a comma. -/
def roundList : List String → String
  | [item] => "(" ++ item ++ ",)"
  | items => "(" ++ ", ".intercalate items ++ ")"

variable {α : Type} [Scalar α]

/-- **A number as it is written in a message.** -/
def ofNumber : Number α → String
  | .bool b => if b then "True" else "False"
  | .int n => toString n
  | .real x => Scalar.text .double x

mutual

/-- **A literal as it is written in a message.** -/
def ofLiteral : Literal α → String
  | .null => "None"
  | .number n => ofNumber n
  | .text s => quoted s
  | .list xs => squareList (ofLiterals xs)
  | .record fields => "\x7b" ++ ", ".intercalate (ofFields fields) ++ "\x7d"

/-- **The items of a list as they are written in a message.** -/
def ofLiterals : List (Literal α) → List String
  | [] => []
  | l :: ls => ofLiteral l :: ofLiterals ls

/-- **The fields of a record as they are written in a message.** -/
def ofFields : List (String × Literal α) → List String
  | [] => []
  | (k, l) :: fs => (quoted k ++ ": " ++ ofLiteral l) :: ofFields fs

end

/-- **A literal on its own**: text stands without quotes. -/
def standalone : Literal α → String
  | .text s => s
  | l => ofLiteral l

end Regrid.Text
