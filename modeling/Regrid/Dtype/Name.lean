import Regrid.Dtype
import Regrid.Fault
/-!
# Name — the names of cell types

A cell type has one name it is shown by.  It may be asked for by that name, by its one-letter code, by its kind and
number of bytes, or by the name of the machine type.  A mark for the order of bytes may precede the latter forms, and an
empty pair of brackets or a one, which ask for a single value.
-/
namespace Regrid

def IntType.name (t : IntType) : String := (if t.signed then "int" else "uint") ++ toString t.bits

namespace Dtype

/-- **The name of a cell type.** -/
def name : Dtype → String
  | bool => "bool"
  | int t => t.name
  | real p => "float" ++ toString p.bits
  | complex p => "complex" ++ toString (2 * p.bits)
  | span unit => "timedelta64" ++ (if unit.isEmpty then "" else "[" ++ unit ++ "]")
  | text n => "str" ++ (if n = 0 then "" else toString (32 * n))
  | other => "object"

/-- **The names that stand alone.** -/
def words : List (String × Dtype) :=
  [("bool", bool), ("bool_", bool), ("byte", int .int8), ("short", int .int16), ("intc", int .int32),
   ("int", int .int64), ("int_", int .int64), ("intp", int .int64), ("long", int .int64), ("longlong", int .int64),
   ("ubyte", int .uint8), ("ushort", int .uint16), ("uintc", int .uint32), ("uint", int .uint64),
   ("uintp", int .uint64), ("ulong", int .uint64), ("ulonglong", int .uint64), ("half", real .half),
   ("single", real .single), ("double", real .double), ("longdouble", real .extended), ("float", real .double),
   ("complex", complex .double), ("csingle", complex .single), ("cdouble", complex .double),
   ("clongdouble", complex .extended), ("str", text 0), ("str_", text 0), ("unicode", text 0), ("object", other),
   ("object_", other), ("int8", int .int8), ("int16", int .int16), ("int32", int .int32), ("int64", int .int64),
   ("uint8", int .uint8), ("uint16", int .uint16), ("uint32", int .uint32), ("uint64", int .uint64),
   ("float16", real .half), ("float32", real .single), ("float64", real .double), ("float128", real .extended),
   ("complex64", complex .single), ("complex128", complex .double), ("complex256", complex .extended)]

def letters : List (Char × Dtype) :=
  [('?', bool), ('b', int .int8), ('h', int .int16), ('i', int .int32), ('l', int .int64), ('q', int .int64),
   ('p', int .int64), ('n', int .int64), ('B', int .uint8), ('H', int .uint16), ('I', int .uint32), ('L', int .uint64),
   ('Q', int .uint64), ('P', int .uint64), ('N', int .uint64), ('e', real .half), ('f', real .single),
   ('d', real .double), ('g', real .extended), ('F', complex .single), ('D', complex .double),
   ('G', complex .extended), ('m', span ""), ('U', text 0), ('T', text 0), ('O', other)]

/-- **The types of a kind**, by their numbers of bytes. -/
def sizes : List (Char × Int × Dtype) :=
  [('b', 1, bool), ('i', 1, int .int8), ('i', 2, int .int16), ('i', 4, int .int32), ('i', 8, int .int64),
   ('u', 1, int .uint8), ('u', 2, int .uint16), ('u', 4, int .uint32), ('u', 8, int .uint64), ('f', 2, real .half),
   ('f', 4, real .single), ('f', 8, real .double), ('f', 16, real .extended), ('c', 8, complex .single),
   ('c', 16, complex .double), ('c', 32, complex .extended), ('O', 4, other), ('O', 8, other)]

/-- **The units of spans of time.** -/
def units : List String := ["Y", "M", "W", "D", "h", "m", "s", "ms", "us", "ns", "ps", "fs", "as"]

/-- **A number of bytes or characters**: blanks, a sign and digits.  It is cut to the range of 64 bits and then reduced
to 32 of them. -/
def readSize? (cs : List Char) : Option Int :=
  let unsigned := cs.dropWhile fun c => c == ' ' || (0x9 ≤ c.toNat && c.toNat ≤ 0xd)
  let digits := if unsigned.head? == some '-' || unsigned.head? == some '+' then unsigned.drop 1 else unsigned
  if digits.isEmpty || !digits.all Char.isDigit then none
  else
    let n : Int := digits.foldl (fun n c => 10 * n + (c.toNat - '0'.toNat)) (0 : Nat)
    let signed := if unsigned.head? == some '-' then -n else n
    some (IntType.int32.residue (max IntType.int64.minimum (min signed IntType.int64.maximum)))

/-- **The type of a kind with a number of bytes**, or of characters in the case of text. -/
def ofSize? (kind : Char) (size : Int) : Option Dtype :=
  if kind == 'U' then if 0 ≤ size then some (text size.toNat) else none
  else (sizes.find? fun (k, n, _) => k == kind && n == size).map (·.2.2)

/-- **A span of time in a unit in brackets**, which a number may precede; no brackets leave the unit open. -/
def ofUnit? (cs : List Char) : Option Dtype :=
  match cs with
  | [] => some (span "")
  | '[' :: rest =>
    if rest.getLast? != some ']' then none
    else
      let inner := rest.dropLast
      let count := inner.takeWhile Char.isDigit
      let unit := String.ofList (inner.drop count.length)
      if unit == "generic" && count.isEmpty then some (span "")
      else if units.contains unit then some (span (if count == ['1'] then unit else String.ofList inner))
      else none
  | _ => none

/-- **A name without its mark for the order of bytes.** -/
def unmarked : List Char → List Char
  | c :: cs => if ['<', '>', '=', '|'].contains c then cs else c :: cs
  | [] => []

/-- **The cell type of a code**, which a mark may precede. -/
def ofCode? (code : List Char) : Option Dtype :=
  match unmarked code with
  | 'm' :: '8' :: rest => ofUnit? rest
  | [c] => letters.lookup c
  | cs =>
    if "timedelta64".toList.isPrefixOf cs then ofUnit? (cs.drop "timedelta64".length)
    else match cs with
      | kind :: size => (readSize? size).bind (ofSize? kind)
      | [] => none

/-- **What a name asks for once**: what follows an empty pair of brackets or a one. -/
def single? (cs : List Char) : Option (List Char) :=
  let rest? := match unmarked cs with
    | '(' :: ')' :: rest => some rest
    | '1' :: rest => if rest.head?.any Char.isDigit then none else some rest
    | _ => none
  (rest?.map (·.dropWhile (· == ' '))).filter fun rest => (unmarked rest).all fun c => c.isAlphanum || c == '?'

/-- **The cell type of a name**, if there is one. -/
def ofName? (s : String) : Option Dtype :=
  let cs := (single? s.toList).getD s.toList
  (words.lookup (String.ofList cs)).or (ofCode? cs)

/-- **A code of points in time**, of which no array is made: a letter or a name with a unit of time. -/
def isMoment (s : String) : Bool :=
  let cs := (single? s.toList).getD s.toList
  match unmarked cs with
  | ['M'] => true
  | 'M' :: '8' :: rest => (ofUnit? rest).isSome
  | cs => "datetime64".toList.isPrefixOf cs && (ofUnit? (cs.drop "datetime64".length)).isSome

def ofName {α : Type} (s : String) : Except (Fault α) Dtype :=
  (ofName? s).elim (.error (if isMoment s then .noMoments s else .unknownDtype s)) .ok

/-- **A cell type as it is written**, if it is given.  No fields leave cells without arithmetic; a field that runs
through items is none. -/
def ofLiteral? {α : Type} : Literal α → Except (Fault α) (Option Dtype)
  | .null => .ok none
  | .text s => (ofName s).map some
  | .list [] | .record [] => .ok (some other)
  | .record ((_, field) :: _) => .error (if field.items?.isSome then .shapeMismatch else .wrongKind)
  | _ => .error .wrongKind

end Dtype
end Regrid
