/-!
# Pattern — names with wildcards

In a pattern a star stands for any characters, a question mark for one, and square brackets for one of a set of
characters, which may hold ranges and may be negated by an exclamation mark.  A bracket that is not closed stands for
itself.
-/
namespace Regrid.Path

/-- **One part of a pattern.** -/
inductive Wildcard
  | literal (c : Char)
  | one
  | many
  /-- One character that lies in one of the ranges, or in none of them if the set is negated. -/
  | set (negated : Bool) (ranges : List (Char × Char))
  deriving DecidableEq, Repr

namespace Wildcard

/-- **A text has wildcards** if it holds a star, a question mark or an opening bracket. -/
def present (s : List Char) : Bool := s.any fun c => c == '*' || c == '?' || c == '['

/-- **The ranges of a set.**  Two characters with a hyphen between them are a range, which is empty if they are in the
wrong order; other characters stand for themselves. -/
def ranges : List Char → List (Char × Char)
  | c :: '-' :: d :: rest => if c ≤ d then (c, d) :: ranges rest else ranges rest
  | c :: rest => (c, c) :: ranges rest
  | [] => []

/-- **The characters of a set and the text after its closing bracket.**  A closing bracket in the first place belongs
to the set. -/
def closing? : List Char → Option (List Char × List Char)
  | [] => none
  | c :: rest =>
    let inner := rest.takeWhile (· != ']')
    let close := fun (cs after : List Char) => if after.isEmpty then none else some (cs, after.drop 1)
    if c == ']' then close (c :: inner) (rest.drop inner.length)
    else
      let inner := (c :: rest).takeWhile (· != ']')
      close inner ((c :: rest).drop inner.length)

/-- **The set at the start of a text whose opening bracket has been read**, and the text after it. -/
def readSet? (s : List Char) : Option (Wildcard × List Char) :=
  match s with
  | '!' :: rest => (closing? rest).map fun (cs, after) => (set true (ranges cs), after)
  | rest => (closing? rest).map fun (cs, after) => (set false (ranges cs), after)

/-- **The parts of a pattern**, read from at most `fuel` characters. -/
def read : Nat → List Char → List Wildcard
  | 0, _ => []
  | _, [] => []
  | fuel + 1, '*' :: rest => many :: read fuel rest
  | fuel + 1, '?' :: rest => one :: read fuel rest
  | fuel + 1, '[' :: rest => match readSet? rest with
    | some (w, after) => w :: read fuel after
    | none => literal '[' :: read fuel rest
  | fuel + 1, c :: rest => literal c :: read fuel rest

def ofChars (s : List Char) : List Wildcard := read s.length s

/-- **A part that stands for one character stands for a given one.** -/
def accepts : Wildcard → Char → Bool
  | literal c, d => c == d
  | one, _ => true
  | set negated ranges, d => (ranges.any fun (lo, hi) => lo ≤ d && d ≤ hi) != negated
  | many, _ => false

/-- **A name is an instance of a pattern.** -/
def matchesChars : List Wildcard → List Char → Bool
  | [], s => s.isEmpty
  | many :: ws, [] => matchesChars ws []
  | many :: ws, c :: s => matchesChars ws (c :: s) || matchesChars (many :: ws) s
  | _ :: _, [] => false
  | w :: ws, c :: s => w.accepts c && matchesChars ws s
termination_by ws s => ws.length + s.length

end Wildcard

def isInstance (pattern name : String) : Bool := Wildcard.matchesChars (Wildcard.ofChars pattern.toList) name.toList

end Regrid.Path
