import Regrid.Volume
/-!
# Place — the indices of a series as they are written

A place in a series is one whole index per axis; negative ones count from the end.  An index may also be a list or stand
for all of an axis, and then it denotes several places.
-/
namespace Regrid

/-- **What an index denotes along an axis**: one place, or several. -/
inductive Selection
  | one (i : Nat)
  | several
  deriving DecidableEq, Repr

namespace Selection

variable {α : Type} [Scalar α]

/-- **A whole number as an index of an axis** of `size` places. -/
def ofInt (size : Nat) (i : Int) : Except (Fault α) Selection :=
  (Shape.axis? size i).elim (.error .indexOutside) (.ok ∘ one)

/-- **A list as an index of an axis** of `size` places: whole numbers inside the axis, or one truth value for each
place. -/
def ofList (size : Nat) (l : Literal α) : Except (Fault α) Selection := do
  match ← Volume.ofLiteral l with
  | ⟨.int _, t⟩ =>
    for i in t.toList do discard (ofInt (α := α) size i.val)
    return several
  | ⟨.bool, t⟩ => if t.shape = [size] then return several else .error .indexOutside
  | ⟨_, t⟩ => if t.shape.count = 0 then return several else .error .indexOutside

/-- **An index of an axis** of `size` places as it is written. -/
def ofLiteral (size : Nat) : Literal α → Except (Fault α) Selection
  | .number (.int i) => ofInt size i
  | .number (.bool _) | .null => .ok several
  | .list xs => ofList size (.list xs)
  | _ => .error .indexOutside

/-- **The place that indices denote** in a series of given sizes; none if they denote several. -/
def place? (sizes : List Nat) (indices : List (Literal α)) : Except (Fault α) (Option (List Nat)) := do
  let selected ← (sizes.zip indices).mapM fun (size, index) => ofLiteral size index
  return selected.mapM fun
    | one i => some i
    | several => none

end Selection

/-- **The indices of a volume as they are assigned**, one per axis.  Those of the spatial axes are never read. -/
structure Indices (α : Type) where
  toList : List (Literal α)

namespace Indices

variable {α : Type}

/-- **The indices of the first cell** of a volume with some axes. -/
def start (axes : Nat) : Indices α := ⟨List.replicate axes (.number (.int 0))⟩

/-- **Assigning the index of an axis**, which may count from the end. -/
def assign (x : Indices α) (axis : Int) (v : Literal α) : Except (Fault α) (Indices α) :=
  match Shape.axis? x.toList.length axis with
  | some slot => .ok ⟨x.toList.set slot v⟩
  | none => .error .indexOutside

def series (x : Indices α) : List (Literal α) := x.toList.drop 3

/-- **Returning to the start of the series**; the spatial indices stay. -/
def resetSeries (x : Indices α) : Indices α :=
  ⟨x.toList.take 3 ++ (start (α := α) x.series.length).toList⟩

end Indices
end Regrid
