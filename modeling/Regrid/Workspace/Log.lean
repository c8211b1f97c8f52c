import Regrid.Workspace
/-!
# Log — what a run tells its user

Some events are lines of the output.  Others are progress, which is shown on request: a line names the program, the
part of it that speaks, and what has happened.
-/
namespace Regrid

def OversamplingPlan.bracketed (p : OversamplingPlan) : String :=
  s!"[ {p.factors.get 0} {p.factors.get 1} {p.factors.get 2} ]"

namespace Event

/-- **The part of a program that an event belongs to, and the words for it**, if it is progress. -/
def progress? : Event → Option (String × String)
  | oversampled p =>
    if p.active then some ("reslice.oversample", s!"using oversampling factors {p.bracketed}") else none
  | wrote path => some ("io", s!"Wrote {path}")
  | _ => none

/-- **The line of the output that an event is**, if it is one. -/
def printed? : Event → Option String
  | printed line => some line
  | _ => none

/-- **The line for an event that is progress** of a program. -/
def progressLine? (program : String) (e : Event) : Option String :=
  e.progress?.map fun (topic, words) => s!"INFO:{program}.{topic}: {words}"

end Event

namespace Workspace

variable {α : Type}

def printedLines (w : Workspace α) : List String := w.events.filterMap Event.printed?

/-- **The lines of progress** of a program. -/
def progressLines (program : String) (w : Workspace α) : List String :=
  w.events.filterMap (Event.progressLine? program)

/-- **How often voxel sizes disagreed with an orientation.** -/
def mismatches (w : Workspace α) : Nat := (w.events.filter fun e => e matches .zoomMismatch).length

end Workspace
end Regrid
