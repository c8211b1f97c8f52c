import Regrid.FileTree
import Regrid.Oversampling
/-!
# Workspace — the files a program works on, and its log

A task reads and changes a workspace and may fail; what it changed before it failed stays.
-/
namespace Regrid

/-- **What happens during a task that a user may want to know.** -/
inductive Event
  /-- The voxel sizes of a header disagree with its orientation. -/
  | zoomMismatch
  /-- A reslicing takes several samples per voxel. -/
  | oversampled (plan : OversamplingPlan)
  /-- A file has been written. -/
  | wrote (path : String)
  /-- A line has been printed. -/
  | printed (line : String)

/-- **The files a program works on, and the events so far.** -/
structure Workspace (α : Type) where
  files : FileTree α
  /-- The events, the last one first. -/
  log : List Event

/-- **Steps on a workspace that may fail.** -/
abbrev Task (α β : Type) := ExceptT (Fault α) (StateM (Workspace α)) β

namespace Workspace

variable {α : Type}

/-- **A workspace with given files and an empty log.** -/
def ofFiles (files : List (String × File α)) : Workspace α := ⟨FileTree.ofFiles files, []⟩

/-- **The events in the order in which they happened.** -/
def events (w : Workspace α) : List Event := w.log.reverse

end Workspace

namespace Task

variable {α : Type}

def report (e : Event) : Task α Unit := modify fun w => { w with log := e :: w.log }

/-- **Running a task**: its result, and the workspace it leaves. -/
def perform {β : Type} (t : Task α β) (w : Workspace α) : Except (Fault α) β × Workspace α :=
  StateT.run (ExceptT.run t) w

end Task
end Regrid
