import Regrid.CommandLine.Run
import Regrid.Fault.Message
import Regrid.Matrix.Numeric
import Regrid.Storage
/-!
# Main — the program

The files that a command line names are read, the request is carried out on them in memory, and the files it wrote are
stored.  Wildcards are left to the shell: a pattern is matched among the paths on the command line.
-/
namespace Regrid.Main

/-- **How the program is used.** -/
def usage : String :=
  let commands := "plan" :: CommandLine.commands.map (·.1)
  "usage: regrid COMMAND OPERANDS --images IMAGES [OPTIONS]\ncommands: " ++ ", ".intercalate commands

/-- **The path that a literal is**, if it is text. -/
def path? : Literal Float → Option String
  | .text path => some path
  | _ => none

def paths (r : Request Float) : List String :=
  let named := match r with
    | .plan _ reference => [reference]
    | .resample _ (.reference path) _ options => path :: (path? options.directory).toList
    | .resample _ _ _ options => (path? options.directory).toList
  let transform := (path? r.common.transform).toList.flatMap Compression.candidates
  r.common.images ++ transform ++ named

/-- **The mark of a path that goes on below a file.** -/
def notADirectory : UInt32 := 20

/-- **What stands at a path on disk**, if there is anything. -/
def probe (path : String) : IO (Option (File Float)) := do
  try
    return some (.ofBytes path (← IO.FS.readBinFile path))
  catch
    | .noFileOrDirectory .. => return none
    | .inappropriateType _ code _ => return if code == notADirectory then none else some .directory
    | e => throw e

/-- **The paths of the directories on the way to a path**, and the path itself. -/
def waypoints (path : String) : List String :=
  let components := Path.components path
  (List.range components.length).map fun n => "/".intercalate (components.take (n + 1))

/-- **The tree with what stands at some paths on disk**, and on the way to them. -/
def load (t : FileTree Float) (names : List String) : IO (FileTree Float) :=
  ((names.map t.expandHome).flatMap waypoints).filter (!·.isEmpty) |>.foldlM (fun t path => do
    return ((← probe path).map fun f => t.insert (t.denoted path) f).getD t) t

/-- **An empty tree**, with the working directory and the home directory of the user. -/
def surroundings : IO (FileTree Float) := do
  let root : FileTree Float := .empty [] []
  let working := root.denoted (toString (← IO.currentDir))
  let home := root.denoted ((← IO.getEnv "HOME").getD "/")
  return .empty working home

/-- **Storing the files that a run has written.** -/
def storeWritten (w : Workspace Float) : IO Unit :=
  w.events.forM fun
    | .wrote path => do
      if let some bytes := (w.files.fileAt? path).bind (File.toBytes? path) then
        IO.FS.writeBinFile path bytes.toByteArray
    | _ => return ()

/-- **Carrying out a request on the files on disk.** -/
def carryOut (r : Request Float) : IO UInt32 := do
  let files ← load (← surroundings) (paths r)
  let (result, w) := r.run.perform ⟨files, []⟩
  w.printedLines.forM fun line => IO.println line
  if r.common.verbose then (w.progressLines "regrid").forM fun line => IO.eprintln line
  storeWritten w
  match result with
  | .ok () => return 0
  | .error f => do
    IO.eprintln ("regrid: " ++ f.description)
    return 1

end Regrid.Main

/-- **The program**: it fails with one for a fault, and with two for a command line that it does not understand. -/
def main (words : List String) : IO UInt32 := do
  match (Regrid.Request.parse words : Except Regrid.Refusal (Regrid.Request Float)) with
  | .ok r => Regrid.Main.carryOut r
  | .error .help => do
    IO.println Regrid.Main.usage
    return 0
  | .error .usage => do
    IO.eprintln Regrid.Main.usage
    return 2
