import Regrid.CommandLine.Arguments
import Regrid.Text.Numeral
import Regrid.Tool
/-!
# CommandLine — the commands and their options

Every command takes images; the commands that resample also say how, and where the results go.  `Request.parse` turns
the words of a command line into a request.
-/
namespace Regrid

/-- **What every command takes.** -/
structure CommonOptions (α : Type) where
  images : List String
  transform : Literal α
  oversample : Option (List Int)
  verbose : Bool

/-- **How the commands that resample do so, and where the results go**, each option as it is written. -/
structure ResamplingOptions (α : Type) where
  order : Literal α
  fill : Literal α
  dtype : Literal α
  directory : Literal α
  beginning : Literal α
  extension : Literal α

/-- **What a command works with besides its options.** -/
inductive Operand (α : Type)
  | reference (path : String)
  | reals (xs : List α)
  | sizes (ns : List Int)

/-- **A command line that has been understood**: it prints a plan, or resamples. -/
inductive Request (α : Type)
  | plan (common : CommonOptions α) (reference : String)
  | resample (tool : Tool) (operand : Operand α) (common : CommonOptions α) (options : ResamplingOptions α)

namespace CommandLine

/-- **The interpolation orders that can be asked for.** -/
def orders : List String := ["0", "1", "3", "nearest", "linear", "cubic"]

def images : OptionSpec := ⟨⟨.many, .text⟩, ["--images", "-i"]⟩
/-- **A file with a matrix from output to input world coordinates.** -/
def transform : OptionSpec := ⟨⟨.one, .text⟩, ["--transform", "-t"]⟩
/-- **Samples per voxel along each axis.** -/
def oversample : OptionSpec := ⟨⟨.many, .whole⟩, ["--oversample"]⟩
/-- **Whether progress is printed.** -/
def verbose : OptionSpec := ⟨⟨.flag, .text⟩, ["--verbose", "-v"]⟩
def order : OptionSpec := ⟨⟨.one, .choice orders⟩, ["--order"]⟩
/-- **The value of voxels outside the input.** -/
def fill : OptionSpec := ⟨⟨.one, .real⟩, ["--fill"]⟩
/-- **The cell type of the output.** -/
def outputDtype : OptionSpec := ⟨⟨.one, .text⟩, ["--output-dtype", "-dt"]⟩
def outputDirectory : OptionSpec := ⟨⟨.one, .text⟩, ["--output-dir", "-o"]⟩
/-- **The beginning of the names of output files.** -/
def outputBeginning : OptionSpec := ⟨⟨.one, .text⟩, ["--output-prefix", "-p"]⟩
def outputExtension : OptionSpec := ⟨⟨.one, .text⟩, ["--output-format", "-f"]⟩

def common : List OptionSpec := [OptionSpec.help, images, transform, oversample, verbose]

def resampling : List OptionSpec :=
  common ++ [order, fill, outputDtype, outputDirectory, outputBeginning, outputExtension]

def commands : List (String × Tool) :=
  [("reference", .like), ("upsample", .upsample), ("downsample", .downsample), ("resize_shape", .resizeShape),
   ("resize_voxel", .resizeVoxel)]

def require {β : Type} (x : Option β) : Except Refusal β := x.elim (.error .usage) .ok

def optional {β γ : Type} (read : β → Option γ) : Option β → Except Refusal (Option γ)
  | none => .ok none
  | some x => return some (← require (read x))

variable {α : Type} [Scalar α]

/-- **The options of every command, as they are written.** -/
def readCommon (a : Arguments) : Except Refusal (CommonOptions α) := do
  return { images := ← require (a.values? images)
           transform := a.value transform
           oversample := ← optional (fun xs : List String => xs.mapM Text.readInt?) (a.values? oversample)
           verbose := (a.values? verbose).isSome }

/-- **A value that stands for a real number**, if it is text. -/
def readFill : Literal α → Except Refusal (Literal α)
  | .text s => do return .number (.real (← require (Text.readReal? s)))
  | l => .ok l

/-- **The options of the commands that resample, as they are written.** -/
def readResampling (a : Arguments) : Except Refusal (ResamplingOptions α) := do
  return { order := (a.value order).orElse (.text "1")
           fill := ← readFill (a.value fill)
           dtype := a.value outputDtype
           directory := a.value outputDirectory
           beginning := a.value outputBeginning
           extension := a.value outputExtension }

def operandSpec : Tool → ValueSpec
  | .like => ⟨.one, .text⟩
  | .resizeShape => ⟨.many, .whole⟩
  | _ => ⟨.many, .real⟩

/-- **The operands of a command, as they are written.** -/
def readOperand (tool : Tool) (words : List String) : Except Refusal (Operand α) :=
  match tool, words with
  | .like, [path] => .ok (.reference path)
  | .like, _ => .error .usage
  | .resizeShape, words => do return .sizes (← require (words.mapM Text.readInt?))
  | _, words => do return .reals (← require (words.mapM Text.readReal?))

/-- **Understanding a command and its words.** -/
def readCommand (name : String) (words : List String) : Except Refusal (Request α) := do
  if name == "plan" then
    let a ← Arguments.parse common ⟨.one, .text⟩ words
    return .plan (← readCommon a) (← require a.operands.head?)
  else
    let tool ← require (commands.lookup name)
    let a ← Arguments.parse resampling (operandSpec tool) words
    return .resample tool (← readOperand tool a.operands) (← readCommon a) (← readResampling a)

/-- **Understanding the words from the command on.**  Before it stands at most a call for help; another option makes no
request, but help may still be asked for behind it. -/
def readRequest (words : List String) : List Word → Except Refusal (Request α)
  | .value name :: _ => readCommand name (words.drop 1)
  | .option o short glued :: rest => do
    let _ ← Arguments.optionValues [OptionSpec.help] o short glued rest
    .error .help
  | .unknown _ :: rest =>
    match readRequest (words.drop 1) rest with
    | .error .help => .error .help
    | _ => .error .usage
  | _ => .error .usage

end CommandLine

/-- **Understanding the words of a command line.** -/
def Request.parse {α : Type} [Scalar α] (words : List String) : Except Refusal (Request α) := do
  CommandLine.readRequest words (← Arguments.readWords [OptionSpec.help] words)

end Regrid
