import Regrid.Literal
import Regrid.Text.Numeral
/-!
# Arguments — the words of a command line

A word is a value, or the name of an option.  The name may be cut short as long as no other option begins with it, and
a value may be glued to it: after an equals sign, or directly after a name of one letter.  A word that looks like a
negative number is a value, and so is every word after two dashes.  Two dashes glued to a name stand for no value.

Words are taken one after the other, and the first that asks for help or does not fit decides; words that are left over
count only at the end.
-/
namespace Regrid

/-- **How many values an option or an operand takes.** -/
inductive Arity
  | flag
  | one
  | many
  deriving DecidableEq, Repr

/-- **What a value of an option or an operand has to be.** -/
inductive Content
  | text
  | whole
  | real
  | choice (words : List String)
  deriving DecidableEq, Repr

/-- **A word is a value of some content.** -/
def Content.accepts : Content → String → Bool
  | text, _ => true
  | whole, s => (Text.readInt? s).isSome
  | real, s => Text.isReal s
  | choice words, s => words.contains s

/-- **The values that an option or an operand takes.** -/
structure ValueSpec where
  arity : Arity
  content : Content
  deriving DecidableEq, Repr

/-- **Some words are values of an option or an operand.** -/
def ValueSpec.accepts (v : ValueSpec) (words : List String) : Bool := words.all v.content.accepts

/-- **An option**: its names, with their dashes, and its values. -/
structure OptionSpec extends ValueSpec where
  names : List String
  deriving DecidableEq, Repr

/-- **Why a command line is not carried out.** -/
inductive Refusal
  | usage
  | help
  deriving DecidableEq, Repr

/-- **A word of a command line.** -/
inductive Word
  | value (s : String)
  /-- An option, whether it was named by one dash, and the value glued to it. -/
  | option (spec : OptionSpec) (short : Bool) (glued : Option (List Char))
  | unknown (s : String)
  | dashes
  deriving Repr

/-- **The options and operands of a command line**, the options in the order in which they were written. -/
structure Arguments where
  options : List (OptionSpec × List String)
  operands : List String
  /-- Whether there are words that belong to nothing. -/
  surplus : Bool
  deriving Repr

def OptionSpec.help : OptionSpec := ⟨⟨.flag, .text⟩, ["-h", "--help"]⟩

namespace Arguments

def named? (specs : List OptionSpec) (name : List Char) : Option OptionSpec :=
  specs.find? fun o => o.names.any (·.toList == name)

/-- **Digits, or a point with digits after it, behind a dash**; a line feed at the end does not count. -/
def isNegativeNumber (s : List Char) : Bool :=
  match if s.getLast? == some '\n' then s.dropLast else s with
  | '-' :: rest =>
    let whole := rest.takeWhile Text.isDigit
    match rest.drop whole.length with
    | [] => !whole.isEmpty
    | '.' :: fraction => !fraction.isEmpty && fraction.all Text.isDigit
    | _ => false
  | _ => false

/-- **The text before the first equals sign, and the text after it.** -/
def splitEquals? (s : List Char) : Option (List Char × List Char) :=
  let name := s.takeWhile (· != '=')
  if s.length = name.length then none else some (name, s.drop (name.length + 1))

/-- **The options that a word can stand for**, apart from those it names in full. -/
def candidates (specs : List OptionSpec) (s : List Char) : List Word :=
  match s with
  | '-' :: '-' :: _ =>
    let (name, glued) := match splitEquals? s with
      | some (name, glued) => (name, some glued)
      | none => (s, none)
    specs.flatMap fun o => o.names.filterMap fun n =>
      if name.isPrefixOf n.toList then some (.option o false glued) else none
  | dash :: letter :: glued =>
    specs.flatMap fun o => o.names.filterMap fun n =>
      if n.toList == [dash, letter] then some (.option o true (some glued))
      else if s.isPrefixOf n.toList then some (.option o true none)
      else none
  | _ => []

/-- **A name begins with two dashes.** -/
def isLong (name : List Char) : Bool := ['-', '-'].isPrefixOf name

/-- **Reading a word**; one that could stand for several options is refused. -/
def readWord (specs : List OptionSpec) (word : String) : Except Refusal Word :=
  let s := word.toList
  if s.head? != some '-' || s.length = 1 then .ok (.value word)
  else match named? specs s with
    | some o => .ok (.option o (!isLong s) none)
    | none =>
      let assigned := (splitEquals? s).bind fun (name, glued) =>
        (named? specs name).map fun o => Word.option o (!isLong name) (some glued)
      match assigned, candidates specs s with
      | some w, _ => .ok w
      | none, [w] => .ok w
      | none, _ :: _ => .error .usage
      | none, [] =>
        if isNegativeNumber s || s.contains ' ' then .ok (.value word) else .ok (.unknown word)

/-- **Reading all words.** -/
def readWords (specs : List OptionSpec) : List String → Except Refusal (List Word)
  | [] => .ok []
  | "--" :: rest => .ok (.dashes :: rest.map .value)
  | w :: rest => do return (← readWord specs w) :: (← readWords specs rest)

/-- **The values at the start of a list of words.** -/
def leadingValues : List Word → List String
  | .value s :: rest => s :: leadingValues rest
  | _ => []

/-- **The values of an option**, and the words after them. -/
def valuesOf (arity : Arity) (rest : List Word) : Except Refusal (List String × List Word) :=
  let values := leadingValues rest
  match arity, values with
  | .flag, _ => .ok ([], rest)
  | .one, s :: _ => .ok ([s], rest.drop 1)
  | .many, _ :: _ => .ok (values, rest.drop values.length)
  | _, [] => .error .usage

/-- **An option followed by its values**, and the words after them. -/
def separateValues (o : OptionSpec) (rest : List Word) :
    Except Refusal (List (OptionSpec × List String) × List Word) := do
  let (values, rest) ← valuesOf o.arity rest
  return ([(o, values)], rest)

/-- **An option with a text glued to its name**, and the words after it.  What is glued to a flag of one letter is a
further option of one letter. -/
def gluedValues (specs : List OptionSpec) (o : OptionSpec) :
    List Char → List Word → Except Refusal (List (OptionSpec × List String) × List Word)
  | [], rest => if o.arity = .flag then .error .usage else .ok ([(o, [""])], rest)
  | letter :: more, rest =>
    if o.arity ≠ .flag then
      let value := String.ofList (letter :: more)
      .ok ([(o, if value == "--" then [] else [value])], rest)
    else match named? specs ['-', letter] with
      | some next => do
        let (assigned, rest) ← if more.isEmpty then separateValues next rest else gluedValues specs next more rest
        return ((o, []) :: assigned, rest)
      | none => .error .usage

/-- **An option with its values**, and the words after them. -/
def optionValues (specs : List OptionSpec) (o : OptionSpec) (short : Bool) (glued : Option (List Char))
    (rest : List Word) : Except Refusal (List (OptionSpec × List String) × List Word) :=
  match glued with
  | none => separateValues o rest
  | some text => if o.arity = .flag && !short then .error .usage else gluedValues specs o text rest

/-- **The operands at the start of a list of words**, and the words after them; two dashes before, between and after
them do not count. -/
def takeOperands (arity : Arity) (words : List Word) : Option (List String × List Word) :=
  let skip (ws : List Word) := match ws with
    | .dashes :: rest => rest
    | ws => ws
  let start := skip words
  match arity, leadingValues start with
  | .one, s :: _ => some ([s], skip (start.drop 1))
  | .many, values@(_ :: _) =>
    match start.drop values.length with
    | .dashes :: rest => some (values ++ leadingValues rest, rest.drop (leadingValues rest).length)
    | rest => some (values, rest)
  | _, _ => none

/-- **The words before the next option**, and the words from there on. -/
def beforeOption (words : List Word) : List Word × List Word :=
  let stands (w : Word) := !(w matches .option .. | .unknown _)
  (words.takeWhile stands, words.dropWhile stands)

/-- **Taking options with their values**, in the order in which they were written. -/
def assign (found : Arguments) (assigned : List (OptionSpec × List String)) : Except Refusal Arguments :=
  assigned.foldlM (fun found (o, values) =>
    if o = OptionSpec.help then .error .help
    else if o.accepts values then .ok { found with options := found.options ++ [(o, values)] }
    else .error .usage) found

/-- **Sorting words into options and operands**, within as many steps as there are words.  The operands of a command
stand together. -/
def collect (specs : List OptionSpec) (operand : ValueSpec) : Nat → Arguments → List Word → Except Refusal Arguments
  | _, found, [] => .ok found
  | 0, _, _ => .error .usage
  | steps + 1, found, .option o short glued :: rest => do
    let (assigned, rest) ← optionValues specs o short glued rest
    collect specs operand steps (← found.assign assigned) rest
  | steps + 1, found, .unknown _ :: rest => collect specs operand steps { found with surplus := true } rest
  | steps + 1, found, words => do
    let leftOver := collect specs operand steps { found with surplus := true } (beforeOption words).2
    if !found.operands.isEmpty then leftOver
    else match takeOperands operand.arity words with
      | none => leftOver
      | some (operands, rest) =>
        if operand.accepts operands then collect specs operand steps { found with operands := operands } rest
        else .error .usage

/-- **The arguments of a command** with given options and operands. -/
def parse (specs : List OptionSpec) (operand : ValueSpec) (words : List String) : Except Refusal Arguments := do
  let words ← readWords specs words
  let found ← collect specs operand (words.length + 1) ⟨[], [], false⟩ words
  if found.operands.isEmpty || found.surplus then .error .usage else return found

/-- **The values of an option**: those of its last occurrence. -/
def values? (a : Arguments) (o : OptionSpec) : Option (List String) :=
  (a.options.reverse.find? (·.1 == o)).map (·.2)

/-- **The value of an option of one value**: null without the option, and an empty list if it stands for none. -/
def value {α : Type} (a : Arguments) (o : OptionSpec) : Literal α :=
  match a.values? o with
  | none => .null
  | some [] => .list []
  | some (s :: _) => .text s

end Arguments
end Regrid
