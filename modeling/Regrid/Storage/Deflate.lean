import Regrid.Storage.Bytes
/-!
# Deflate — expanding compressed bytes

Compressed bytes are read bit by bit, the least significant bit of a byte first.  They are a row of blocks; a block
holds bytes as they are, or symbols of a prefix code.  A symbol is a byte, the end of its block, or the instruction to
repeat bytes that have been written before.
-/
namespace Regrid.Storage.Deflate

/-- **Steps that read bits**: the state is the position of the next bit. -/
abbrev Reader := StateT Nat Option

def bit (bytes : ByteArray) : Reader Nat := do
  let position ← get
  let byte ← bytes[position / 8]?
  set (position + 1)
  return (byte.toNat >>> (position % 8)) % 2

/-- **A number of the next bits**, the least significant one first. -/
def bits (bytes : ByteArray) : Nat → Reader Nat
  | 0 => return 0
  | n + 1 => do
    let low ← bit bytes
    return low + 2 * (← bits bytes n)

/-- **A prefix code in which longer codes follow shorter ones**: how many codes there are of each length, starting with
one, and the symbols in the order of their codes. -/
structure Code where
  counts : List Nat
  symbols : Array Nat

/-- **The most bits of a code.** -/
def longest : Nat := 15

/-- **The code whose symbols have given lengths**; a symbol of length zero is not used. -/
def Code.ofLengths (lengths : List Nat) : Code :=
  let sizes := (List.range longest).map (· + 1)
  { counts := sizes.map fun n => lengths.count n
    symbols := (sizes.flatMap fun n => (lengths.zipIdx.filter (·.1 == n)).map (·.2)).toArray }

/-- **Reading a symbol** whose code starts with `code`: `first` is the smallest code of the present length, and `index`
the place of its symbol. -/
def symbolFrom (bytes : ByteArray) (symbols : Array Nat) (code first index : Nat) : List Nat → Reader Nat
  | [] => failure
  | count :: counts => do
    let code := code + (← bit bytes)
    if code < first + count then symbols[index + (code - first)]?
    else symbolFrom bytes symbols (2 * code) (2 * (first + count)) (index + count) counts

def symbol (bytes : ByteArray) (c : Code) : Reader Nat := symbolFrom bytes c.symbols 0 0 0 c.counts

/-- **Ranges that start where the one before ends**, each given by its number of further bits. -/
def ranges (start : Nat) : List Nat → List (Nat × Nat)
  | [] => []
  | extra :: rest => (start, extra) :: ranges (start + 1 <<< extra) rest

/-- **Each of some numbers, a given number of times.** -/
def repeated (times : Nat) (ns : List Nat) : List Nat := ns.flatMap (List.replicate times)

/-- **The lengths of repetitions**: the least one, and the number of bits added to it. -/
def lengthRanges : Array (Nat × Nat) :=
  (ranges 3 (repeated 4 [0, 0, 1, 2, 3, 4, 5]) ++ [(258, 0)]).toArray

/-- **The distances of repetitions**: the least one, and the number of bits added to it. -/
def distanceRanges : Array (Nat × Nat) :=
  (ranges 1 ([0, 0] ++ repeated 2 [0, 1, 2, 3, 4, 5, 6, 7, 8, 9, 10, 11, 12, 13])).toArray

/-- **A number in one of some ranges.** -/
def ranged (bytes : ByteArray) (table : Array (Nat × Nat)) (i : Nat) : Reader Nat := do
  let (least, extra) ← table[i]?
  return least + (← bits bytes extra)

/-- **Repeating bytes** that stand at a distance from the end. -/
def repeatBytes (distance : Nat) : Nat → ByteArray → ByteArray
  | 0, out => out
  | n + 1, out => repeatBytes distance n (out.push ((out[out.size - distance]?).getD 0))

/-- **The symbols of a block**, at most `fuel` of them. -/
def expandSymbols (bytes : ByteArray) (literals distances : Code) : Nat → ByteArray → Reader ByteArray
  | 0, _ => failure
  | fuel + 1, out => do
    let s ← symbol bytes literals
    if s < 256 then expandSymbols bytes literals distances fuel (out.push (UInt8.ofNat s))
    else if s = 256 then return out
    else
      let length ← ranged bytes lengthRanges (s - 257)
      let distance ← ranged bytes distanceRanges (← symbol bytes distances)
      if out.size < distance then failure
      expandSymbols bytes literals distances fuel (repeatBytes distance length out)

/-- **The lengths of the codes of the symbols that every block knows.** -/
def fixedLengths : List Nat :=
  List.replicate 144 8 ++ List.replicate 112 9 ++ List.replicate 24 7 ++ List.replicate 8 8

/-- **Lengths of codes, `n` in all**, written with a code of their own; the last one read comes first in `found`. -/
def readLengths (bytes : ByteArray) (c : Code) (n : Nat) : Nat → List Nat → Reader (List Nat)
  | 0, _ => failure
  | fuel + 1, found => do
    if n ≤ found.length then return (found.reverse.take n)
    let s ← symbol bytes c
    let next ←
      if s < 16 then pure [s]
      else if s = 16 then do pure (List.replicate (3 + (← bits bytes 2)) (← found.head?))
      else if s = 17 then do pure (List.replicate (3 + (← bits bytes 3)) 0)
      else do pure (List.replicate (11 + (← bits bytes 7)) 0)
    readLengths bytes c n fuel (next ++ found)

/-- **The order in which the lengths of the code for lengths are written.** -/
def lengthOrder : List Nat := [16, 17, 18, 0, 8, 7, 9, 6, 10, 5, 11, 4, 12, 3, 13, 2, 14, 1, 15]

/-- **The codes at the start of a block**: that of bytes and lengths, and that of distances. -/
def readCodes (bytes : ByteArray) : Reader (Code × Code) := do
  let literals := 257 + (← bits bytes 5)
  let distances := 1 + (← bits bytes 5)
  let written := lengthOrder.take (4 + (← bits bytes 4))
  let lengths ← written.mapM fun s => do return (s, ← bits bytes 3)
  let c := Code.ofLengths ((List.range 19).map fun s => (lengths.lookup s).getD 0)
  let all ← readLengths bytes c (literals + distances) (literals + distances + 1) []
  return (Code.ofLengths (all.take literals), Code.ofLengths (all.drop literals))

/-- **A block of bytes as they are**, which starts at a whole byte. -/
def storedBlock (bytes : ByteArray) (out : ByteArray) : Reader ByteArray := do
  modify fun position => (position + 7) / 8 * 8
  let length ← bits bytes 16
  let complement ← bits bytes 16
  if length + complement ≠ 65535 then failure
  let start := (← get) / 8
  if bytes.size < start + length then failure
  set ((start + length) * 8)
  return out ++ bytes.extract start (start + length)

/-- **The blocks**, at most `fuel` of them, up to the one that is marked as the last. -/
def expandBlocks (bytes : ByteArray) : Nat → ByteArray → Reader ByteArray
  | 0, _ => failure
  | fuel + 1, out => do
    let last ← bit bytes
    let kind ← bits bytes 2
    let out ← match kind with
      | 0 => storedBlock bytes out
      | 1 => expandSymbols bytes (.ofLengths fixedLengths) (.ofLengths (List.replicate 30 5)) (8 * bytes.size + 1) out
      | 2 => do
        let (literals, distances) ← readCodes bytes
        expandSymbols bytes literals distances (8 * bytes.size + 1) out
      | _ => failure
    if last = 1 then return out else expandBlocks bytes fuel out

/-- **The expanded bytes**, and the position of the first byte after the compressed ones. -/
def expand? (bytes : ByteArray) (start : Nat) : Option (ByteArray × Nat) :=
  let blocks := expandBlocks bytes (8 * bytes.size + 1) .empty
  (blocks.run (8 * start)).map fun (out, position) => (out, (position + 7) / 8)

/-- **Bytes as blocks of bytes as they are**, at most `fuel` of them, that start at a whole byte. -/
def storeBlocks : Nat → List UInt8 → List UInt8
  | 0, _ => []
  | fuel + 1, bytes =>
    let (block, rest) := bytes.splitAt 65535
    let last : UInt8 := if rest.isEmpty then 1 else 0
    let header := last :: (ByteOrder.little.encode 2 block.length ++ ByteOrder.little.encode 2 (65535 - block.length))
    header ++ block ++ (if rest.isEmpty then [] else storeBlocks fuel rest)

/-- **Bytes in a form that expands to them.** -/
def store (bytes : List UInt8) : List UInt8 := storeBlocks (bytes.length + 1) bytes

end Regrid.Storage.Deflate
