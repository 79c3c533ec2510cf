/-! # Compressed data

Deflated data is inflated bit by bit; a container around it adds a header and a check sum. -/
namespace OperationDocuments.Compression

/-! ## Prefix codes

A code that is given by the lengths of its words alone: shorter words come before longer ones, and
of two words of one length the one for the smaller symbol comes first. -/

structure PrefixCode where
  /-- How many words have one bit, two bits and so on, up to the longest word. -/
  counts : List Nat
  symbols : List Nat
  deriving Repr

namespace PrefixCode

/-- The code for the symbols from zero on whose words have these lengths; a symbol of length zero
has no word. -/
def ofLengths (lengths : List Nat) : PrefixCode :=
  let longest := lengths.foldl max 0
  let used := (List.range longest).map fun n =>
    (lengths.zipIdx.filter fun entry => entry.1 = n + 1).map Prod.snd
  ⟨used.map List.length, used.flatten⟩

/-- How many more words of the longest length there is room for. It is negative for lengths that no
code can have. -/
def room (c : PrefixCode) : Int :=
  c.counts.foldl (fun (left : Int) (count : Nat) => 2 * left - count) 1

def fits (c : PrefixCode) : Bool :=
  (List.range c.counts.length).all fun n => 0 ≤ room ⟨c.counts.take (n + 1), []⟩

def isEmpty (c : PrefixCode) : Bool := c.symbols.isEmpty

inductive Found where
  | symbol (n : Nat) (rest : List Bool)
  | noWord
  | short
  deriving Repr

/-- Reads on in a word. The bits so far are the number `word`, the first of the words that are longer
than those passed begins with `first`, and `passed` symbols have shorter words. -/
private def findIn (symbols : List Nat) (word first passed : Nat) :
    (counts : List Nat) → List Bool → Found
  | [], _ => .noWord
  | _ :: _, [] => .short
  | count :: longer, bit :: rest =>
    let word := 2 * word + bit.toNat
    if word < first + count then .symbol (symbols.getD (passed + (word - first)) 0) rest
    else findIn symbols word (2 * (first + count)) (passed + count) longer rest

def find (c : PrefixCode) (bits : List Bool) : Found := findIn c.symbols 0 0 0 c.counts bits

end PrefixCode

/-! ## Deflated data

Blocks of literal bytes and of repetitions of what came before, written in prefix codes or stored as
they are. Data that ends early is no error: it stands for the bytes up to there. -/

inductive Fault where
  | header
  | method
  | flags
  | headerCheck
  | window
  | dictionary
  | blockType
  | storedLengths
  | tooManySymbols
  | codeLengths
  | lengthRepeat
  | noEndOfBlock
  | literalCode
  | distanceCode
  | literal
  | distance
  | distanceTooFar
  | dataCheck
  | lengthCheck
  deriving Repr, DecidableEq

def Fault.reason : Fault → String
  | header => "incorrect header check"
  | method => "unknown compression method"
  | flags => "unknown header flags set"
  | headerCheck => "header crc mismatch"
  | window => "invalid window size"
  | dictionary => "need dictionary"
  | blockType => "invalid block type"
  | storedLengths => "invalid stored block lengths"
  | tooManySymbols => "too many length or distance symbols"
  | codeLengths => "invalid code lengths set"
  | lengthRepeat => "invalid bit length repeat"
  | noEndOfBlock => "invalid code -- missing end-of-block"
  | literalCode => "invalid literal/lengths set"
  | distanceCode => "invalid distances set"
  | literal => "invalid literal/length code"
  | distance => "invalid distance code"
  | distanceTooFar => "invalid distance too far back"
  | dataCheck => "incorrect data check"
  | lengthCheck => "incorrect length check"

def Fault.message : Fault → String
  | dictionary => "Error 2 while decompressing data"
  | fault => s!"Error -3 while decompressing data: {fault.reason}"

structure Progress where
  bits : List Bool
  output : Array UInt8 := #[]

inductive Stop where
  | short
  | fault (f : Fault)

abbrev Inflate (α : Type) := ExceptT Stop (StateM Progress) α

namespace Inflate

def bitsOf (bytes : List UInt8) : List Bool :=
  bytes.flatMap fun b => (List.range 8).map b.toNat.testBit

def fail {α : Type} (f : Fault) : Inflate α := throw (.fault f)

def emit (b : UInt8) : Inflate Unit := modify fun p => { p with output := p.output.push b }

private def bit : Inflate Nat := do
  match (← get).bits with
  | [] => throw .short
  | b :: rest =>
    modify fun p => { p with bits := rest }
    return b.toNat

def number : (width : Nat) → Inflate Nat
  | 0 => pure 0
  | width + 1 => do
    let low ← bit
    return low + 2 * (← number width)

def align : Inflate Unit :=
  modify fun p => { p with bits := p.bits.drop (p.bits.length % 8) }

private def symbol (c : PrefixCode) (fault : Fault) : Inflate Nat := do
  match c.find (← get).bits with
  | .symbol n rest =>
    modify fun p => { p with bits := rest }
    return n
  | .noWord => fail fault
  | .short => throw .short

/-- The shortest length of each length symbol, and how many bits say how much is to be added. -/
private def lengthSteps : List (Nat × Nat) :=
  [(3, 0), (4, 0), (5, 0), (6, 0), (7, 0), (8, 0), (9, 0), (10, 0), (11, 1), (13, 1), (15, 1),
   (17, 1), (19, 2), (23, 2), (27, 2), (31, 2), (35, 3), (43, 3), (51, 3), (59, 3), (67, 4), (83, 4),
   (99, 4), (115, 4), (131, 5), (163, 5), (195, 5), (227, 5), (258, 0)]

private def distanceSteps : List (Nat × Nat) :=
  [(1, 0), (2, 0), (3, 0), (4, 0), (5, 1), (7, 1), (9, 2), (13, 2), (17, 3), (25, 3), (33, 4),
   (49, 4), (65, 5), (97, 5), (129, 6), (193, 6), (257, 7), (385, 7), (513, 8), (769, 8), (1025, 9),
   (1537, 9), (2049, 10), (3073, 10), (4097, 11), (6145, 11), (8193, 12), (12289, 12), (16385, 13),
   (24577, 13)]

private def stepped (steps : List (Nat × Nat)) (n : Nat) (fault : Fault) : Inflate Nat :=
  match steps[n]? with
  | none => fail fault
  | some (least, width) => return least + (← number width)

private def copy (distance : Nat) : (length : Nat) → Inflate Unit
  | 0 => pure ()
  | length + 1 => do
    let output := (← get).output
    emit (output.getD (output.size - distance) 0)
    copy distance length

/-- The symbols of a block up to its end. Each takes a bit at least, so `left` outlasts them. -/
private def symbols (literals distances : PrefixCode) : (left : Nat) → Inflate Unit
  | 0 => throw .short
  | left + 1 => do
    let n ← symbol literals .literal
    if n < 256 then emit (UInt8.ofNat n)
    else if n = 256 then return
    else
      let length ← stepped lengthSteps (n - 257) .literal
      let distance ← stepped distanceSteps (← symbol distances .distance) .distance
      if (← get).output.size < distance then fail .distanceTooFar
      copy distance length
    symbols literals distances left

private def block (literals distances : PrefixCode) : Inflate Unit := do
  symbols literals distances ((← get).bits.length + 1)

private def fixedLiterals : PrefixCode :=
  .ofLengths (List.replicate 144 8 ++ List.replicate 112 9 ++ List.replicate 24 7
    ++ List.replicate 8 8)

private def fixedDistances : PrefixCode := .ofLengths (List.replicate 32 5)

private def storedBytes : (length : Nat) → Inflate Unit
  | 0 => pure ()
  | length + 1 => do
    emit (UInt8.ofNat (← number 8))
    storedBytes length

private def stored : Inflate Unit := do
  align
  let length ← number 16
  if length + (← number 16) ≠ 65535 then fail .storedLengths
  storedBytes length

private def lengthOrder : List Nat :=
  [16, 17, 18, 0, 8, 7, 9, 6, 10, 5, 11, 4, 12, 3, 13, 2, 14, 1, 15]

private def lengthsOfLengths : List Nat → Inflate (List (Nat × Nat))
  | [] => pure []
  | place :: more => do
    let length ← number 3
    return (place, length) :: (← lengthsOfLengths more)

/-- The lengths of all words, in the reverse of their order. Runs of one length are written as one
symbol. -/
private def codeLengths (c : PrefixCode) (count : Nat) : (left : Nat) → List Nat →
    Inflate (List Nat)
  | 0, _ => throw .short
  | left + 1, done => do
    if count ≤ done.length then return done
    let n ← if c.isEmpty then (do let _ ← number 1; return 0) else symbol c .codeLengths
    if n < 16 then codeLengths c count left (n :: done)
    else
      let (repeated, least, width) ← match n, done with
        | 16, [] => fail .lengthRepeat
        | 16, last :: _ => pure (last, 3, 2)
        | 17, _ => pure (0, 3, 3)
        | _, _ => pure (0, 11, 7)
      let times := least + (← number width)
      if count < done.length + times then fail .lengthRepeat
      codeLengths c count left (List.replicate times repeated ++ done)

private def isUsable (c : PrefixCode) : Bool :=
  c.isEmpty || (c.fits && (c.room = 0 || c.counts.length = 1))

private def dynamic : Inflate Unit := do
  let literals := 257 + (← number 5)
  let distances := 1 + (← number 5)
  let places := 4 + (← number 4)
  if 286 < literals ∨ 30 < distances then fail .tooManySymbols
  let given ← lengthsOfLengths (lengthOrder.take places)
  let lengthCode := PrefixCode.ofLengths
    ((List.range 19).map fun n => (given.lookup n).getD 0)
  if !lengthCode.isEmpty && !(lengthCode.fits && lengthCode.room = 0) then fail .codeLengths
  let lengths := (← codeLengths lengthCode (literals + distances) (literals + distances + 1) []).reverse
  if lengths.getD 256 0 = 0 then fail .noEndOfBlock
  let literalCode := PrefixCode.ofLengths (lengths.take literals)
  if !isUsable literalCode then fail .literalCode
  let distanceCode := PrefixCode.ofLengths (lengths.drop literals)
  if !isUsable distanceCode then fail .distanceCode
  block literalCode distanceCode

/-- The blocks up to the one that is marked as the last. Each takes three bits at least. -/
private def blocks : (left : Nat) → Inflate Unit
  | 0 => throw .short
  | left + 1 => do
    let last ← number 1
    match ← number 2 with
    | 0 => stored
    | 1 => block fixedLiterals fixedDistances
    | 2 => dynamic
    | _ => fail .blockType
    if last = 1 then return else blocks left

def data : Inflate Unit := do
  blocks ((← get).bits.length + 1)

def run (read : Inflate Unit) (bytes : List UInt8) : Except Fault (List UInt8) :=
  match (ExceptT.run read).run ⟨bitsOf bytes, #[]⟩ with
  | (.error (.fault f), _) => .error f
  | (_, p) => .ok p.output.toList

end Inflate

/-! ## Containers of deflated data

Deflated data stands between a header and checksums of what it stands for. -/

private def divide : (steps : Nat) → Nat → Nat
  | 0, n => n
  | steps + 1, n => divide steps (if n % 2 = 1 then (n / 2) ^^^ 0xEDB88320 else n / 2)

def cyclicSum (bytes : List UInt8) : Nat :=
  bytes.foldl (fun sum b => divide 8 ((sum ^^^ b.toNat) % 256) ^^^ (sum / 256)) 0xFFFFFFFF
    ^^^ 0xFFFFFFFF

def runningSum (bytes : List UInt8) : Nat :=
  let (low, high) := bytes.foldl (fun (low, high) b =>
    let low := (low + b.toNat) % 65521
    (low, (high + low) % 65521)) (1, 0)
  65536 * high + low

namespace Inflate

private def skipBytes : (count : Nat) → Inflate Unit
  | 0 => pure ()
  | count + 1 => do
    let _ ← number 8
    skipBytes count

private def skipText : (left : Nat) → Inflate Unit
  | 0 => throw .short
  | left + 1 => do if (← number 8) ≠ 0 then skipText left

private def checkData (sum : List UInt8 → Nat) (expected : Nat) : Inflate Unit := do
  if sum (← get).output.toList ≠ expected then fail .dataCheck

private def bigEndian : Inflate Nat := do
  let a ← number 8
  let b ← number 8
  let c ← number 8
  return ((a * 256 + b) * 256 + c) * 256 + (← number 8)

/-- A file with a header of its own; the name and the remarks in it do not count. -/
def gzip : Inflate Unit := do
  let start := (← get).bits
  if (← number 16) ≠ 0x8B1F then fail .header
  if (← number 8) ≠ 8 then fail .method
  let flags ← number 8
  if 0x20 ≤ flags then fail .flags
  skipBytes 6
  if flags.testBit 2 then skipBytes (← number 16)
  if flags.testBit 3 then skipText start.length
  if flags.testBit 4 then skipText start.length
  if flags.testBit 1 then
    let passed := start.take (start.length - (← get).bits.length)
    let sum := cyclicSum (bytesOf passed.length passed)
    if (← number 16) ≠ sum % 65536 then fail .headerCheck
  data
  align
  checkData cyclicSum (← number 32)
  if (← number 32) ≠ (← get).output.size % 4294967296 then fail .lengthCheck
where
  bytesOf : (left : Nat) → List Bool → List UInt8
    | 0, _ => []
    | _, [] => []
    | left + 1, bits =>
      UInt8.ofNat ((bits.take 8).foldr (fun b n => 2 * n + b.toNat) 0) :: bytesOf left (bits.drop 8)

def stream : Inflate Unit := do
  let first ← number 8
  let second ← number 8
  if (256 * first + second) % 31 ≠ 0 then fail .header
  if first % 16 ≠ 8 then fail .method
  if 7 < first / 16 then fail .window
  if second.testBit 5 then
    skipBytes 4
    fail .dictionary
  data
  align
  checkData runningSum (← bigEndian)

end Inflate

/-- The bytes of a file. -/
def gunzip (bytes : List UInt8) : Except Fault (List UInt8) := Inflate.gzip.run bytes

def inflate (bytes : List UInt8) : Except Fault (List UInt8) :=
  match Inflate.stream.run bytes with
  | .ok output => .ok output
  | .error _ => Inflate.data.run bytes

end OperationDocuments.Compression
