import OperationDocuments.Text.Characters

/-! # Texts as bytes

Texts that may hold surrogates, and the encodings in which texts and bytes stand for each other. -/
namespace OperationDocuments

/-! ## Wide texts

The numbers of the surrogates are set aside for writing a character as a pair of them. In some
data they turn up alone, where they stand for no character, so that no `String` can hold them.
A wide text can. -/

inductive CodePoint where
  | char (c : Char)
  | surrogate (offset : Fin 0x800)
  deriving Repr, DecidableEq

abbrev WideText := List CodePoint

namespace CodePoint

def toNat : CodePoint → Nat
  | char c => c.toNat
  | surrogate k => 0xD800 + k

def ofNat (n : Nat) : CodePoint :=
  if h : 0xD800 ≤ n ∧ n < 0xE000 then surrogate ⟨n - 0xD800, by omega⟩ else char (Char.ofNat n)

def char? : CodePoint → Option Char
  | char c => some c
  | surrogate _ => none

def isHigh : CodePoint → Bool
  | char _ => false
  | surrogate k => k < 0x400

def isLow : CodePoint → Bool
  | char _ => false
  | surrogate k => 0x400 ≤ k

/-- The character that a high and a low surrogate form together. -/
def joined? (high low : CodePoint) : Option CodePoint :=
  if high.isHigh && low.isLow then
    some (char (Char.ofNat (0x10000 + (high.toNat - 0xD800) * 0x400 + (low.toNat - 0xDC00))))
  else none

def escaped : CodePoint → List Char
  | char c => [c]
  | surrogate k => '\\' :: 'u' :: Text.hexDigits 4 (0xD800 + k)

end CodePoint

namespace WideText

def ofString (s : String) : WideText := s.toList.map .char

instance : Coe String WideText := ⟨ofString⟩

def escaped (s : WideText) : String := String.ofList (s.flatMap CodePoint.escaped)

def literal (s : WideText) : String :=
  let quote := Text.literalQuote (s.filterMap CodePoint.char?)
  String.ofList (quote :: s.flatMap (fun
    | .char c => Text.literalEscape quote c
    | c => c.escaped) ++ [quote])

end WideText

end OperationDocuments

namespace OperationDocuments.Utf8

/-! ## UTF-8

A code point is written as a first byte and up to three continuation bytes. Bytes that are no
UTF-8 have a fault: it begins with a first byte and takes in the continuation bytes that may
follow it. -/

inductive Reason where
  | startByte
  | continuationByte
  | endOfData
  deriving Repr, DecidableEq

def Reason.describe : Reason → String
  | .startByte => "invalid start byte"
  | .continuationByte => "invalid continuation byte"
  | .endOfData => "unexpected end of data"

structure Fault where
  start : Nat
  first : UInt8
  length : Nat
  reason : Reason
  deriving Repr, DecidableEq

def Fault.message (f : Fault) : String :=
  let place :=
    if f.length = 1 then
      s!"byte 0x{String.ofList (Text.hexDigits 2 f.first.toNat)} in position {f.start}"
    else s!"bytes in position {f.start}-{f.start + f.length - 1}"
  s!"'utf-8' codec can't decode {place}: {f.reason.describe}"

/-- What a first byte announces: the bits of it that count, the continuation bytes that follow,
and the bounds of the first of those. -/
structure Lead where
  bits : Nat
  count : Nat
  low : UInt8 := 0x80
  high : UInt8 := 0xBF

/-- The lower bounds keep out spellings that are too long, the upper ones numbers that are too
large and, unless they are let through, the surrogates. -/
def lead? (surrogates : Bool) (b : UInt8) : Option Lead :=
  let n := b.toNat
  if n < 0x80 then some { bits := n, count := 0 }
  else if n < 0xC2 then none
  else if n < 0xE0 then some { bits := n - 0xC0, count := 1 }
  else if n = 0xE0 then some { bits := 0, count := 2, low := 0xA0 }
  else if n = 0xED && !surrogates then some { bits := 0xD, count := 2, high := 0x9F }
  else if n < 0xF0 then some { bits := n - 0xE0, count := 2 }
  else if n = 0xF0 then some { bits := 0, count := 3, low := 0x90 }
  else if n < 0xF4 then some { bits := n - 0xF0, count := 3 }
  else if n = 0xF4 then some { bits := 4, count := 3, high := 0x8F }
  else none

def Lead.following (l : Lead) (rest : List UInt8) : List UInt8 :=
  match rest.take l.count with
  | [] => []
  | b :: more =>
    if l.low ≤ b && b ≤ l.high then b :: more.takeWhile fun c => 0x80 ≤ c && c ≤ 0xBF else []

def step (surrogates : Bool) (start : Nat) (b : UInt8) (rest : List UInt8) :
    Except Fault (CodePoint × Nat) :=
  match lead? surrogates b with
  | none => .error ⟨start, b, 1, .startByte⟩
  | some l =>
    let following := l.following rest
    let length := following.length + 1
    if following.length = l.count then
      .ok (.ofNat (following.foldl (fun n c => 0x40 * n + (c.toNat - 0x80)) l.bits), length)
    else if following.length = rest.length then .error ⟨start, b, length, .endOfData⟩
    else .error ⟨start, b, length, .continuationByte⟩

def decodeFrom (surrogates : Bool) (start : Nat) (bytes : List UInt8) : Except Fault WideText :=
  match bytes with
  | [] => .ok []
  | b :: rest => do
    let (c, length) ← step surrogates start b rest
    return c :: (← decodeFrom surrogates (start + length) (rest.drop (length - 1)))
termination_by bytes.length
decreasing_by simp only [List.length_drop, List.length_cons]; omega

/-- The text that bytes spell. Surrogates are faults. -/
def decode (bytes : List UInt8) : Except Fault String :=
  (decodeFrom false 0 bytes).map WideText.escaped

def decodeLossy (bytes : List UInt8) : List Char :=
  match bytes with
  | [] => []
  | b :: rest =>
    match step false 0 b rest with
    | .ok (c, length) => (c.char?.getD '\uFFFD') :: decodeLossy (rest.drop (length - 1))
    | .error fault => '\uFFFD' :: decodeLossy (rest.drop (fault.length - 1))
termination_by bytes.length
decreasing_by all_goals (simp only [List.length_drop, List.length_cons]; omega)

def encode (s : List Char) : List UInt8 := s.flatMap String.utf8EncodeChar

end OperationDocuments.Utf8

namespace OperationDocuments

/-! ## Encodings

The bytes of a text are UTF-8, or units of two or four bytes in either order. A message that begins
with an ASCII character shows by its first bytes which of them it is written in. -/

inductive ByteOrder where
  | bigEndian
  | littleEndian
  deriving Repr, DecidableEq

inductive Encoding where
  | utf8
  | utf16 (order : ByteOrder)
  | utf32 (order : ByteOrder)
  deriving Repr, DecidableEq

namespace Encoding

def unit (order : ByteOrder) (bytes : List UInt8) : Nat :=
  let ordered := match order with
    | .bigEndian => bytes
    | .littleEndian => bytes.reverse
  ordered.foldl (fun n b => 0x100 * n + b.toNat) 0

def units16 (order : ByteOrder) : List UInt8 → Option WideText
  | [] => some []
  | a :: b :: rest => (units16 order rest).map (.ofNat (unit order [a, b]) :: ·)
  | [_] => none

def units32 (order : ByteOrder) : List UInt8 → Option WideText
  | [] => some []
  | a :: b :: c :: d :: rest =>
    let n := unit order [a, b, c, d]
    if n < 0x110000 then (units32 order rest).map (.ofNat n :: ·) else none
  | _ => none

/-- Surrogates that form a pair as the characters they stand for. -/
def joinPairs : WideText → WideText
  | high :: low :: rest =>
    match CodePoint.joined? high low with
    | some c => c :: joinPairs rest
    | none => high :: joinPairs (low :: rest)
  | s => s

/-- The text that bytes spell, if they do; single surrogates are let through. -/
def decode (e : Encoding) (bytes : List UInt8) : Option WideText :=
  match e with
  | .utf8 => (Utf8.decodeFrom true 0 bytes).toOption
  | .utf16 order => (units16 order bytes).map joinPairs
  | .utf32 order => units32 order bytes

def ofMark? : List UInt8 → Option (Encoding × List UInt8)
  | 0x00 :: 0x00 :: 0xFE :: 0xFF :: rest => some (.utf32 .bigEndian, rest)
  | 0xFF :: 0xFE :: 0x00 :: 0x00 :: rest => some (.utf32 .littleEndian, rest)
  | 0xFE :: 0xFF :: rest => some (.utf16 .bigEndian, rest)
  | 0xFF :: 0xFE :: rest => some (.utf16 .littleEndian, rest)
  | 0xEF :: 0xBB :: 0xBF :: rest => some (.utf8, rest)
  | _ => none

/-- The encoding that the zeros among the first bytes tell of. -/
def ofZeros : List UInt8 → Encoding
  | 0 :: b :: _ :: _ :: _ => if b = 0 then .utf32 .bigEndian else .utf16 .bigEndian
  | _ :: 0 :: c :: d :: _ =>
    if c = 0 && d = 0 then .utf32 .littleEndian else .utf16 .littleEndian
  | [0, _] => .utf16 .bigEndian
  | [_, 0] => .utf16 .littleEndian
  | _ => .utf8

def decodeMessage (bytes : List UInt8) : Option WideText :=
  match ofMark? bytes with
  | some (e, rest) => e.decode rest
  | none => (ofZeros bytes).decode bytes

end Encoding

end OperationDocuments

namespace OperationDocuments.Base64

/-! ## Base 64

Three bytes are written as four characters; an incomplete group at the end is filled up with
equals signs. -/

def letters : List Char :=
  "ABCDEFGHIJKLMNOPQRSTUVWXYZabcdefghijklmnopqrstuvwxyz0123456789+/".toList

private def letter (n : Nat) : Char := letters[n % 64]?.getD '='

def encode : List UInt8 → List Char
  | a :: b :: c :: rest =>
    let n := (a.toNat * 256 + b.toNat) * 256 + c.toNat
    letter (n / 262144) :: letter (n / 4096) :: letter (n / 64) :: letter n :: encode rest
  | [a, b] =>
    let n := (a.toNat * 256 + b.toNat) * 4
    [letter (n / 4096), letter (n / 64), letter n, '=']
  | [a] =>
    let n := a.toNat * 16
    [letter (n / 64), letter n, '=', '=']
  | [] => []

private def group : List Nat → List UInt8
  | a :: b :: c :: d :: rest =>
    let n := ((a * 64 + b) * 64 + c) * 64 + d
    UInt8.ofNat (n / 65536) :: UInt8.ofNat (n / 256) :: UInt8.ofNat n :: group rest
  | [a, b, c] =>
    let n := (a * 64 + b) * 64 + c
    [UInt8.ofNat (n / 1024), UInt8.ofNat (n / 4)]
  | [a, b] => [UInt8.ofNat ((a * 64 + b) / 16)]
  | _ => []

def decode (s : List Char) : List UInt8 := group (s.filterMap (letters.idxOf? ·))

end OperationDocuments.Base64
