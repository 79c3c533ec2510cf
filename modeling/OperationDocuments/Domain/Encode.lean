import OperationDocuments.Domain.Tables
import OperationDocuments.Text.Lines

/-! # Domain names

The rules that the labels of a domain name have to follow, and its form in plain letters. -/
namespace OperationDocuments.Domain

/-! ## Characters that need a context

Some characters may stand in a label only beside others: joiners inside of a script that joins its
letters, and a few signs of one script or of one language. -/

/-- The letters that join the letter behind them and the one before, as of Unicode 14. -/
def joiningRanges : List CodePointRange :=
  [(0x620, 0x620), (0x626, 0x626), (0x628, 0x628), (0x62A, 0x62E), (0x633, 0x63F),
   (0x641, 0x647), (0x649, 0x64A), (0x66E, 0x66F), (0x678, 0x687), (0x69A, 0x6BF),
   (0x6C1, 0x6C2), (0x6CC, 0x6CC), (0x6CE, 0x6CE), (0x6D0, 0x6D1), (0x6FA, 0x6FC),
   (0x6FF, 0x6FF), (0x712, 0x714), (0x71A, 0x71D), (0x71F, 0x727), (0x729, 0x729),
   (0x72B, 0x72B), (0x72D, 0x72E), (0x74E, 0x758), (0x75C, 0x76A), (0x76D, 0x770),
   (0x772, 0x772), (0x775, 0x777), (0x77A, 0x77F), (0x7CA, 0x7EA), (0x841, 0x845),
   (0x848, 0x848), (0x84A, 0x853), (0x855, 0x855), (0x860, 0x860), (0x862, 0x865),
   (0x868, 0x868), (0x886, 0x886), (0x889, 0x88D), (0x8A0, 0x8A9), (0x8AF, 0x8B0),
   (0x8B3, 0x8B8), (0x8BA, 0x8C8), (0x1807, 0x1807), (0x1820, 0x1878), (0x1887, 0x18A8),
   (0x18AA, 0x18AA), (0xA840, 0xA871), (0x10AC0, 0x10AC4), (0x10AD3, 0x10AD6),
   (0x10AD8, 0x10ADC), (0x10ADE, 0x10AE0), (0x10AEB, 0x10AEE), (0x10B80, 0x10B80),
   (0x10B82, 0x10B82), (0x10B86, 0x10B88), (0x10B8A, 0x10B8B), (0x10B8D, 0x10B8D),
   (0x10B90, 0x10B90), (0x10BAD, 0x10BAE), (0x10D01, 0x10D21), (0x10D23, 0x10D23),
   (0x10F30, 0x10F32), (0x10F34, 0x10F44), (0x10F51, 0x10F53), (0x10F70, 0x10F73),
   (0x10F76, 0x10F81), (0x10FB0, 0x10FB0), (0x10FB2, 0x10FB3), (0x10FB8, 0x10FB8),
   (0x10FBB, 0x10FBC), (0x10FBE, 0x10FBF), (0x10FC1, 0x10FC1), (0x10FC4, 0x10FC4),
   (0x10FCA, 0x10FCA), (0x1E900, 0x1E943)]

def joiningBehindRanges : List CodePointRange :=
  [(0xA872, 0xA872), (0x10ACD, 0x10ACD), (0x10AD7, 0x10AD7), (0x10D00, 0x10D00),
   (0x10FCB, 0x10FCB)]

def joiningBeforeRanges : List CodePointRange :=
  [(0x622, 0x625), (0x627, 0x627), (0x629, 0x629), (0x62F, 0x632), (0x648, 0x648),
   (0x671, 0x673), (0x675, 0x677), (0x688, 0x699), (0x6C0, 0x6C0), (0x6C3, 0x6CB),
   (0x6CD, 0x6CD), (0x6CF, 0x6CF), (0x6D2, 0x6D3), (0x6D5, 0x6D5), (0x6EE, 0x6EF),
   (0x710, 0x710), (0x715, 0x719), (0x71E, 0x71E), (0x728, 0x728), (0x72A, 0x72A),
   (0x72C, 0x72C), (0x72F, 0x72F), (0x74D, 0x74D), (0x759, 0x75B), (0x76B, 0x76C),
   (0x771, 0x771), (0x773, 0x774), (0x778, 0x779), (0x840, 0x840), (0x846, 0x847),
   (0x849, 0x849), (0x854, 0x854), (0x856, 0x858), (0x867, 0x867), (0x869, 0x86A),
   (0x870, 0x882), (0x88E, 0x88E), (0x8AA, 0x8AC), (0x8AE, 0x8AE), (0x8B1, 0x8B2),
   (0x8B9, 0x8B9), (0x10AC5, 0x10AC5), (0x10AC7, 0x10AC7), (0x10AC9, 0x10ACA),
   (0x10ACE, 0x10AD2), (0x10ADD, 0x10ADD), (0x10AE1, 0x10AE1), (0x10AE4, 0x10AE4),
   (0x10AEF, 0x10AEF), (0x10B81, 0x10B81), (0x10B83, 0x10B85), (0x10B89, 0x10B89),
   (0x10B8C, 0x10B8C), (0x10B8E, 0x10B8F), (0x10B91, 0x10B91), (0x10BA9, 0x10BAC),
   (0x10D22, 0x10D22), (0x10F33, 0x10F33), (0x10F54, 0x10F54), (0x10F74, 0x10F75),
   (0x10FB4, 0x10FB6), (0x10FB9, 0x10FBA), (0x10FBD, 0x10FBD), (0x10FC2, 0x10FC3),
   (0x10FC9, 0x10FC9)]

def greekRanges : List CodePointRange :=
  [(0x370, 0x373), (0x375, 0x377), (0x37A, 0x37D), (0x37F, 0x37F), (0x384, 0x384),
   (0x386, 0x386), (0x388, 0x38A), (0x38C, 0x38C), (0x38E, 0x3A1), (0x3A3, 0x3E1),
   (0x3F0, 0x3FF), (0x1D26, 0x1D2A), (0x1D5D, 0x1D61), (0x1D66, 0x1D6A), (0x1DBF, 0x1DBF),
   (0x1F00, 0x1F15), (0x1F18, 0x1F1D), (0x1F20, 0x1F45), (0x1F48, 0x1F4D), (0x1F50, 0x1F57),
   (0x1F59, 0x1F59), (0x1F5B, 0x1F5B), (0x1F5D, 0x1F5D), (0x1F5F, 0x1F7D), (0x1F80, 0x1FB4),
   (0x1FB6, 0x1FC4), (0x1FC6, 0x1FD3), (0x1FD6, 0x1FDB), (0x1FDD, 0x1FEF), (0x1FF2, 0x1FF4),
   (0x1FF6, 0x1FFE), (0x2126, 0x2126), (0xAB65, 0xAB65), (0x10140, 0x1018E), (0x101A0, 0x101A0),
   (0x1D200, 0x1D245)]

def hebrewRanges : List CodePointRange :=
  [(0x591, 0x5C7), (0x5D0, 0x5EA), (0x5EF, 0x5F4), (0xFB1D, 0xFB36), (0xFB38, 0xFB3C),
   (0xFB3E, 0xFB3E), (0xFB40, 0xFB41), (0xFB43, 0xFB44), (0xFB46, 0xFB4F)]

def japaneseRanges : List CodePointRange :=
  [(0x3041, 0x3096), (0x309D, 0x309F), (0x1B001, 0x1B11F), (0x1B150, 0x1B152),
   (0x1F200, 0x1F200), (0x30A1, 0x30FA), (0x30FD, 0x30FF), (0x31F0, 0x31FF), (0x32D0, 0x32FE),
   (0x3300, 0x3357), (0xFF66, 0xFF6F), (0xFF71, 0xFF9D), (0x1AFF0, 0x1AFF3), (0x1AFF5, 0x1AFFB),
   (0x1AFFD, 0x1AFFE), (0x1B000, 0x1B000), (0x1B120, 0x1B122), (0x1B164, 0x1B167),
   (0x2E80, 0x2E99), (0x2E9B, 0x2EF3), (0x2F00, 0x2FD5), (0x3005, 0x3005), (0x3007, 0x3007),
   (0x3021, 0x3029), (0x3038, 0x303B), (0x3400, 0x4DBF), (0x4E00, 0x9FFF), (0xF900, 0xFA6D),
   (0xFA70, 0xFAD9), (0x16FE2, 0x16FE3), (0x16FF0, 0x16FF1), (0x20000, 0x2A6DF),
   (0x2A700, 0x2B738), (0x2B740, 0x2B81D), (0x2B820, 0x2CEA1), (0x2CEB0, 0x2EBE0),
   (0x2F800, 0x2FA1D), (0x30000, 0x3134A)]

private def isBetweenJoined (before after : List Char) : Bool :=
  let previous := before.find? (!isNonspacing ·)
  let next := after.find? (!isNonspacing ·)
  (previous.any fun c => c.isIn joiningRanges || c.isIn joiningBehindRanges)
    && next.any fun c => c.isIn joiningRanges || c.isIn joiningBeforeRanges

def hasContext (before : List Char) (c : Char) (after : List Char) : Bool :=
  let all := before.reverse ++ c :: after
  let followsVirama := (before.head?.map isVirama).getD false
  if c = '\u200C' then followsVirama || isBetweenJoined before after
  else if c = '\u200D' then followsVirama
  else if c = '\u00B7' then before.head? == some 'l' && after.head? == some 'l'
  else if c = '\u0375' then after.head?.any (Char.isIn · greekRanges)
  else if c = '\u05F3' ∨ c = '\u05F4' then before.head?.any (Char.isIn · hebrewRanges)
  else if c = '\u30FB' then all.any (Char.isIn · japaneseRanges)
  else if '\u0660' ≤ c ∧ c ≤ '\u0669' then !all.any fun d => '\u06F0' ≤ d ∧ d ≤ '\u06F9'
  else if '\u06F0' ≤ c ∧ c ≤ '\u06F9' then !all.any fun d => '\u0660' ≤ d ∧ d ≤ '\u0669'
  else false

/-! ## Writing direction

A label with letters that are written from right to left may not mix them with others, and it
begins and ends such that it reads the same whatever stands around it. -/

inductive Direction where
  | leftToRight
  | rightToLeft
  | arabicDigit
  | digit
  | mark
  | neutral
  deriving Repr, DecidableEq

def rightToLeftRanges : List CodePointRange :=
  [(0x5D0, 0x5EA), (0x5EF, 0x5F4), (0x620, 0x63F), (0x641, 0x64A), (0x66E, 0x66F),
   (0x671, 0x674), (0x679, 0x6D3), (0x6D5, 0x6D5), (0x6E5, 0x6E6), (0x6EE, 0x6EF),
   (0x6FA, 0x6FF), (0x710, 0x710), (0x712, 0x72F), (0x74D, 0x7A5), (0x7B1, 0x7B1),
   (0x7C0, 0x7EA), (0x7F4, 0x7F5), (0x800, 0x815), (0x81A, 0x81A), (0x824, 0x824),
   (0x828, 0x828), (0x840, 0x858), (0x860, 0x86A), (0x870, 0x887), (0x889, 0x88E),
   (0x8A0, 0x8C9), (0xFE73, 0xFE73), (0x10800, 0x10805), (0x10808, 0x10808), (0x1080A, 0x10835),
   (0x10837, 0x10838), (0x1083C, 0x1083C), (0x1083F, 0x10855), (0x10860, 0x10876),
   (0x10880, 0x1089E), (0x108E0, 0x108F2), (0x108F4, 0x108F5), (0x10900, 0x10915),
   (0x10920, 0x10939), (0x10980, 0x109B7), (0x109BE, 0x109BF), (0x10A00, 0x10A00),
   (0x10A10, 0x10A13), (0x10A15, 0x10A17), (0x10A19, 0x10A35), (0x10A60, 0x10A7C),
   (0x10A80, 0x10A9C), (0x10AC0, 0x10AC7), (0x10AC9, 0x10AE4), (0x10B00, 0x10B35),
   (0x10B40, 0x10B55), (0x10B60, 0x10B72), (0x10B80, 0x10B91), (0x10C00, 0x10C48),
   (0x10CC0, 0x10CF2), (0x10D00, 0x10D23), (0x10E80, 0x10EA9), (0x10EB0, 0x10EB1),
   (0x10F00, 0x10F1C), (0x10F27, 0x10F27), (0x10F30, 0x10F45), (0x10F70, 0x10F81),
   (0x10FB0, 0x10FC4), (0x10FE0, 0x10FF6), (0x1E800, 0x1E8C4), (0x1E922, 0x1E943),
   (0x1E94B, 0x1E94B), (0x1E950, 0x1E959)]

def arabicDigitRanges : List CodePointRange :=
  [(0x660, 0x669), (0x10D30, 0x10D39)]

def digitRanges : List CodePointRange :=
  [(0x30, 0x39), (0x6F0, 0x6F9)]

def neutralRanges : List CodePointRange :=
  [(0x2D, 0x2D), (0xB7, 0xB7), (0x2B9, 0x2BA), (0x2C6, 0x2CF), (0x2EC, 0x2EC), (0x375, 0x375),
   (0x200C, 0x200D), (0x2E2F, 0x2E2F), (0x30FB, 0x30FB), (0xA67F, 0xA67F), (0xA717, 0xA71F),
   (0xA788, 0xA788)]

def direction (c : Char) : Direction :=
  if c.isIn rightToLeftRanges then .rightToLeft
  else if c.isIn arabicDigitRanges then .arabicDigit
  else if c.isIn digitRanges then .digit
  else if c.isIn neutralRanges then .neutral
  else if isNonspacing c then .mark
  else .leftToRight

/-- Whether a label keeps to one direction. One without any character of the other direction does;
one that begins from right to left has no letter from left to right and digits of one kind, and
ends in a letter or digit but for marks. -/
def keepsDirection (label : List Char) : Bool :=
  let directions := label.map direction
  let has (d : Direction) : Bool := directions.contains d
  if !has .rightToLeft && !has .arabicDigit then true
  else
    let last := directions.reverse.find? (· != .mark)
    directions.head? == some .rightToLeft && !has .leftToRight
      && (!has .arabicDigit || !has .digit)
      && (last == some .rightToLeft || last == some .digit || last == some .arabicDigit)

end OperationDocuments.Domain

namespace OperationDocuments.Domain.Punycode

/-! ## Punycode

A text is written in ASCII as its ASCII characters, followed by numbers that tell which of the
others go where. The others come in the order of their code points; each number counts the
places passed over since the one before, over all code points between. Numbers are written
digit by digit in base 36, the lowest first, and end with the first digit below a threshold that
follows the size of the numbers before. -/

/-- The least digit that does not end a number, for its place in the number. -/
def threshold (bias place : Nat) : Nat := Nat.min 26 (Nat.max 1 (36 * (place + 1) - bias))

theorem threshold_bounds (bias place : Nat) :
    1 ≤ threshold bias place ∧ threshold bias place ≤ 26 := by
  simp only [threshold, Nat.min_def, Nat.max_def]
  split <;> split <;> omega

private def scaleDown (delta : Nat) : Nat × Nat :=
  if 455 < delta then
    let (times, left) := scaleDown (delta / 35)
    (times + 1, left)
  else (0, delta)
termination_by delta
decreasing_by omega

/-- The bias after a number, which was the first or not, in a text of `length` characters then. -/
def adapt (number length : Nat) (isFirst : Bool) : Nat :=
  let halved := if isFirst then number / 700 else number / 2
  let (times, left) := scaleDown (halved + halved / length)
  36 * times + 36 * left / (left + 38)

private def digitChar (d : Nat) : Char := Char.ofNat (if d < 26 then 97 + d else 22 + d)

private def digitValue? (c : Char) : Option Nat :=
  let n := c.toLower.toNat
  if 97 ≤ n ∧ n ≤ 122 then some (n - 97)
  else if 48 ≤ n ∧ n ≤ 57 then some (n - 22)
  else none

def digits (bias place number : Nat) : List Char :=
  let t := threshold bias place
  if number < t then [digitChar number]
  else digitChar (t + (number - t) % (36 - t)) :: digits bias (place + 1) ((number - t) / (36 - t))
termination_by number
decreasing_by
  have := threshold_bounds bias place
  exact Nat.lt_of_le_of_lt (Nat.div_le_self ..) (by omega)

/-- What has been written: the code point and the places since the last number, how many characters
have a place, and the bias. -/
private structure Progress where
  code : Nat := 128
  passed : Nat := 0
  placed : Nat
  bias : Nat := 72
  written : List Char := []

private def placeAll (s : List Nat) (basic : Nat) (p : Progress) (code : Nat) : Progress :=
  let start := { p with passed := p.passed + (code - p.code) * (p.placed + 1), code := code }
  let done := s.foldl (fun p c =>
    if c < code then { p with passed := p.passed + 1 }
    else if c = code then
      { p with
        passed := 0
        placed := p.placed + 1
        bias := adapt p.passed (p.placed + 1) (p.placed == basic)
        written := p.written ++ digits p.bias 0 p.passed }
    else p) start
  { done with passed := done.passed + 1, code := code + 1 }

private def insertAscending (n : Nat) : List Nat → List Nat
  | [] => [n]
  | m :: more =>
    if n < m then n :: m :: more else if n = m then m :: more else m :: insertAscending n more

def encode (text : List Char) : List Char :=
  let s := text.map Char.toNat
  let basic := text.filter fun c => c.toNat < 128
  let others := (s.filter (128 ≤ ·)).foldl (fun done n => insertAscending n done) []
  let p := others.foldl (placeAll s basic.length) { placed := basic.length }
  basic ++ (if basic.isEmpty then [] else ['-']) ++ p.written

private def number? (bias : Nat) : (place weight : Nat) → List Char → Option (Nat × List Char)
  | _, _, [] => none
  | place, weight, c :: rest => do
    let d ← digitValue? c
    let t := threshold bias place
    if d < t then return (d * weight, rest)
    let (more, rest) ← number? bias (place + 1) (weight * (36 - t)) rest
    return (d * weight + more, rest)

/-- The text with the characters put in that the numbers tell of. `position` is the place behind
the one put in last; every number takes a character, so `left` outlasts the text. -/
private def insertAll (done : List Char) (code position bias : Nat) (isFirst : Bool) :
    (left : Nat) → List Char → Option (List Char)
  | _, [] => some done
  | 0, _ => none
  | left + 1, s => do
    let (delta, rest) ← number? bias 0 1 s
    let length := done.length + 1
    let code := code + (position + delta) / length
    let position := (position + delta) % length
    if h : code.isValidChar then
      let grown := done.take position ++ [Char.ofNatAux code h] ++ done.drop position
      insertAll grown code (position + 1) (adapt delta length isFirst) false left rest
    else none

def decode? (encoded : List Char) : Option (List Char) :=
  let numbers := (encoded.reverse.takeWhile (· != '-')).reverse
  let basic := encoded.take (encoded.length - numbers.length - 1)
  insertAll basic 128 0 72 true numbers.length numbers

end OperationDocuments.Domain.Punycode

namespace OperationDocuments.Domain

/-! ## Labels

A domain name consists of labels with dots between them. A label that is not in ASCII is encoded. -/

/-- Whether each character is permitted, or stands beside what it needs; those before come latest
first. -/
private def standWell (before : List Char) : List Char → Bool
  | [] => true
  | c :: rest => (isPermitted c || hasContext before c rest) && standWell (c :: before) rest

private def hyphensStandWell (label : List Char) : Bool :=
  label.head? != some '-' && label.getLast? != some '-' && (label.drop 2).take 2 != ['-', '-']

def isLabel (label : List Char) : Bool :=
  !label.isEmpty && hyphensStandWell label && !(label.head?.any isMark) && standWell [] label
    && isComposed label && keepsDirection label

def encodedMark : List Char := ['x', 'n', '-', '-']

private def isEncodedLabel (label : List Char) : Bool :=
  let body := label.drop encodedMark.length
  !body.isEmpty && body.getLast? != some '-' && (Punycode.decode? body).any isLabel

/-- A label in ASCII, if it is one, with at most 63 characters. -/
def encodeLabel? (label : List Char) : Option (List Char) :=
  let isAscii := label.all fun c => c.toNat < 0x80
  let encoded := if isAscii then label else encodedMark ++ Punycode.encode label
  let isFine := if isAscii && encodedMark.isPrefixOf label then isEncodedLabel label
    else isLabel label
  if isFine && encoded.length ≤ 63 then some encoded else none

/-! ## Encoding a name

The name of a host in ASCII, in small letters and with each of its labels encoded. -/

private def isDot (c : Char) : Bool := ['.', '\u3002', '\uFF0E', '\uFF61'].contains c

/-- A domain name in ASCII, if it is one. The last label may have a dot behind it. -/
def encode? (name : List Char) : Option (List Char) := do
  let labels := Text.splitWhere isDot (Text.lowerCase name)
  let ends := 1 < labels.length && labels.getLast? == some []
  let encoded ← (if ends then labels.dropLast else labels).mapM encodeLabel?
  let joined := Text.joinWith ['.'] encoded ++ (if ends then ['.'] else [])
  if joined.length ≤ (if ends then 254 else 253) then return joined
  none

end OperationDocuments.Domain
