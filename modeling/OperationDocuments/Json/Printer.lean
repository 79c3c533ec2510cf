import OperationDocuments.Basic
import OperationDocuments.Text.Encoding

/-! # JSON values

JSON values, and how they and the numbers in them are written. -/
namespace OperationDocuments

/-! ## Shortest decimals

A binary floating point number stands for every real that rounds to it. `Decimal.shortest` finds
the decimal with the fewest digits among those reals, the nearest to the number if there are
several. All arithmetic is exact. -/

/-- The number `digits` · 10 ^ `exponent`. -/
structure Decimal where
  digits : Nat
  exponent : Int
  deriving Repr, DecidableEq

namespace Decimal

def twoTo (n : Nat) : Nat := Nat.pow 2 n

def tenTo (n : Nat) : Nat := Nat.pow 10 n

/-- The reals that round to one binary number, as fractions over `unit`: the number itself is
`value`, the ends are `low` and `high`, and `closed` says whether the ends belong to it. -/
structure Interval where
  low : Nat
  value : Nat
  high : Nat
  unit : Nat
  closed : Bool

/-- The interval of `mantissa` · 2 ^ `exponent`. Below a power of two the neighbour is half as far
away, unless the exponent is the least there is. -/
def interval (mantissa : Nat) (exponent : Int) : Interval :=
  let scale := twoTo exponent.toNat
  let below := if mantissa = twoTo 52 ∧ exponent > -1074 then 1 else 2
  ⟨(4 * mantissa - below) * scale, 4 * mantissa * scale, (4 * mantissa + 2) * scale,
    4 * twoTo (-exponent).toNat, mantissa % 2 = 0⟩

namespace Interval

def holds (i : Interval) (n : Nat) (place : Int) : Bool :=
  let scaled := n * tenTo place.toNat * i.unit
  let grow := tenTo (-place).toNat
  if i.closed then i.low * grow ≤ scaled && scaled ≤ i.high * grow
  else i.low * grow < scaled && scaled < i.high * grow

def floorAt (i : Interval) (place : Int) : Nat :=
  i.value * tenTo (-place).toNat / (i.unit * tenTo place.toNat)

/-- Whether the value lies above the middle between `n` and `n + 1` in units of 10 ^ `place`;
in the middle itself the even one of the two is taken. -/
def nearerUp (i : Interval) (n : Nat) (place : Int) : Bool :=
  let twice := 2 * i.value * tenTo (-place).toNat
  let middle := (2 * n + 1) * tenTo place.toNat * i.unit
  if twice = middle then n % 2 = 1 else middle < twice

/-- The point of the grid 10 ^ `place` in the interval that is nearest to the value. Only the
value's two neighbours on the grid need to be looked at. -/
def pointAt? (i : Interval) (place : Int) : Option Decimal :=
  let n := i.floorAt place
  match i.holds n place, i.holds (n + 1) place with
  | true, true => some ⟨if i.nearerUp n place then n + 1 else n, place⟩
  | true, false => some ⟨n, place⟩
  | false, true => some ⟨n + 1, place⟩
  | false, false => none

end Interval

def leadingPlace (i : Interval) : Int :=
  let places := (List.range 650).map fun (k : Nat) => (k : Int) - 325
  (places.filter fun place => 0 < i.floorAt place).getLast?.getD 0

/-- Seventeen digits always suffice, so the search ends before its list does. -/
def shortest (mantissa : Nat) (exponent : Int) : Decimal :=
  let i := interval mantissa exponent
  let lead := leadingPlace i
  let grids := (List.range 18).map fun (k : Nat) => lead - k
  (grids.findSome? i.pointAt?).getD ⟨0, 0⟩

end Decimal

end OperationDocuments

namespace OperationDocuments.Decimal

/-! ## Writing floating point numbers

The fewest digits that read back as the number: positionally, with at least one digit on both
sides of the point, from 10^-4 to below 10^16, and otherwise as digits and an exponent of at least two
digits with its sign. -/

private def digitsOf (n : Nat) : List Char := (Nat.toDigits 10 n)

/-- The digits without the zeros at the end, and the place of the first one. -/
private def significant (d : Decimal) : List Char × Int :=
  let ds := digitsOf d.digits
  let kept := (ds.reverse.dropWhile (· == '0')).reverse
  (kept, d.exponent + ds.length - 1)

private def scientific (ds : List Char) (place : Int) : List Char :=
  let fraction := if ds.length > 1 then '.' :: ds.drop 1 else []
  let power := digitsOf place.natAbs
  let padded := if power.length < 2 then '0' :: power else power
  ds.take 1 ++ fraction ++ ['e', if place < 0 then '-' else '+'] ++ padded

private def positional (ds : List Char) (place : Int) : List Char :=
  if place < 0 then ['0', '.'] ++ List.replicate (-place - 1).toNat '0' ++ ds
  else
    let whole := place.toNat + 1
    let padded := ds ++ List.replicate (whole - ds.length) '0'
    let fraction := padded.drop whole
    padded.take whole ++ ['.'] ++ (if fraction.isEmpty then ['0'] else fraction)

def write (d : Decimal) : List Char :=
  let (ds, place) := significant d
  if -4 ≤ place ∧ place < 16 then positional ds place else scientific ds place

structure Spelling where
  infinity : String
  notANumber : String

def writeFloat (spelling : Spelling) (x : Float) : String :=
  let bits := x.toBits.toNat
  let sign := if bits / twoTo 63 % 2 = 1 then "-" else ""
  let biased : Nat := bits / twoTo 52 % twoTo 11
  let fraction : Nat := bits % twoTo 52
  if biased = 0x7FF then
    if fraction = 0 then sign ++ spelling.infinity else spelling.notANumber
  else if biased = 0 ∧ fraction = 0 then sign ++ "0.0"
  else
    let d := if biased = 0 then shortest fraction (-1074)
      else shortest (twoTo 52 + fraction) ((biased : Int) - 1075)
    sign ++ String.ofList d.write

end OperationDocuments.Decimal

namespace OperationDocuments

/-! ## Values

Members keep their order, and integers are told from floating point numbers. -/

inductive Json where
  | null
  | boolean (value : Bool)
  | integer (value : Int)
  | float (value : Float)
  | text (value : WideText)
  | array (items : List Json)
  | object (members : List (WideText × Json))
  deriving Repr, BEq, Inhabited

namespace Json

def member? (j : Json) (key : String) : Option Json :=
  match j with
  | object members => Assoc.find? members key
  | _ => none

/-- Nulls, zeros and empty texts and containers count as nothing. -/
def isNothing : Json → Bool
  | null => true
  | boolean b => !b
  | integer n => n == 0
  | float x => x == 0
  | text s => s.isEmpty
  | array items => items.isEmpty
  | object members => members.isEmpty

private def isPlain (s : WideText) : Bool := s.all fun c => c.char?.isSome

mutual

def isEncodable : Json → Bool
  | text s => isPlain s
  | array items => areEncodable items
  | object members => membersEncodable members
  | null | boolean _ | integer _ | float _ => true

def areEncodable : List Json → Bool
  | [] => true
  | j :: more => j.isEncodable && areEncodable more

def membersEncodable : List (WideText × Json) → Bool
  | [] => true
  | (key, j) :: more => isPlain key && j.isEncodable && membersEncodable more

end

end Json

end OperationDocuments

namespace OperationDocuments.Json

/-! ## Values in running text

A message that shows a JSON value spells it with quoted texts and with the words `None`, `True`
and `False`. -/

private def numberWords : Decimal.Spelling := ⟨"inf", "nan"⟩

mutual

def display : Json → String
  | .null => "None"
  | .boolean b => if b then "True" else "False"
  | .integer n => toString n
  | .float x => Decimal.writeFloat numberWords x
  | .text s => s.literal
  | .array vs => "[" ++ ", ".intercalate (displayItems vs) ++ "]"
  | .object ms => "\x7b" ++ ", ".intercalate (displayMembers ms) ++ "\x7d"

def displayItems : List Json → List String
  | [] => []
  | v :: more => v.display :: displayItems more

def displayMembers : List (WideText × Json) → List String
  | [] => []
  | (key, v) :: more => (key.literal ++ ": " ++ v.display) :: displayMembers more

end

def kindName : Json → String
  | .null => "NoneType"
  | .boolean _ => "bool"
  | .integer _ => "int"
  | .float _ => "float"
  | .text _ => "str"
  | .array _ => "list"
  | .object _ => "dict"

/-! ## Writing JSON

Texts are written in ASCII: every other character becomes one escape, or two that form a
surrogate pair. `pretty` gives every item a line, `compact` writes no blanks. -/

def floatSpelling : Decimal.Spelling := ⟨"Infinity", "NaN"⟩

private def unit16 (n : Nat) : List Char := '\\' :: 'u' :: Text.hexDigits 4 n

private def escapeChar (c : Char) : List Char :=
  match c with
  | '"' => ['\\', '"']
  | '\\' => ['\\', '\\']
  | '\n' => ['\\', 'n']
  | '\r' => ['\\', 'r']
  | '\t' => ['\\', 't']
  | '\x08' => ['\\', 'b']
  | '\x0c' => ['\\', 'f']
  | c =>
    let n := c.toNat
    if 0x20 ≤ n ∧ n < 0x7F then [c]
    else if n < 0x10000 then unit16 n
    else unit16 (0xD800 + (n - 0x10000) / 0x400) ++ unit16 (0xDC00 + (n - 0x10000) % 0x400)

def quote (text : WideText) : String :=
  String.ofList ('"' :: text.flatMap (fun
    | .char c => escapeChar c
    | c => unit16 c.toNat) ++ ['"'])

private def leaf : Json → String
  | .null => "null"
  | .boolean b => if b then "true" else "false"
  | .integer n => toString n
  | .float x => Decimal.writeFloat floatSpelling x
  | .text s => quote s
  | .array _ => "[]"
  | .object _ => "\x7b\x7d"

private def blanks (depth : Nat) : String := String.ofList (List.replicate (2 * depth) ' ')

private def bracket (depth : Nat) (opening closing : String) (lines : List String) : String :=
  opening ++ "\n" ++ ",\n".intercalate (lines.map (blanks (depth + 1) ++ ·)) ++ "\n"
    ++ blanks depth ++ closing

mutual

private def prettyAt (depth : Nat) : Json → String
  | .array (v :: more) => bracket depth "[" "]" (prettyItems (depth + 1) (v :: more))
  | .object (m :: more) => bracket depth "\x7b" "\x7d" (prettyMembers (depth + 1) (m :: more))
  | j => leaf j

private def prettyItems (depth : Nat) : List Json → List String
  | [] => []
  | v :: more => prettyAt depth v :: prettyItems depth more

private def prettyMembers (depth : Nat) : List (WideText × Json) → List String
  | [] => []
  | (key, v) :: more => (quote key ++ ": " ++ prettyAt depth v) :: prettyMembers depth more

end

def pretty (j : Json) : String := prettyAt 0 j

mutual

def compact : Json → String
  | .array vs => "[" ++ ",".intercalate (compactItems vs) ++ "]"
  | .object ms => "\x7b" ++ ",".intercalate (compactMembers ms) ++ "\x7d"
  | .null => leaf .null
  | .boolean b => leaf (.boolean b)
  | .integer n => leaf (.integer n)
  | .float x => leaf (.float x)
  | .text s => leaf (.text s)

def compactItems : List Json → List String
  | [] => []
  | v :: more => v.compact :: compactItems more

def compactMembers : List (WideText × Json) → List String
  | [] => []
  | (key, v) :: more => (quote key ++ ":" ++ v.compact) :: compactMembers more

end

end OperationDocuments.Json
