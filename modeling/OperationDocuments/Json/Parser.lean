import OperationDocuments.Json.Printer

/-! # Reading JSON

A reader for JSON, and the grammar that it follows as a relation between texts and values. -/
namespace OperationDocuments.Json

/-! ## The reader

Besides the standard grammar the words `NaN`, `Infinity` and `-Infinity` are numbers. Of equal
keys in one object the last value wins, at the place of the first. A text that is no JSON has an
error with its cause and the place at which it was noticed; very long integers and very deep
nesting are refused as they are met. -/

inductive Cause where
  | expectedValue
  | expectedKey
  | expectedColon
  | expectedComma
  | extraData
  | unterminatedString
  | controlCharacter
  | badEscape
  | badUnicodeEscape
  | byteOrderMark
  deriving Repr, DecidableEq

inductive Container where
  | array
  | object
  deriving Repr, DecidableEq

/-- Why a text cannot be read. A malformed one has a cause, and the number of characters before
the place where it shows. -/
inductive ReadError where
  | malformed (cause : Cause) (offset : Nat) (whole : WideText)
  | tooManyDigits (count : Nat)
  | tooDeep (container : Container)
  deriving Repr

def Cause.describe : Cause → String
  | .expectedValue => "Expecting value"
  | .expectedKey => "Expecting property name enclosed in double quotes"
  | .expectedColon => "Expecting ':' delimiter"
  | .expectedComma => "Expecting ',' delimiter"
  | .extraData => "Extra data"
  | .unterminatedString => "Unterminated string starting at"
  | .controlCharacter => "Invalid control character at"
  | .badEscape => "Invalid \\escape"
  | .badUnicodeEscape => "Invalid \\uXXXX escape"
  | .byteOrderMark => "Unexpected UTF-8 BOM (decode using utf-8-sig)"

def Container.describe : Container → String
  | .array => "array"
  | .object => "object"

def maxDigits : Nat := 4300

def maxDepth : Nat := 975

/-- Lines and columns count from one, and only line feeds end lines. -/
def ReadError.message : ReadError → String
  | .malformed cause offset whole =>
    let before := whole.take offset
    let line := before.count (.char '\n') + 1
    let column := (before.reverse.takeWhile (· != .char '\n')).length + 1
    s!"{cause.describe}: line {line} column {column} (char {offset})"
  | .tooManyDigits count =>
    s!"Exceeds the limit ({maxDigits} digits) for integer string conversion: "
      ++ s!"value has {count} digits; use sys.set_int_max_str_digits() to increase the limit"
  | .tooDeep container =>
    s!"maximum recursion depth exceeded while decoding a JSON {container.describe} "
      ++ "from a unicode string"

namespace Parser

inductive Fault where
  | malformed (cause : Cause) (rest : WideText)
  | tooManyDigits (count : Nat)
  | tooDeep (container : Container)

abbrev Read (α : Type) := α × WideText

def fail {α : Type} (cause : Cause) (rest : WideText) : Except Fault (Read α) :=
  .error (.malformed cause rest)

def isSpace (c : CodePoint) : Bool :=
  c == .char ' ' || c == .char '\t' || c == .char '\n' || c == .char '\r'

def skipSpace (s : WideText) : WideText := s.dropWhile isSpace

def isDecimal (c : Char) : Bool := '0' ≤ c && c ≤ '9'

def hexDigit? : CodePoint → Option Nat
  | .surrogate _ => none
  | .char c =>
    if isDecimal c then some (c.toNat - 48)
    else if 'a' ≤ c ∧ c ≤ 'f' then some (c.toNat - 87)
    else if 'A' ≤ c ∧ c ≤ 'F' then some (c.toNat - 55)
    else none

def hexFour (back s : WideText) : Except Fault (Read CodePoint) :=
  if s.length < 5 then fail .badUnicodeEscape s
  else match (s.take 4).mapM hexDigit? with
    | some ds => .ok (.ofNat (ds.foldl (fun n d => 16 * n + d) 0), s.drop 4)
    | none => fail .badUnicodeEscape back

/-- The code point of an escape, read from behind its `\u`. Two escapes that form a surrogate pair
are one character. -/
def unicodeEscape (back s : WideText) : Except Fault (Read CodePoint) := do
  let (c, rest) ← hexFour back s
  match rest with
  | .char '\\' :: .char 'u' :: low =>
    if c.isHigh && 5 ≤ low.length then
      let (d, after) ← hexFour (rest.drop 1) low
      match CodePoint.joined? c d with
      | some joined => return (joined, after)
      | none => return (c, rest)
    return (c, rest)
  | _ => return (c, rest)

def simpleEscape? : CodePoint → Option Char
  | .char '"' => some '"'
  | .char '\\' => some '\\'
  | .char '/' => some '/'
  | .char 'b' => some '\x08'
  | .char 'f' => some '\x0c'
  | .char 'n' => some '\n'
  | .char 'r' => some '\r'
  | .char 't' => some '\t'
  | _ => none

/-- The rest of a string; `opening` is the text from its first quote on, and what was read of
the string comes latest first. Every step takes a character, so `left` outlasts the text. -/
def string (opening read : WideText) :
    (left : Nat) → WideText → Except Fault (Read WideText)
  | 0, _ | _, [] => fail .unterminatedString opening
  | left + 1, c :: rest =>
    if c = .char '"' then .ok (read.reverse, rest)
    else if c = .char '\\' then
      match rest with
      | [] => fail .unterminatedString opening
      | .char 'u' :: digits =>
        match unicodeEscape rest digits with
        | .ok (d, after) => string opening (d :: read) left after
        | .error e => .error e
      | e :: after =>
        match simpleEscape? e with
        | some d => string opening (.char d :: read) left after
        | none => fail .badEscape (c :: rest)
    else if c.toNat < 0x20 then fail .controlCharacter (c :: rest)
    else string opening (c :: read) left rest

def naturalOf (ds : List Char) : Nat := ds.foldl (fun n c => 10 * n + (c.toNat - 48)) 0

/-- The floating point number nearest to `digits` · 10 ^ `exponent`. Exponents far outside the
range of the numbers are decided without computing the power. -/
def nearestFloat (digits : List Char) (exponent : Int) : Float :=
  let n := naturalOf digits
  let size := (digits.dropWhile (· == '0')).length + exponent
  if n = 0 ∨ size < -400 then 0.0
  else if size > 400 then 1.0 / 0.0
  else if exponent < 0 then Float.ofScientific n true (-exponent).toNat
  else Float.ofScientific n false exponent.toNat

def exponentPart (s : List Char) : Option Int × List Char :=
  match s with
  | e :: rest =>
    let sign := rest.take 1 |>.filter fun c => c == '+' || c == '-'
    let rest := rest.drop sign.length
    let ds := rest.takeWhile isDecimal
    if (e = 'e' ∨ e = 'E') ∧ ds ≠ [] then
      let size : Int := naturalOf ds
      (some (if sign = ['-'] then -size else size), rest.dropWhile isDecimal)
    else (none, s)
  | [] => (none, s)

/-- The characters at the front of a text that a number may consist of. -/
def numeral : WideText → List Char
  | .char c :: rest =>
    if isDecimal c || ['-', '+', '.', 'e', 'E'].contains c then c :: numeral rest else []
  | _ => []

def wholePart : List Char → List Char
  | '0' :: _ => ['0']
  | s => s.takeWhile isDecimal

def fractionPart : List Char → List Char
  | '.' :: more => more.takeWhile isDecimal
  | _ => []

def number (s : WideText) : Except Fault (Read Json) :=
  let spelled := numeral s
  let negative := spelled.head? == some '-'
  let body := if negative then spelled.drop 1 else spelled
  let whole := wholePart body
  if whole = [] then fail .expectedValue s
  else
    let rest := body.drop whole.length
    let fraction := fractionPart rest
    let rest := if fraction = [] then rest else rest.drop (fraction.length + 1)
    let (exponent, rest) := exponentPart rest
    let after := s.drop (spelled.length - rest.length)
    if fraction = [] ∧ exponent = none then
      if maxDigits < whole.length then .error (.tooManyDigits whole.length)
      else
        let n : Int := naturalOf whole
        .ok (.integer (if negative then -n else n), after)
    else
      let x := nearestFloat (whole ++ fraction) (exponent.getD 0 - fraction.length)
      .ok (.float (if negative then -x else x), after)

def wordsOfJson : List (WideText × Json) :=
  [("null", .null), ("true", .boolean true), ("false", .boolean false),
   ("NaN", .float (0.0 / 0.0)), ("Infinity", .float (1.0 / 0.0)),
   ("-Infinity", .float (-1.0 / 0.0))]

def scalar (s : WideText) : Except Fault (Read Json) :=
  match wordsOfJson.find? fun entry => entry.1.isPrefixOf s with
  | some (word, value) => .ok (value, s.drop word.length)
  | none => number s

mutual

/-- A value with at most `depth` containers within each other. Every call within it has less of
`left`, which is more than the text can use up. -/
def value : (left depth : Nat) → WideText → Except Fault (Read Json)
  | 0, _, s => fail .expectedValue s
  | left + 1, depth, s =>
    match s, depth with
    | .char '"' :: rest, _ => do
      let (content, rest) ← string s [] (rest.length + 1) rest
      return (.text content, rest)
    | .char '[' :: _, 0 => .error (.tooDeep .array)
    | .char '{' :: _, 0 => .error (.tooDeep .object)
    | .char '[' :: rest, depth + 1 =>
      match skipSpace rest with
      | .char ']' :: rest => .ok (.array [], rest)
      | rest => items left depth [] rest
    | .char '{' :: rest, depth + 1 =>
      match skipSpace rest with
      | .char '}' :: rest => .ok (.object [], rest)
      | rest => members left depth [] rest
    | s, _ => scalar s

def items : (left depth : Nat) → List Json → WideText → Except Fault (Read Json)
  | 0, _, _, s => fail .expectedValue s
  | left + 1, depth, done, s => do
    let (v, rest) ← value left depth s
    match skipSpace rest with
    | .char ']' :: rest => return (.array (v :: done).reverse, rest)
    | .char ',' :: rest => items left depth (v :: done) (skipSpace rest)
    | rest => fail .expectedComma rest

def members : (left depth : Nat) → Assoc WideText Json → WideText → Except Fault (Read Json)
  | 0, _, _, s => fail .expectedKey s
  | left + 1, depth, done, s => do
    match s with
    | .char '"' :: rest =>
      let (key, rest) ← string s [] (rest.length + 1) rest
      match skipSpace rest with
      | .char ':' :: rest =>
        let (v, rest) ← value left depth (skipSpace rest)
        let done := done.insert key v
        match skipSpace rest with
        | .char '}' :: rest => return (.object done, rest)
        | .char ',' :: rest => members left depth done (skipSpace rest)
        | rest => fail .expectedComma rest
      | rest => fail .expectedColon rest
    | s => fail .expectedKey s

end

def document (s : WideText) : Except Fault Json := do
  let (v, rest) ← value (2 * s.length + 2) maxDepth (skipSpace s)
  match skipSpace rest with
  | [] => return v
  | rest => throw (.malformed .extraData rest)

end Parser

def read (text : WideText) : Except ReadError Json :=
  (Parser.document text).mapError fun
    | .malformed cause rest => .malformed cause (text.length - rest.length) text
    | .tooManyDigits count => .tooManyDigits count
    | .tooDeep container => .tooDeep container

def parse (text : WideText) : Except ReadError Json :=
  if text.head? == some (.char '\uFEFF') then .error (.malformed .byteOrderMark 0 text)
  else read text

/-- Reads the bytes of a message, if they are text. A byte order mark in front is no part of it. -/
def parseMessage (bytes : List UInt8) : Option (Except ReadError Json) :=
  (Encoding.decodeMessage bytes).map read

/-! ## The grammar of JSON

What a text must be to stand for a JSON value, said of the text as a whole and without a bound on its
length or depth. Besides the standard grammar the words `NaN`, `Infinity` and `-Infinity` are
numbers. -/

open Json.Parser

def IsBlank (text : WideText) : Prop := ∀ c ∈ text, isSpace c = true

inductive FourDigits : WideText → CodePoint → Prop where
  | mk {digits : WideText} {values : List Nat} (four : digits.length = 4)
      (read : digits.mapM hexDigit? = some values) :
      FourDigits digits (.ofNat (values.foldl (fun n d => 16 * n + d) 0))

/-- What stands between the quotes of a string, and the text that it is for. Two escapes that form a
surrogate pair are one character. -/
inductive Contents : WideText → WideText → Prop where
  | nil : Contents [] []
  | plain {c : CodePoint} {text value : WideText} (quote : c ≠ .char '"') (escape : c ≠ .char '\\')
      (control : 0x20 ≤ c.toNat) (more : Contents text value) : Contents (c :: text) (c :: value)
  | simple {letter : CodePoint} {c : Char} {text value : WideText}
      (stands : simpleEscape? letter = some c) (more : Contents text value) :
      Contents (.char '\\' :: letter :: text) (.char c :: value)
  | unicode {digits text value : WideText} {c : CodePoint} (four : FourDigits digits c)
      (alone : ∀ low after d, text = .char '\\' :: .char 'u' :: (low ++ after) →
        FourDigits low d → c.joined? d = none)
      (more : Contents text value) :
      Contents (.char '\\' :: .char 'u' :: (digits ++ text)) (c :: value)
  | pair {high low text value : WideText} {c d joined : CodePoint} (first : FourDigits high c)
      (second : FourDigits low d) (joins : c.joined? d = some joined) (more : Contents text value) :
      Contents (.char '\\' :: .char 'u' :: (high ++ .char '\\' :: .char 'u' :: (low ++ text)))
        (joined :: value)

structure Numeral where
  negative : Bool
  whole : List Char
  fraction : List Char := []
  exponent : Option (Char × List Char × List Char) := none

namespace Numeral

def ExponentIsSound (exponent : Char × List Char × List Char) : Prop :=
  (exponent.1 = 'e' ∨ exponent.1 = 'E') ∧
    (exponent.2.1 = [] ∨ exponent.2.1 = ['+'] ∨ exponent.2.1 = ['-']) ∧
    exponent.2.2 ≠ [] ∧ ∀ c ∈ exponent.2.2, isDecimal c = true

structure IsSound (n : Numeral) : Prop where
  whole_ne_nil : n.whole ≠ []
  whole : ∀ c ∈ n.whole, isDecimal c = true
  leading : n.whole.head? = some '0' → n.whole = ['0']
  fraction : ∀ c ∈ n.fraction, isDecimal c = true
  exponent : ∀ exponent ∈ n.exponent, ExponentIsSound exponent

def signText (n : Numeral) : List Char := if n.negative then ['-'] else []

def fractionText (n : Numeral) : List Char := if n.fraction = [] then [] else '.' :: n.fraction

def exponentText (n : Numeral) : List Char :=
  match n.exponent with
  | none => []
  | some (mark, sign, digits) => mark :: (sign ++ digits)

def text (n : Numeral) : List Char :=
  n.signText ++ (n.whole ++ (n.fractionText ++ n.exponentText))

def scale (n : Numeral) : Int :=
  match n.exponent with
  | none => 0
  | some (_, sign, digits) => if sign = ['-'] then -(naturalOf digits : Int) else naturalOf digits

/-- A number is an integer if it has neither a fraction nor an exponent. -/
def value (n : Numeral) : Json :=
  if n.fraction = [] ∧ n.exponent = none then
    .integer (if n.negative then -(naturalOf n.whole : Int) else naturalOf n.whole)
  else
    let x := nearestFloat (n.whole ++ n.fraction) (n.scale - n.fraction.length)
    .float (if n.negative then -x else x)

end Numeral

mutual

/-- The text, which neither begins nor ends with a blank, is JSON of this value. -/
inductive Spells : WideText → Json → Prop where
  | word {text : WideText} {j : Json} (word : (text, j) ∈ wordsOfJson) : Spells text j
  | number (n : Numeral) (sound : n.IsSound) : Spells (n.text.map .char) n.value
  | string {text value : WideText} (contents : Contents text value) :
      Spells (.char '"' :: (text ++ [.char '"'])) (.text value)
  | noItems {blank : WideText} (isBlank : IsBlank blank) :
      Spells (.char '[' :: (blank ++ [.char ']'])) (.array [])
  | array {blank text : WideText} {items : List Json} (isBlank : IsBlank blank)
      (body : SpellsItems text items) :
      Spells (.char '[' :: (blank ++ (text ++ [.char ']']))) (.array items)
  | noMembers {blank : WideText} (isBlank : IsBlank blank) :
      Spells (.char '{' :: (blank ++ [.char '}'])) (.object [])
  | object {blank text : WideText} {entries : List (WideText × Json)} (isBlank : IsBlank blank)
      (body : SpellsMembers text entries) :
      Spells (.char '{' :: (blank ++ (text ++ [.char '}']))) (.object (Assoc.ofEntries entries))

inductive SpellsItems : WideText → List Json → Prop where
  | last {text after : WideText} {j : Json} (item : Spells text j) (isBlank : IsBlank after) :
      SpellsItems (text ++ after) [j]
  | cons {text after blank more : WideText} {j : Json} {items : List Json} (item : Spells text j)
      (isBlank : IsBlank after) (isBlank' : IsBlank blank) (others : SpellsItems more items) :
      SpellsItems (text ++ (after ++ .char ',' :: (blank ++ more))) (j :: items)

inductive SpellsMembers : WideText → List (WideText × Json) → Prop where
  | last {text after : WideText} {entry : WideText × Json} (member : SpellsMember text entry)
      (isBlank : IsBlank after) : SpellsMembers (text ++ after) [entry]
  | cons {text after blank more : WideText} {entry : WideText × Json}
      {entries : List (WideText × Json)} (member : SpellsMember text entry)
      (isBlank : IsBlank after) (isBlank' : IsBlank blank) (others : SpellsMembers more entries) :
      SpellsMembers (text ++ (after ++ .char ',' :: (blank ++ more))) (entry :: entries)

inductive SpellsMember : WideText → WideText × Json → Prop where
  | mk {key before after text name : WideText} {j : Json} (named : Contents key name)
      (isBlank : IsBlank before) (isBlank' : IsBlank after) (value : Spells text j) :
      SpellsMember (.char '"' :: (key ++ .char '"' :: (before ++ .char ':' :: (after ++ text))))
        (name, j)

end

/-- The text is JSON of this value, with blanks around it perhaps. -/
inductive Denotes : WideText → Json → Prop where
  | mk {before text after : WideText} {j : Json} (isBlank : IsBlank before) (spells : Spells text j)
      (isBlank' : IsBlank after) : Denotes (before ++ (text ++ after)) j

end OperationDocuments.Json
