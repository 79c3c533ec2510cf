import OperationDocuments.Text.Characters
import OperationDocuments.Text.Lines

/-! # Reading the text of a module

The text of a module is read token by token: indentation, names, numbers, operators and
literals with their escapes and formatted parts. -/
namespace OperationDocuments.Generated

/-! ## Tokens of a module

A module is a row of words, numbers, strings and operators, with marks for the ends of its logical
lines and for the beginnings and ends of its blocks. Lines within brackets do not count, nor do
blank ones. -/

inductive TokenKind where
  | keyword
  | name
  | number
  | string
  | operator
  | newline
  | indent
  | dedent
  | endOfText
  deriving Repr, DecidableEq

def keywords : List String :=
  ["False", "None", "True", "and", "as", "assert", "async", "await", "break", "class", "continue",
   "def", "del", "elif", "else", "except", "finally", "for", "from", "global", "if", "import", "in",
   "is", "lambda", "nonlocal", "not", "or", "pass", "raise", "return", "try", "while", "with",
   "yield"]

/-- A token begins on a line; `depth` is the number of brackets that are open behind it. -/
structure Token where
  kind : TokenKind
  text : String
  line : Nat
  depth : Nat
  deriving Repr, DecidableEq

structure OpenBracket where
  bracket : Char
  line : Nat
  deriving Repr, DecidableEq

structure ModuleFault where
  message : String
  line : Nat
  deriving Repr, DecidableEq

/-- Where a row of tokens ends. A fault of the text shows as soon as it is reached. The others show
only to a reader who needs the next token. -/
inductive Ending where
  | complete
  | fault (f : ModuleFault)
  | unfinished
  | badContinuation
  | badDedent
  | mixedIndentation
  | deepIndentation
  deriving Repr, DecidableEq

structure Tokens where
  tokens : Array Token
  ending : Ending
  brackets : List OpenBracket
  line : Nat
  deriving Repr

namespace OpenBracket

def closing (b : OpenBracket) : Char :=
  match b.bracket with
  | '(' => ')'
  | '[' => ']'
  | _ => '}'

def unclosed (label : String) (b : OpenBracket) : ModuleFault :=
  ⟨label ++ s!"'{b.bracket}' was never closed", b.line⟩

end OpenBracket

/-- The fault that shows to a reader who needs a token behind the last one. What the text itself
does not tell gets a label in front. -/
def Tokens.fault (label : String) (t : Tokens) : ModuleFault :=
  let here (message : String) : ModuleFault := ⟨label ++ message, t.line⟩
  match t.ending, t.brackets with
  | .fault f, _ => f
  | .unfinished, b :: _ => b.unclosed label
  | .unfinished, [] | .complete, _ => here "unexpected EOF while parsing"
  | .badContinuation, _ => here "unexpected character after line continuation character"
  | .badDedent, _ => here "unindent does not match any outer indentation level"
  | .mixedIndentation, _ => here "inconsistent use of tabs and spaces in indentation"
  | .deepIndentation, _ => here "too many levels of indentation"

end OperationDocuments.Generated

namespace OperationDocuments.Generated.Escape

/-! ## Escapes in string literals

A backslash that begins no known escape stands for itself. An escape that names a character by a
number or a name has to be whole, though. -/

def isHexDigit (c : Char) : Bool :=
  ('0' ≤ c && c ≤ '9') || ('a' ≤ c && c ≤ 'f') || ('A' ≤ c && c ≤ 'F')

def digitValue (c : Char) : Nat :=
  if c ≤ '9' then c.toNat - '0'.toNat else c.toLower.toNat - 'a'.toNat + 10

def hexValue (s : List Char) : Nat := s.foldl (fun n c => 16 * n + digitValue c) 0

/-- A text with an escape for every character that is not ASCII, and for a backslash in front of
such a character or at the end. Places in a text are counted in this form of it. -/
def widened (isEscaped : Bool) : List Char → List Char
  | [] => if isEscaped then "u005c".toList else []
  | c :: rest =>
    if c = '\\' ∧ !isEscaped then c :: widened true rest
    else if c.toNat < 0x80 then c :: widened false rest
    else
      let wide := '\\' :: 'U' :: Text.hexDigits 8 c.toNat
      (if isEscaped then "u005c".toList ++ wide else wide) ++ widened false rest

def digitsOf (letter : Char) : Option Nat :=
  match letter with
  | 'x' => some 2
  | 'u' => some 4
  | 'U' => some 8
  | _ => none

/-- How much of an escape is read, letter and backslash included, and what is wrong with it. -/
private def escapeFault? (letter : Char) (rest : List Char) : Option (Nat × String) :=
  match digitsOf letter with
  | some width =>
    let digits := (rest.take width).takeWhile isHexDigit
    if digits.length < width then
      let shape := String.ofList (List.replicate width 'X')
      some (2 + digits.length, s!"truncated \\{letter}{shape} escape")
    else if 0x10FFFF < hexValue digits then some (2 + width, "illegal Unicode character")
    else none
  | none =>
    if letter ≠ 'N' then none
    else
      let malformed := "malformed \\N character escape"
      match rest with
      | '{' :: behind =>
        let name := behind.takeWhile (· ≠ '}')
        if name.length = behind.length then some (3 + name.length, malformed)
        else if name.isEmpty then some (3, malformed)
        else if name.all fun c => c.isAlphanum || c == ' ' || c == '-' then none
        else some (4 + name.length, "unknown Unicode character name")
      | _ => some (2, malformed)

private def faultFrom (position : Nat) : (left : Nat) → List Char → Option String
  | 0, _ => none
  | left + 1, s =>
    match s with
    | '\\' :: letter :: rest =>
      match escapeFault? letter rest with
      | some (size, reason) =>
        some (s!"(unicode error) 'unicodeescape' codec can't decode bytes in position "
          ++ s!"{position}-{position + size - 1}: {reason}")
      | none => faultFrom (position + 2) left rest
    | _ :: rest => faultFrom (position + 1) left rest
    | [] => none

def fault? (s : List Char) : Option String :=
  let s := widened false s
  faultFrom 0 s.length s

private def bytesFaultFrom (position : Nat) : (left : Nat) → List Char → Option String
  | 0, _ => none
  | left + 1, s =>
    match s with
    | '\\' :: letter :: rest =>
      if letter = 'x' ∧ ((rest.take 2).takeWhile isHexDigit).length < 2 then
        some s!"(value error) invalid \\x escape at position {position}"
      else bytesFaultFrom (position + 2) left rest
    | _ :: rest => bytesFaultFrom (position + 1) left rest
    | [] => none

def bytesFault? (s : List Char) : Option String := bytesFaultFrom 0 s.length s

end OperationDocuments.Generated.Escape

namespace OperationDocuments.Generated.Number

/-! ## Numbers of a module

A number ends where its digits do; what follows may not look like more of it. Low lines may stand
between digits. Every function here takes the text from somewhere in a number on and gives the
text behind the number, or says what is wrong with it. -/

private def isDigit (c : Char) : Bool := '0' ≤ c && c ≤ '9'

private def isHexDigit (c : Char) : Bool :=
  isDigit c || ('a' ≤ c && c ≤ 'f') || ('A' ≤ c && c ≤ 'F')

private def startsWith (test : Char → Bool) (s : List Char) : Bool := (s.head?.map test).getD false

def isNameLike (c : Char) : Bool := c.isAlphanum || c == '_' || 0x80 ≤ c.toNat

def mayHold (c : Char) : Bool := isNameLike c || c == '.' || c == '+' || c == '-'

private def mayFollow (s : List Char) : Bool :=
  let word := String.ofList (s.takeWhile isNameLike)
  ["and", "else", "for", "or", "not"].contains word ||
    ["if", "in", "is"].any fun start => start.toList.isPrefixOf s

private def finish (kind : String) (s : List Char) : Except String (List Char) :=
  if startsWith isNameLike s && !mayFollow s then .error s!"invalid {kind} literal" else .ok s

private def behindDigits : List Char → Except String (List Char)
  | [] => .ok []
  | ['_'] => .error "invalid decimal literal"
  | '_' :: d :: rest =>
    if isDigit d then behindDigits rest else .error "invalid decimal literal"
  | c :: rest => if isDigit c then behindDigits rest else .ok (c :: rest)

private def behindExponent (s : List Char) : Except String (List Char) :=
  match s with
  | 'j' :: rest | 'J' :: rest => finish "imaginary" rest
  | s => finish "decimal" s

private def behindFraction (s : List Char) : Except String (List Char) :=
  match s with
  | e :: rest =>
    if e = 'e' ∨ e = 'E' then
      match rest with
      | sign :: more =>
        if sign = '+' ∨ sign = '-' then
          if startsWith isDigit more then behindDigits more >>= behindExponent
          else .error "invalid decimal literal"
        else if isDigit sign then behindDigits more >>= behindExponent
        else finish "decimal" s
      | [] => finish "decimal" s
    else behindExponent s
  | [] => .ok []

def behindPoint (s : List Char) : Except String (List Char) :=
  if startsWith isDigit s then behindDigits s >>= behindFraction else behindFraction s

private def behindWhole (s : List Char) : Except String (List Char) :=
  match s with
  | '.' :: rest => behindPoint rest
  | s => behindFraction s

/-- Digits of a base, with low lines before and between them. Every round takes a character, so
`left` outlasts the text. -/
private def behindBase (kind : String) (isOfBase : Char → Bool) :
    (left : Nat) → List Char → Except String (List Char)
  | 0, s => .ok s
  | left + 1, s =>
    let s := if s.head? == some '_' then s.drop 1 else s
    if startsWith isOfBase s then
      let rest := s.dropWhile isOfBase
      if rest.head? == some '_' then behindBase kind isOfBase left rest
      else refuseDigit rest (finish kind rest)
    else refuseDigit s (.error s!"invalid {kind} literal")
where
  refuseDigit (s : List Char) (otherwise : Except String (List Char)) :
      Except String (List Char) :=
    match s.find? fun _ => true with
    | some d =>
      if isDigit d && !isOfBase d then .error s!"invalid digit '{d}' in {kind} literal"
      else otherwise
    | none => otherwise

private def behindZeros : List Char → Except String (List Char)
  | [] => .ok []
  | ['_'] => .error "invalid decimal literal"
  | '_' :: d :: rest =>
    if d = '0' then behindZeros rest
    else if isDigit d then .ok (d :: rest)
    else .error "invalid decimal literal"
  | c :: rest => if c = '0' then behindZeros rest else .ok (c :: rest)

/-- A number with a zero in front: no digits but zeros may follow, unless it is no whole number. -/
private def behindZero (s : List Char) : Except String (List Char) := do
  let rest ← behindZeros s
  if startsWith isDigit rest then
    let rest ← behindDigits rest
    if startsWith (fun c => ['.', 'e', 'E', 'j', 'J'].contains c) rest then behindWhole rest
    else .error ("leading zeros in decimal integer literals are not permitted; "
      ++ "use an 0o prefix for octal integers")
  else behindWhole rest

def behind (s : List Char) : Except String (List Char) :=
  match s with
  | '0' :: mark :: rest =>
    let base (kind : String) (isOfBase : Char → Bool) := behindBase kind isOfBase s.length rest
    match mark.toLower with
    | 'x' => base "hexadecimal" isHexDigit
    | 'o' => base "octal" fun c => '0' ≤ c && c < '8'
    | 'b' => base "binary" fun c => c == '0' || c == '1'
    | _ => behindZero (mark :: rest)
  | _ :: rest => behindDigits rest >>= behindWhole
  | [] => .ok []

def decimalDigits? (s : List Char) : Option Nat :=
  if s.all fun c => isDigit c || c == '_' then some (s.filter isDigit).length else none

end OperationDocuments.Generated.Number

namespace OperationDocuments.Generated

/-! ## Reading tokens of a module

The text is read from front to back, with the columns of the blocks around a line and the brackets
around a place kept in mind. A column is counted in two ways, with tabs up to the next multiple of
eight and with tabs as one blank, and both ways have to agree on how lines stand to each other. -/

namespace Lexer

/-- What is still to be read, and what surrounds it. The line is that of the next character, or the
last one at the end. -/
structure Position where
  rest : List Char
  line : Nat := 1
  isLineStart : Bool := true
  indents : List (Nat × Nat) := [(0, 0)]
  brackets : List OpenBracket := []

def maxBrackets : Nat := 200

def maxIndents : Nat := 100

private def nextLine (line : Nat) (rest : List Char) : Nat :=
  if rest.isEmpty then line else line + 1

private structure Indentation where
  column : Nat
  other : Nat
  rest : List Char
  line : Nat

/-- The indentation at the front of a line. Behind a backslash it goes on with the next line, but
the column is then that of the first backslash. -/
private def indentation (column other fixed line : Nat) (s : List Char) :
    Except Ending Indentation :=
  match s with
  | ' ' :: rest => indentation (column + 1) (other + 1) fixed line rest
  | '\t' :: rest => indentation ((column / 8 + 1) * 8) (other + 1) fixed line rest
  | '\x0c' :: rest => indentation 0 0 fixed line rest
  | '\\' :: '\n' :: [] => .error .unfinished
  | '\\' :: '\n' :: rest =>
    indentation column other (if fixed = 0 then column else fixed) (line + 1) rest
  | '\\' :: _ => .error .badContinuation
  | rest =>
    if fixed = 0 then .ok ⟨column, other, rest, line⟩ else .ok ⟨fixed, fixed, rest, line⟩

private def placeLine (indents : List (Nat × Nat)) (column other : Nat) :
    Except Ending (List (Nat × Nat) × List TokenKind) :=
  match indents with
  | [] => .ok ([(column, other)], [])
  | (c, o) :: outer =>
    if column = c then if other = o then .ok (indents, []) else .error .mixedIndentation
    else if c < column then
      if maxIndents ≤ indents.length then .error .deepIndentation
      else if other ≤ o then .error .mixedIndentation
      else .ok ((column, other) :: indents, [.indent])
    else
      let kept := indents.dropWhile fun around => column < around.1
      let ended := List.replicate (indents.length - kept.length) TokenKind.dedent
      match kept with
      | (c, o) :: _ =>
        if column ≠ c then .error .badDedent
        else if other ≠ o then .error .mixedIndentation
        else .ok (kept, ended)
      | [] => .ok (outer, ended)

/-- The size of what is left of a string literal, added to `size`, and the line behind it, or the
line on which the missing end is noticed. `run` quotes of the closing ones have been read. -/
private def stringEnd (quote : Char) (quotes : Nat) (size run line : Nat) (s : List Char) :
    Except Nat (Nat × Nat) :=
  match s with
  | [] => .error line
  | '\\' :: c :: rest =>
    stringEnd quote quotes (size + 2) 0 (if c = '\n' then nextLine line rest else line) rest
  | c :: rest =>
    if c = '\n' ∧ quotes = 1 then .error line
    else if c = quote then
      if run + 1 = quotes then .ok (size + 1, line)
      else stringEnd quote quotes (size + 1) (run + 1) line rest
    else
      stringEnd quote quotes (size + 1) 0 (if c = '\n' then nextLine line rest else line) rest

private def stringSize (quote : Char) (line : Nat) (s : List Char) :
    Except ModuleFault (Nat × Nat) :=
  let rest := s.drop 1
  let ended (kind : String) (quotes : Nat) (body : List Char) :=
    (stringEnd quote quotes quotes 0 line body).mapError fun last =>
      ModuleFault.mk s!"unterminated {kind} literal (detected at line {last})" line
  if [quote, quote].isPrefixOf rest then ended "triple-quoted string" 3 (rest.drop 2)
  else if rest.head? == some quote then .ok (2, line)
  else ended "string" 1 rest

private def isStringMark (letters : List Char) : Bool :=
  ["", "b", "r", "u", "f", "br", "rb", "fr", "rf"].contains
    (String.ofList (letters.map Char.toLower))

private def hexNumber (c : Char) : String :=
  let digits := (Text.hexDigits 6 c.toNat).map Char.toUpper
  String.ofList ((digits.take 2).dropWhile (· == '0') ++ digits.drop 2)

private def badCharacter (c : Char) : String :=
  if Text.isPrintable c then s!"invalid character '{c}' (U+{hexNumber c})"
  else s!"invalid non-printable character U+{hexNumber c}"

private def badInName? (name : List Char) : Option Char :=
  match name with
  | [] => none
  | c :: rest =>
    if Text.isIdentifierStart c then rest.find? (!Text.isIdentifierRest ·) else some c

private def longOperators : List (List Char) :=
  ["**=", "//=", ">>=", "<<=", "...", "!=", "%=", "&=", "**", "*=", "+=", "-=", "->", "/=", "//",
   ":=", "<<", "<=", "<>", "==", ">=", ">>", "@=", "^=", "|="].map String.toList

private def operatorAt (s : List Char) : List Char :=
  (longOperators.find? (·.isPrefixOf s)).getD (s.take 1)

private def afterOperator (operator : List Char) (line : Nat) (brackets : List OpenBracket) :
    Except String (List OpenBracket) :=
  match operator with
  | [c] =>
    if c = '(' ∨ c = '[' ∨ c = '{' then
      if maxBrackets ≤ brackets.length then .error "too many nested parentheses"
      else .ok (⟨c, line⟩ :: brackets)
    else if c = ')' ∨ c = ']' ∨ c = '}' then
      match brackets with
      | [] => .error s!"unmatched '{c}'"
      | b :: outer =>
        if c = b.closing then .ok outer
        else
          let place := if b.line = line then "" else s!" on line {b.line}"
          .error (s!"closing parenthesis '{c}' does not match "
            ++ s!"opening parenthesis '{b.bracket}'{place}")
    else if Text.isPrintable c then .ok brackets
    else .error (badCharacter c)
  | _ => .ok brackets

abbrev Step := Except Ending (List Token × Position)

private def took (p : Position) (kind : TokenKind) (size : Nat) (line : Nat)
    (brackets : List OpenBracket) : Step :=
  .ok ([⟨kind, String.ofList (p.rest.take size), p.line, brackets.length⟩],
    { p with rest := p.rest.drop size, line := line, brackets := brackets })

/-- A step at the front of a line. Lines with nothing but a comment leave no trace. -/
private def lineStart (p : Position) : Step := do
  let i ← indentation 0 0 0 p.line p.rest
  let p := { p with rest := i.rest, line := i.line, isLineStart := false }
  if i.rest.head? == some '#' || i.rest.head? == some '\n' then
    let rest := (i.rest.dropWhile (· != '\n')).drop 1
    return ([], { p with rest := rest, line := nextLine i.line rest, isLineStart := true })
  if !p.brackets.isEmpty then return ([], p)
  let (indents, marks) ← placeLine p.indents i.column i.other
  return (marks.map fun mark => ⟨mark, "", i.line, 0⟩, { p with indents := indents })

private def within (p : Position) (c : Char) : Step :=
  let refuse {α : Type} (x : Except String α) : Except Ending α :=
    x.mapError fun message => .fault ⟨message, p.line⟩
  if c = '\n' then
    let rest := p.rest.drop 1
    let behind := { p with rest := rest, line := nextLine p.line rest, isLineStart := true }
    .ok (if p.brackets.isEmpty then [⟨.newline, "", p.line, 0⟩] else [], behind)
  else if c = '\\' then
    match p.rest with
    | _ :: '\n' :: [] => .error .unfinished
    | _ :: '\n' :: rest => .ok ([], { p with rest := rest, line := p.line + 1 })
    | _ => .error .badContinuation
  else
    let letters := p.rest.takeWhile Char.isAlpha
    let quoted := p.rest.drop letters.length
    match quoted.head? with
    | some quote =>
      if (quote = '"' ∨ quote = '\'') ∧ isStringMark letters then do
        let (size, line) ← (stringSize quote p.line quoted).mapError .fault
        took p .string (letters.length + size) line p.brackets
      else plain refuse
    | none => plain refuse
where
  plain (refuse : {α : Type} → Except String α → Except Ending α) : Step := do
    let isDigit (c : Char) : Bool := '0' ≤ c && c ≤ '9'
    let startsPoint := c = '.' ∧ ((p.rest.drop 1).head?.map isDigit).getD false
    if isDigit c ∨ startsPoint then
      let run := p.rest.takeWhile Number.mayHold
      let behind ← refuse
        (if startsPoint then Number.behindPoint (run.drop 1) else Number.behind run)
      took p .number (run.length - behind.length) p.line p.brackets
    else if Number.isNameLike c then
      let name := p.rest.takeWhile Number.isNameLike
      if let some bad := badInName? name then throw (.fault ⟨badCharacter bad, p.line⟩)
      let kind := if keywords.contains (String.ofList name) then .keyword else .name
      took p kind name.length p.line p.brackets
    else
      let operator := operatorAt p.rest
      let brackets ← refuse (afterOperator operator p.line p.brackets)
      took p .operator operator.length p.line brackets

private def step (p : Position) : Step :=
  if p.isLineStart then lineStart p
  else
    let rest := p.rest.dropWhile fun c => c == ' ' || c == '\t' || c == '\x0c'
    let rest := if rest.head? == some '#' then rest.dropWhile (· != '\n') else rest
    match rest with
    | [] =>
      if p.brackets.isEmpty then .ok ([⟨.endOfText, "", p.line, 0⟩], { p with rest := [] })
      else .error .unfinished
    | c :: _ => within { p with rest := rest } c

/-- Every step but the last takes a character, or leaves the front of a line, so `left` outlasts the
text. -/
private def run (done : Array Token) : (left : Nat) → Position → Tokens
  | 0, p => ⟨done, .unfinished, p.brackets, p.line⟩
  | left + 1, p =>
    match step p with
    | .error ending => ⟨done, ending, p.brackets, p.line⟩
    | .ok (found, behind) =>
      let done := done ++ found.toArray
      if (done.back?.map Token.kind) == some .endOfText then
        ⟨done, .complete, behind.brackets, behind.line⟩
      else run done left behind

end Lexer

def Tokens.ofText (line : Nat) (text : List Char) : Tokens :=
  let lines := Text.unifyNewlines text
  let lines := if lines.getLast? == some '\n' then lines else lines ++ ['\n']
  Lexer.run #[] (2 * lines.length + 2) { rest := lines, line := line }

/-! ## Formatted strings

The text of a formatted string has fields between braces, and a doubled brace stands for one. A
field holds an expression, and may go on with an equals sign, a conversion and a format; the format
is text with fields again, but those may have no fields in their formats. -/

/-- How the fields of a string are looked at. The expression of a field is checked with the line
that it begins on; the string ends on `lastLine`. -/
structure FormattedString where
  isRaw : Bool
  lastLine : Nat
  say : String → ModuleFault
  check : (line : Nat) → List Char → Option ModuleFault

namespace FormattedString

variable (f : FormattedString)

structure Plain where
  text : List Char
  rest : List Char
  endsWithPair : Bool

/-- Braces end a text, but in the outermost text a pair of them is a part of it. -/
private def atBrace (level : Nat) (brace : Char) (done rest : List Char) :
    Except ModuleFault Plain :=
  if level = 0 ∧ rest.head? = some brace then .ok ⟨(brace :: done).reverse, rest.drop 1, true⟩
  else if level = 0 ∧ brace = '}' then .error (f.say "f-string: single '\x7d' is not allowed")
  else .ok ⟨done.reverse, brace :: rest, false⟩

private def plain (level : Nat) : (left : Nat) → (done s : List Char) → Except ModuleFault Plain
  | 0, done, s => .ok ⟨done.reverse, s, false⟩
  | left + 1, done, s =>
    match s with
    | [] => .ok ⟨done.reverse, [], false⟩
    | c :: rest =>
      match f.isRaw || c ≠ '\\', rest with
      | false, 'N' :: '{' :: behind =>
        let name := behind.takeWhile (· ≠ '}')
        let closed := behind.take (name.length + 1)
        plain level left (closed.reverse ++ ('{' :: 'N' :: c :: done))
          (behind.drop (name.length + 1))
      | false, 'N' :: behind =>
        plain level left ((behind.take 1).reverse ++ ('N' :: c :: done)) (behind.drop 1)
      | false, d :: behind =>
        if d = '{' ∨ d = '}' then f.atBrace level d (c :: done) behind
        else plain level left (d :: c :: done) behind
      | _, _ =>
        if c = '{' ∨ c = '}' then f.atBrace level c done rest
        else plain level left (c :: done) rest

/-- The expression of a field, and what is behind it. Within `quote`, which has the given size,
only the closing quotes count. -/
private def expression (quote : Option (Char × Nat)) (brackets : List Char) :
    (left : Nat) → (done s : List Char) → Except ModuleFault (List Char × List Char)
  | 0, done, s => .ok (done.reverse, s)
  | left + 1, done, s =>
    let refuse {α : Type} (message : String) : Except ModuleFault α := .error (f.say message)
    match s with
    | [] => finish done []
    | c :: rest =>
      if c = '\\' then refuse "f-string expression part cannot include a backslash"
      else match quote with
      | some (q, size) =>
        if c = q ∧ (size = 1 ∨ [q, q].isPrefixOf rest) then
          let closing := s.take size
          expression none brackets left (closing.reverse ++ done) (s.drop size)
        else expression quote brackets left (c :: done) rest
      | none =>
        if c = '\'' ∨ c = '"' then
          let size := if [c, c].isPrefixOf rest then 3 else 1
          expression (some (c, size)) brackets left ((s.take size).reverse ++ done) (s.drop size)
        else if c = '[' ∨ c = '{' ∨ c = '(' then
          if 200 ≤ brackets.length then refuse "f-string: too many nested parenthesis"
          else expression none (c :: brackets) left (c :: done) rest
        else if c = '#' then refuse "f-string expression part cannot include '#'"
        else if brackets.isEmpty ∧ ['!', '=', '<', '>'].contains c ∧ rest.head? = some '=' then
          expression none brackets left ('=' :: c :: done) (rest.drop 1)
        else if brackets.isEmpty ∧ ['!', ':', '}', '='].contains c then finish done s
        else if c = ']' ∨ c = '}' ∨ c = ')' then
          match brackets with
          | [] => refuse s!"f-string: unmatched '{c}'"
          | b :: outer =>
            if c = (OpenBracket.mk b 0).closing then expression none outer left (c :: done) rest
            else refuse (s!"f-string: closing parenthesis '{c}' "
              ++ s!"does not match opening parenthesis '{b}'")
        else expression none brackets left (c :: done) rest
where
  finish (done s : List Char) : Except ModuleFault (List Char × List Char) :=
    match quote, brackets with
    | some _, _ => .error (f.say "f-string: unterminated string")
    | none, b :: _ => .error (f.say s!"f-string: unmatched '{b}'")
    | none, [] =>
      if s.isEmpty then .error (f.say "f-string: expecting '\x7d'") else .ok (done.reverse, s)

private def checkExpression (line : Nat) (text behind : List Char) : Except ModuleFault Unit :=
  if text.all fun c => c = ' ' ∨ c = '\t' ∨ c = '\n' ∨ c = '\x0c' then
    match behind with
    | c :: _ =>
      if c = '}' then .error (f.say "f-string: empty expression not allowed")
      else .error (f.say s!"f-string: expression required before '{c}'")
    | [] => .ok ()
  else match f.check line text with
    | some fault => .error fault
    | none => .ok ()

private def behindConversion (s : List Char) : Except ModuleFault (List Char) := do
  let isBlank (c : Char) : Bool := c = ' ' || ('\t' ≤ c && c ≤ '\r')
  let s := if s.head? = some '=' then (s.drop 1).dropWhile isBlank else s
  let s ← match s with
    | ['!'] => pure []
    | '!' :: c :: rest =>
      if ['s', 'r', 'a'].contains c then pure rest
      else throw (f.say ("f-string: invalid conversion character: "
        ++ "expected 's', 'r', or 'a'"))
    | s => pure s
  if s.isEmpty then throw (f.say "f-string: expecting '\x7d'") else return s

private def fields : (left : Nat) → (level : Nat) → List Char → Except ModuleFault (List Char)
  | 0, _, s => .ok s
  | left + 1, level, s => do
    let p ← f.plain level s.length [] s
    if !f.isRaw then
      if let some message := Escape.fault? p.text then throw (f.say message)
    if p.endsWithPair then fields left level p.rest
    else match p.rest with
    | '{' :: inner =>
      if 2 ≤ level then throw (f.say "f-string: expressions nested too deeply")
      let line := f.lastLine - inner.count '\n'
      let (text, behind) ← f.expression none [] (inner.length + 1) [] inner
      f.checkExpression line text behind
      let behind ← f.behindConversion behind
      let behind ← match behind with
        | [':'] => throw (f.say "f-string: expecting '\x7d'")
        | ':' :: format => fields left (level + 1) format
        | behind => pure behind
      if behind.head? = some '}' then fields left level (behind.drop 1)
      else throw (f.say "f-string: expecting '\x7d'")
    | rest =>
      if level = 0 ∨ rest.head? = some '}' then return rest
      else throw (f.say "f-string: expecting '\x7d'")

def fault? (s : List Char) : Option ModuleFault :=
  match f.fields (s.length + 1) 0 s with
  | .error fault => some fault
  | .ok _ => none

end FormattedString

end OperationDocuments.Generated
