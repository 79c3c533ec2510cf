import OperationDocuments.Text.Lines

/-! # Tokens of documents

The text of a document is read token by token; a text that is none gives an error with its line. -/
namespace OperationDocuments

/-! ## Tokens

The words of a document, and how a message names them. -/

inductive Punctuator where
  | bang | dollar | amp | parenOpen | parenClose | spread | colon | equals | at
  | bracketOpen | bracketClose | braceOpen | braceClose | pipe
  deriving Repr, DecidableEq, Inhabited

def Punctuator.text : Punctuator → String
  | .bang => "!"
  | .dollar => "$"
  | .amp => "&"
  | .parenOpen => "("
  | .parenClose => ")"
  | .spread => "..."
  | .colon => ":"
  | .equals => "="
  | .at => "@"
  | .bracketOpen => "["
  | .bracketClose => "]"
  | .braceOpen => "\x7b"
  | .braceClose => "\x7d"
  | .pipe => "|"

def Punctuator.ofChar? : Char → Option Punctuator
  | '!' => some .bang
  | '$' => some .dollar
  | '&' => some .amp
  | '(' => some .parenOpen
  | ')' => some .parenClose
  | ':' => some .colon
  | '=' => some .equals
  | '@' => some .at
  | '[' => some .bracketOpen
  | ']' => some .bracketClose
  | '{' => some .braceOpen
  | '}' => some .braceClose
  | '|' => some .pipe
  | _ => none

inductive Token where
  | punctuator (p : Punctuator)
  | name (text : String)
  | int (spelling : String)
  | float (spelling : String)
  | string (value : String)
  | blockString (value : String)
  | ending
  deriving Repr, DecidableEq, Inhabited

namespace Token

def text? : Token → Option String
  | .name text | .int text | .float text | .string text | .blockString text => some text
  | .punctuator _ | .ending => none

def describe : Token → String
  | .punctuator p => "'" ++ p.text ++ "'"
  | .name text => "Name '" ++ text ++ "'"
  | .int text => "Int '" ++ text ++ "'"
  | .float text => "Float '" ++ text ++ "'"
  | .string text => "String '" ++ text ++ "'"
  | .blockString text => "BlockString '" ++ text ++ "'"
  | .ending => "<EOF>"

end Token

/-! ## Syntax errors

Why a text is not a document. The wording of every cause is `SyntaxError.message`. -/

inductive Expectation where
  | name
  | punctuator (p : Punctuator)
  | keyword (word : String)
  deriving Repr, DecidableEq

def Expectation.describe : Expectation → String
  | .name => "Name"
  | .punctuator p => "'" ++ p.text ++ "'"
  | .keyword word => "'" ++ word ++ "'"

/-- A `found` character is `none` at the end of the text. -/
inductive SyntaxError where
  | unexpectedCharacter (found : Char)
  | singleQuote
  | digitAfterZero (found : Char)
  | expectedDigit (found : Option Char)
  | unterminatedString
  | invalidEscape (shown : String)
  | invalidUnicodeEscape (shown : String)
  | expected (wanted : Expectation) (found : Token)
  | unexpected (found : Token)
  | describedShorthand
  | describedNonDefinition
  | variableInConstant (name : String)
  | reservedEnumValue (found : Token)
  | tooDeep
  deriving Repr, DecidableEq

namespace SyntaxError

private def hexDigit (n : Nat) : Char := if n < 10 then Char.ofNat (48 + n) else Char.ofNat (55 + n)

private def codePoint (n : Nat) : String :=
  let digits := [n / 0x100000, n / 0x10000, n / 0x1000, n / 0x100, n / 0x10, n].map (· % 16)
  String.ofList ((digits.take 2).dropWhile (· == 0) ++ digits.drop 2 |>.map hexDigit)

def describeChar : Option Char → String
  | none => "<EOF>"
  | some c =>
    if c = '"' then "'\"'"
    else if 0x20 ≤ c.toNat ∧ c.toNat < 0x7F then "'" ++ c.toString ++ "'"
    else "U+" ++ codePoint c.toNat

def describe : SyntaxError → String
  | unexpectedCharacter c => "Unexpected character: " ++ describeChar (some c) ++ "."
  | singleQuote =>
    "Unexpected single quote character ('), did you mean to use a double quote (\")?"
  | digitAfterZero c => "Invalid number, unexpected digit after 0: " ++ describeChar (some c) ++ "."
  | expectedDigit c => "Invalid number, expected digit but got: " ++ describeChar c ++ "."
  | unterminatedString => "Unterminated string."
  | invalidEscape shown => "Invalid character escape sequence: '" ++ shown ++ "'."
  | invalidUnicodeEscape shown => "Invalid Unicode escape sequence: '" ++ shown ++ "'."
  | expected wanted found => "Expected " ++ wanted.describe ++ ", found " ++ found.describe ++ "."
  | unexpected found => "Unexpected " ++ found.describe ++ "."
  | describedShorthand =>
    "Unexpected description, descriptions are not supported on shorthand queries."
  | describedNonDefinition =>
    "Unexpected description, only GraphQL definitions support descriptions."
  | variableInConstant name => "Unexpected variable '$" ++ name ++ "' in constant value."
  | reservedEnumValue found =>
    found.describe ++ " is reserved and cannot be used for an enum value."
  | tooDeep => "Document is nested too deeply. Parsing aborted."

def message (e : SyntaxError) : String := "Syntax Error: " ++ e.describe

end SyntaxError

end OperationDocuments

namespace OperationDocuments.BlockString

/-! ## Block strings

A block string may be indented with its surroundings: its value is what remains of its lines
after the common indentation and the blank lines at both ends are taken away. Written out, a
value gets its own lines between the quotes unless it is short and ends harmlessly. -/

open Text

def isIndent (c : Char) : Bool := c == ' ' || c == '\t'

private def isBlankLine (line : List Char) : Bool := line.all isIndent

/-- The least indentation of the lines that are not blank; `none` when all are. -/
def commonIndent (lines : List (List Char)) : Option Nat :=
  lines.foldl (fun least line =>
    if isBlankLine line then least
    else
      let width := (line.takeWhile isIndent).length
      some (match least with | none => width | some w => min w width)) none

private def dropBlankEnds (lines : List (List Char)) : List (List Char) :=
  ((lines.dropWhile isBlankLine).reverse.dropWhile isBlankLine).reverse

/-- The value of the text between the quotes. The first line takes no part in the indentation. -/
def dedent (raw : List Char) : List Char :=
  match lines raw with
  | [] => []
  | first :: more =>
    let indent := (commonIndent more).getD 0
    joinWith ['\n'] (dropBlankEnds (first :: more.map (·.drop indent)))

/-- Three quotes in a row become `by`; a longer run is read from the left. -/
def replaceTriples (replacement : List Char) : List Char → List Char
  | '"' :: '"' :: '"' :: rest => replacement ++ replaceTriples replacement rest
  | c :: rest => c :: replaceTriples replacement rest
  | [] => []

private def escapedTriple : List Char := ['\\', '"', '"', '"']

def print (value : List Char) : List Char :=
  let quotes := ['"', '"', '"']
  let escaped := replaceTriples escapedTriple value
  let parts := splitAt '\n' escaped
  let oneLine := parts.length == 1
  let openLine := !oneLine && (parts.drop 1).all fun part => part.head?.all isIndent
  let endsInTriple := escapedTriple.isSuffixOf escaped
  let closeLine := (value.getLast? == some '"' && !endsInTriple) || value.getLast? == some '\\'
  let spread := !oneLine || value.length > 70 || closeLine || openLine || endsInTriple
  let skipOpen := oneLine && value.head?.any isIndent
  let before := if (spread && !skipOpen) || openLine then ['\n'] else []
  let after := if spread || closeLine then ['\n'] else []
  quotes ++ before ++ escaped ++ after ++ quotes

end OperationDocuments.BlockString

namespace OperationDocuments

/-! ## Reading tokens

A text is cut into tokens from the left. A stretch that is no token ends the stream with the
error it causes; whoever walks the stream meets the error when stepping onto that stretch, and
not before. Only ASCII letters and digits form names and numbers. -/

/-- The tokens of a text, up to its end or to the first stretch that is no token. -/
inductive TokenStream where
  | ending
  | broken (e : SyntaxError)
  | next (t : Token) (rest : TokenStream)
  deriving Repr, Inhabited

/-- A token and the number of characters it covers beyond its first. -/
structure Lexeme where
  token : Token
  extra : Nat
  deriving Repr

namespace Lexeme

def isDigit (c : Char) : Bool := '0' ≤ c && c ≤ '9'

def isNameStart (c : Char) : Bool :=
  ('a' ≤ c && c ≤ 'z') || ('A' ≤ c && c ≤ 'Z') || c == '_'

def isNamePart (c : Char) : Bool := isNameStart c || isDigit c

def hexValue? (c : Char) : Option Nat :=
  if isDigit c then some (c.toNat - '0'.toNat)
  else if 'a' ≤ c ∧ c ≤ 'f' then some (c.toNat - 'a'.toNat + 10)
  else if 'A' ≤ c ∧ c ≤ 'F' then some (c.toNat - 'A'.toNat + 10)
  else none

def digits (s : List Char) : Except SyntaxError (List Char × List Char) :=
  if s.head?.any isDigit then .ok (s.takeWhile isDigit, s.dropWhile isDigit)
  else .error (.expectedDigit s.head?)

private def wholePart : List Char → Except SyntaxError (List Char × List Char)
  | '0' :: rest =>
    match rest with
    | c :: _ => if isDigit c then .error (.digitAfterZero c) else .ok (['0'], rest)
    | [] => .ok (['0'], [])
  | s => digits s

private def fractionPart : List Char → Except SyntaxError (List Char × List Char)
  | '.' :: rest => do
    let (ds, rest) ← digits rest
    return ('.' :: ds, rest)
  | s => .ok ([], s)

private def exponentPart : List Char → Except SyntaxError (List Char × List Char)
  | e :: rest =>
    if e = 'e' ∨ e = 'E' then do
      let sign := rest.take 1 |>.filter fun c => c == '+' || c == '-'
      let (ds, rest) ← digits (rest.drop sign.length)
      return (e :: sign ++ ds, rest)
    else .ok ([], e :: rest)
  | [] => .ok ([], [])

/-- A number keeps its spelling, and no name or second point may touch its end. -/
def number (s : List Char) : Except SyntaxError Lexeme := do
  let sign := s.take 1 |>.filter (· == '-')
  let (whole, rest) ← wholePart (s.drop sign.length)
  let (fraction, rest) ← fractionPart rest
  let (exponent, rest) ← exponentPart rest
  if rest.head?.any fun c => c == '.' || isNameStart c then throw (.expectedDigit rest.head?)
  let spelling := sign ++ whole ++ fraction ++ exponent
  let token := if fraction.isEmpty && exponent.isEmpty then Token.int else Token.float
  return ⟨token (String.ofList spelling), spelling.length - 1⟩

private def isScalar (n : Nat) : Bool := n < 0xD800 || (0xE000 ≤ n && n < 0x110000)

private def hexFour? : List Char → Option Nat
  | a :: b :: c :: d :: _ => do
    let ds ← [a, b, c, d].mapM hexValue?
    return ds.foldl (fun n d => 16 * n + d) 0
  | _ => none

/-- A four digit escape, read from behind its `\u`. Two escapes that form a surrogate pair are
one character. The answer counts the characters behind the backslash. -/
private def shortEscape (s : List Char) : Except SyntaxError (Char × Nat) :=
  let refused := .error (.invalidUnicodeEscape (String.ofList ('\\' :: 'u' :: s.take 4)))
  match hexFour? s with
  | none => refused
  | some n =>
    if isScalar n then .ok (Char.ofNat n, 5)
    else match s.drop 4 with
      | '\\' :: 'u' :: low =>
        match hexFour? low with
        | some m =>
          if n < 0xDC00 ∧ 0xDC00 ≤ m ∧ m < 0xE000 then
            .ok (Char.ofNat (0x10000 + (n - 0xD800) * 0x400 + (m - 0xDC00)), 11)
          else refused
        | none => refused
      | _ => refused

/-- A braced escape, read from behind its `\u{`; `seen` holds what was read, latest first. At
most nine characters are read. -/
private def bracedEscape (seen : List Char) (n : Nat) :
    List Char → Except SyntaxError (Char × Nat)
  | [] => refused seen
  | c :: rest =>
    if 9 ≤ seen.length then refused seen
    else if c = '}' then
      if seen ≠ [] ∧ isScalar n then .ok (Char.ofNat n, seen.length + 3) else refused (c :: seen)
    else match hexValue? c with
      | some d => bracedEscape (c :: seen) (16 * n + d) rest
      | none => refused (c :: seen)
where
  refused (seen : List Char) : Except SyntaxError (Char × Nat) :=
    .error (.invalidUnicodeEscape (String.ofList ('\\' :: 'u' :: '{' :: seen.reverse)))

def escape (s : List Char) : Except SyntaxError (Char × Nat) :=
  match s with
  | 'u' :: '{' :: rest => bracedEscape [] 0 rest
  | 'u' :: rest => shortEscape rest
  | '"' :: _ => .ok ('"', 1)
  | '\\' :: _ => .ok ('\\', 1)
  | '/' :: _ => .ok ('/', 1)
  | 'b' :: _ => .ok ('\x08', 1)
  | 'f' :: _ => .ok ('\x0c', 1)
  | 'n' :: _ => .ok ('\n', 1)
  | 'r' :: _ => .ok ('\r', 1)
  | 't' :: _ => .ok ('\t', 1)
  | _ => .error (.invalidEscape (String.ofList ('\\' :: s.take 1)))

/-- The rest of a string on one line; `value` is what was read of it, latest first, and `extra`
counts the characters. -/
def string (value : List Char) (extra : Nat) : List Char → Except SyntaxError Lexeme
  | [] => .error .unterminatedString
  | c :: rest =>
    if c = '"' then .ok ⟨.string (String.ofList value.reverse), extra + 1⟩
    else if c = '\n' ∨ c = '\r' then .error .unterminatedString
    else if c = '\\' then
      match escape rest with
      | .ok (d, width) => string (d :: value) (extra + 1 + width) (rest.drop width)
      | .error e => .error e
    else string (c :: value) (extra + 1) rest
termination_by s => s.length
decreasing_by all_goals simp [List.length_drop]; try omega

def blockString (raw : List Char) (extra : Nat) : List Char → Except SyntaxError Lexeme
  | '"' :: '"' :: '"' :: _ =>
    .ok ⟨.blockString (String.ofList (BlockString.dedent raw.reverse)), extra + 3⟩
  | '\\' :: '"' :: '"' :: '"' :: rest => blockString ('"' :: '"' :: '"' :: raw) (extra + 4) rest
  | c :: rest => blockString (c :: raw) (extra + 1) rest
  | [] => .error .unterminatedString

def read (c : Char) (rest : List Char) : Except SyntaxError Lexeme :=
  match Punctuator.ofChar? c with
  | some p => .ok ⟨.punctuator p, 0⟩
  | none =>
    if isNameStart c then
      let more := rest.takeWhile isNamePart
      .ok ⟨.name (String.ofList (c :: more)), more.length⟩
    else if isDigit c || c == '-' then number (c :: rest)
    else match c, rest with
      | '.', '.' :: '.' :: _ => .ok ⟨.punctuator .spread, 2⟩
      | '"', '"' :: '"' :: body => blockString [] 2 body
      | '"', body => string [] 0 body
      | '\'', _ => .error .singleQuote
      | _, _ => .error (.unexpectedCharacter c)

end Lexeme

namespace TokenStream

private def isIgnored (c : Char) : Bool :=
  c == ' ' || c == '\t' || c == ',' || c == '\uFEFF' || c == '\n' || c == '\r'

def skipIgnored (comment : Bool) : List Char → List Char
  | [] => []
  | c :: rest =>
    if comment then skipIgnored (c != '\n' && c != '\r') rest
    else if isIgnored c then skipIgnored false rest
    else if c = '#' then skipIgnored true rest
    else c :: rest

theorem length_skipIgnored_le (comment : Bool) (s : List Char) :
    (skipIgnored comment s).length ≤ s.length := by
  induction s generalizing comment with
  | nil => simp [skipIgnored]
  | cons c rest ih =>
    unfold skipIgnored
    repeat' split
    all_goals first
      | exact Nat.le_succ_of_le (ih _)
      | simp

def ofChars (s : List Char) : TokenStream :=
  match _h : skipIgnored false s with
  | [] => .ending
  | c :: rest =>
    match Lexeme.read c rest with
    | .error e => .broken e
    | .ok lexeme => .next lexeme.token (ofChars (rest.drop lexeme.extra))
termination_by s.length
decreasing_by
  have := length_skipIgnored_le false s
  simp only [_h, List.length_cons] at this
  simp only [List.length_drop]
  omega

def length : TokenStream → Nat
  | next _ rest => rest.length + 1
  | _ => 0

end TokenStream

end OperationDocuments
