import OperationDocuments.Document.Lexer
import OperationDocuments.Generated.Lexer

/-! # The text of a module

How a text is written as a literal or a comment of a module, the templates that modules are made
of, and what such a module is found to hold when it is read. -/
namespace OperationDocuments.Generated

/-! ## Texts inside a Python module

Three places of a module take a text: a string literal, a docstring between three double quotes,
and a comment on one line. -/

/-- Backslashes and runs of three quotes are escaped, and a blank keeps a last quote away from
the closing ones. -/
def docstring (s : List Char) : List Char :=
  let doubled := s.flatMap fun c => if c = '\\' then ['\\', '\\'] else [c]
  let escaped := BlockString.replaceTriples ['\\', '"', '\\', '"', '\\', '"'] doubled
  if escaped.getLast? == some '"' then escaped ++ [' '] else escaped

def comment (s : List Char) : List Char := Text.squeeze s

def hasTriple : List Char → Bool
  | '"' :: '"' :: '"' :: _ => true
  | _ :: rest => hasTriple rest
  | [] => false

/-- A text of several lines that needs no escape is written between three quotes, its first line
below the opening ones; every other text is quoted on one line. -/
def stringLiteral (s : List Char) : List Char :=
  if s.contains '\n' && !hasTriple s && !s.contains '\\' && s.getLast? != some '"' then
    ['"', '"', '"', '\\', '\n'] ++ s ++ ['"', '"', '"']
  else Text.literal s

/-! ## Templates

A template is text with insertions between double braces: a variable, and perhaps the way in which
it is written there. The braces of anything else stay in the text. -/

inductive Variable where
  | source
  | sourceName
  deriving Repr, DecidableEq

inductive Style where
  | quoted
  | literal
  | comment
  | docstring
  deriving Repr, DecidableEq

inductive Segment where
  | plain (text : List Char)
  | insertion (v : Variable) (styles : List Style)
  deriving Repr, DecidableEq

def Style.write (style : Style) (text : List Char) : List Char :=
  match style with
  | .quoted => Text.literal text
  | .literal => stringLiteral text
  | .comment => Generated.comment text
  | .docstring => Generated.docstring text

def Variable.ofName? : String → Option Variable
  | "source" => some .source
  | "source_name" => some .sourceName
  | _ => none

def Style.ofName? : String → Option Style
  | "repr" => some .quoted
  | "py_string" => some .literal
  | "safe_comment" => some .comment
  | "safe_docstring" => some .docstring
  | _ => none

def insertion? (inner : List Char) : Option Segment :=
  match (Text.splitAt '|' inner).map fun part => String.ofList (Text.trim part) with
  | name :: styles => do
    let v ← Variable.ofName? name
    return .insertion v (← styles.mapM Style.ofName?)
  | [] => none

def splitAtClose : List Char → Option (List Char × List Char)
  | '}' :: '}' :: rest => some ([], rest)
  | c :: rest => (splitAtClose rest).map fun (inner, rest) => (c :: inner, rest)
  | [] => none

private theorem length_splitAtClose_lt {s inner rest : List Char}
    (h : splitAtClose s = some (inner, rest)) : rest.length < s.length := by
  fun_induction splitAtClose s generalizing inner rest with
  | case1 rest' =>
    obtain ⟨_, rfl⟩ := Prod.mk.inj (Option.some.inj h)
    simp only [List.length_cons]
    omega
  | case2 c s _ ih =>
    obtain ⟨⟨inner', rest'⟩, hs, he⟩ := Option.map_eq_some_iff.mp h
    obtain ⟨_, rfl⟩ := Prod.mk.inj he
    have := ih hs
    simp only [List.length_cons]
    omega
  | case3 => simp at h

private def addChar (c : Char) : List Segment → List Segment
  | .plain text :: more => .plain (c :: text) :: more
  | segments => .plain [c] :: segments

def segments (s : List Char) : List Segment :=
  match s with
  | [] => []
  | '{' :: '{' :: rest =>
    match _h : splitAtClose rest with
    | some (inner, after) =>
      match insertion? inner with
      | some segment => segment :: segments after
      | none => addChar '{' (segments ('{' :: rest))
    | none => addChar '{' (segments ('{' :: rest))
  | c :: rest => addChar c (segments rest)
termination_by s.length
decreasing_by
  · have := length_splitAtClose_lt _h
    simp only [List.length_cons]
    omega
  all_goals simp

/-- A template filled in. Line ends of the template become line feeds; inserted texts stay as they
are. -/
def fill (template : String) (value : Variable → String) : String :=
  let filled := (segments (Text.unifyNewlines template.toList)).flatMap fun segment =>
    match segment with
    | .plain text => text
    | .insertion v styles => styles.foldl (fun text style => style.write text) (value v).toList
  String.ofList filled

/-! ## Pieces of a module

A module is cut into string literals with their values, comments, and the characters of all the
rest. A literal ends at the first of its quotes that is not escaped; one within three quotes may
go over several lines. A comment ends with its line. Literals with letters in front of them are
not read, and neither are escapes that give the name of a character. -/

inductive Piece where
  | code (c : Char)
  | literal (value : List Char)
  | comment (text : List Char)
  deriving Repr, DecidableEq

namespace Escape

def letterValue? : Char → Option Char
  | '\\' => some '\\'
  | '\'' => some '\''
  | '"' => some '"'
  | 'a' => some '\x07'
  | 'b' => some '\x08'
  | 'f' => some '\x0c'
  | 'n' => some '\n'
  | 'r' => some '\r'
  | 't' => some '\t'
  | 'v' => some '\x0b'
  | _ => none

def isOctalDigit (c : Char) : Bool := '0' ≤ c && c ≤ '7'

def charOf? (n : Nat) : Option Char :=
  if n.isValidChar then some (Char.ofNat n) else none

/-- What an escape stands for, read from behind its backslash, and the text behind it. A line end
that is escaped stands for nothing, and a backslash that begins no escape for itself. -/
def read (s : List Char) : Option (List Char × List Char) :=
  match s with
  | [] => none
  | letter :: rest =>
    if letter = '\n' then some ([], rest)
    else match letterValue? letter with
      | some c => some ([c], rest)
      | none =>
        match digitsOf letter with
        | some width =>
          let digits := rest.take width
          if digits.length = width ∧ digits.all isHexDigit then
            (charOf? (hexValue digits)).map fun c => ([c], rest.drop width)
          else none
        | none =>
          if isOctalDigit letter then
            let digits := (s.take 3).takeWhile isOctalDigit
            let n := digits.foldl (fun n c => 8 * n + (c.toNat - '0'.toNat)) 0
            (charOf? n).map fun c => ([c], rest.drop (digits.length - 1))
          else if letter = 'N' then none
          else some (['\\', letter], rest)

theorem length_read_lt {s value behind : List Char} (h : read s = some (value, behind)) :
    behind.length < s.length := by
  have dropped : ∀ (n : Nat) (letter : Char) (rest : List Char),
      (rest.drop n).length < (letter :: rest).length := by
    intro n letter rest
    simp only [List.length_drop, List.length_cons]
    omega
  cases s with
  | nil => cases h
  | cons letter rest =>
    simp only [read] at h
    split at h
    · cases h
      exact dropped 0 letter _
    · split at h
      · cases h
        exact dropped 0 letter _
      · split at h
        · split at h
          · obtain ⟨c, -, h⟩ := Option.map_eq_some_iff.mp h
            cases h
            exact dropped _ letter rest
          · cases h
        · split at h
          · obtain ⟨c, -, h⟩ := Option.map_eq_some_iff.mp h
            cases h
            exact dropped _ letter rest
          · split at h
            · cases h
            · cases h
              exact dropped 0 letter _

end Escape

def readBody (quote : Char) (isTriple : Bool) (s : List Char) : Option (List Char × List Char) :=
  match s with
  | [] => none
  | c :: rest =>
    if c = '\\' then
      match _h : Escape.read rest with
      | none => none
      | some (value, behind) =>
        (readBody quote isTriple behind).map fun (more, behind) => (value ++ more, behind)
    else if c = quote ∧ (!isTriple || [quote, quote].isPrefixOf rest) then
      some ([], rest.drop (if isTriple then 2 else 0))
    else if c = '\n' ∧ !isTriple then none
    else (readBody quote isTriple rest).map fun (more, behind) => (c :: more, behind)
termination_by s.length
decreasing_by
  · have := Escape.length_read_lt _h
    simp only [List.length_cons]
    omega
  · simp

theorem length_readBody_lt {quote : Char} {isTriple : Bool} {s value behind : List Char}
    (h : readBody quote isTriple s = some (value, behind)) : behind.length < s.length := by
  fun_induction readBody quote isTriple s generalizing value behind with
  | case1 => cases h
  | case2 rest escaped => simp at h
  | case3 rest v after escaped ih =>
    obtain ⟨⟨more, last⟩, found, same⟩ := Option.map_eq_some_iff.mp h
    cases same
    have := ih found
    have := Escape.length_read_lt escaped
    simp only [List.length_cons]
    omega
  | case4 c rest _ _ =>
    cases h
    simp only [List.length_drop, List.length_cons]
    omega
  | case5 => cases h
  | case6 c rest _ _ _ ih =>
    obtain ⟨⟨more, last⟩, found, same⟩ := Option.map_eq_some_iff.mp h
    cases same
    have := ih found
    simp only [List.length_cons]
    omega

def readLiteral (quote : Char) (s : List Char) : Option (List Char × List Char) :=
  if [quote, quote].isPrefixOf s then readBody quote true (s.drop 2) else readBody quote false s

theorem length_readLiteral_lt {quote : Char} {s value behind : List Char}
    (h : readLiteral quote s = some (value, behind)) : behind.length < s.length := by
  unfold readLiteral at h
  split at h
  · have := length_readBody_lt h
    simp only [List.length_drop] at this
    omega
  · exact length_readBody_lt h

/-- The pieces of a text. A quote directly behind a name belongs to no literal that is read. -/
def pieces (isBehindName : Bool) (s : List Char) : Option (List Piece) :=
  match s with
  | [] => some []
  | c :: rest =>
    if c = '"' ∨ c = '\'' then
      if isBehindName then none
      else match _h : readLiteral c rest with
        | none => none
        | some (value, behind) => (pieces false behind).map (.literal value :: ·)
    else if c = '#' then
      (pieces false (rest.dropWhile (· != '\n'))).map
        (.comment (rest.takeWhile (· != '\n')) :: ·)
    else (pieces (Number.isNameLike c) rest).map (.code c :: ·)
termination_by s.length
decreasing_by
  · have := length_readLiteral_lt _h
    simp only [List.length_cons]
    omega
  · have := (List.dropWhile_sublist (fun x => x != '\n') (l := rest)).length_le
    simp only [List.length_cons]
    omega
  · simp

def modulePieces (text : String) : Option (List Piece) :=
  pieces false (Text.unifyNewlines text.toList)

end OperationDocuments.Generated
