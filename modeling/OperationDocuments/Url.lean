import OperationDocuments.Domain.Encode
import OperationDocuments.Text.Encoding

/-! # URLs

A URL is taken apart, checked and put into its normal form. -/
namespace OperationDocuments.Url

/-! ## Percent escapes

A character that may not stand in some part of a URL is written as its UTF-8 bytes, each as a
percent sign and two hexadecimal digits. A percent sign itself may stand anywhere, so that a text
with escapes stays as it is. -/

private def isUnreserved (c : Char) : Bool :=
  c.isAlphanum || c == '-' || c == '.' || c == '_' || c == '~'

private def allBut (excluded : String) (c : Char) : Bool :=
  ' ' ≤ c && c ≤ '~' && !excluded.toList.contains c

def fragmentSafe : Char → Bool := allBut " \"<>\x60"

def querySafe : Char → Bool := allBut " \"#<>"

def pathSafe : Char → Bool := allBut " \"#<>?\x60\x7b\x7d"

def userSafe : Char → Bool := allBut " \"#<>?\x60\x7b\x7d/;=@[\\]^|"

def hostSafe (c : Char) : Bool :=
  isUnreserved c || "!$&'()*+,;=\"\x60\x7b\x7d%|\\".toList.contains c

def escapeByte (b : UInt8) : List Char :=
  '%' :: (Text.hexDigits 2 b.toNat).map Char.toUpper

def escape (safe : Char → Bool) (s : List Char) : List Char :=
  s.flatMap fun c => if safe c then [c] else (Utf8.encode [c]).flatMap escapeByte

private def hexValue? (c : Char) : Option Nat :=
  if '0' ≤ c ∧ c ≤ '9' then some (c.toNat - 48)
  else if 'a' ≤ c ∧ c ≤ 'f' then some (c.toNat - 87)
  else if 'A' ≤ c ∧ c ≤ 'F' then some (c.toNat - 55)
  else none

def unescapedBytes (s : List Char) : List UInt8 :=
  match s with
  | [] => []
  | '%' :: a :: b :: rest =>
    match hexValue? a, hexValue? b with
    | some high, some low => UInt8.ofNat (16 * high + low) :: unescapedBytes rest
    | _, _ => Utf8.encode ['%'] ++ unescapedBytes (a :: b :: rest)
  | c :: rest => Utf8.encode [c] ++ unescapedBytes rest
termination_by s.length

def unescape (s : List Char) : List Char := Utf8.decodeLossy (unescapedBytes s)

/-! ## Network addresses

Addresses of four decimal numbers between dots, and those of eight hexadecimal numbers between
colons, of which a run of zeros may be left out once. -/

private def isDigit (c : Char) : Bool := '0' ≤ c && c ≤ '9'

private def isHexDigit (c : Char) : Bool :=
  isDigit c || ('a' ≤ c && c ≤ 'f') || ('A' ≤ c && c ≤ 'F')

private def isOctet (s : List Char) : Bool :=
  !s.isEmpty && s.all isDigit && s.length ≤ 3 && (s == ['0'] || s.head? != some '0')
    && s.foldl (fun n c => 10 * n + (c.toNat - 48)) 0 ≤ 255

def isIPv4 (s : List Char) : Bool :=
  let parts := Text.splitAt '.' s
  parts.length == 4 && parts.all isOctet

/-- One character more of a text of numbers with some character between each two: the ways to have
read it so far, each as the separators passed and whether a number has begun. -/
private def numbersStep (ways : List (Nat × Bool)) (c : Char) : List (Nat × Bool) :=
  (ways.flatMap fun (passed, begun) =>
    (if isDigit c then [(passed, true)] else [])
      ++ (if begun && passed < 3 then [(passed + 1, false)] else [])).eraseDups

/-- Whether a text is to be an address of four numbers: it can be read as four numbers with one
character, whichever it is, between each two. -/
def looksLikeIPv4 (s : List Char) : Bool := (s.foldl numbersStep [(0, false)]).contains (3, true)

private def isHextet (s : List Char) : Bool := !s.isEmpty && s.all isHexDigit && s.length ≤ 4

private def hextets? (s : List Char) : Option (List (List Char)) :=
  let parts := Text.splitAt ':' s
  let last := parts.getLast?.getD []
  if parts.length < 3 then none
  else if last.contains '.' then
    if isIPv4 last then some (parts.dropLast ++ [['0'], ['0']]) else none
  else some parts

/-- The parts around the gap, which is an empty part inside; at an end it takes one more. -/
private def aroundGap (parts : List (List Char)) (gap : Nat) : Bool :=
  let before := parts.take gap
  let after := parts.drop (gap + 1)
  let before := if before == [[]] then [] else before
  let after := if after == [[]] then [] else after
  (before ++ after).all isHextet && before.length + after.length < 8

private def isUnscoped (s : List Char) : Bool :=
  match hextets? s with
  | none => false
  | some parts =>
    let inner := (List.range parts.length).filter fun i =>
      0 < i && i + 1 < parts.length && parts[i]? == some []
    match inner with
    | [] => parts.length == 8 && parts.all isHextet
    | [gap] => parts.length ≤ 9 && aroundGap parts gap
    | _ => false

/-- An address may name its scope behind a percent sign. -/
def isIPv6 (s : List Char) : Bool :=
  let parts := Text.splitAt '%' s
  match parts with
  | [address] => isUnscoped address
  | [address, scope] => isUnscoped address && !scope.isEmpty
  | _ => false

end OperationDocuments.Url

namespace OperationDocuments

/-! ## Parts of a URL

A URL in its normal form: every part in ASCII, its escapes included. The query and the fragment
may be absent or empty, which are two different things. -/

structure Url where
  scheme : String := ""
  userinfo : String := ""
  host : String := ""
  port : Option Int := none
  path : String := ""
  query : Option String := none
  fragment : Option String := none
  deriving Repr, DecidableEq

inductive UrlError where
  | tooLong
  | partTooLong (part : String)
  | control (c : Char) (position : Nat)
  | address4 (host : String)
  | address6 (host : String)
  | domain (host : String)
  | port (spelled : String)
  | pathWithoutSlash
  | leadingSlashes
  | leadingColon
  deriving Repr, DecidableEq

namespace UrlError

private def shown (s : String) : String := String.ofList (Text.literal s.toList)

def message : UrlError → String
  | tooLong => "URL too long"
  | partTooLong part => s!"URL component '{part}' too long"
  | control c position =>
    let spelled := shown c.toString
    s!"Invalid non-printable ASCII character in URL, {spelled} at position {position}."
  | address4 host => s!"Invalid IPv4 address: {shown host}"
  | address6 host => s!"Invalid IPv6 address: {shown host}"
  | domain host => s!"Invalid IDNA hostname: {shown host}"
  | port spelled => s!"Invalid port: {shown spelled}"
  | pathWithoutSlash => "For absolute URLs, path must be empty or begin with '/'"
  | leadingSlashes => "Relative URLs cannot have a path starting with '//'"
  | leadingColon => "Relative URLs cannot have a path starting with ':'"

end UrlError

namespace Url

/-- The host as it stands before a path; addresses with colons stand between brackets. -/
def bracketedHost (u : Url) : String :=
  if u.host.toList.contains ':' then "[" ++ u.host ++ "]" else u.host

def authority (u : Url) : String :=
  (if u.userinfo = "" then "" else u.userinfo ++ "@") ++ u.bracketedHost
    ++ (match u.port with
      | none => ""
      | some n => ":" ++ toString n)

def target (u : Url) : String :=
  u.path ++ (match u.query with
    | none => ""
    | some q => "?" ++ q)

def text (u : Url) : String :=
  (if u.scheme = "" then "" else u.scheme ++ ":")
    ++ (if u.authority = "" then "" else "//" ++ u.authority)
    ++ u.target
    ++ (match u.fragment with
      | none => ""
      | some f => "#" ++ f)

def isAbsolute (u : Url) : Bool := u.scheme != "" && u.host != ""

def credentials (u : Url) : List Char × List Char :=
  let name := u.userinfo.toList.takeWhile (· != ':')
  (unescape name, unescape (u.userinfo.toList.drop (name.length + 1)))

end Url

end OperationDocuments

namespace OperationDocuments.Url

/-! ## Reading URLs

A text is cut at the marks that separate the parts of a URL, and every part is brought into its
normal form: scheme and host in small letters, no port that goes without saying, no steps in the
path, and an escape for whatever may not stand there. -/

structure Parts where
  scheme : List Char
  userinfo : List Char
  host : List Char
  port : List Char
  path : List Char
  query : Option (List Char)
  fragment : Option (List Char)

private def cutAt (mark : Char) (s : List Char) : List Char × Option (List Char) :=
  let before := s.takeWhile (· != mark)
  (before, if before.length = s.length then none else some (s.drop (before.length + 1)))

private def cutScheme (s : List Char) : List Char × List Char :=
  let run := s.takeWhile fun c => c.isAlphanum || c == '+' || c == '.' || c == '-'
  let behind := s.drop run.length
  if (run.isEmpty || (run.head?.map Char.isAlpha).getD false) && behind.head? == some ':' then
    (run, behind.drop 1)
  else ([], s)

private def cutAtLast (mark : Char) (s : List Char) : List Char × List Char :=
  let last := (s.reverse.takeWhile (· != mark)).reverse
  (s.take (s.length - last.length - 1), last)

/-- The host at the front of a text, and what is behind it: an address in brackets, or all up to
a colon. -/
private def cutHost (s : List Char) : List Char × List Char :=
  if s.head? == some '[' && s.contains ']' then
    let (inner, behind) := cutAtLast ']' s
    (inner ++ [']'], behind)
  else
    let host := s.takeWhile (· != ':')
    (host, s.drop host.length)

def cut (s : List Char) : Parts :=
  let (scheme, rest) := cutScheme s
  let (rest, fragment) := cutAt '#' rest
  let (rest, query) := cutAt '?' rest
  let (authority, path) :=
    match rest with
    | '/' :: '/' :: more => (more.takeWhile (· != '/'), more.dropWhile (· != '/'))
    | path => ([], path)
  let (userinfo, place) := cutAtLast '@' authority
  let (host, behind) := cutHost place
  let port := if behind.head? == some ':' then behind.drop 1 else behind
  ⟨scheme, userinfo, host, port, path, query, fragment⟩

/-- The normal form of a host. Names beyond ASCII are encoded. -/
def normalHost (host : List Char) : Except UrlError (List Char) :=
  let refuse (error : String → UrlError) : Except UrlError (List Char) :=
    .error (error (String.ofList host))
  if host.isEmpty then .ok []
  else if looksLikeIPv4 host then if isIPv4 host then .ok host else refuse .address4
  else if host.head? == some '[' && host.getLast? == some ']' then
    let inner := (host.drop 1).dropLast
    if isIPv6 inner then .ok inner else refuse .address6
  else if host.all fun c => c.toNat < 0x80 then .ok (escape hostSafe (host.map Char.toLower))
  else match Domain.encode? host with
    | some encoded => .ok encoded
    | none => refuse .domain

def impliedPort? (scheme : String) : Option Int :=
  match scheme with
  | "ftp" => some 21
  | "http" | "ws" => some 80
  | "https" | "wss" => some 443
  | _ => none

def normalPort (scheme : String) (spelled : List Char) : Except UrlError (Option Int) :=
  if spelled.isEmpty then .ok none
  else match Text.readInteger? spelled with
    | none => .error (.port (String.ofList spelled))
    | some n => .ok (if impliedPort? scheme = some n then none else some n)

/-- A path without the steps `.` and `..` in it. A step up takes away the part before it, though not
the empty one before the first slash. -/
def withoutSteps (path : List Char) : List Char :=
  let parts := Text.splitAt '/' path
  let kept := parts.foldl (fun kept part =>
    if part == ['.'] then kept
    else if part == ['.', '.'] then if kept == [[]] then kept else kept.drop 1
    else part :: kept) []
  Text.joinWith ['/'] kept.reverse

private def checkPath (path : List Char) (hasScheme hasAuthority : Bool) : Except UrlError Unit :=
  if hasAuthority then
    if path.isEmpty || path.head? == some '/' then .ok () else .error .pathWithoutSlash
  else if hasScheme then .ok ()
  else match path with
    | '/' :: '/' :: _ => .error .leadingSlashes
    | ':' :: _ => .error .leadingColon
    | _ => .ok ()

def maxLength : Nat := 65536

private def isControl (c : Char) : Bool := c.toNat < 0x20 || c.toNat = 0x7F

/-- The URL that a text spells. -/
def parse (s : String) : Except UrlError Url := do
  let chars := s.toList
  if maxLength < chars.length then throw .tooLong
  if let some c := chars.find? isControl then throw (.control c (chars.idxOf c))
  let parts := cut chars
  let quoted (safe : Char → Bool) (part : List Char) := String.ofList (escape safe part)
  let userinfo := quoted userSafe parts.userinfo
  let host ← normalHost parts.host
  let port ← normalPort (String.ofList parts.scheme) parts.port
  let hasScheme := !parts.scheme.isEmpty
  let hasAuthority := userinfo != "" || !host.isEmpty || port.isSome
  checkPath parts.path hasScheme hasAuthority
  let path := if hasScheme || hasAuthority then withoutSteps parts.path else parts.path
  return {
    scheme := String.ofList (parts.scheme.map Char.toLower)
    userinfo := userinfo
    host := String.ofList host
    port := port
    path := quoted pathSafe path
    query := parts.query.map (quoted querySafe)
    fragment := parts.fragment.map (quoted fragmentSafe) }

/-- The URL of a request to a place: one that names no host is a path from the root, and keeps its
query alone. -/
def forRequest (s : String) : Except UrlError Url := do
  let u ← parse s
  if u.isAbsolute then return u
  let path := '/' :: u.path.toList.dropWhile (· == '/')
  if maxLength < path.length then throw (.partTooLong "path")
  if maxLength < (u.query.getD "").length then throw (.partTooLong "query")
  return { path := String.ofList path, query := u.query }

end OperationDocuments.Url
