import OperationDocuments.Json.Printer
import OperationDocuments.Url

/-! # Requests, responses and cookies

The messages between a client and a server, and the cookies that servers ask a client to keep. -/
namespace OperationDocuments.Http

/-! ## Requests and responses

What passes between an endpoint and those who send operations to it. -/

abbrev Headers := Assoc String String

/-- The headers as they are received: names count in small letters, and the values given under
one name form a list. -/
def Headers.fields (headers : Headers) : Assoc String String :=
  headers.foldl (fun done header =>
    let name := header.1.toLower
    let value := match Assoc.find? done name with
      | some before => before ++ ", " ++ header.2
      | none => header.2
    Assoc.insert done name value) []

def Headers.areAscii (headers : Headers) : Bool :=
  headers.all fun header => (header.1 ++ header.2).toList.all fun c => c.toNat < 0x80

structure Request where
  url : Url
  headers : Headers
  body : Json
  deriving Repr

structure Response where
  status : Nat
  headers : Headers
  body : List UInt8
  deriving Repr

inductive FaultKind where
  | connect
  | connectTimeout
  | readTimeout
  | protocol
  | decoding
  deriving Repr, DecidableEq

inductive Reply where
  | response (r : Response)
  | fault (kind : FaultKind) (text : String)
  deriving Repr

def Request.method : String := "POST"

def authorization? (u : Url) : Option (String × String) :=
  let (name, password) := u.credentials
  if name.isEmpty && password.isEmpty then none
  else
    let encoded := Base64.encode (Utf8.encode (name ++ ':' :: password))
    some ("Authorization", "Basic " ++ String.ofList encoded)

def Headers.replace (headers : Headers) (header : String × String) : Headers :=
  headers.filter (fun other => other.1.toLower != header.1.toLower) ++ [header]

/-- A request with headers; what the URL makes known replaces what a header says. -/
def Request.build (u : Url) (headers : Headers) (body : Json) : Request :=
  ⟨u, (authorization? u).elim headers headers.replace, body⟩

def Response.header? (r : Response) (name : String) : Option String :=
  Assoc.find? r.headers.fields name

def reasons : List (Nat × String) :=
  [(100, "Continue"), (101, "Switching Protocols"), (102, "Processing"), (103, "Early Hints"),
   (200, "OK"), (201, "Created"), (202, "Accepted"), (203, "Non-Authoritative Information"),
   (204, "No Content"), (205, "Reset Content"), (206, "Partial Content"), (207, "Multi-Status"),
   (208, "Already Reported"), (226, "IM Used"),
   (300, "Multiple Choices"), (301, "Moved Permanently"), (302, "Found"), (303, "See Other"),
   (304, "Not Modified"), (305, "Use Proxy"), (307, "Temporary Redirect"),
   (308, "Permanent Redirect"),
   (400, "Bad Request"), (401, "Unauthorized"), (402, "Payment Required"), (403, "Forbidden"),
   (404, "Not Found"), (405, "Method Not Allowed"), (406, "Not Acceptable"),
   (407, "Proxy Authentication Required"), (408, "Request Timeout"), (409, "Conflict"),
   (410, "Gone"), (411, "Length Required"), (412, "Precondition Failed"),
   (413, "Request Entity Too Large"), (414, "Request-URI Too Long"),
   (415, "Unsupported Media Type"), (416, "Requested Range Not Satisfiable"),
   (417, "Expectation Failed"), (418, "I'm a teapot"), (421, "Misdirected Request"),
   (422, "Unprocessable Entity"), (423, "Locked"), (424, "Failed Dependency"),
   (425, "Too Early"), (426, "Upgrade Required"), (428, "Precondition Required"),
   (429, "Too Many Requests"), (431, "Request Header Fields Too Large"),
   (451, "Unavailable For Legal Reasons"),
   (500, "Internal Server Error"), (501, "Not Implemented"), (502, "Bad Gateway"),
   (503, "Service Unavailable"), (504, "Gateway Timeout"), (505, "HTTP Version Not Supported"),
   (506, "Variant Also Negotiates"), (507, "Insufficient Storage"), (508, "Loop Detected"),
   (510, "Not Extended"), (511, "Network Authentication Required")]

def reason (status : Nat) : String := (reasons.lookup status).getD ""

def isSuccess (status : Nat) : Bool := status / 100 == 2

private def statusClass (status : Nat) : String :=
  match status / 100 with
  | 1 => "Informational response"
  | 3 => "Redirect response"
  | 4 => "Client error"
  | 5 => "Server error"
  | _ => "Invalid status code"

/-- The place a response sends its receiver to, if it is a redirection that names one. -/
def Response.redirect? (r : Response) : Option String :=
  if [301, 302, 303, 307, 308].contains r.status then r.header? "location" else none

private def guide : String := "developer.mozilla.org/en-US/docs/Web/HTTP/Status"

def describeStatus (url : String) (status : Nat) (redirect : Option String) : String :=
  let redirected := match redirect with
    | none => ""
    | some location => s!"Redirect location: '{location}'\n"
  s!"{statusClass status} '{status} {reason status}' for url '{url}'\n{redirected}"
    ++ "For more information check: https://" ++ guide ++ "/" ++ toString status

/-! ## Dates in headers

A date is a day, a month and a year, perhaps behind the name of the day and in front of a time and a
time zone. It counts in seconds since the beginning of 1970. -/

private def isDigit (c : Char) : Bool := '0' ≤ c && c ≤ '9'

private def numberOf (s : List Char) : Nat := s.foldl (fun n c => 10 * n + (c.toNat - 48)) 0

private def lower (s : List Char) : String := String.ofList (s.map Char.toLower)

def dayNames : List String := ["sun", "mon", "tue", "wed", "thu", "fri", "sat"]

def monthNames : List String :=
  ["jan", "feb", "mar", "apr", "may", "jun", "jul", "aug", "sep", "oct", "nov", "dec"]

private def isLeapYear (year : Nat) : Bool :=
  year % 4 = 0 && (year % 100 ≠ 0 || year % 400 = 0)

private def daysBeforeYear (year : Nat) : Nat :=
  365 * (year - 1) + (year - 1) / 4 - (year - 1) / 100 + (year - 1) / 400

private def daysBeforeMonth (year month : Nat) : Nat :=
  let days := [0, 31, 59, 90, 120, 151, 181, 212, 243, 273, 304, 334].getD (month - 1) 0
  if 2 < month && isLeapYear year then days + 1 else days

/-- The days from the first of 1970 to a day, which may lie beyond the end of its month. -/
private def dayNumber (year month day : Nat) : Int :=
  (daysBeforeYear year + daysBeforeMonth year month + day : Nat) - (daysBeforeYear 1970 + 1 : Nat)

private def yearOf (seconds : Int) : Nat :=
  let days := seconds / 86400
  let guess := (1970 + days / 366).toNat
  (((List.range 4).map (guess + ·)).filter fun year => dayNumber year 1 1 ≤ days).getLast?.getD guess

/-- The full year that a short one stands for: the one that is nearest to this year. -/
private def fullYear (current year : Nat) : Nat :=
  if 1000 ≤ year then year
  else
    let century := current - current % 100
    let year := century + year
    if current + 50 < year then year - 100
    else if year + 50 < current then year + 100
    else year

private def zoneOffset? (zone : List Char) : Option Int :=
  let (sign, digits) : Int × List Char := match zone with
    | '-' :: rest => (-1, rest)
    | '+' :: rest => (1, rest)
    | rest => (1, rest)
  if ["gmt", "utc", "ut", "z"].contains (lower zone) then some 0
  else if digits.isEmpty || !digits.all isDigit then none
  else
    let hours := if digits.length ≤ 2 then digits else digits.take (digits.length - 2)
    let minutes := digits.drop hours.length
    some (sign * (3600 * numberOf hours + 60 * numberOf minutes : Nat))

private def skipBlanks (s : List Char) : List Char := s.dropWhile Text.isBlank

private def withoutDayName (s : List Char) : List Char :=
  let s := skipBlanks s
  if dayNames.contains (lower (s.take 3)) then
    let rest := (s.drop 3).dropWhile Char.isAlpha
    skipBlanks (if rest.head? == some ',' then rest.drop 1 else rest)
  else s

private def separator? (s : List Char) : Option (List Char) :=
  match s with
  | '-' :: rest | '/' :: rest => some rest
  | c :: rest => if Text.isBlank c then some (skipBlanks rest) else none
  | [] => none

private def digits? (least most : Nat) (s : List Char) : Option (Nat × List Char) :=
  let digits := (s.take most).takeWhile isDigit
  if digits.length < least then none else some (numberOf digits, s.drop digits.length)

private def clock (s : List Char) : (Nat × Nat × Nat) × List Char :=
  let read : Option ((Nat × Nat × Nat) × List Char) := do
    let start ← match s with
      | ':' :: rest => some rest
      | c :: rest => if Text.isBlank c then some (skipBlanks rest) else none
      | [] => none
    let (hour, rest) ← digits? 1 2 start
    if rest.head? ≠ some ':' then none
    else
      let (minute, rest) ← digits? 2 2 (rest.drop 1)
      match if rest.head? = some ':' then digits? 2 2 (rest.drop 1) else none with
      | some (second, rest) => some ((hour, minute, second), rest)
      | none => some ((hour, minute, 0), rest)
  read.getD ((0, 0, 0), s)

/-- A time zone and a remark in parentheses, either of which may be missing, at the end. -/
private def zone? (s : List Char) : Option (List Char) :=
  let s := skipBlanks s
  let signs := s.takeWhile fun c => c == '-' || c == '+'
  let body := s.drop signs.length
  let word := if signs.isEmpty then body.takeWhile Char.isAlpha else []
  let digits := (body.take 4).takeWhile isDigit
  let zone := if !word.isEmpty then word else if 2 ≤ digits.length then signs ++ digits else []
  let rest := skipBlanks (s.drop zone.length)
  let remark := (rest.drop 1).takeWhile fun c => c.isAlphanum || c == '_'
  let isRemark := rest.head? == some '(' && !remark.isEmpty
    && (skipBlanks (rest.drop (remark.length + 1))) == [')']
  if signs.length ≤ 1 && (rest.isEmpty || isRemark) then
    some (if zone.isEmpty then "utc".toList else zone)
  else none

private def month? (s : List Char) : Option Nat :=
  match monthNames.idxOf? (lower s) with
  | some n => some (n + 1)
  | none =>
    let n := numberOf s
    if s.all isDigit && 1 ≤ n && n ≤ 12 then some n else none

/-- The time that a date spells, for a reader at the time `now`. -/
def readDate? (now : Int) (text : String) : Option Int := do
  let (day, rest) ← digits? 1 2 (withoutDayName text.toList)
  let rest ← separator? rest
  let name := rest.takeWhile fun c => c.isAlphanum || c == '_'
  let month ← month? name
  let rest ← separator? (rest.drop name.length)
  let (year, rest) ← digits? 1 rest.length rest
  let ((hour, minute, second), rest) := clock rest
  let offset ← zoneOffset? (← zone? rest)
  let year := fullYear (yearOf now) year
  if 9999 < year || year < 1970 || day = 0 || 31 < day || 24 < hour || 59 < minute || 61 < second then
    none
  else some (86400 * dayNumber year month day + (3600 * hour + 60 * minute + second : Nat) - offset)

/-! ## Cookies

A response may leave a cookie: a name and a value that go with the later requests to the places that
the cookie is for. -/

structure Cookie where
  name : String
  value : Option String
  domain : String
  path : String
  ports : Option String := none
  secure : Bool := false
  expires : Option Int := none
  deriving Repr, DecidableEq

/-- Cookies by their domain, their path and their name. -/
abbrev CookieJar := Assoc String (Assoc String (Assoc String Cookie))

namespace Cookie

private def endsWith (s suffix : String) : Bool := suffix.toList.isSuffixOf s.toList

private def startsWithDot (s : String) : Bool := s.toList.head? == some '.'

private def lowerCase (s : String) : String := s.map Char.toLower

private def part (s : List Char) : String := String.ofList (Text.trim s)

/-! ### What a request shows -/

def hostOf (u : Url) : String :=
  let chars := (lowerCase u.authority).toList.reverse
  let digits := chars.takeWhile fun c => '0' ≤ c && c ≤ '9'
  let rest := chars.drop digits.length
  String.ofList (if !digits.isEmpty && rest.head? == some ':' then rest.drop 1 else chars).reverse

def fullHost (u : Url) : String :=
  let host := hostOf u
  if host.toList.contains '.' then host else host ++ ".local"

private def cookiePathSafe (c : Char) : Bool :=
  c.isAlphanum || "_.-~%/;:@&=+$,!*'()".toList.contains c

private def upperEscapes : List Char → List Char
  | '%' :: a :: b :: rest =>
    if "0123456789abcdefABCDEF".toList.contains a && "0123456789abcdefABCDEF".toList.contains b then
      '%' :: a.toUpper :: b.toUpper :: upperEscapes rest
    else '%' :: upperEscapes (a :: b :: rest)
  | c :: rest => c :: upperEscapes rest
  | [] => []
termination_by s => s.length

private def normalPath (path : String) : String :=
  String.ofList (upperEscapes (Url.escape cookiePathSafe path.toList))

def pathOf (u : Url) : String :=
  let path := normalPath u.path
  if path.toList.head? == some '/' then path else "/" ++ path

/-- The text behind the first colon of the authority, which counts as a port if it is a number. The
usual port goes without saying. -/
def portOf (u : Url) : Option String :=
  let chars := (Url.unescape u.authority.toList).dropWhile (· != ':')
  if chars.isEmpty then some "80"
  else if (Text.readInteger? (chars.drop 1)).isSome then some (String.ofList (chars.drop 1))
  else none

private def reachesPort (u : Url) (ports : String) : Bool :=
  ((Text.splitAt ',' ports.toList).map String.ofList).contains ((portOf u).getD "80")

/-! ### Reading a cookie -/

/-- The attributes of a cookie; of each the first that is given counts. -/
private structure Attributes where
  version : Option String := none
  expires : Option Int := none
  ageGiven : Bool := false
  domain : Option String := none
  path : Option String := none
  port : Option (Option String) := none
  secure : Option Bool := none

private def withoutQuotes (s : String) : String :=
  let chars := s.toList
  let chars := if chars.head? == some '"' then chars.drop 1 else chars
  String.ofList (if chars.getLast? == some '"' then chars.dropLast else chars)

private def Attributes.add (now : Int) (a : Attributes) (name : String) (value : Option String) :
    Option Attributes :=
  match lowerCase name, value with
  | "version", _ =>
    if a.version.isSome then some a
    else value.map fun v => { a with version := some (withoutQuotes v) }
  | "expires", _ =>
    if a.expires.isSome || a.ageGiven then some a
    else some { a with expires := value.bind fun v => readDate? now (withoutQuotes v) }
  | "max-age", none => none
  | "max-age", some v =>
    (Text.readInteger? v.toList).map fun age =>
      { a with expires := some (now + age), ageGiven := true }
  | "domain", _ =>
    if a.domain.isSome then some a else value.map fun v => { a with domain := some (lowerCase v) }
  | "path", _ => if a.path.isSome then some a else value.map fun v => { a with path := some v }
  | "port", _ => some (if a.port.isSome then a else { a with port := some value })
  | "secure", _ =>
    some (if a.secure.isSome then a else { a with secure := some (value != some "") })
  | _, _ => some a

private def pair (s : List Char) : String × Option String :=
  let name := s.takeWhile (· != '=')
  (part name, if name.length = s.length then none else some (part (s.drop (name.length + 1))))

private def pathFor (u : Url) (isOld : Bool) (given : Option String) : String :=
  match given with
  | some path => if path = "" then fallback else normalPath path
  | none => fallback
where
  fallback : String :=
    let path := (pathOf u).toList.reverse
    let directory := (path.dropWhile (· != '/')).reverse
    let directory := if isOld then directory.dropLast else directory
    if directory.isEmpty then "/" else String.ofList directory

/-- Whether a request may leave a cookie for a domain that it names. The host has to end in the domain
where the cookie is of the old kind, which has the version 0 or 1. -/
private def mayName (u : Url) (isOld : Bool) (domain : String) : Bool :=
  let host := fullHost u
  let plain := String.ofList (domain.toList.drop (if startsWithDot domain then 1 else 0))
  (plain.toList.contains '.' || endsWith host ".local")
    && (!isOld || endsWith host domain || endsWith host (plain ++ ".local")
      || startsWithDot host || endsWith ("." ++ host) domain)

private def arePorts (u : Url) (ports : String) : Bool :=
  let listed := Text.splitAt ',' ports.toList
  let wanted := ((portOf u).getD "80").toList
  let upTo := listed.takeWhile (· != wanted)
  listed.contains wanted && (upTo ++ [wanted]).all fun p => (Text.readInteger? p).isSome

def read? (now : Int) (u : Url) (header : String) : Option Cookie := do
  let parts := (Text.splitAt ';' header.toList).map pair
  let (name, value) ← parts.head?
  if name = "" then none
  let given := (parts.drop 1).filter fun entry => entry.1 != ""
  let a ← given.foldlM (fun a entry => Attributes.add now a entry.1 entry.2) {}
  let version ← Text.readInteger? (a.version.getD "0").toList
  let isOld := version = 0 || version = 1
  let domain := match a.domain with
    | none => fullHost u
    | some d => if startsWithDot d then d else "." ++ d
  let ports := match a.port with
    | none => none
    | some none => portOf u
    | some (some given) => some (String.ofList (given.toList.filter (!Text.isBlank ·)))
  let isGone := a.expires.any (· ≤ now)
  let isRefused := 1 < version || (a.domain.isSome && !mayName u isOld domain)
    || (a.port.any Option.isSome && !arePorts u (ports.getD ""))
  if isRefused && !isGone then none
  return {
    name := name
    value := value
    domain := domain
    path := pathFor u (version = 0) a.path
    ports := ports
    secure := a.secure.getD false
    expires := a.expires }

/-! ### Keeping and sending -/

private def matchesDomain (u : Url) (domain : String) : Bool :=
  endsWith ("." ++ fullHost u) (if startsWithDot domain then domain else "." ++ domain)

private def matchesPath (u : Url) (path : String) : Bool :=
  let requested := (pathOf u).toList
  let rest := requested.drop path.length
  path.toList.isPrefixOf requested
    && (rest.isEmpty || path.toList.getLast? == some '/' || rest.head? == some '/')

def isFor (now : Int) (u : Url) (c : Cookie) : Bool :=
  matchesDomain u c.domain && matchesPath u c.path
    && (!c.secure || u.scheme == "https" || u.scheme == "wss")
    && c.expires.all (now < ·)
    && c.ports.all fun ports => ports.isEmpty || reachesPort u ports

def text (c : Cookie) : String :=
  match c.value with
  | none => c.name
  | some v => c.name ++ "=" ++ v

end Cookie

namespace CookieJar

/-- A jar without a cookie. The places of its domain and its path are kept. -/
private def remove (jar : CookieJar) (c : Cookie) : CookieJar :=
  jar.map fun (domain, paths) => (domain, paths.map fun (path, cookies) =>
    (path, cookies.filter fun entry =>
      !(domain == c.domain && path == c.path && entry.1 == c.name)))

private def add (jar : CookieJar) (c : Cookie) : CookieJar :=
  let paths := (Assoc.find? jar c.domain).getD []
  let cookies := (Assoc.find? paths c.path).getD []
  Assoc.insert jar c.domain (Assoc.insert paths c.path (Assoc.insert cookies c.name c))

def receive (now : Int) (jar : CookieJar) (u : Url) (r : Response) : CookieJar :=
  match (r.header? "set-cookie").bind (Cookie.read? now u) with
  | none => jar
  | some c => if c.expires.any (· ≤ now) then jar.remove c else jar.add c

/-- A cookie put behind those whose path is as long as its own or longer. -/
private def insertByPath (c : Cookie) : List Cookie → List Cookie
  | [] => [c]
  | other :: more =>
    if other.path.length < c.path.length then c :: other :: more
    else other :: insertByPath c more

/-- The header that carries the cookies for a request, those of longer paths first. -/
def header? (now : Int) (jar : CookieJar) (u : Url) : Option (String × String) :=
  let all := jar.flatMap fun entry => entry.2.flatMap fun entry => entry.2.map Prod.snd
  let sorted := (all.filter (Cookie.isFor now u)).foldl (fun done c => insertByPath c done) []
  if sorted.isEmpty then none
  else some ("Cookie", "; ".intercalate (sorted.map Cookie.text))

end CookieJar

end OperationDocuments.Http
