import OperationDocuments.Compression
import OperationDocuments.Execute.Message
import OperationDocuments.Json.Parser
import OperationDocuments.Split

/-! # Sending operations

A client sends the document of one operation with its variables and reads the response. -/
namespace OperationDocuments

/-! ## Variables

The variables of an operation are JSON values that may hold records: values of a named type whose
absent fields are null. Records among the variables, or in a list among them, are sent as objects
without their absent fields; a record anywhere deeper cannot be sent. -/

inductive VariableValue where
  | leaf (value : Json)
  | array (items : List VariableValue)
  | object (members : List (WideText × VariableValue))
  | record (typeName : String) (fields : List (String × VariableValue))
  deriving Repr, Inhabited

/-- Why variables cannot be sent: a number that is none, a record that is too deep, or a text with a
surrogate in it. -/
inductive EncodeError where
  | outOfRange
  | record (typeName : String)
  | surrogate
  deriving Repr, DecidableEq

namespace VariableValue

private def isNull : VariableValue → Bool
  | .leaf .null => true
  | _ => false

mutual

/-- A record as an object without its absent fields, and likewise the records in its fields. -/
def dump : VariableValue → VariableValue
  | .record _ fields => .object (dumpFields fields)
  | v => v

def dumpFields : List (String × VariableValue) → List (WideText × VariableValue)
  | [] => []
  | (name, v) :: more => if v.isNull then dumpFields more else (↑name, v.dump) :: dumpFields more

end

def prepare : VariableValue → VariableValue
  | .array items => .array (items.map dump)
  | v => v.dump

def isNothing : VariableValue → Bool
  | .leaf j => j.isNothing
  | .array items => items.isEmpty
  | .object members => members.isEmpty
  | .record .. => false

def kindName : VariableValue → String
  | .leaf j => j.kindName
  | .array _ => "list"
  | .object _ => "dict"
  | .record typeName _ => typeName

mutual

/-- The JSON value that is sent. The first part that has none is the error. -/
def encode : VariableValue → Except EncodeError Json
  | .leaf (.float x) => if x.isFinite then .ok (.float x) else .error .outOfRange
  | .leaf j => .ok j
  | .array items => return .array (← encodeItems items)
  | .object members => return .object (← encodeMembers members)
  | .record typeName _ => .error (.record typeName)

def encodeItems : List VariableValue → Except EncodeError (List Json)
  | [] => return []
  | v :: more => return (← v.encode) :: (← encodeItems more)

def encodeMembers : List (WideText × VariableValue) → Except EncodeError (List (WideText × Json))
  | [] => return []
  | (key, v) :: more => return (key, ← v.encode) :: (← encodeMembers more)

end

mutual

def ofJson : Json → VariableValue
  | .array items => .array (ofItems items)
  | .object members => .object (ofMembers members)
  | .null => .leaf .null
  | .boolean b => .leaf (.boolean b)
  | .integer n => .leaf (.integer n)
  | .float x => .leaf (.float x)
  | .text s => .leaf (.text s)

def ofItems : List Json → List VariableValue
  | [] => []
  | j :: more => ofJson j :: ofItems more

def ofMembers : List (WideText × Json) → List (WideText × VariableValue)
  | [] => []
  | (key, j) :: more => (key, ofJson j) :: ofMembers more

end

end VariableValue

def prepareVariables (values : Assoc WideText VariableValue) : Assoc WideText VariableValue :=
  values.filterMap fun (name, v) =>
    match v with
    | .leaf .null => none
    | v => some (name, v.prepare)

/-! ## Reading responses

A successful response is a JSON object. If it reports errors these are the outcome, whatever data
it has besides; otherwise its data is. -/

inductive ExecuteError where
  | unknownOperation (e : UnknownOperation)
  | notVariables (kind : String)
  | badUrl (e : UrlError)
  | unsendable (e : EncodeError)
  | unencodableHeader
  | unknownScheme (url : String)
  | fault (kind : Http.FaultKind) (text : String)
  | status (url : String) (status : Nat) (redirect : Option String)
  | undecodable
  | unreadable (e : Json.ReadError)
  | notAnObject (kind : String)
  | notIterable (kind : String)
  | messageNotText (index : Nat) (kind : String)
  | reported (message : WideText) (errors : Json)
  deriving Repr

namespace ExecuteError

def message : ExecuteError → WideText
  | unknownOperation e => e.message
  | notVariables kind => s!"'{kind}' object has no attribute 'items'"
  | badUrl e => e.message
  | unsendable .outOfRange => "Out of range float values are not JSON compliant"
  | unsendable (.record typeName) => s!"Object of type {typeName} is not JSON serializable"
  | unsendable .surrogate => "a text with a surrogate cannot be sent"
  | unencodableHeader => "a header is not in ASCII"
  | unknownScheme url => "unknown url type: " ++ String.ofList (Text.literal url.toList)
  | fault _ text => text
  | status url code redirect => Http.describeStatus url code redirect
  | undecodable => "the body is no text"
  | unreadable e => e.message
  | notAnObject kind => s!"'{kind}' object has no attribute 'get'"
  | notIterable kind => s!"'{kind}' object is not iterable"
  | messageNotText index kind => s!"sequence item {index}: expected str instance, {kind} found"
  | reported message _ => "GraphQL errors: " ++ message

end ExecuteError

namespace Http.Response

/-- The entries of a list of errors. A text counts as its characters and an object as its keys. -/
def errorEntries : Json → Except ExecuteError (List Json)
  | .array items => .ok items
  | .text s => .ok (s.map fun c => .text [c])
  | .object members => .ok (members.map fun m => .text m.1)
  | j => .error (.notIterable j.kindName)

def entryMessage (entry : Json) : Except ExecuteError Json :=
  match entry with
  | .object members =>
    .ok ((Assoc.find? members "message").getD (.text entry.display))
  | j => .error (.notAnObject j.kindName)

def messageTexts (index : Nat) : List Json → Except ExecuteError (List WideText)
  | [] => .ok []
  | .text s :: more => do return s :: (← messageTexts (index + 1) more)
  | j :: _ => .error (.messageNotText index j.kindName)

def reportErrors (errors : Json) : ExecuteError :=
  let texts := do
    let entries ← errorEntries errors
    messageTexts 0 (← entries.mapM entryMessage)
  match texts with
  | .ok texts => .reported (List.intercalate "; " texts) errors
  | .error e => e

def dataOf (body : Json) : Except ExecuteError Json :=
  match body with
  | .object _ =>
    let errors := (body.member? "errors").getD .null
    if !errors.isNothing then .error (reportErrors errors)
    else
      let data := (body.member? "data").getD .null
      .ok (if data.isNothing then .object [] else data)
  | j => .error (.notAnObject j.kindName)

/-- Checks where a redirection leads, even though it is not followed: a place without a host is
completed by the one of the request. -/
def checkRedirect (url : Url) (r : Response) : Except ExecuteError Unit :=
  match r.redirect? with
  | none => .ok ()
  | some location =>
    match Url.parse location with
    | .error e => .error (.fault .protocol s!"Invalid URL in location header: {e.message}.")
    | .ok u =>
      let completed := u.scheme != "" && u.host == "" && url.host != ""
      if completed && u.path != "" && u.path.toList.head? != some '/' then
        .error (.badUrl .pathWithoutSlash)
      else .ok ()

def codings (r : Response) : List String :=
  ((r.header? "content-encoding").map fun value =>
    (Text.splitAt ',' value.toList).map fun name =>
      String.ofList ((Text.trim name).map Char.toLower)).getD []

private def decodeBody (body : List UInt8) (coding : String) : Except ExecuteError (List UInt8) :=
  let decoded := match coding with
    | "gzip" => Compression.gunzip body
    | "deflate" => Compression.inflate body
    | _ => .ok body
  decoded.mapError fun fault => .fault .decoding fault.message

/-- The response as it is taken in: in ASCII but for the body, and the body without its codings. -/
def receive (r : Response) : Except ExecuteError Response := do
  if !r.headers.areAscii then throw .unencodableHeader
  return { r with body := ← r.codings.reverse.foldlM decodeBody r.body }

def data (url : Url) (r : Response) : Except ExecuteError Json := do
  checkRedirect url r
  if !isSuccess r.status then throw (.status url.text r.status r.redirect?)
  match Json.parseMessage r.body with
  | none => throw .undecodable
  | some (.error e) => throw (.unreadable e)
  | some (.ok body) => dataOf body

end Http.Response

/-! ## The client

A client posts operations to one endpoint. Only the document of the operation is sent. The client
opens with the first operation that gets as far as being put together, if its headers are such
that they can be sent, and stays open until it is closed; so long it keeps the cookies that it
receives. Every request takes the next of the replies that are to come. -/

structure Client where
  url : String
  headers : Http.Headers
  isOpen : Bool := false
  cookies : Http.CookieJar := []
  now : Int := 0
  deriving Repr

/-- What one call led to: the request, if one was sent, the outcome, the client afterwards, and the
replies that are left. -/
structure Exchange where
  request : Option Http.Request
  outcome : Except ExecuteError Json
  client : Client
  replies : List Http.Reply

namespace Client

def close (c : Client) : Client := { c with isOpen := false, cookies := [] }

/-- The headers of every request. A header given under the very same name replaces the one that
is always sent. -/
def requestHeaders (c : Client) : Http.Headers :=
  c.headers.foldl (fun done h => Assoc.insert done h.1 h.2) [("Content-Type", "application/json")]

def noReply : Http.Reply := .fault .connect "All connection attempts failed"

/-- The variables as a member of the body; variables that count as nothing are not sent. -/
def variablesMember (values : VariableValue) :
    Except ExecuteError (List (WideText × VariableValue)) :=
  if values.isNothing then .ok []
  else match values with
    | .object members => .ok [("variables", .object (prepareVariables members))]
    | v => .error (.notVariables v.kindName)

def operationMember (operation : Option String) : List (WideText × VariableValue) :=
  match operation with
  | none => []
  | some name => if name = "" then [] else [("operationName", .leaf (.text name))]

def body (query : String) (sent : List (WideText × VariableValue)) (operation : Option String) :
    Except ExecuteError Json := do
  let members : List (WideText × VariableValue) :=
    ("query", .leaf (.text query)) :: (sent ++ operationMember operation)
  let body ← (VariableValue.object members).encode.mapError .unsendable
  if body.isEncodable then return body
  throw (.unsendable .surrogate)

/-- The headers of a request to a place. The cookies for it go along, unless a header of that name is
given. -/
def headersFor (c : Client) (url : Url) : Http.Headers :=
  let given := c.requestHeaders
  if (Assoc.find? given.fields "cookie").isSome then given
  else given ++ (c.cookies.header? c.now url).toList

def request (c : Client) (query : String) (values : VariableValue) (operation : Option String) :
    Except ExecuteError Http.Request := do
  let sent ← variablesMember values
  let url ← (Url.forRequest c.url).mapError .badUrl
  return .build url (c.headersFor url) (← body query sent operation)

def receive (c : Client) (url : Url) (r : Http.Response) : Except ExecuteError Json × Client :=
  match r.receive with
  | .error e => (.error e, c)
  | .ok r =>
    if url.scheme = "" then (.error (.unknownScheme url.text), c)
    else (r.data url, { c with cookies := c.cookies.receive c.now url r })

def execute (c : Client) (replies : List Http.Reply) (query : String)
    (values : VariableValue) (operation : Option String) : Exchange :=
  if !c.requestHeaders.areAscii then ⟨none, .error .unencodableHeader, c, replies⟩
  else
    let c := { c with isOpen := true }
    match c.request query values operation with
    | .error e => ⟨none, .error e, c, replies⟩
    | .ok request =>
      let (outcome, c) := match replies.head?.getD noReply with
        | .fault kind text => (.error (.fault kind text), c)
        | .response r => c.receive request.url r
      ⟨some request, outcome, c, replies.drop 1⟩

def executeOperation (c : Client) (replies : List Http.Reply) (l : Loaded)
    (values : VariableValue) (operation : Option String) : Exchange :=
  match l.documentFor operation with
  | .error e => ⟨none, .error (.unknownOperation e), c, replies⟩
  | .ok d => c.execute replies d.print values operation

end Client

end OperationDocuments
