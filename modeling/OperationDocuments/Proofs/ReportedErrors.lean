import Mathlib
import OperationDocuments.Proofs.Runs

/-! # Reported errors

Whether the errors in a response are reported, by the client and by the command that uses it. -/
namespace OperationDocuments

/-! ## What the client reports

A successful response with errors never leads to data. Its errors are put into one message, and that
takes two passes over the list: each entry is asked for its message first, and the messages are
joined afterwards. An entry that is no object cannot be asked, and a message that is no text cannot
be joined. In both cases another error takes the place of those that the response reports. -/

namespace Json

def HasMessageText (entry : Json) : Prop :=
  ∃ members, entry = object members ∧
    ∀ message ∈ Assoc.find? members "message", ∃ s, message = text s

/-- The text that stands for an entry in the message of the whole. -/
def reportText (entry : Json) : WideText :=
  match entry.member? "message" with
  | some (text s) => s
  | _ => entry.display

def reportMessage (items : List Json) : WideText := List.intercalate "; " (items.map reportText)

end Json

theorem mapM_eq_ok_iff {α β ε : Type} {f : α → Except ε β} {xs : List α} {ys : List β} :
    xs.mapM f = .ok ys ↔ List.Forall₂ (fun x y => f x = .ok y) xs ys := by
  induction xs generalizing ys with
  | nil => cases ys <;> simp [pure, Except.pure]
  | cons x xs ih =>
    rw [List.mapM_cons]
    cases first : f x with
    | error e => cases ys <;> simp [bind, Except.bind, first]
    | ok y =>
      cases rest : xs.mapM f with
      | error e => cases ys <;> simp [bind, Except.bind, first, ← ih, rest]
      | ok found => cases ys <;> simp [bind, Except.bind, pure, Except.pure, first, ← ih, rest]

theorem exists_of_mapM_eq_error {α β ε : Type} {f : α → Except ε β} {xs : List α} {e : ε}
    (h : xs.mapM f = .error e) : ∃ x ∈ xs, f x = .error e := by
  induction xs with
  | nil => cases h
  | cons x xs ih =>
    rw [List.mapM_cons] at h
    cases first : f x with
    | error fault =>
      rw [first] at h
      cases h
      exact ⟨x, List.mem_cons_self, first⟩
    | ok y =>
      cases rest : xs.mapM f with
      | error fault =>
        rw [first, rest] at h
        cases h
        obtain ⟨other, among, fails⟩ := ih rest
        exact ⟨other, List.mem_cons_of_mem x among, fails⟩
      | ok found =>
        rw [first, rest] at h
        cases h

namespace Http.Response

variable {items entries : List Json} {texts : List WideText} {entry : Json} {index : Nat}
  {e : ExecuteError}

/-- The errors that can stand in the way of those that a response reports. -/
inductive Unreportable : ExecuteError → Prop where
  | unknownScheme (url : String) : Unreportable (.unknownScheme url)
  | notAnObject (kind : String) : Unreportable (.notAnObject kind)
  | messageNotText (index : Nat) (kind : String) : Unreportable (.messageNotText index kind)

theorem entryMessage_eq_text_iff {s : WideText} :
    entryMessage entry = .ok (.text s) ↔ entry.HasMessageText ∧ s = entry.reportText := by
  cases entry with
  | object members =>
    cases found : Assoc.find? members "message" with
    | none =>
      simp [entryMessage, Json.HasMessageText, Json.reportText, Json.member?, found, eq_comm]
    | some message =>
      cases message <;>
        simp [entryMessage, Json.HasMessageText, Json.reportText, Json.member?, found, eq_comm]
  | _ => simp [entryMessage, Json.HasMessageText]

theorem unreportable_of_entryMessage (h : entryMessage entry = .error e) : Unreportable e := by
  cases entry with
  | object members => cases h
  | _ =>
    cases h
    exact .notAnObject _

theorem messageTexts_eq_ok_iff : messageTexts index entries = .ok texts ↔
    entries = texts.map .text := by
  induction entries generalizing index texts with
  | nil => simp [messageTexts, eq_comm]
  | cons first more ih =>
    cases first with
    | text s =>
      rw [messageTexts]
      cases rest : messageTexts (index + 1) more with
      | error fault =>
        have none : ∀ texts : List WideText, more ≠ texts.map Json.text := by
          intro texts same
          rw [ih.mpr same] at rest
          cases rest
        cases texts with
        | nil => simp [bind, Except.bind]
        | cons t texts => simp [bind, Except.bind, none]
      | ok found =>
        obtain rfl := ih.mp rest
        cases texts with
        | nil => simp [bind, Except.bind, pure, Except.pure]
        | cons t texts =>
          have injective : Function.Injective (List.map Json.text) :=
            List.map_injective_iff.mpr fun _ _ same => Json.text.inj same
          simp [bind, Except.bind, pure, Except.pure, injective.eq_iff]
    | _ =>
      cases texts <;> simp [messageTexts]

theorem unreportable_of_messageTexts (h : messageTexts index entries = .error e) :
    Unreportable e := by
  induction entries generalizing index with
  | nil => cases h
  | cons first more ih =>
    cases first with
    | text s =>
      rw [messageTexts] at h
      cases rest : messageTexts (index + 1) more with
      | error fault =>
        rw [rest] at h
        cases h
        exact ih rest
      | ok found =>
        rw [rest] at h
        cases h
    | _ =>
      cases h
      exact .messageNotText _ _

theorem mapM_entryMessage_eq_ok_iff : items.mapM entryMessage = .ok (texts.map .text) ↔
    (∀ entry ∈ items, entry.HasMessageText) ∧ texts = items.map Json.reportText := by
  simp only [mapM_eq_ok_iff, List.forall₂_map_right_iff, entryMessage_eq_text_iff]
  induction items generalizing texts with
  | nil => simp
  | cons first more ih =>
    cases texts with
    | nil => simp
    | cons s texts => simp [ih, and_assoc, and_left_comm]

theorem reportErrors_of_texts (h : ∀ entry ∈ items, entry.HasMessageText) :
    reportErrors (.array items) =
      .reported (Json.reportMessage items) (.array items) := by
  have asked := mapM_entryMessage_eq_ok_iff.mpr ⟨h, rfl⟩
  have joined := @messageTexts_eq_ok_iff _ (items.map Json.reportText) 0 |>.mpr rfl
  simp only [reportErrors, errorEntries, bind, Except.bind, asked, joined, Json.reportMessage]

theorem unreportable_reportErrors (h : ¬∀ entry ∈ items, entry.HasMessageText) :
    Unreportable (reportErrors (.array items)) := by
  cases asked : items.mapM entryMessage with
  | error fault =>
    obtain ⟨entry, -, fails⟩ := exists_of_mapM_eq_error asked
    simpa [reportErrors, errorEntries, bind, Except.bind, asked] using
      unreportable_of_entryMessage fails
  | ok messages =>
    cases joined : messageTexts 0 messages with
    | error fault =>
      simpa [reportErrors, errorEntries, bind, Except.bind, asked, joined] using
        unreportable_of_messageTexts joined
    | ok texts =>
      obtain rfl := messageTexts_eq_ok_iff.mp joined
      exact absurd (mapM_entryMessage_eq_ok_iff.mp asked).1 h

/-! ### Responses -/

structure ReportsErrors (r : Response) (items : List Json) : Prop where
  success : isSuccess r.status = true
  nonempty : items ≠ []
  body : ∃ received members, r.receive = .ok received ∧
    Json.parseMessage received.body = some (.ok (.object members)) ∧
    Assoc.find? members "errors" = some (.array items)

theorem status_of_receive {r received : Response} (h : r.receive = .ok received) :
    received.status = r.status := by
  unfold receive at h
  cases ascii : r.headers.areAscii with
  | false =>
    rw [ascii] at h
    cases h
  | true =>
    simp only [ascii, bind, Except.bind, Bool.not_true, Bool.false_eq_true, if_false] at h
    split at h <;> cases h
    rfl

theorem checkRedirect_of_success {r : Response} (url : Url) (h : isSuccess r.status = true) :
    checkRedirect url r = .ok () := by
  have other : r.redirect? = none := by
    unfold redirect?
    rw [if_neg]
    intro among
    simp only [isSuccess, beq_iff_eq] at h
    simp only [List.contains_iff_mem, List.mem_cons, List.not_mem_nil, or_false] at among
    omega
  rw [checkRedirect, other]

theorem dataOf_of_errors {members : List (WideText × Json)} (nonempty : items ≠ [])
    (h : Assoc.find? members "errors" = some (.array items)) :
    dataOf (.object members) = .error (reportErrors (.array items)) := by
  simp [dataOf, Json.member?, h, Json.isNothing, nonempty]

theorem ReportsErrors.exists_receive {r : Response} (reports : r.ReportsErrors items) (url : Url) :
    ∃ received, r.receive = .ok received ∧
      received.data url = .error (reportErrors (.array items)) := by
  obtain ⟨received, members, receives, parsed, errors⟩ := reports.body
  have success : isSuccess received.status = true := by
    rw [status_of_receive receives]
    exact reports.success
  refine ⟨received, receives, ?_⟩
  -- the errors are looked at before the data
  rw [data, checkRedirect_of_success url success]
  simp [success, parsed, bind, Except.bind, dataOf_of_errors reports.nonempty errors]

end Http.Response

/-! ### Clients -/

namespace Client

open Http Http.Response

variable {c : Client} {replies : List Reply} {query : String} {values : VariableValue}
  {operation : Option String} {request : Request} {r : Response} {items : List Json}

/-- What a request to this place comes to that is answered with these errors. The cookies of the
response are kept first, and without a scheme nothing says how. -/
def reportedTo (url : Url) (items : List Json) : ExecuteError :=
  if url.scheme = "" then .unknownScheme url.text else reportErrors (.array items)

def Reportable (url : Url) (items : List Json) : Prop :=
  url.scheme ≠ "" ∧ ∀ entry ∈ items, entry.HasMessageText

theorem reportedTo_of_reportable {url : Url} (h : Reportable url items) :
    reportedTo url items = .reported (Json.reportMessage items) (.array items) := by
  rw [reportedTo, if_neg h.1, reportErrors_of_texts h.2]

theorem unreportable_reportedTo {url : Url} (h : ¬Reportable url items) :
    Unreportable (reportedTo url items) := by
  unfold reportedTo
  by_cases scheme : url.scheme = ""
  · rw [if_pos scheme]
    exact .unknownScheme url.text
  · rw [if_neg scheme]
    exact unreportable_reportErrors fun texts => h ⟨scheme, texts⟩

theorem reportedTo_eq_reported_iff {url : Url} {message : WideText} {errors : Json} :
    reportedTo url items = .reported message errors ↔
      Reportable url items ∧ message = Json.reportMessage items ∧ errors = .array items := by
  by_cases reportable : Reportable url items
  · rw [reportedTo_of_reportable reportable, ExecuteError.reported.injEq,
      and_iff_right reportable]
    exact and_congr eq_comm eq_comm
  · refine iff_of_false (fun same => ?_) fun h => reportable h.1
    have other := unreportable_reportedTo reportable
    rw [same] at other
    cases other

theorem receive_of_reportsErrors (c : Client) (url : Url) (reports : r.ReportsErrors items) :
    (c.receive url r).1 = .error (reportedTo url items) := by
  obtain ⟨received, receives, data⟩ := reports.exists_receive url
  rw [receive, receives, reportedTo]
  by_cases scheme : url.scheme = ""
  · simp [scheme]
  · simp [scheme, data]

theorem outcome_of_reportsErrors (reports : r.ReportsErrors items)
    (answered : replies.head? = some (.response r))
    (sent : (c.execute replies query values operation).request = some request) :
    (c.execute replies query values operation).outcome =
      .error (reportedTo request.url items) := by
  unfold execute at sent ⊢
  cases ascii : c.requestHeaders.areAscii with
  | false => simp [ascii] at sent
  | true =>
    cases built : ({ c with isOpen := true } : Client).request query values operation with
    | error e => simp [ascii, built] at sent
    | ok own =>
      obtain rfl : own = request := by simpa [ascii, built] using sent
      have received := receive_of_reportsErrors { c with isOpen := true } own.url reports
      simp [built, answered, received]

theorem executeOperation_of_reportsErrors {l : Loaded} (reports : r.ReportsErrors items)
    (answered : replies.head? = some (.response r))
    (sent : (c.executeOperation replies l values operation).request = some request) :
    (c.executeOperation replies l values operation).outcome =
      .error (reportedTo request.url items) := by
  unfold executeOperation at sent ⊢
  cases found : l.documentFor operation with
  | error e => simp [found] at sent
  | ok d =>
    simp only [found] at sent
    exact outcome_of_reportsErrors reports answered sent

end Client

/-! ## Runs that send an operation

Before the command sends anything it checks its options, loads its source and reads the variables
and the headers. A fault in any of them ends the run without a request, and what comes behind the
request depends on its outcome alone. So a run that has sent something ends as the response says. -/

namespace Command

variable {α β : Type} {x : Run α} {f : α → Run β} {c c' : Console} {u : Unit}

/-- The run sends nothing and takes no reply, also if it fails. -/
def SendsNothing (x : Run α) : Prop :=
  ∀ c, (x.run.run c).2.requests = c.requests ∧ (x.run.run c).2.replies = c.replies

theorem Silent.sendsNothing (h : Silent x) : SendsNothing x := by
  intro c
  rw [h c]
  exact ⟨rfl, rfl⟩

theorem Prints.sendsNothing {x : Run Unit} (h : Prints x) : SendsNothing x := by
  intro c
  obtain ⟨output, errors, ends⟩ := h c
  rw [ends]
  exact ⟨rfl, rfl⟩

theorem SendsNothing.bind (h : SendsNothing x) (k : ∀ a, SendsNothing (f a)) :
    SendsNothing (x >>= f) := by
  intro c
  have first := h c
  rw [run_bind]
  rcases result : x.run.run c with ⟨outcome, c₁⟩
  rw [result] at first
  cases outcome with
  | ok a =>
    have later := k a c₁
    exact ⟨later.1.trans first.1, later.2.trans first.2⟩
  | error e => exact first

theorem sendsNothing_ofExcept (y : Except Failure α) : SendsNothing (ExceptT.mk (pure y)) :=
  fun _ => ⟨rfl, rfl⟩

theorem sendsNothing_mapM {γ : Type} {items : List γ} {f : γ → Run α}
    (h : ∀ item, SendsNothing (f item)) : SendsNothing (items.mapM f) := by
  induction items with
  | nil => exact (silent_pure []).sendsNothing
  | cons item items ih =>
    rw [List.mapM_cons]
    exact (h item).bind fun _ => ih.bind fun _ => (silent_pure _).sendsNothing

theorem sendsNothing_loading {ε : Type} {failure : ε → Failure} (verbose : Bool)
    (y : Loading ε α) : SendsNothing (loading verbose failure y) := by
  refine (prints_log verbose _).sendsNothing.bind fun _ => Silent.sendsNothing ?_
  cases y.outcome.2 with
  | ok a => exact silent_pure a
  | error e => exact silent_throw _

theorem sendsNothing_loadFile (directory : Location) (verbose : Bool) (path : String) :
    SendsNothing (loadFile directory verbose path) :=
  silent_get.sendsNothing.bind fun _ => sendsNothing_loading verbose _

/-- Begun without requests and with these replies to come, the run ends in this way for each request
that it has sent. -/
def EndsOnceSent (replies : List Http.Reply) (Q : Http.Request → Except Failure α → Prop)
    (x : Run α) : Prop :=
  ∀ c, c.requests = [] → c.replies = replies →
    ∀ request ∈ (x.run.run c).2.requests, Q request (x.run.run c).1

variable {replies : List Http.Reply} {Q : Http.Request → Except Failure β → Prop}

theorem SendsNothing.endsOnceSent {x : Run β} (h : SendsNothing x) : EndsOnceSent replies Q x := by
  intro c none _ request among
  rw [(h c).1, none] at among
  cases among

theorem SendsNothing.bind_endsOnceSent (h : SendsNothing x)
    (k : ∀ a, EndsOnceSent replies Q (f a)) : EndsOnceSent replies Q (x >>= f) := by
  intro c none waiting request
  have first := h c
  rw [run_bind]
  rcases result : x.run.run c with ⟨outcome, c₁⟩
  rw [result] at first
  cases outcome with
  | ok a => exact k a c₁ (first.1.trans none) (first.2.trans waiting) request
  | error e =>
    intro among
    rw [first.1, none] at among
    cases among

def showOutcome : Except ExecuteError Json → Run Unit
  | .ok data => echo data.pretty
  | .error e => throw (executeFailure e)

def send (client : Client) (loaded : Loaded) (values : Json) (operation : Option String) :
    Run Unit := do
  let exchange := client.executeOperation (← get).replies loaded (.ofJson values) operation
  modify fun c => { c with
    replies := exchange.replies
    requests := c.requests ++ exchange.request.toList }
  showOutcome exchange.outcome

theorem endsOnceSent_execute {Q : Http.Request → Except Failure Unit → Prop}
    (directory : Location) (endpoint : Option String) (words : List String)
    (h : ∀ client loaded values operation,
      EndsOnceSent replies Q (send client loaded values operation)) :
    EndsOnceSent replies Q (execute directory endpoint words) := by
  unfold execute
  -- every part up to the request sends nothing, whether it fails or not
  refine (silent_checkedArguments _ _ _).sendsNothing.bind_endsOnceSent fun a => ?_
  refine silent_get.sendsNothing.bind_endsOnceSent fun c => ?_
  refine (sendsNothing_loadFile _ _ _).bind_endsOnceSent fun loaded => ?_
  extract_lets operation url ready known names
  have endsOnceSent_ready : ∀ u, EndsOnceSent replies Q (ready u) := by
    refine fun _ => (sendsNothing_ofExcept _).bind_endsOnceSent fun values => ?_
    refine (sendsNothing_mapM fun _ => sendsNothing_ofExcept _).bind_endsOnceSent fun headers => ?_
    exact h _ loaded values operation
  have endsOnceSent_known : ∀ u, EndsOnceSent replies Q (known u) := by
    intro u
    dsimp only [known]
    split
    · exact SendsNothing.endsOnceSent (silent_throw_bind _ _).sendsNothing
    · exact endsOnceSent_ready ()
  split
  · exact SendsNothing.endsOnceSent (silent_throw_bind _ _).sendsNothing
  · exact endsOnceSent_known ()

theorem sendsNothing_showOutcome (outcome : Except ExecuteError Json) :
    SendsNothing (showOutcome outcome) := by
  cases outcome with
  | ok data => exact (prints_echo _).sendsNothing
  | error e => exact (silent_throw _).sendsNothing

theorem run_send (client : Client) (loaded : Loaded) (values : Json) (operation : Option String)
    (c : Console) : (send client loaded values operation).run.run c =
      let exchange := client.executeOperation c.replies loaded (.ofJson values) operation
      (showOutcome exchange.outcome).run.run { c with
        replies := exchange.replies
        requests := c.requests ++ exchange.request.toList } :=
  rfl

/-- A request that such a response answers leads to the failure that is made of its errors. -/
theorem endsOnceSent_send {r : Http.Response} {items : List Json} (reports : r.ReportsErrors items)
    (answered : replies.head? = some (.response r)) (client : Client) (loaded : Loaded)
    (values : Json) (operation : Option String) :
    EndsOnceSent replies
      (fun request result =>
        result = .error (executeFailure (Client.reportedTo request.url items)))
      (send client loaded values operation) := by
  intro c none waiting request
  subst waiting
  rw [run_send]
  extract_lets exchange
  -- nothing is sent behind the exchange, so the request is that of the exchange
  rw [(sendsNothing_showOutcome _ _).1, none]
  intro among
  have sent : exchange.request = some request := Option.mem_toList.mp among
  have outcome : exchange.outcome = .error (Client.reportedTo request.url items) :=
    Client.executeOperation_of_reportsErrors reports answered sent
  rw [outcome]
  rfl

/-! ### The program -/

theorem dispatch_execute (s : Setting) (words : List String) : dispatch s ("execute" :: words) =
    (some "execute", execute s.directory (s.endpoint.filter (!·.isEmpty)) words) :=
  rfl

theorem run_execute_eq (s : Setting) (words : List String) : run s ("execute" :: words) =
    conclude (some "execute")
      ((execute s.directory (s.endpoint.filter (!·.isEmpty)) words).run.run s.console).1
      ((execute s.directory (s.endpoint.filter (!·.isEmpty)) words).run.run s.console).2 := by
  rw [run, dispatch_execute]
  rfl

theorem requests_conclude (command : Option String) (result : Except Failure Unit) (c : Console) :
    (conclude command result c).requests = c.requests := by
  cases result with
  | ok done => rfl
  | error failure => cases failure <;> rfl

section Errors

variable {r : Http.Response} {items : List Json} {s : Setting} {words : List String}
  {request : Http.Request}

theorem run_execute_of_reportsErrors (reports : r.ReportsErrors items)
    (answered : s.replies.head? = some (.response r))
    (sent : request ∈ (run s ("execute" :: words)).requests) :
    ∃ c, run s ("execute" :: words) = conclude (some "execute")
      (.error (executeFailure (Client.reportedTo request.url items))) c := by
  let ended := (execute s.directory (s.endpoint.filter (!·.isEmpty)) words).run.run s.console
  have concluded : run s ("execute" :: words) = conclude (some "execute") ended.1 ended.2 :=
    run_execute_eq s words
  rw [concluded, requests_conclude] at sent
  have result : ended.1 = .error (executeFailure (Client.reportedTo request.url items)) :=
    endsOnceSent_execute _ _ words (endsOnceSent_send reports answered) s.console rfl rfl
      request sent
  exact ⟨ended.2, by rw [concluded, result]⟩

theorem conclude_unreportable {e : ExecuteError} (h : Http.Response.Unreportable e) (c : Console) :
    conclude (some "execute") (.error (executeFailure e)) c =
      ⟨1, c.output, c.errors ++ "", some (.execution e), c.tree, c.requests⟩ := by
  cases h <;> rfl

theorem conclude_reported (message : WideText) (errors : Json) (c : Console) :
    conclude (some "execute") (.error (executeFailure (.reported message errors))) c =
      ⟨1, c.output, c.errors
        ++ s!"Error: {(ExecuteError.reported message errors).message.escaped}\n", none, c.tree,
        c.requests⟩ :=
  rfl

/-- What the program makes of a response with errors: an error message, and an exit code. -/
structure Outcome.Reports (outcome : Outcome) (items : List Json) : Prop where
  exitCode : outcome.exitCode = 1
  noCrash : outcome.crash = none
  message : ∃ before, outcome.errors = before ++
    s!"Error: {(ExecuteError.reported (Json.reportMessage items) (.array items)).message.escaped}\n"

/-- A response with errors never comes to data. Its errors are reported, with the list as it is, if
each entry has a text to offer and the place of the request a scheme; otherwise another error takes
their place, for which the command has no message. -/
theorem errors_reported_iff (r : Http.Response) (items : List Json)
    (reports : r.ReportsErrors items) :
    (∀ (c : Client) (replies : List Http.Reply) (query : String) (values : VariableValue)
      (operation : Option String) (request : Http.Request),
      replies.head? = some (.response r) →
      (c.execute replies query values operation).request = some request →
        (∀ data, (c.execute replies query values operation).outcome ≠ .ok data) ∧
        ∀ message errors, (c.execute replies query values operation).outcome =
            .error (.reported message errors) ↔
          Client.Reportable request.url items ∧ message = Json.reportMessage items ∧
            errors = .array items) ∧
    ∀ (s : Setting) (words : List String), s.replies.head? = some (.response r) →
      ∀ request ∈ (run s ("execute" :: words)).requests,
        (run s ("execute" :: words)).exitCode = 1 ∧
        ((run s ("execute" :: words)).crash = none ↔ Client.Reportable request.url items) ∧
        (Client.Reportable request.url items →
          (run s ("execute" :: words)).Reports items) := by
  constructor
  · intro c replies query values operation request answered sent
    rw [Client.outcome_of_reportsErrors reports answered sent]
    refine ⟨nofun, fun message errors => ?_⟩
    rw [Except.error.injEq]
    exact Client.reportedTo_eq_reported_iff
  · intro s words answered request sent
    obtain ⟨c, ended⟩ := run_execute_of_reportsErrors reports answered sent
    by_cases reportable : Client.Reportable request.url items
    · rw [Client.reportedTo_of_reportable reportable, conclude_reported] at ended
      rw [ended]
      exact ⟨rfl, iff_of_true rfl reportable, fun _ => ⟨rfl, rfl, c.errors, rfl⟩⟩
    · rw [conclude_unreportable (Client.unreportable_reportedTo reportable)] at ended
      rw [ended]
      exact ⟨rfl, iff_of_false nofun reportable, fun h => absurd h reportable⟩

end Errors

end Command

namespace Sample

open Command

def response (body : String) : Http.Response := ⟨200, [], Utf8.encode body.toList⟩

def answered (body : String) : Setting where
  tree := { files := [(["work", "q.graphql"], .text "\x7b ok \x7d")], directories := [["work"]] }
  directory := ["work"]
  replies := [.response (response body)]

def executeWords : List String :=
  ["--source", "q.graphql", "--url", "https://api.example.com/graphql"]

def exchange (body : String) : Exchange :=
  Client.execute { url := "https://api.example.com/graphql", headers := [] }
    [.response (response body)] "\x7b ok \x7d" (.ofJson .null) none

def refusedBody : String := "\x7b\"errors\":[\x7b\"message\":\"boom\"\x7d]\x7d"

def refusals : List Json := [.object [("message", .text "boom")]]

theorem reportsErrors_refused : (response refusedBody).ReportsErrors refusals where
  success := rfl
  nonempty := nofun
  body := ⟨response refusedBody, [("errors", .array refusals)], by cbv, by cbv, by cbv⟩

def bareBody : String := "\x7b\"errors\":[\"boom\"]\x7d"

theorem reportsErrors_bare : (response bareBody).ReportsErrors [.text "boom"] where
  success := rfl
  nonempty := nofun
  body := ⟨response bareBody, [("errors", .array [.text "boom"])], by cbv, by cbv, by cbv⟩

end Sample

namespace Command

theorem errors_reported_refused :
    let outcome := run (Sample.answered Sample.refusedBody) ("execute" :: Sample.executeWords);
    let exchange := Sample.exchange Sample.refusedBody;
    (Sample.response Sample.refusedBody).ReportsErrors Sample.refusals ∧
      (∃ request ∈ outcome.requests, Client.Reportable request.url Sample.refusals) ∧
      outcome.Reports Sample.refusals ∧
      (∃ request, exchange.request = some request) ∧
      exchange.outcome = .error (.reported "boom" (.array Sample.refusals)) := by
  have reports := Sample.reportsErrors_refused
  have texts : ∀ entry ∈ Sample.refusals, entry.HasMessageText := by
    intro entry among
    obtain rfl := List.mem_singleton.mp among
    exact ⟨_, rfl, fun message found => ⟨"boom", (Option.some.inj found).symm⟩⟩
  obtain ⟨calls, runs⟩ := errors_reported_iff _ _ reports
  have schemes : ((run (Sample.answered Sample.refusedBody)
      ("execute" :: Sample.executeWords)).requests.map fun request => request.url.scheme) =
        ["https"] := by decide +kernel
  obtain ⟨request, among, scheme⟩ :=
    List.mem_map.mp (schemes ▸ List.mem_singleton.mpr rfl : "https" ∈ _)
  have reportable : Client.Reportable request.url Sample.refusals :=
    ⟨by rw [scheme]; decide, texts⟩
  have called : ((Sample.exchange Sample.refusedBody).request.map fun request =>
      request.url.scheme) = some "https" := by decide +kernel
  obtain ⟨sent, hsent, scheme'⟩ := Option.map_eq_some_iff.mp called
  have reportable' : Client.Reportable sent.url Sample.refusals :=
    ⟨by rw [scheme']; decide, texts⟩
  refine ⟨reports, ⟨request, among, reportable⟩, ?_, ⟨sent, hsent⟩, ?_⟩
  · exact (runs _ Sample.executeWords rfl request among).2.2 reportable
  · exact ((calls _ _ _ _ _ sent rfl hsent).2 "boom" _).mpr ⟨reportable', rfl, rfl⟩

theorem errors_unreported_bare :
    let outcome := run (Sample.answered Sample.bareBody) ("execute" :: Sample.executeWords);
    let exchange := Sample.exchange Sample.bareBody;
    (Sample.response Sample.bareBody).ReportsErrors [.text "boom"] ∧
      exchange.outcome = .error (.notAnObject "str") ∧ outcome.exitCode = 1 ∧
      outcome.crash.isSome ∧ outcome.errors = "" := by
  have called : ((Sample.exchange Sample.bareBody).request.map fun request =>
      request.url.scheme) = some "https" := by decide +kernel
  obtain ⟨sent, hsent, scheme⟩ := Option.map_eq_some_iff.mp called
  have ended : (Sample.exchange Sample.bareBody).outcome =
      .error (Client.reportedTo sent.url [.text "boom"]) :=
    Client.outcome_of_reportsErrors Sample.reportsErrors_bare rfl hsent
  rw [Client.reportedTo, if_neg (by rw [scheme]; decide)] at ended
  exact ⟨Sample.reportsErrors_bare, ended, by decide +kernel⟩

end Command

end OperationDocuments
