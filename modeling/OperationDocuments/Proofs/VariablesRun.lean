import Mathlib
import OperationDocuments.Proofs.JsonReading
import OperationDocuments.Proofs.ReportedErrors
import OperationDocuments.Proofs.SentVariables
import OperationDocuments.Proofs.SplitNames

/-! # Runs with variables

A run whose other premises hold comes to reading its variables and sending them. The law for each kind
of text is a lemma of its own: malformed, too much to read, an object, and every other value. -/
namespace OperationDocuments

namespace Command

variable {α β : Type} {x : Run α} {c c' : Console} {s : Setting} {words : List String}
  {a : Arguments} {l : Loaded} {text : String} {j : Json}

theorem ends_ofExcept {y : Except Failure α} {v : α} (h : y = .ok v) :
    Ends (ExceptT.mk (pure y)) c v c := by
  subst h
  rfl

theorem exists_readHeader (h : ':' ∈ text.toList) : ∃ header, readHeader text = .ok header := by
  have front : text.toList.takeWhile (· != ':') <+: text.toList := List.takeWhile_prefix _
  have shorter : (text.toList.takeWhile (· != ':')).length ≠ text.length := by
    intro same
    have whole := front.eq_of_length same
    have all := List.takeWhile_eq_self_iff.mp whole ':' h
    simp at all
  unfold readHeader
  rw [if_neg shorter]
  exact ⟨_, rfl⟩

def headersOf (texts : List String) : List (String × String) :=
  texts.filterMap fun text => (readHeader text).toOption

theorem ends_readHeaders {texts : List String} (h : ∀ text ∈ texts, ':' ∈ text.toList) :
    Ends (texts.mapM fun text => (ExceptT.mk (pure (readHeader text)) : Run (String × String))) c
      (headersOf texts) c := by
  induction texts with
  | nil => rfl
  | cons text texts ih =>
    obtain ⟨header, read⟩ := exists_readHeader (h text List.mem_cons_self)
    have rest := ih fun other among => h other (List.mem_cons_of_mem text among)
    rw [List.mapM_cons]
    refine ends_bind.mpr ⟨header, c, ends_ofExcept read, ends_bind.mpr ⟨_, c, rest, ?_⟩⟩
    refine ends_pure.mpr ⟨?_, rfl⟩
    simp [headersOf, read, Except.toOption]

def Setting.executeArguments? (s : Setting) (words : List String) : Option Arguments :=
  ((checkedArguments s.directory (executeOptions (s.endpoint.filter (!·.isEmpty))) words).run.run
    s.console).1.toOption

def Setting.client (s : Setting) (a : Arguments) : Client where
  url := ((a.value? "url").or (s.endpoint.filter (!·.isEmpty))).getD ""
  headers := Assoc.ofEntries (headersOf (a.values "headers"))

/-- The words are accepted, the source can be loaded, the operation is one of it, and every header has a
name and a value. -/
structure Prepared (s : Setting) (words : List String) (a : Arguments) (l : Loaded) : Prop where
  accepted : s.executeArguments? words = some a
  loads : ((Loader.ofWorkspace ⟨s.tree, s.directory⟩).loadFile ⟨s.tree, s.directory⟩
    (s.place a "source").path).Returns l
  named : l.isSplit = true → (a.value? "operation").isSome = true
  known : ∃ d, l.documentFor (a.value? "operation") = .ok d
  headers : ∀ text ∈ a.values "headers", ':' ∈ text.toList

/-- Reads variables, and sends them with an operation. -/
def sendVariables (client : Client) (l : Loaded) (operation text : Option String) : Run Unit := do
  let values ← readVariables text
  send client l values operation

theorem Prepared.isChosen (p : Prepared s words a l) :
    (l.isSplit && (a.value? "operation").isNone) = false := by
  cases split : l.isSplit with
  | false => rfl
  | true =>
    obtain ⟨name, given⟩ := Option.isSome_iff_exists.mp (p.named split)
    rw [given]
    rfl

theorem Prepared.exists_console (p : Prepared s words a l) :
    ∃ c, c.requests = [] ∧ c.replies = s.replies ∧
      (execute s.directory (s.endpoint.filter (!·.isEmpty)) words).run.run s.console =
        (sendVariables (s.client a) l (a.value? "operation") (a.value? "variables")).run.run c := by
  have checked := (silent_checkedArguments _ _ _).ends p.accepted
  obtain ⟨c, loaded, -⟩ : ∃ c, Ends (loadFile s.directory false (s.place a "source").path)
      s.console l c ∧ c.tree = s.console.tree := exists_ends_loadFile false p.loads
  have untouched := sendsNothing_loadFile s.directory false (s.place a "source").path s.console
  rw [show (loadFile s.directory false (s.place a "source").path).run.run s.console = (.ok l, c)
    from loaded] at untouched
  refine ⟨c, untouched.1, untouched.2, ?_⟩
  unfold execute
  rw [run_bind_of_ends checked, run_bind_of_ends (ends_get.mpr ⟨rfl, rfl⟩)]
  refine (run_bind_of_ends loaded).trans ?_
  extract_lets operation url ready known names
  obtain ⟨d, found⟩ := p.known
  have passed : known () = ready () := by
    dsimp only [known, operation]
    rw [found]
  rw [p.isChosen, if_neg Bool.false_ne_true, passed]
  refine run_bind_congr fun values c' _ => ?_
  exact run_bind_of_ends (ends_readHeaders p.headers)

/-! ## What a run comes to -/

structure Outcome.IsUsageError (outcome : Outcome) : Prop where
  exitCode : outcome.exitCode = 2
  noCrash : outcome.crash = none
  message : ∃ before message,
    outcome.errors = before ++ (Failure.report (some "execute") (.usage message)).1

structure Outcome.IsCrash (outcome : Outcome) (cause : Crash) : Prop where
  exitCode : outcome.exitCode = 1
  crash : outcome.crash = some cause

theorem readVariables_of_parse (nonempty : text ≠ "") (h : Json.parse text = .ok j) :
    readVariables (some text) = .ok j := by
  unfold readVariables
  simp only [if_neg nonempty, h]
  rfl

theorem readVariables_of_malformed (nonempty : text ≠ "") {cause : Json.Cause} {offset : Nat}
    {whole : WideText} (h : Json.parse text = .error (.malformed cause offset whole)) :
    readVariables (some text) = .error (.usage (
      s!"Invalid value for --variables: Invalid JSON: "
        ++ (Json.ReadError.malformed cause offset whole).message)) := by
  unfold readVariables
  simp only [if_neg nonempty, h]
  rfl

theorem readVariables_of_limit (nonempty : text ≠ "") {e : Json.ReadError} (limit : e.IsLimit)
    (h : Json.parse text = .error e) : readVariables (some text) = .error (.crash (.values e)) := by
  unfold readVariables
  simp only [if_neg nonempty, h]
  cases limit <;> rfl

theorem isCrash_of_unposted {e : ExecuteError} (h : Client.Unposted e) (c : Console) :
    (conclude (some "execute") (.error (executeFailure e)) c).IsCrash (.execution e) := by
  cases h <;> exact ⟨rfl, rfl⟩

def resultOf : Except ExecuteError Json → Except Failure Unit
  | .ok _ => .ok ()
  | .error e => .error (executeFailure e)

theorem fst_showOutcome (outcome : Except ExecuteError Json) (c : Console) :
    ((showOutcome outcome).run.run c).1 = resultOf outcome := by
  cases outcome <;> rfl

/-- What the command owes to a text of variables: an object is posted, in one request and without the
members that are null, and every other text is refused as a fault of use. -/
structure Outcome.HonoursVariables (outcome : Outcome) (text : String) : Prop where
  posted : ∀ members, Json.Denotes text (.object members) →
    ∃ request, outcome.requests = [request] ∧ request.body.member? "variables" =
      if members.isEmpty then none else some (.object (Json.withoutNulls members))
  refused : (∀ members, ¬Json.Denotes text (.object members)) →
    outcome.requests = [] ∧ outcome.IsUsageError

/-- How a run ends that does not honour its variables: without a request and by a failure that has no
message, or with a request although what was read is no object. -/
inductive Outcome.Deviates (outcome : Outcome) (text : String) : Prop where
  | unread (e : Json.ReadError) (limit : e.IsLimit) (refused : Json.parse text = .error e)
      (unsent : outcome.requests = []) (crash : outcome.IsCrash (.values e))
  | unposted (j : Json) (read : Json.parse text = .ok j) (e : ExecuteError) (why : Client.Unposted e)
      (unsent : outcome.requests = []) (crash : outcome.IsCrash (.execution e))
  | posted (j : Json) (read : Json.parse text = .ok j) (other : ¬j.IsObject)
      (nothing : j.isNothing = true) (request : Http.Request) (sent : outcome.requests = [request])
      (without : request.body.member? "variables" = none)

theorem Outcome.IsCrash.not_honours {outcome : Outcome} {cause : Crash}
    (crash : outcome.IsCrash cause) (unsent : outcome.requests = []) :
    ¬outcome.HonoursVariables text := by
  intro honours
  by_cases object : ∃ members, Json.Denotes text (.object members)
  · obtain ⟨members, denotes⟩ := object
    obtain ⟨request, sent, -⟩ := honours.posted members denotes
    rw [unsent] at sent
    cases sent
  · obtain ⟨-, usage⟩ := honours.refused fun members denotes => object ⟨members, denotes⟩
    cases usage.noCrash.symm.trans crash.crash

theorem Outcome.Deviates.not_honours {outcome : Outcome} (h : outcome.Deviates text) :
    ¬outcome.HonoursVariables text := by
  cases h with
  | unread e limit refused unsent crash => exact crash.not_honours unsent
  | unposted j read e why unsent crash => exact crash.not_honours unsent
  | posted j read other nothing request sent without =>
    intro honours
    have unsent := (honours.refused fun members denotes =>
      other ⟨members, (denotes.eq_of_parse read).symm⟩).1
    rw [sent] at unsent
    cases unsent

namespace Prepared

variable (p : Prepared s words a l)

include p

theorem run_of_fails {e : Failure} (h : readVariables (a.value? "variables") = .error e) :
    ∃ c, c.requests = [] ∧ run s ("execute" :: words) =
      conclude (some "execute") (.error e) c := by
  obtain ⟨c, none, -, ended⟩ := p.exists_console
  have fails : (liftM (readVariables (a.value? "variables")) : Run Json).run.run c =
      (.error e, c) := by
    rw [h]
    rfl
  exact ⟨c, none, by rw [run_execute_eq, ended, sendVariables, run_bind_of_fails fails]⟩

/-- Once its variables are read a run comes to what the exchange with the endpoint does. -/
theorem run_of_reads (h : readVariables (a.value? "variables") = .ok j) :
    let exchange := (s.client a).executeOperation s.replies l (.ofJson j) (a.value? "operation")
    ∃ c, c.requests = exchange.request.toList ∧ run s ("execute" :: words) =
      conclude (some "execute") (resultOf exchange.outcome) c := by
  intro exchange
  obtain ⟨c, none, waiting, ended⟩ := p.exists_console
  have reads : Ends (liftM (readVariables (a.value? "variables")) : Run Json) c j c := by
    rw [h]
    rfl
  have sent : (sendVariables (s.client a) l (a.value? "operation")
      (a.value? "variables")).run.run c = (showOutcome exchange.outcome).run.run { c with
        replies := exchange.replies
        requests := exchange.request.toList } := by
    rw [sendVariables, run_bind_of_ends reads, run_send, waiting, none]
    rfl
  refine ⟨((showOutcome exchange.outcome).run.run { c with
    replies := exchange.replies
    requests := exchange.request.toList }).2, (sendsNothing_showOutcome _ _).1, ?_⟩
  rw [run_execute_eq, ended, sent, fst_showOutcome]

theorem executeOperation_eq (values : VariableValue) : ∃ query,
    (s.client a).executeOperation s.replies l values (a.value? "operation") =
      (s.client a).execute s.replies query values (a.value? "operation") := by
  obtain ⟨d, found⟩ := p.known
  exact ⟨d.print, by rw [Client.executeOperation, found]⟩

section Cases

variable {members : List (WideText × Json)} (given : a.value? "variables" = some text)
  (nonempty : text ≠ "")

theorem deviates_of_unposted (read : Json.parse text = .ok j)
    (reads : readVariables (a.value? "variables") = .ok j)
    (unposted : ((s.client a).executeOperation s.replies l (.ofJson j)
      (a.value? "operation")).request = none) :
    (run s ("execute" :: words)).Deviates text := by
  obtain ⟨c, requests, ended⟩ := p.run_of_reads reads
  obtain ⟨query, same⟩ := p.executeOperation_eq (.ofJson j)
  rw [unposted] at requests
  rw [same] at unposted ended
  obtain ⟨e, failed, cause⟩ := Client.unposted_of_execute unposted
  rw [ended, failed]
  exact .unposted j read e cause ((requests_conclude _ _ c).trans requests)
    (isCrash_of_unposted cause c)

include given nonempty

omit p in
theorem reads_of_parse (read : Json.parse text = .ok j) :
    readVariables (a.value? "variables") = .ok j := by
  rw [given]
  exact readVariables_of_parse nonempty read

theorem honours_of_malformed {cause : Json.Cause} {offset : Nat} {whole : WideText}
    (h : Json.parse text = .error (.malformed cause offset whole)) :
    (run s ("execute" :: words)).HonoursVariables text := by
  have refused := readVariables_of_malformed nonempty h
  rw [← given] at refused
  obtain ⟨c, requests, ended⟩ := p.run_of_fails refused
  rw [ended]
  constructor
  · intro members denotes
    exact absurd denotes (Json.not_denotes_of_malformed h _)
  · intro _
    exact ⟨requests, rfl, rfl, c.errors, _, rfl⟩

theorem deviates_of_limit {e : Json.ReadError} (limit : e.IsLimit)
    (h : Json.parse text = .error e) : (run s ("execute" :: words)).Deviates text := by
  have refused := readVariables_of_limit nonempty limit h
  rw [← given] at refused
  obtain ⟨c, requests, ended⟩ := p.run_of_fails refused
  rw [ended]
  exact .unread e limit h requests ⟨rfl, rfl⟩

theorem honours_of_canPost (read : Json.parse text = .ok (.object members))
    (can : (s.client a).CanPost members) :
    (run s ("execute" :: words)).HonoursVariables text := by
  have reads := reads_of_parse given nonempty read
  obtain ⟨c, requests, ended⟩ := p.run_of_reads reads
  obtain ⟨query, same⟩ := p.executeOperation_eq (.ofJson (.object members))
  obtain ⟨request, sent, member⟩ := can.exists_request (Client.variablesMember_object members)
  rw [same, sent] at requests
  have posted : (run s ("execute" :: words)).requests = [request] := by
    rw [ended, requests_conclude, requests]
    rfl
  constructor
  · intro others denotes
    cases denotes.eq_of_parse read
    exact ⟨request, posted, member⟩
  · intro other
    exact absurd (Json.denotes_of_parse read) (other members)

theorem deviates_of_not_canPost (read : Json.parse text = .ok (.object members))
    (cannot : ¬(s.client a).CanPost members) :
    (run s ("execute" :: words)).Deviates text := by
  have reads := reads_of_parse given nonempty read
  obtain ⟨query, same⟩ := p.executeOperation_eq (.ofJson (.object members))
  refine p.deviates_of_unposted read reads ?_
  rw [same, Option.eq_none_iff_forall_ne_some]
  intro request sent
  exact cannot (Client.canPost_of_request (Client.variablesMember_object members) sent)

theorem deviates_of_not_isObject (read : Json.parse text = .ok j) (other : ¬j.IsObject) :
    (run s ("execute" :: words)).Deviates text := by
  have reads := reads_of_parse given nonempty read
  obtain ⟨query, same⟩ := p.executeOperation_eq (.ofJson j)
  cases sent : ((s.client a).executeOperation s.replies l (.ofJson j)
      (a.value? "operation")).request with
  | none => exact p.deviates_of_unposted read reads sent
  | some request =>
    obtain ⟨c, requests, ended⟩ := p.run_of_reads reads
    rw [sent] at requests
    rw [same] at sent
    cases nothing : j.isNothing with
    | false =>
      rw [Client.request_of_not_isObject nothing other] at sent
      cases sent
    | true =>
      have prepared := Client.variablesMember_of_isNothing nothing
      have can := Client.canPost_of_request prepared sent
      obtain ⟨posted, sent', without⟩ := can.exists_request prepared
      cases sent'.symm.trans sent
      refine .posted j read other nothing request ?_ without
      rw [ended, requests_conclude, requests]
      rfl

end Cases

end Prepared

/-- The variables are honoured exactly if their text is malformed, or an object that the client can
post. With every other text the run deviates in one of the ways above. -/
theorem honoursVariables_iff (p : Prepared s words a l) (given : a.value? "variables" = some text)
    (nonempty : text ≠ "") :
    let outcome := run s ("execute" :: words)
    let honoured := (∃ cause offset whole, Json.parse text = .error (.malformed cause offset whole)) ∨
      ∃ members, Json.parse text = .ok (.object members) ∧ (s.client a).CanPost members
    (outcome.HonoursVariables text ↔ honoured) ∧ (¬honoured → outcome.Deviates text) := by
  intro outcome honoured
  have holds : honoured → outcome.HonoursVariables text := by
    rintro (⟨cause, offset, whole, malformed⟩ | ⟨members, read, can⟩)
    · exact p.honours_of_malformed given nonempty malformed
    · exact p.honours_of_canPost given nonempty read can
  have deviates : ¬honoured → outcome.Deviates text := by
    intro other
    cases read : Json.parse text with
    | error e =>
      cases e with
      | malformed cause offset whole => exact absurd (.inl ⟨cause, offset, whole, read⟩) other
      | tooManyDigits count => exact p.deviates_of_limit given nonempty (.tooManyDigits count) read
      | tooDeep container => exact p.deviates_of_limit given nonempty (.tooDeep container) read
    | ok j =>
      by_cases object : j.IsObject
      · obtain ⟨members, rfl⟩ := object
        exact p.deviates_of_not_canPost given nonempty read fun can =>
          other (.inr ⟨members, read, can⟩)
      · exact p.deviates_of_not_isObject given nonempty read object
  refine ⟨⟨fun honours => ?_, holds⟩, deviates⟩
  by_contra other
  exact (deviates other).not_honours honours

end Command

namespace Sample

open Command

def variablesWords (text : String) : List String := executeWords ++ ["--variables", text]

def variablesArguments (text : String) : Arguments where
  options := [("source", ["q.graphql"]), ("url", ["https://api.example.com/graphql"]),
    ("variables", [text])]
  extra := []

def obliging : Setting := answered "\x7b\"data\":\x7b\"ok\":1\x7d\x7d"

def loadedOk : Loaded where
  source := "/work/q.graphql"
  document := ⟨"/work/q.graphql", [.operation ⟨none, .query, none, [], [], [field "ok"]⟩]⟩
  operations := []
  imports := []

theorem prepared_obliging {text : String}
    (accepted : obliging.executeArguments? (variablesWords text) = some (variablesArguments text)) :
    Prepared obliging (variablesWords text) (variablesArguments text) loadedOk where
  accepted := accepted
  loads := by
    have ok (r : Resolver) : (r.loadFiltered [] "\x7b ok \x7d" (some "/work/q.graphql")).Returns
        loadedOk := by cbv
    have given : (variablesArguments text).value? "source" = some "q.graphql" := rfl
    have place : obliging.place (variablesArguments text) "source" = ["work", "q.graphql"] := by
      rw [Setting.place, given]
      decide +kernel
    rw [place]
    exact returns_loadFile_workbench (by decide +kernel) (by decide +kernel) ok
  named split := by cases split
  known := ⟨loadedOk.document, rfl⟩
  headers text among := by cases among

def someText : String := "\x7b\"a\":1,\"b\":null\x7d"

def someMembers : List (WideText × Json) := [("a", .integer 1), ("b", .null)]

theorem parse_someText : Json.parse someText = .ok (.object someMembers) := by
  have spelled : (someText : WideText) = ['\x7b', '"', 'a', '"', ':', '1', ',', '"', 'b', '"', ':', 'n',
    'u', 'l', 'l', '\x7d'].map .char := by decide +kernel
  rw [spelled]
  rfl

theorem canPost_someMembers :
    (obliging.client (variablesArguments someText)).CanPost someMembers where
  ascii := by decide +kernel
  url := by
    have ok : (Url.forRequest "https://api.example.com/graphql").toOption.isSome = true := by
      decide +kernel
    cases located : Url.forRequest "https://api.example.com/graphql" with
    | error e =>
      rw [located] at ok
      cases ok
    | ok url => exact ⟨url, located⟩
  sendable := by decide +kernel

end Sample

namespace Command

theorem honoursVariables_iff_nulls :
    Prepared Sample.obliging (Sample.variablesWords Sample.someText)
        (Sample.variablesArguments Sample.someText) Sample.loadedOk ∧
      Json.parse Sample.someText = .ok (.object Sample.someMembers) ∧
      (run Sample.obliging ("execute" :: Sample.variablesWords Sample.someText)).HonoursVariables
        Sample.someText := by
  have prepared := Sample.prepared_obliging (by decide +kernel :
    Sample.obliging.executeArguments? (Sample.variablesWords Sample.someText) =
      some (Sample.variablesArguments Sample.someText))
  have read := Sample.parse_someText
  refine ⟨prepared, read, ?_⟩
  exact (honoursVariables_iff prepared rfl (by decide)).1.mpr
    (.inr ⟨_, read, Sample.canPost_someMembers⟩)

/-- A list is posted as if there were no variables when it is empty, and otherwise ends the run without
a message. -/
theorem honoursVariables_fails_list :
    let outcome (text : String) := run Sample.obliging ("execute" :: Sample.variablesWords text);
    (∀ text ∈ ["[]", "[1]"], Prepared Sample.obliging (Sample.variablesWords text)
        (Sample.variablesArguments text) Sample.loadedOk ∧
      (∀ members, ¬Json.Denotes text (.object members)) ∧
      ¬(outcome text).HonoursVariables text) ∧
    (outcome "[]").exitCode = 0 ∧ (outcome "[]").requests.length = 1 ∧
    (outcome "[1]").exitCode = 1 ∧ (outcome "[1]").crash.isSome ∧ (outcome "[1]").errors = "" := by
  intro outcome
  have empty : Json.parse "[]" = .ok (.array []) := rfl
  have one : Json.parse "[1]" = .ok (.array [.integer 1]) := rfl
  have ends : (outcome "[]").exitCode = 0 ∧ (outcome "[]").requests.length = 1 ∧
      (outcome "[1]").exitCode = 1 ∧ (outcome "[1]").crash.isSome ∧ (outcome "[1]").errors = "" := by
    decide +kernel
  refine ⟨List.forall_mem_cons.mpr ⟨?_, List.forall_mem_singleton.mpr ?_⟩, ends⟩
  · have other (members) : ¬Json.Denotes "[]" (.object members) :=
      fun denotes => nomatch denotes.eq_of_parse empty
    refine ⟨Sample.prepared_obliging (by decide +kernel), other, fun honours => ?_⟩
    have two := (honours.refused other).2.exitCode
    rw [ends.1] at two
    cases two
  · have other (members) : ¬Json.Denotes "[1]" (.object members) :=
      fun denotes => nomatch denotes.eq_of_parse one
    refine ⟨Sample.prepared_obliging (by decide +kernel), other, fun honours => ?_⟩
    have two := (honours.refused other).2.exitCode
    rw [ends.2.2.1] at two
    cases two

end Command

end OperationDocuments
