import Mathlib
import OperationDocuments.Execute.Client

/-! # Variables in requests

Variables that were read from JSON hold no records, so they are sent as they are: an object loses the
members that are null, and an empty one is left out. What counts as something and is no object is an
error before anything else is looked at. -/
namespace OperationDocuments

namespace Json

variable {members : List (WideText × Json)} {j : Json}

def isNull : Json → Bool
  | null => true
  | _ => false

def IsObject (j : Json) : Prop := ∃ members, j = object members

def withoutNulls (members : List (WideText × Json)) : List (WideText × Json) :=
  members.filter fun member => !member.2.isNull

mutual

def isFinite : Json → Bool
  | float x => x.isFinite
  | array items => areFinite items
  | object members => membersFinite members
  | null | boolean _ | integer _ | text _ => true

def areFinite : List Json → Bool
  | [] => true
  | j :: more => j.isFinite && areFinite more

def membersFinite : List (WideText × Json) → Bool
  | [] => true
  | (_, j) :: more => j.isFinite && membersFinite more

end

/-- The members can be part of a request: their numbers are finite, and their keys and texts have no
surrogates. -/
def Sendable (members : List (WideText × Json)) : Prop :=
  membersFinite members = true ∧ membersEncodable members = true

instance : Decidable (Sendable members) := inferInstanceAs (Decidable (_ ∧ _))

theorem isEncodable_ofString (s : String) : (text s).isEncodable = true := by
  have plain (chars : List Char) :
      (chars.map CodePoint.char).all (fun c => c.char?.isSome) = true := by
    induction chars with
    | nil => rfl
    | cons c chars ih => simp [CodePoint.char?]
  exact plain s.toList

theorem sendable_append {more : List (WideText × Json)} :
    Sendable (members ++ more) ↔ Sendable members ∧ Sendable more := by
  induction members with
  | nil => simp [Sendable, membersFinite, membersEncodable]
  | cons member members ih =>
    simp only [Sendable, List.cons_append, membersFinite, membersEncodable, Bool.and_eq_true] at ih ⊢
    tauto

end Json

namespace VariableValue

variable {members : List (WideText × Json)} {items : List Json}

theorem dump_ofJson (j : Json) : (ofJson j).dump = ofJson j := by
  cases j <;> rfl

theorem map_dump_ofItems : (ofItems items).map dump = ofItems items := by
  induction items with
  | nil => rfl
  | cons j items ih => rw [ofItems, List.map_cons, ih, dump_ofJson]

theorem prepare_ofJson (j : Json) : (ofJson j).prepare = ofJson j := by
  cases j with
  | array items => exact congrArg array map_dump_ofItems
  | _ => rfl

theorem isNothing_ofJson (j : Json) : (ofJson j).isNothing = j.isNothing := by
  cases j with
  | array items => cases items <;> rfl
  | object members => cases members <;> rfl
  | _ => rfl

theorem kindName_ofJson (j : Json) : (ofJson j).kindName = j.kindName := by
  cases j <;> rfl

theorem ofMembers_append (members more : List (WideText × Json)) :
    ofMembers (members ++ more) = ofMembers members ++ ofMembers more := by
  induction members with
  | nil => rfl
  | cons member members ih => rw [List.cons_append, ofMembers, ih, ofMembers, List.cons_append]

theorem prepareVariables_ofMembers :
    prepareVariables (ofMembers members) = ofMembers (Json.withoutNulls members) := by
  induction members with
  | nil => rfl
  | cons member members ih =>
    obtain ⟨key, j⟩ := member
    unfold prepareVariables at ih ⊢
    cases j with
    | null => exact ih
    | array items => exact congrArg₂ List.cons (congrArg (Prod.mk key)
        (prepare_ofJson (.array items))) ih
    | _ => exact congrArg₂ List.cons rfl ih

mutual

theorem encode_ofJson : ∀ j : Json, (ofJson j).encode =
    if j.isFinite then .ok j else .error .outOfRange
  | .null | .boolean _ | .integer _ | .text _ => rfl
  | .float x => rfl
  | .array items => by
    rw [ofJson, encode, encodeItems_ofItems items, Json.isFinite]
    cases Json.areFinite items <;> rfl
  | .object members => by
    rw [ofJson, encode, encodeMembers_ofMembers members, Json.isFinite]
    cases Json.membersFinite members <;> rfl

theorem encodeItems_ofItems : ∀ items : List Json, encodeItems (ofItems items) =
    if Json.areFinite items then .ok items else .error .outOfRange
  | [] => rfl
  | j :: more => by
    rw [ofItems, encodeItems, encode_ofJson j, encodeItems_ofItems more, Json.areFinite]
    cases j.isFinite <;> cases Json.areFinite more <;> rfl

theorem encodeMembers_ofMembers : ∀ members : List (WideText × Json),
    encodeMembers (ofMembers members) =
      if Json.membersFinite members then .ok members else .error .outOfRange
  | [] => rfl
  | (key, j) :: more => by
    rw [ofMembers, encodeMembers, encode_ofJson j, encodeMembers_ofMembers more,
      Json.membersFinite]
    cases j.isFinite <;> cases Json.membersFinite more <;> rfl

end

end VariableValue

namespace Client

open Json VariableValue

variable {c : Client} {replies : List Http.Reply} {query : String} {operation : Option String}
  {members sent : List (WideText × Json)} {values : VariableValue} {request : Http.Request}
  {j b : Json}

def nameMember (operation : Option String) : List (WideText × Json) :=
  match operation with
  | none => []
  | some name => if name = "" then [] else [("operationName", .text name)]

theorem operationMember_eq (operation : Option String) :
    operationMember operation = ofMembers (nameMember operation) := by
  cases operation with
  | none => rfl
  | some name => by_cases h : name = "" <;> simp [operationMember, nameMember, h, ofMembers, ofJson]

def bodyMembers (query : String) (sent : List (WideText × Json)) (operation : Option String) :
    List (WideText × Json) :=
  ("query", .text query) :: (sent ++ nameMember operation)

theorem sendable_bodyMembers : Sendable (bodyMembers query sent operation) ↔ Sendable sent := by
  have named : Sendable (nameMember operation) := by
    cases operation with
    | none => exact ⟨rfl, rfl⟩
    | some name =>
      by_cases h : name = ""
      · simp [nameMember, h, Sendable, membersFinite, membersEncodable]
      · have encodable := isEncodable_ofString name
        have key := isEncodable_ofString "operationName"
        simp only [isEncodable] at encodable key
        simp [nameMember, h, Sendable, membersFinite, membersEncodable, isFinite, isEncodable,
          encodable, key]
  have queried : Sendable [((("query" : String) : WideText), Json.text query)] := by
    have encodable := isEncodable_ofString query
    have key := isEncodable_ofString "query"
    simp only [isEncodable] at encodable key
    simp [Sendable, membersFinite, membersEncodable, isFinite, isEncodable, encodable, key]
  show Sendable ([_] ++ (sent ++ nameMember operation)) ↔ _
  rw [sendable_append, sendable_append]
  tauto

theorem body_eq_ok_iff : body query (ofMembers sent) operation = .ok b ↔
    Sendable sent ∧ b = .object (bodyMembers query sent operation) := by
  have whole : VariableValue.object (("query", .leaf (.text query)) ::
      (ofMembers sent ++ operationMember operation)) =
        ofJson (.object (bodyMembers query sent operation)) := by
    rw [operationMember_eq, ← ofMembers_append]
    rfl
  have same : Sendable (bodyMembers query sent operation) ↔ Sendable sent := sendable_bodyMembers
  rw [← same, body, whole, encode_ofJson]
  unfold Sendable
  rw [isFinite]
  cases finite : membersFinite (bodyMembers query sent operation) with
  | false => simp [Except.mapError, bind, Except.bind]
  | true =>
    cases encodable : membersEncodable (bodyMembers query sent operation) with
    | false =>
      simp [Except.mapError, bind, Except.bind, isEncodable, encodable, throw, throwThe,
        MonadExceptOf.throw]
    | true =>
      simp [Except.mapError, bind, Except.bind, isEncodable, encodable, pure, Except.pure, eq_comm]

/-! ## Requests -/

/-- The variables of a body: those of an object that are not null, and none of an empty one. -/
def variableMembers (members : List (WideText × Json)) : List (WideText × Json) :=
  if members.isEmpty then [] else [("variables", .object (withoutNulls members))]

theorem sendable_variableMembers :
    Sendable (variableMembers members) ↔ Sendable (withoutNulls members) := by
  unfold variableMembers
  cases members with
  | nil => exact Iff.rfl
  | cons member members =>
    have key := isEncodable_ofString "variables"
    simp only [isEncodable] at key
    simp [Sendable, membersFinite, membersEncodable, isFinite, isEncodable, key]

theorem find?_bodyMembers : Assoc.find? (bodyMembers query (variableMembers members) operation)
    "variables" = if members.isEmpty then none else some (.object (withoutNulls members)) := by
  have query_ne : (("query" : String) : WideText) ≠ ("variables" : String) := by decide
  have operation_ne : (("operationName" : String) : WideText) ≠ ("variables" : String) := by decide
  have unnamed : Assoc.find? (nameMember operation) ("variables" : String) = none := by
    cases operation with
    | none => rfl
    | some name =>
      by_cases h : name = "" <;> simp [nameMember, h, Assoc.find?, operation_ne]
  unfold bodyMembers variableMembers
  rw [Assoc.find?, if_neg query_ne, Assoc.find?_append, unnamed, Option.or_none]
  cases members <;> simp [Assoc.find?]

theorem variablesMember_object (members : List (WideText × Json)) :
    variablesMember (ofJson (.object members)) = .ok (ofMembers (variableMembers members)) := by
  unfold variablesMember variableMembers
  rw [isNothing_ofJson, Json.isNothing]
  cases empty : members.isEmpty with
  | true => rfl
  | false =>
    simp only [ofJson, Bool.false_eq_true, if_false, prepareVariables_ofMembers]
    rfl

/-- What counts as nothing is sent like an object without members. -/
theorem variablesMember_of_isNothing (h : j.isNothing = true) :
    variablesMember (ofJson j) = .ok (ofMembers (variableMembers [])) := by
  unfold variablesMember
  rw [isNothing_ofJson, if_pos h]
  rfl

/-- What counts as something and is no object cannot be variables. -/
theorem variablesMember_of_not_isObject (something : j.isNothing = false) (h : ¬j.IsObject) :
    variablesMember (ofJson j) = .error (.notVariables j.kindName) := by
  unfold variablesMember
  rw [isNothing_ofJson, something, ← kindName_ofJson]
  cases j with
  | object members => exact absurd ⟨members, rfl⟩ h
  | _ => rfl

theorem request_eq_ok_iff
    (prepared : variablesMember values = .ok (ofMembers sent)) :
    c.request query values operation = .ok request ↔
      Sendable sent ∧ ∃ url, Url.forRequest c.url = .ok url ∧
        request = .build url (c.headersFor url) (.object (bodyMembers query sent operation)) := by
  unfold Client.request
  rw [prepared]
  cases located : Url.forRequest c.url with
  | error e => simp [bind, Except.bind, Except.mapError]
  | ok url =>
    cases made : body query (ofMembers sent) operation with
    | error e =>
      have unsendable : ¬Sendable sent := by
        intro sendable
        rw [body_eq_ok_iff.mpr ⟨sendable, rfl⟩] at made
        cases made
      simp [bind, Except.bind, Except.mapError, made, unsendable]
    | ok b =>
      obtain ⟨sendable, rfl⟩ := body_eq_ok_iff.mp made
      simp [bind, Except.bind, Except.mapError, made, sendable, pure, Except.pure, eq_comm]

/-- Why a client posts nothing although its operation is known. -/
inductive Unposted : ExecuteError → Prop where
  | notVariables (kind : String) : Unposted (.notVariables kind)
  | badUrl (e : UrlError) : Unposted (.badUrl e)
  | unsendable (e : EncodeError) : Unposted (.unsendable e)
  | unencodableHeader : Unposted .unencodableHeader

theorem unposted_of_variablesMember {e : ExecuteError} (h : variablesMember values = .error e) :
    Unposted e := by
  unfold variablesMember at h
  split at h
  · cases h
  · split at h <;> cases h
    exact .notVariables _

theorem unposted_of_body {members : List (WideText × VariableValue)} {e : ExecuteError}
    (h : body query members operation = .error e) : Unposted e := by
  unfold body at h
  cases encoded : (VariableValue.object (("query", .leaf (.text query)) ::
      (members ++ operationMember operation))).encode with
  | error fault =>
    simp only [encoded, Except.mapError, bind, Except.bind, Except.error.injEq] at h
    exact h ▸ .unsendable fault
  | ok b =>
    simp only [encoded, Except.mapError, bind, Except.bind] at h
    split at h <;> cases h
    exact .unsendable _

theorem unposted_of_request {e : ExecuteError} (h : c.request query values operation = .error e) :
    Unposted e := by
  unfold Client.request at h
  cases prepared : variablesMember values with
  | error fault =>
    rw [prepared] at h
    cases h
    exact unposted_of_variablesMember prepared
  | ok sent =>
    cases located : Url.forRequest c.url with
    | error fault =>
      rw [prepared, located] at h
      cases h
      exact .badUrl fault
    | ok url =>
      cases made : body query sent operation with
      | error fault =>
        simp only [prepared, located, made, Except.mapError, bind, Except.bind,
          Except.error.injEq] at h
        exact h ▸ unposted_of_body made
      | ok b =>
        simp [prepared, located, made, Except.mapError, bind, Except.bind, pure, Except.pure] at h

theorem request_execute : (c.execute replies query values operation).request = some request ↔
    c.requestHeaders.areAscii = true ∧ c.request query values operation = .ok request := by
  have same : ({ c with isOpen := true } : Client).request query values operation =
      c.request query values operation := rfl
  unfold Client.execute
  cases ascii : c.requestHeaders.areAscii with
  | false => simp
  | true =>
    simp only [Bool.not_true, Bool.false_eq_true, if_false, same]
    cases c.request query values operation <;> simp

theorem unposted_of_execute (h : (c.execute replies query values operation).request = none) :
    ∃ e, (c.execute replies query values operation).outcome = .error e ∧ Unposted e := by
  have same : ({ c with isOpen := true } : Client).request query values operation =
      c.request query values operation := rfl
  unfold Client.execute at h ⊢
  cases ascii : c.requestHeaders.areAscii with
  | false => exact ⟨_, rfl, .unencodableHeader⟩
  | true =>
    simp only [ascii, Bool.not_true, Bool.false_eq_true, if_false, same] at h ⊢
    cases made : c.request query values operation with
    | error e => exact ⟨e, rfl, unposted_of_request made⟩
    | ok request =>
      rw [made] at h
      cases h

/-- A client can post variables with these members: its headers and its URL are such that a request can
be put together, and so are the members. -/
structure CanPost (c : Client) (members : List (WideText × Json)) : Prop where
  ascii : c.requestHeaders.areAscii = true
  url : ∃ url, Url.forRequest c.url = .ok url
  sendable : Sendable (withoutNulls members)

section Posting

variable (prepared : variablesMember values = .ok (ofMembers (variableMembers members)))

include prepared

theorem canPost_of_request
    (sent : (c.execute replies query values operation).request = some request) :
    CanPost c members := by
  obtain ⟨ascii, made⟩ := request_execute.mp sent
  obtain ⟨sendable, url, located, -⟩ := (request_eq_ok_iff prepared).mp made
  exact ⟨ascii, ⟨url, located⟩, sendable_variableMembers.mp sendable⟩

theorem CanPost.exists_request (h : CanPost c members) :
    ∃ request, (c.execute replies query values operation).request = some request ∧
      request.body.member? "variables" =
        if members.isEmpty then none else some (.object (withoutNulls members)) := by
  obtain ⟨url, located⟩ := h.url
  have made : c.request query values operation = .ok (.build url (c.headersFor url)
      (.object (bodyMembers query (variableMembers members) operation))) :=
    (request_eq_ok_iff prepared).mpr
      ⟨sendable_variableMembers.mpr h.sendable, url, located, rfl⟩
  exact ⟨_, request_execute.mpr ⟨h.ascii, made⟩, find?_bodyMembers⟩

end Posting

theorem request_of_not_isObject (something : j.isNothing = false) (h : ¬j.IsObject) :
    (c.execute replies query (ofJson j) operation).request = none := by
  cases sent : (c.execute replies query (ofJson j) operation).request with
  | none => rfl
  | some request =>
    have made := (request_execute.mp sent).2
    unfold Client.request at made
    rw [variablesMember_of_not_isObject something h] at made
    cases made

end Client

end OperationDocuments
