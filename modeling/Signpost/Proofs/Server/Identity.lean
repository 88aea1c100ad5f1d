import Signpost.Proofs.Dispatch.Answers
import Signpost.Proofs.Headers
import Signpost.Proofs.Server.BodyLimit

/-!
# The identity of a request

A request carries the address of its client and an identifier, and its response carries the same
identifier.  Main statement: no header that a client sends and nothing that handlers do changes the
address that the first handler sees or makes the two identifiers differ.
-/

namespace Signpost

variable {ε : Type}

/-- A request has the headers with which the first handler sees it. -/
theorem Resolution.headers_enter (resolution : Resolution ε) (req : Request ε) :
    (resolution.enter req).headers = req.headers := by
  cases resolution <;> rfl

namespace Server

private theorem headerName?_requestIdHeader :
    Http.headerName? requestIdHeader = some requestIdHeader := by
  decide +kernel

private theorem headerName?_clientHeader : Http.headerName? clientHeader = some clientHeader := by
  decide +kernel

private theorem requestIdHeader_ne_clientHeader : requestIdHeader ≠ clientHeader := by decide

section TakeIn

variable {freshId client : String} (req : Request ε)

/-- The identifier of a request is the one that its client gave it, if that is readable, or else a
fresh one. -/
theorem fst_takeIn :
    (takeIn freshId client req).1 = (req.header? requestIdHeader).getD freshId := by
  have hsame : (req.setHeader clientHeader client).header? requestIdHeader =
      req.header? requestIdHeader :=
    req.header?_setHeader_of_ne headerName?_requestIdHeader headerName?_clientHeader
      requestIdHeader_ne_clientHeader client
  rw [takeIn, identify, hsame]
  cases req.header? requestIdHeader <;> rfl

/-- The request is dispatched with this identifier. -/
theorem header?_requestIdHeader_takeIn (hfresh : Text.IsPrintable freshId) :
    (takeIn freshId client req).2.header? requestIdHeader =
      some (takeIn freshId client req).1 := by
  rw [takeIn, identify]
  cases hgiven : (req.setHeader clientHeader client).header? requestIdHeader with
  | some id => exact hgiven
  | none => exact Request.header?_setHeader_self headerName?_requestIdHeader _ hfresh

/-- It is dispatched with the address of the client, whatever the client sent. -/
theorem header?_clientHeader_takeIn (hclient : Text.IsPrintable client) :
    (takeIn freshId client req).2.header? clientHeader = some client := by
  have hset : (req.setHeader clientHeader client).header? clientHeader = some client :=
    req.header?_setHeader_self headerName?_clientHeader hclient
  rw [takeIn, identify]
  cases (req.setHeader clientHeader client).header? requestIdHeader with
  | some id => exact hset
  | none =>
    exact (Request.header?_setHeader_of_ne headerName?_clientHeader _ headerName?_requestIdHeader
      requestIdHeader_ne_clientHeader.symm freshId).trans hset

end TakeIn

/-- The response that dispatching a request left; there is one of the server's own if the dispatcher
crashed. -/
def left : Option (Exchange ε) → Response
  | some exchange => exchange.response
  | none => { Response.text "Internal Server Error" with status := 500 }

/-- A response that differs from another at most in one header, which has a certain value. -/
structure Stamped (name value : String) (before after : Response) : Prop where
  get?_self : after.headers.get? name = some value
  get?_of_ne : ∀ other, other ≠ name → after.headers.get? other = before.headers.get? other
  status_eq : after.status = before.status
  contentType_eq : after.contentType = before.contentType
  body_eq : after.body = before.body
  finished_eq : after.finished = before.finished

/-- The identifier is stamped on what dispatching left. -/
theorem stamped_stamp (id : String) (answer : Option (Exchange ε)) :
    Stamped requestIdHeader id (left answer) (stamp id answer).response := by
  have hname : ¬Response.sameName requestIdHeader "content-type" = true := by decide
  have hresponse : (stamp id answer).response =
      (left answer).setHeader requestIdHeader id := by
    cases answer <;> rfl
  rw [hresponse, Response.setHeader, if_neg hname]
  exact ⟨Dict.get?_insert_self _ _ _, fun other hne => Dict.get?_insert_of_ne _ _ hne.symm,
    rfl, rfl, rfl, rfl⟩

/-- What a server does with a request that it does not refuse, given the request as it is dispatched
and the calls of the error handlers. -/
structure Identified (router : Router ε) (client id : String) (req entered : Request ε)
    (errorCalls : List (Call ε)) (served : Served ε Response) : Prop where
  /-- Only the headers of the request are changed before it is dispatched. -/
  entered_eq : ∃ headers, entered = { req with headers }
  /-- The calls of its handlers end one way or another. -/
  ended : (Dispatcher.ofRouter router).Ended ((Dispatcher.ofRouter router).opening entered)
    errorCalls ((Dispatcher.ofRouter router).run ((Dispatcher.ofRouter router).opening entered))
  /-- These are the calls, if they come to an end. -/
  traced : (Dispatcher.ofRouter router.traced).dispatch (entered.traced []) =
    ((Dispatcher.ofRouter router).dispatch entered).map (·.traced
      ((Dispatcher.ofRouter router).stackCalls ((Dispatcher.ofRouter router).opening entered) ++
        errorCalls))
  /-- The first handler sees the address of the client, and the identifier. -/
  seen : ∀ first ∈ ((Dispatcher.ofRouter router).stackCalls
      ((Dispatcher.ofRouter router).opening entered) ++ errorCalls).head?,
    first.entry.request.header? clientHeader = some client ∧
      first.entry.request.header? requestIdHeader = some id
  /-- The response is what dispatching left, with the same identifier. -/
  stamped : Stamped requestIdHeader id (left ((Dispatcher.ofRouter router).dispatch entered))
    served.response

/-- A request that is not refused keeps its identity. -/
theorem exists_identified_respond (router : Router ε) (config : ServerConfig)
    {freshId client : String} (hfresh : Text.IsPrintable freshId)
    (hclient : Text.IsPrintable client) (req : Request ε) :
    ∃ entered errorCalls,
      Identified router client ((req.header? requestIdHeader).getD freshId) req entered errorCalls
        (respond { config, dispatcher := .ofRouter router } freshId client req) := by
  have hid : (takeIn freshId client req).1 = (req.header? requestIdHeader).getD freshId :=
    fst_takeIn req
  obtain ⟨errorCalls, hended, htraced⟩ :=
    Dispatcher.exists_ended_dispatch router (takeIn freshId client req).2
  refine ⟨(takeIn freshId client req).2, errorCalls, exists_takeIn_eq freshId client req, hended,
    htraced, fun first hfirst => ?_, ?_⟩
  · have hheaders : first.entry.request.headers = (takeIn freshId client req).2.headers := by
      rw [hended.callOrder.entry_request hfirst]
      exact Resolution.headers_enter _ _
    have hsame (name : String) :
        first.entry.request.header? name = (takeIn freshId client req).2.header? name := by
      rw [Request.header?, hheaders, Request.header?]
    rw [hsame, hsame, header?_clientHeader_takeIn req hclient,
      header?_requestIdHeader_takeIn req hfresh, hid]
    exact ⟨rfl, rfl⟩
  · rw [respond_eq, hid]
    exact stamped_stamp _ _

variable [Inhabited ε]

/-- At both entries, whatever headers come with a request that is not refused and whatever the
handlers do: the first handler sees the address that the entry knows and an identifier, which is the
first one that the client sent if that is readable and a fresh one otherwise; and the response
carries this identifier and is otherwise as dispatching left it. -/
theorem request_handle_identified (router : Router ε) (config : ServerConfig) {freshId : String}
    (hfresh : Text.IsPrintable freshId) :
    let server : Server ε := { config, dispatcher := .ofRouter router }
    (∀ (method : Method) (target : String) (sent : Dict String String) (body : Option ByteArray),
      body.any (config.maxBodySize < ·.size) = false →
        ∃ entered errorCalls,
          Identified router "test"
            (((Http.Headers.ofPairs sent.entries).text? requestIdHeader).getD freshId)
            (.create method target sent body) entered errorCalls
            (server.request freshId method target sent body)) ∧
    ∀ (client : String) (message : HttpRequest) (method : Method), Text.IsPrintable client →
      Method.ofName? message.method = some method → server.isTooLarge message = false →
        ∃ entered errorCalls served,
          server.handle freshId client message = served.out ∧
          Identified router client ((message.headers.text? requestIdHeader).getD freshId)
            (.ofParts method message.path message.query message.headers message.body)
            entered errorCalls served := by
  intro server
  constructor
  · intro method target sent body hshort
    have hrequest : server.request freshId method target sent body =
        server.respond freshId "test" (.create method target sent body) := by
      rw [request, if_neg (Bool.eq_false_iff.mp hshort)]
    have hheaders : (.create method target sent body : Request ε).headers =
        Http.Headers.ofPairs sent.entries := rfl
    rw [hrequest, ← hheaders]
    exact exists_identified_respond router config hfresh (by decide) _
  · intro client message method hclient hmethod hshort
    have hhandle : server.handle freshId client message = (server.respond freshId client
        (.ofParts method message.path message.query message.headers message.body)).out := by
      rw [handle, hmethod]
      simp only [hshort, Bool.false_eq_true, if_false]
      rfl
    obtain ⟨entered, errorCalls, hidentified⟩ := exists_identified_respond router config hfresh
      hclient (.ofParts method message.path message.query message.headers message.body)
    exact ⟨entered, errorCalls, _, hhandle, hidentified⟩

/-- A client names another address, and a handler sets another identifier on the response and goes
on; the dispatcher then crashes, since there is no error for the unknown path. -/
theorem request_handle_identified_crashed :
    let router : Router Unit :=
      { served := ({} : Route.Tree (Stack Unit)).insert [.literal "a"]
          [fun exchange => (.next, exchange.mapResponse (·.setHeader "x-request-id" "other"))]
        notFound := fun _ => none }
    let server : Server Unit := { dispatcher := .ofRouter router }
    let message : HttpRequest :=
      { method := "GET", path := "/a", headers := .ofPairs [("X-Client-Ip", "10.0.0.1"),
          ("X-Request-Id", "abc")] }
    Text.IsPrintable "1" ∧ Text.IsPrintable "127.0.0.1" ∧
    Method.ofName? message.method = some .get ∧ server.isTooLarge message = false ∧
    (∃ entered errorCalls served,
      server.handle "1" "127.0.0.1" message = served.out ∧
      Identified router "127.0.0.1" "abc"
        (.ofParts .get message.path message.query message.headers message.body)
        entered errorCalls served) ∧
    (server.handle "1" "127.0.0.1" message).response.status = 500 ∧
    (server.handle "1" "127.0.0.1" message).response.headers.lookup requestIdHeader =
      some ⟨Text.Percent.bytes "abc"⟩ := by
  intro router server message
  have hfresh : Text.IsPrintable "1" := by decide
  have hclient : Text.IsPrintable "127.0.0.1" := by decide
  have hmethod : Method.ofName? message.method = some .get := by decide +kernel
  have hshort : server.isTooLarge message = false := by decide +kernel
  have hgiven : (message.headers.text? requestIdHeader).getD "1" = "abc" := by decide +kernel
  obtain ⟨entered, errorCalls, served, hhandle, hidentified⟩ :=
    (request_handle_identified router {} hfresh).2 "127.0.0.1" message .get hclient hmethod hshort
  rw [hgiven] at hidentified
  exact ⟨hfresh, hclient, hmethod, hshort, ⟨entered, errorCalls, served, hhandle, hidentified⟩,
    by decide +kernel, by decide +kernel⟩

/-- Only the first identifier that a client sends is looked at.  Where it cannot be read, a readable
one behind it is not used, and neither is one that another spelling of the name replaced. -/
theorem request_handle_first_id_unreadable :
    let server : Server Unit := { dispatcher := .ofRouter {} }
    let sent : Dict String String := ⟨[("x-request-id", "abc"), ("X-Request-Id", "é")]⟩
    let received : Http.Headers :=
      ⟨[("x-request-id", ⟨Text.Percent.bytes "é"⟩), ("x-request-id", ⟨Text.Percent.bytes "abc"⟩)]⟩
    (sent.entries.filterMap fun entry =>
      (Http.HeaderValue.ofText? entry.2).bind (·.text?)) = ["abc"] ∧
    (server.request "1" .get "/" sent none).response.headers.get? requestIdHeader = some "1" ∧
    (received.fields.filterMap (·.2.text?)) = ["abc"] ∧
    (server.handle "1" "127.0.0.1"
        { method := "GET", path := "/", headers := received }).response.headers.lookup
      requestIdHeader = some ⟨Text.Percent.bytes "1"⟩ := by
  decide +kernel

end Server

end Signpost
