import Signpost.Dispatcher

/-!
# Servers

A server takes requests over HTTP or from within the same program.  It refuses bodies that are too
long, and gives every request an identifier and the address of its client.
-/

namespace Signpost

/-- How a server is set up. -/
structure ServerConfig where
  /-- Where it listens. -/
  address : String := "127.0.0.1:8000"
  /-- Whether connections stay open after a request. -/
  keepAlive : Bool := true
  /-- How many milliseconds requests have to come to an end. -/
  shutdownTimeout : Nat := 30000
  /-- How many bytes a body may have. -/
  maxBodySize : Nat := 1024 * 1024

/-- A server. -/
structure Server (ε : Type) where
  /-- How it is set up. -/
  config : ServerConfig := {}
  /-- What answers its requests. -/
  dispatcher : Dispatcher ε

/-- A request as it comes in over HTTP. -/
structure HttpRequest where
  /-- The method, which can be any token. -/
  method : String
  /-- The path. -/
  path : String
  /-- The query. -/
  query : Option String := none
  /-- The headers. -/
  headers : Http.Headers := {}
  /-- The body, if it could be read. -/
  body : Option ByteArray := none

/-- What a server did with a request. -/
structure Served (ε ρ : Type) where
  /-- The response. -/
  response : ρ
  /-- What handlers left behind, if the request was dispatched to the end. -/
  store : Option ε := none

namespace Server

variable {ε : Type}

/-- The server of a router. -/
def ofRouter (router : Router ε) : Server ε := { dispatcher := .ofRouter router }

/-- The header with the identifier of a request. -/
def requestIdHeader : String := "x-request-id"

/-- The header with the address of a client. -/
def clientHeader : String := "x-client-ip"

/-- The request with its identifier, the given one if it has none that is readable. -/
def identify (freshId : String) (req : Request ε) : String × Request ε :=
  match req.header? requestIdHeader with
  | some id => (id, req)
  | none => (freshId, req.setHeader requestIdHeader freshId)

/-- Answer a request that is not refused. -/
def respond (server : Server ε) (freshId client : String) (req : Request ε) :
    Served ε Response :=
  let (id, req) := identify freshId (req.setHeader clientHeader client)
  match server.dispatcher.dispatch req with
  | some exchange =>
    ⟨exchange.response.setHeader requestIdHeader id, some exchange.request.store⟩
  | none =>
    ⟨({ Response.text "Internal Server Error" with status := 500 }).setHeader requestIdHeader id,
      none⟩

/-- Answer a request from within the program. -/
def request [Inhabited ε] (server : Server ε) (freshId : String) (method : Method)
    (target : String) (headers : Dict String String) (body : Option ByteArray) :
    Served ε Response :=
  if body.any (server.config.maxBodySize < ·.size) then
    ⟨{ Response.text "Payload Too Large" with status := 413 }, none⟩
  else server.respond freshId "test" (.create method target headers body)

/-- Read a number of bytes, which has to be below `2 ^ 64`. -/
def readSize? (text : String) : Option Nat :=
  let digits := (Text.after? "+" text).getD text
  if digits = "" ∨ digits.toList.any (!·.isDigit) then none
  else
    let size := digits.toList.foldl (fun n c => 10 * n + (c.toNat - '0'.toNat)) 0
    if size < 18446744073709551616 then some size else none

/-- Whether the announced or the actual body of a request is too long. -/
def isTooLarge (server : Server ε) (message : HttpRequest) : Bool :=
  ((message.headers.text? "content-length").bind readSize?).any (server.config.maxBodySize < ·) ||
    message.body.any (server.config.maxBodySize < ·.size)

/-- Answer a request that came in over HTTP from a client. -/
def handle [Inhabited ε] (server : Server ε) (freshId client : String) (message : HttpRequest) :
    Served ε HttpResponse :=
  match Method.ofName? message.method with
  | none => ⟨.plain 405 "Method Not Allowed", none⟩
  | some method =>
    if server.isTooLarge message then ⟨.plain 413 "Payload Too Large", none⟩
    else
      let served := server.respond freshId client
        (.ofParts method message.path message.query message.headers message.body)
      ⟨.ofResponse served.response, served.store⟩

end Server

end Signpost
