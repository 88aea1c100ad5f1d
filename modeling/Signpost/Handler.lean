import Signpost.Request
import Signpost.Response

/-!
# Handlers

A handler is given a request and the response in the making, changes both, and says how to go on.
-/

namespace Signpost

/-- A request with the response to it. -/
structure Exchange (ε : Type) where
  /-- The request. -/
  request : Request ε
  /-- The response. -/
  response : Response := {}

namespace Exchange

variable {ε : Type}

/-- Change the request. -/
def mapRequest (f : Request ε → Request ε) (exchange : Exchange ε) : Exchange ε :=
  { exchange with request := f exchange.request }

/-- Change the response. -/
def mapResponse (f : Response → Response) (exchange : Exchange ε) : Exchange ε :=
  { exchange with response := f exchange.response }

end Exchange

/-- How a handler wants to go on. -/
inductive Outcome
  /-- With the next handler. -/
  | next
  /-- Not at all. -/
  | done
  /-- With the error handlers. -/
  | fail (error : HandlerError)
  /-- The handler crashed, perhaps with some last words. -/
  | crash (text : Option String)

/-- What answers a request, or prepares its answer. -/
abbrev Handler (ε : Type) := Exchange ε → Outcome × Exchange ε

/-- What answers a request that failed. -/
abbrev ErrorHandler (ε : Type) := HandlerError → Handler ε

/-- The handlers of a route, in the order in which they are called. -/
abbrev Stack (ε : Type) := List (Handler ε)

/-- The handler that takes note of a request and goes on. -/
def logging {ε : Type} : Handler ε := fun exchange => (.next, exchange)

end Signpost
