import Signpost.Files.Mounts
import Signpost.Pipeline
import Signpost.Router

/-!
# Dispatching

A request runs the stack of the route it matches.  Where there is none it is answered by the files
served at its path, and where there are none either by the router's error for unknown paths.
-/

namespace Signpost

/-- A router to which nothing more is declared. -/
structure Dispatcher (ε : Type) where
  /-- The router. -/
  router : Router ε
  /-- The places at which it serves files. -/
  mounts : Files.Mounts (Stack ε)

namespace Dispatcher

variable {ε : Type}

/-- Dispatch requests to the routes of a router. -/
def ofRouter (router : Router ε) : Dispatcher ε := ⟨router, .ofTree router.served⟩

/-- Hand the error for an unknown path to the error handlers. -/
def raiseNotFound (dispatcher : Dispatcher ε) (exchange : Exchange ε) :
    Option (Completion × Exchange ε) :=
  (dispatcher.router.notFound exchange.request.path).map fun error =>
    Pipeline.fail dispatcher.router.errorHandlers error exchange

/-- Run the stack of a place at which files are served; if all of it goes on, the path is
unknown. -/
def runServed (dispatcher : Dispatcher ε) (stack : Stack ε) (exchange : Exchange ε) :
    Option (Completion × Exchange ε) :=
  match Pipeline.run dispatcher.router.errorHandlers stack exchange with
  | (.exhausted, exchange) =>
    if exchange.response.finished then some (.exhausted, exchange)
    else dispatcher.raiseNotFound exchange
  | result => some result

/-- Run what answers a request. -/
def run (dispatcher : Dispatcher ε) (exchange : Exchange ε) :
    Option (Completion × Exchange ε) :=
  let req := exchange.request
  match dispatcher.router.match? req.method req.path with
  | .ok (stack, params) =>
    some (Pipeline.run dispatcher.router.errorHandlers stack
      (exchange.mapRequest ({ · with params })))
  | .error _ =>
    match dispatcher.mounts.resolve? req.path with
    | some (stack, rest) =>
      dispatcher.runServed stack (exchange.mapRequest ({ · with assetPath := some rest }))
    | none => dispatcher.raiseNotFound exchange

/-- Answer a request; there is no answer if the dispatcher itself crashes. -/
def dispatch (dispatcher : Dispatcher ε) (req : Request ε) : Option (Exchange ε) := do
  let (completion, exchange) ←
    dispatcher.run { request := { req with names := some dispatcher.router.names } }
  return exchange.mapResponse (completion.complete exchange.request)

end Dispatcher

end Signpost
