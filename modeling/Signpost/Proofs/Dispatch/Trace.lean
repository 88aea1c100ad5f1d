import Signpost.Dispatcher
import Signpost.Proofs.MapValues

/-!
# Traces

A handler can be made to note every call of it in the store, where no other handler looks.  A traced
router is a router all of whose handlers do, so what it runs is what the router itself would run.
Main statements: a traced router finds the traced stack of the route, or of the files, that the
router finds.
-/

namespace Signpost

/-- Where a handler stands: in a stack, or among the error handlers. -/
inductive Site (ε : Type)
  /-- A handler of a stack. -/
  | stack (stack : Stack ε) (index : Nat)
  /-- An error handler. -/
  | errorHandler (index : Nat)

/-- A call of a handler. -/
structure Call (ε : Type) where
  /-- Where the handler stands. -/
  site : Site ε
  /-- The error it was given, if it handles errors. -/
  error : Option HandlerError
  /-- What it was given. -/
  entry : Exchange ε
  /-- How it wanted to go on. -/
  outcome : Outcome
  /-- What it left. -/
  exit : Exchange ε

/-- A store, and the calls so far. -/
structure Traced (ε : Type) where
  /-- The store. -/
  store : ε
  /-- The calls, in their order. -/
  calls : List (Call ε)

variable {ε : Type}

/-- A request with the calls so far. -/
def Request.traced (calls : List (Call ε)) (req : Request ε) : Request (Traced ε) :=
  { req with store := ⟨req.store, calls⟩ }

/-- A request as handlers see it that know of no calls. -/
def Request.untraced (req : Request (Traced ε)) : Request ε := { req with store := req.store.store }

namespace Exchange

/-- An exchange with the calls so far. -/
def traced (calls : List (Call ε)) (exchange : Exchange ε) : Exchange (Traced ε) :=
  ⟨exchange.request.traced calls, exchange.response⟩

/-- An exchange as handlers see it that know of no calls. -/
def untraced (exchange : Exchange (Traced ε)) : Exchange ε :=
  ⟨exchange.request.untraced, exchange.response⟩

/-- The calls so far. -/
def calls (exchange : Exchange (Traced ε)) : List (Call ε) := exchange.request.store.calls

end Exchange

namespace Handler

/-- A call of a handler, of which it is known where it stands and what error it was given. -/
def call (site : Site ε) (error : Option HandlerError) (run : Handler ε) (exchange : Exchange ε) :
    Call ε :=
  let (outcome, exit) := run exchange
  { site, error, entry := exchange, outcome, exit }

/-- The handler that also notes its calls. -/
def traced (site : Site ε) (error : Option HandlerError) (run : Handler ε) :
    Handler (Traced ε) := fun exchange =>
  let call := run.call site error exchange.untraced
  (call.outcome, call.exit.traced (exchange.calls ++ [call]))

/-- A traced handler does what it does, and its call is added to the others. -/
theorem traced_apply (site : Site ε) (error : Option HandlerError) (run : Handler ε)
    (calls : List (Call ε)) (exchange : Exchange ε) :
    run.traced site error (exchange.traced calls) =
      ((run exchange).1,
        (run exchange).2.traced (calls ++ [run.call site error exchange])) := rfl

end Handler

namespace Stack

/-- The handlers of a stack from an index on, each of which notes its calls. -/
def tracedFrom (stack : Stack ε) : Nat → List (Handler ε) → Stack (Traced ε)
  | _, [] => []
  | index, run :: rest => run.traced (.stack stack index) none :: tracedFrom stack (index + 1) rest

/-- A stack all of whose handlers note their calls. -/
def traced (stack : Stack ε) : Stack (Traced ε) := stack.tracedFrom 0 stack

end Stack

namespace ErrorHandler

/-- Error handlers from an index on, each of which notes its calls. -/
def tracedFrom : Nat → List (ErrorHandler ε) → List (ErrorHandler (Traced ε))
  | _, [] => []
  | index, run :: rest =>
    (fun error => (run error).traced (.errorHandler index) (some error)) ::
      tracedFrom (index + 1) rest

end ErrorHandler

namespace Router

/-- A router all of whose handlers note their calls.  What is only needed to declare routes is left
out. -/
def traced (router : Router ε) : Router (Traced ε) where
  trees := router.trees.map (·.map Stack.traced)
  served := router.served.map Stack.traced
  names := router.names
  errorHandlers := ErrorHandler.tracedFrom 0 router.errorHandlers
  notFound := router.notFound

/-- A traced router matches what the router matches. -/
theorem match?_traced (router : Router ε) (method : Method) (path : String) :
    router.traced.match? method path =
      (router.match? method path).map fun found => (found.1.traced, found.2) := by
  have htrees : router.traced.trees.get? method =
      (router.trees.get? method).map (·.map Stack.traced) := Dict.get?_map _ _ _
  rw [match?, match?, htrees]
  cases router.trees.get? method with
  | none => rfl
  | some tree =>
    rw [Option.map_some, Option.bind_some, Option.bind_some, Route.Tree.find?_map]
    cases tree.find? path <;> rfl

/-- A traced router serves files where the router does. -/
theorem resolve?_traced (router : Router ε) (path : String) :
    (Dispatcher.ofRouter router.traced).mounts.resolve? path =
      ((Dispatcher.ofRouter router).mounts.resolve? path).map
        fun found => (found.1.traced, found.2) :=
  Files.Mounts.resolve?_ofTree_map Stack.traced router.served path

end Router

end Signpost
