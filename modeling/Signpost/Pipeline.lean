import Signpost.Handler

/-!
# Pipelines

The handlers of a stack are called one after the other until one does not go on.  A failure is
handed to the error handlers in the same way, each of which gets the latest error.
-/

namespace Signpost

/-- How the handlers of a request came to an end. -/
inductive Completion
  /-- One of them was done. -/
  | finished
  /-- All of them went on. -/
  | exhausted
  /-- The error handlers left an error. -/
  | unhandled (error : HandlerError)

namespace Pipeline

variable {ε : Type}

/-- Hand a normalized error to the error handlers. -/
def replay (error : HandlerError) :
    List (ErrorHandler ε) → Exchange ε → Completion × Exchange ε
  | [], exchange => (.unhandled error, exchange)
  | handler :: rest, exchange =>
    match handler error exchange with
    | (.next, exchange) => replay error rest exchange
    | (.done, exchange) => (.finished, exchange)
    | (.fail error, exchange) => replay error.normalize rest exchange
    | (.crash text, exchange) => replay (HandlerError.crashed text).normalize rest exchange

/-- Hand an error to the error handlers. -/
def fail (errorHandlers : List (ErrorHandler ε)) (error : HandlerError) (exchange : Exchange ε) :
    Completion × Exchange ε :=
  replay error.normalize errorHandlers exchange

/-- Call the handlers of a stack. -/
def run (errorHandlers : List (ErrorHandler ε)) :
    Stack ε → Exchange ε → Completion × Exchange ε
  | [], exchange => (.exhausted, exchange)
  | handler :: rest, exchange =>
    match handler exchange with
    | (.next, exchange) => run errorHandlers rest exchange
    | (.done, exchange) => (.finished, exchange)
    | (.fail error, exchange) => fail errorHandlers error exchange
    | (.crash text, exchange) => fail errorHandlers (.crashed text) exchange

end Pipeline

/-- End a response that no handler ended. -/
def Completion.complete {ε : Type} (completion : Completion) (req : Request ε) (res : Response) :
    Response :=
  if res.finished then res
  else
    match completion with
    | .finished => res
    | .exhausted =>
      { res with status := 404, contentType := "text/plain; charset=utf-8" }.finishText
        ("Cannot " ++ req.method.name ++ " " ++ req.path)
    | .unhandled error => { res with status := error.statusCode }.sendJson error.report

end Signpost
