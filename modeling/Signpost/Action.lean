import Signpost.Controllers
import Signpost.Route.Pattern
import Signpost.Text.Letter

/-!
# Actions

What a route is declared with: the handler to run or a reference to a controller's method, the
middleware to run before it, a name for the route, and patterns for its parameters.  Everything is
looked up when the route is declared, so that nothing can be missing later.
-/

namespace Signpost

/-- Middleware, given itself or by its name. -/
inductive Middleware (ε : Type)
  /-- The handler itself. -/
  | handler (run : Handler ε)
  /-- The handler of that name. -/
  | named (name : String)

/-- Handlers by the names they can be referred to. -/
abbrev Aliases (ε : Type) := Dict String (Handler ε)

namespace Middleware

variable {ε : Type}

/-- The handler that is meant. -/
def resolve (aliases : Aliases ε) : Middleware ε → Except Error (Handler ε)
  | .handler run => .ok run
  | .named name =>
    match aliases.get? name with
    | some run => .ok run
    | none => .error (.unknownMiddleware name)

/-- The handlers that are meant. -/
def resolveAll (aliases : Aliases ε) (middleware : List (Middleware ε)) :
    Except Error (Stack ε) :=
  middleware.mapM (resolve aliases)

end Middleware

/-- What a route runs in the end. -/
inductive Target (ε : Type)
  /-- The handler itself. -/
  | handler (run : Handler ε)
  /-- A controller's method, written `controller@method`. -/
  | reference (text : String)

/-- Take a reference apart into a controller and a method. -/
def splitReference? (reference : String) : Option (String × String) :=
  match Text.pieces '@' reference with
  | [controller, method] => some (Text.trim controller, Text.trim method)
  | _ => none

/-- The handler that is meant. -/
def Target.resolve {ε : Type} (resolver : Option (Resolver ε)) (space : String) :
    Target ε → Except Error (Handler ε)
  | .handler run => .ok run
  | .reference text =>
    match splitReference? text with
    | none => .error (.unresolvedAction text .referenceFormat)
    | some (controller, method) =>
      match resolver with
      | none => .error (.unresolvedAction text .noResolver)
      | some resolver => resolver.action controller method space

/-- What a route is declared with. -/
structure Action (ε : Type) where
  /-- What to run; an action without it is refused. -/
  target : Option (Target ε) := none
  /-- What to run before. -/
  middleware : List (Middleware ε) := []
  /-- The name of the route. -/
  name : Option String := none
  /-- The patterns of parameters. -/
  constraints : List (String × String) := []

/-- An action of which everything has been looked up. -/
structure Prepared (ε : Type) where
  /-- What to run before. -/
  middleware : Stack ε
  /-- What to run. -/
  handler : Handler ε
  /-- The name of the route. -/
  name : Option String
  /-- The patterns of parameters. -/
  constraints : Route.Patterns

namespace Action

variable {ε : Type}

/-- The action that runs a handler. -/
def ofHandler (run : Handler ε) : Action ε := { target := some (.handler run) }

/-- The action that runs a controller's method. -/
def ofReference (text : String) : Action ε := { target := some (.reference text) }

/-- Look everything up: what to run, then the patterns, then the middleware. -/
def prepare (aliases : Aliases ε) (resolver : Option (Resolver ε)) (space nameStart path : String)
    (action : Action ε) : Except Error (Prepared ε) := do
  let some target := action.target | throw (.malformedRoute path .missingHandler)
  let handler ← target.resolve resolver space
  let constraints ← Route.Patterns.declareAll .empty action.constraints
  let middleware ← Middleware.resolveAll aliases action.middleware
  return { middleware, handler, constraints, name := action.name.map (nameStart ++ ·) }

end Action

end Signpost
