import Signpost.Files.Directory
import Signpost.Router
import Signpost.Text.Kebab

/-!
# Registration

Routes are declared one after the other within a scope.  The first failure ends a declaration and
everything it is part of; what was declared before stays.
-/

namespace Signpost

/-- A declaration within a scope, which changes the router or fails. -/
abbrev Registration (ε : Type) := ReaderT (Scope ε) (ExceptT Error (StateM (Router ε)))

/-- What the method of a controller is declared with beside its handler. -/
structure ActionOptions (ε : Type) where
  /-- What to run before. -/
  middleware : List (Middleware ε) := []
  /-- The name of its route. -/
  name : Option String := none

namespace Registration

variable {ε : Type}

/-- Use a value if it is one. -/
def require {α : Type} (value : Except Error α) : Registration ε α :=
  match value with
  | .ok value => pure value
  | .error error => throw error

/-- Declare an action for a path and a purpose: look everything up, then put the stack where the
path leads and, if its last segment may be missing, also at the place before, and note the name. -/
def declare (purpose : Purpose) (path : String) (action : Action ε) : Registration ε Unit := do
  let scope ← read
  let router ← get
  let path := Path.join scope.base path
  let prepared ← require
    (action.prepare router.aliases router.resolver scope.space scope.nameStart path)
  let segments ← require (Route.Segment.ofPath path prepared.constraints router.patterns)
  let stack := scope.middleware ++ prepared.middleware ++ [prepared.handler]
  modify (·.insert purpose segments stack)
  if segments.getLast?.any Route.Segment.isOptional then
    modify (·.insert purpose segments.dropLast stack)
  if let some name := prepared.name then
    modify (·.nameRoute name path)

/-- Declare a route of one method. -/
def route (method : Method) (path : String) (action : Action ε) : Registration ε Unit :=
  declare (.requests method) path action

/-- Declare a route of several methods. -/
def matching (methods : List Method) (path : String) (action : Action ε) : Registration ε Unit :=
  methods.forM fun method => route method path action

/-- Declare a route of every method. -/
def any (path : String) (action : Action ε) : Registration ε Unit :=
  matching Method.all path action

/-- Declare the default pattern of a parameter for the routes to come. -/
def pattern (param source : String) : Registration ε Unit := do
  let pattern ← require (Route.Pattern.compile param source)
  modify (·.keepPattern param pattern)

/-- Serve a directory. -/
def serve (files : Files.Tree) (path : String) (dir : Files.Directory) : Registration ε Unit :=
  declare .files path (.ofHandler (dir.handler files))

/-- Declare routes within a scope of their own. -/
def group {α : Type} (options : GroupOptions ε) (body : Registration ε α) :
    Registration ε α := do
  let scope ← read
  let middleware ← require (Middleware.resolveAll (← get).aliases options.middleware)
  withReader (fun _ => scope.nest options middleware) body

/-- The methods whose requests a controller's method answers, by how its name begins, each with
the path at which it does. -/
def methodRoutes (name : String) : List (Method × String) :=
  Method.all.filterMap fun method =>
    (Text.after? method.token name).map fun rest =>
      let path := Text.Kebab.kebab rest
      (method, if path = "index" then "" else path)

/-- Declare the routes of a controller's methods. -/
def methods (options : Dict String (ActionOptions ε)) (controller : Controller ε) :
    Registration ε Unit :=
  controller.forM fun (name, run) =>
    (methodRoutes name).forM fun (method, path) =>
      let extra := (options.get? name).getD {}
      route method path
        { target := some (.handler run), middleware := extra.middleware, name := extra.name }

/-- Declare the routes of a controller under a path. -/
def controller (path name : String) (options : Dict String (ActionOptions ε)) :
    Registration ε Unit := do
  let some resolver := (← get).resolver | throw (.unresolvedAction name .noResolver)
  let actions ← require (resolver name (← read).space)
  group { base := path } (methods options actions)

/-- Make a declaration at the root of a router. -/
def apply {α : Type} (registration : Registration ε α) (router : Router ε) :
    Except Error α × Router ε :=
  registration {} router

end Registration

end Signpost
