import Signpost.Route.Template
import Signpost.Route.Tree
import Signpost.Scope

/-!
# Routers

A router holds what has been declared: a tree of routes for every method, one of places at which
files are served, the named routes, default patterns and named middleware, and what answers where
no route does.
-/

namespace Signpost

/-- What a path is declared for. -/
inductive Purpose
  /-- For requests of a method. -/
  | requests (method : Method)
  /-- For serving files. -/
  | files
  deriving DecidableEq, Repr

/-- How a purpose is listed. -/
def Purpose.name : Purpose → String
  | .requests method => method.name
  | .files => "PUBLIC"

/-- Everything that has been declared. -/
structure Router (ε : Type) where
  /-- The routes of the methods that have any. -/
  trees : Dict Method (Route.Tree (Stack ε)) := .empty
  /-- The places at which files are served. -/
  served : Route.Tree (Stack ε) := {}
  /-- The named routes. -/
  names : Route.Names := .empty
  /-- The default patterns of parameters. -/
  patterns : Route.Patterns := .empty
  /-- The named middleware. -/
  aliases : Aliases ε := .empty
  /-- Where controllers are found. -/
  resolver : Option (Resolver ε) := none
  /-- What errors are handed to. -/
  errorHandlers : List (ErrorHandler ε) := []
  /-- The error for a path that nothing answers; there is none if working it out crashes. -/
  notFound : String → Option HandlerError := fun path => some (.notFound path)

namespace Router

variable {ε : Type}

/-- Give a handler a name that middleware can be referred to by. -/
def nameMiddleware (router : Router ε) (name : String) (run : Handler ε) : Router ε :=
  { router with aliases := router.aliases.insert name run }

/-- Look controllers up among the given ones. -/
def useControllers (router : Router ε) (controllers : Controllers ε) : Router ε :=
  { router with resolver := some controllers.resolver }

/-- Hand errors also to a further handler, after all others. -/
def addErrorHandler (router : Router ε) (run : ErrorHandler ε) : Router ε :=
  { router with errorHandlers := router.errorHandlers ++ [run] }

/-- Keep a pattern as the default of a parameter. -/
def keepPattern (router : Router ε) (param : String) (pattern : Route.Pattern) : Router ε :=
  { router with patterns := router.patterns.insert param pattern }

/-- Put a stack where the segments lead, in the tree of a purpose; the tree of a method is begun
with its first stack. -/
def insert (router : Router ε) (purpose : Purpose) (segments : List Route.Segment)
    (stack : Stack ε) : Router ε :=
  match purpose with
  | .requests method =>
    let tree := (router.trees.get? method).getD {}
    { router with trees := router.trees.insert method (tree.insert segments stack) }
  | .files => { router with served := router.served.insert segments stack }

/-- Give a path a name. -/
def nameRoute (router : Router ε) (name path : String) : Router ε :=
  { router with names := router.names.insert name path }

/-- The stack for a request, and the parameters that its path binds. -/
def match? (router : Router ε) (method : Method) (path : String) :
    Except Error (Stack ε × Dict String String) :=
  match (router.trees.get? method).bind (·.find? path) with
  | some found => .ok found
  | none => .error (.routeNotFound method path)

/-- The address of a named route. -/
def url? (router : Router ε) (name : String) (params : List (String × Option String)) :
    Option String :=
  router.names.url? name params

/-- The paths declared for a purpose, as a tree holds them. -/
def paths (purpose : Purpose) (tree : Route.Tree (Stack ε)) : List (Purpose × String) :=
  tree.entries.map fun entry => (purpose, Path.render entry.1)

/-- Everything that paths are declared for, method by method, the served files last. -/
def routeList (router : Router ε) : List (Purpose × String) :=
  (Method.all.flatMap fun method =>
    ((router.trees.get? method).map (paths (.requests method))).getD []) ++
  paths .files router.served

end Router

end Signpost
