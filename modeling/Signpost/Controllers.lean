import Signpost.Error
import Signpost.Handler
import Signpost.Path

/-!
# Controllers

A controller is a list of named methods, each with the handler that it runs.  Controllers are kept
under paths, so that one can be referred to by its whole path or, from within a namespace, by the
rest of it.
-/

namespace Signpost

/-- The methods of a controller, in the order in which they were declared. -/
abbrev Controller (ε : Type) := List (String × Handler ε)

/-- Where controllers are found by their name and the namespace it is used in. -/
abbrev Resolver (ε : Type) := (controller space : String) → Except Error (Controller ε)

/-- The handler of a method. -/
def Resolver.action {ε : Type} (resolver : Resolver ε) (controller method space : String) :
    Except Error (Handler ε) := do
  match (← resolver controller space).lookup method with
  | some handler => return handler
  | none => throw (.unresolvedAction (controller ++ "@" ++ method) .unknownMethod)

/-- Controllers by the paths they are kept under. -/
structure Controllers (ε : Type) where
  /-- The controllers. -/
  entries : Dict String (Controller ε) := .empty

namespace Controllers

variable {ε : Type}

/-- Keep a controller under a name, which may be a path. -/
def register (controllers : Controllers ε) (name : String) (controller : Controller ε) :
    Controllers ε :=
  ⟨controllers.entries.insert (Path.join "/" name) controller⟩

/-- Keep several controllers. -/
def ofList (controllers : List (String × Controller ε)) : Controllers ε :=
  controllers.foldl (fun kept entry => kept.register entry.1 entry.2) {}

/-- Find a controller by its path under a namespace. -/
def resolver (controllers : Controllers ε) : Resolver ε := fun controller space =>
  let key := Path.join space controller
  match controllers.entries.get? key with
  | some methods => .ok methods
  | none => .error (.unresolvedAction (Text.dropLeading '/' key) .unknownController)

end Controllers

end Signpost
