import Signpost.Action

/-!
# Scopes

A scope is what routes share that are declared together: the path they are declared under, the
middleware before theirs, the namespace of their controllers, and the beginning of their names.
A group is a scope within a scope.
-/

namespace Signpost

/-- What the routes of a group share. -/
structure Scope (ε : Type) where
  /-- The path they are declared under. -/
  base : String := "/"
  /-- The middleware before theirs. -/
  middleware : Stack ε := []
  /-- The namespace of their controllers. -/
  space : String := ""
  /-- The beginning of their names. -/
  nameStart : String := ""

/-- What a group adds to the scope around it. -/
structure GroupOptions (ε : Type) where
  /-- A path to go on by. -/
  base : String := ""
  /-- More middleware. -/
  middleware : List (Middleware ε) := []
  /-- A namespace to go on by. -/
  space : String := ""
  /-- What names go on with. -/
  name : String := ""

/-- The scope of a group, its middleware having been looked up. -/
def Scope.nest {ε : Type} (scope : Scope ε) (options : GroupOptions ε) (middleware : Stack ε) :
    Scope ε where
  base := Path.join scope.base options.base
  middleware := scope.middleware ++ middleware
  space := Text.dropLeading '/' (Path.join scope.space options.space)
  nameStart := scope.nameStart ++ options.name

end Signpost
