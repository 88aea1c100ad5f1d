import Signpost.Method
import Signpost.Regex.Flags

/-!
# Errors

What can go wrong when routes are declared, matched and served, by cause.  `Error.message` is the
one place where a cause is put into words.
-/

namespace Signpost

/-- Why a declared path or its action is refused. -/
inductive RouteFault
  /-- The action does not say what to run. -/
  | missingHandler
  /-- A parameter that may be missing is followed by another segment. -/
  | optionalNotLast
  /-- Another reason, in words. -/
  | other (reason : String)
  deriving DecidableEq, Repr

/-- Why a controller or one of its actions cannot be found. -/
inductive ControllerFault
  /-- A reference is not a controller and a method with one `@` between them. -/
  | referenceFormat
  /-- Nothing is there to look controllers up with. -/
  | noResolver
  /-- There is no controller of that name. -/
  | unknownController
  /-- The controller has no method of that name. -/
  | unknownMethod
  /-- Another reason, in words. -/
  | other (reason : String)
  deriving DecidableEq, Repr

/-- The causes of failure. -/
inductive Error
  /-- An address cannot be listened on. -/
  | bindFailed (address reason : String)
  /-- No route answers a request of that method for that path. -/
  | routeNotFound (method : Method) (path : String)
  /-- A route cannot be declared under a path. -/
  | malformedRoute (path : String) (fault : RouteFault)
  /-- The pattern declared for a parameter is not a regular expression. -/
  | invalidPattern (param : String) (cause : Regex.SyntaxError)
  /-- A controller, or an action of one, cannot be found. -/
  | unresolvedAction (reference : String) (fault : ControllerFault)
  /-- No middleware has that name. -/
  | unknownMiddleware (name : String)
  /-- Reading or writing failed. -/
  | ioFailed (reason : String)
  /-- A request has a longer body than is accepted. -/
  | payloadTooLarge (limit actual : Nat)
  deriving DecidableEq, Repr

/-- A reason in words. -/
def RouteFault.message : RouteFault → String
  | .missingHandler => "route action is missing its handler (\x60uses\x60)"
  | .optionalNotLast => "optional parameter must be the last segment"
  | .other reason => reason

/-- A reason in words. -/
def ControllerFault.message : ControllerFault → String
  | .referenceFormat => "expected the format \"[controller_name]@[method]\""
  | .noResolver => "no controller resolver configured"
  | .unknownController => "unknown controller"
  | .unknownMethod => "controller has no such method"
  | .other reason => reason

/-- A failure in words. -/
def Error.message : Error → String
  | .bindFailed address reason => "Failed to bind server to " ++ address ++ ": " ++ reason
  | .routeNotFound method path => "No route found for " ++ method.name ++ " " ++ path
  | .malformedRoute path fault => "Malformed route " ++ path ++ ": " ++ fault.message
  | .invalidPattern param cause =>
    "Invalid pattern for parameter '" ++ param ++ "': " ++ cause.message
  | .unresolvedAction reference fault =>
    "Cannot resolve controller action '" ++ reference ++ "': " ++ fault.message
  | .unknownMiddleware name => "Unknown middleware '" ++ name ++ "'"
  | .ioFailed reason => "IO error: " ++ reason
  | .payloadTooLarge limit actual =>
    "Payload too large: limit=" ++ toString limit ++ " bytes, received=" ++ toString actual ++
      " bytes"

end Signpost
