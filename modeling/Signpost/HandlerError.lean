import Signpost.Json

/-!
# Errors of handlers

A handler reports a failure with a status, a message and details, each of which it may leave open.
A normalized error has a status and a message.
-/

namespace Signpost

/-- A failure reported by a handler. -/
structure HandlerError where
  /-- The status of the response. -/
  status : Option Nat := none
  /-- What went wrong. -/
  message : Option String := none
  /-- Anything else about it. -/
  details : Option Json := none

namespace HandlerError

/-- The message of an error that has none. -/
def defaultMessage : String := "An unknown error occurred."

/-- The message of the error for a path that nothing answers. -/
def notFoundMessage : String := "The page you are looking for could not be found."

/-- An error without details. -/
def of (status : Nat) (message : String) : HandlerError := ⟨some status, some message, none⟩

/-- An error of the server itself. -/
def internal (message : String) : HandlerError := of 500 message

/-- The error for a path that nothing answers. -/
def notFound (path : String) : HandlerError :=
  ⟨some 404, some notFoundMessage, some (.obj [("path", .str path)])⟩

/-- The error for a handler that crashed, with what it said, if anything. -/
def crashed (text : Option String) : HandlerError := ⟨some 500, text, none⟩

/-- The status, 500 if it is left open. -/
def statusCode (error : HandlerError) : Nat := error.status.getD 500

/-- The message, or the default one. -/
def text (error : HandlerError) : String := error.message.getD defaultMessage

/-- The error with its status and its message filled in. -/
def normalize (error : HandlerError) : HandlerError :=
  { error with status := some error.statusCode, message := some error.text }

/-- The error in words. -/
def display (error : HandlerError) : String :=
  error.text ++ " (" ++ toString error.statusCode ++ ")"

/-- The error as it is written; details are left out if there are none. -/
def toJson (error : HandlerError) : Json :=
  .obj ([("status", (error.status.map fun n => .int n).getD .null),
    ("message", .optional error.message)] ++ (error.details.map ("meta", ·)).toList)

/-- The body of the response to an error that nothing handled. -/
def report (error : HandlerError) : Json :=
  .obj [("error", .str error.text), ("status", .int error.statusCode),
    ("meta", error.details.getD .null)]

end HandlerError

end Signpost
