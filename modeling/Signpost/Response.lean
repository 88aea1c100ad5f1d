import Signpost.Dict
import Signpost.HandlerError
import Signpost.Http.Headers

/-!
# Responses

A response is put together by the handlers of a request, until one of them ends it.  What goes out
over HTTP is made from it last.
-/

namespace Signpost

/-- A response in the making. -/
structure Response where
  /-- The status. -/
  status : Nat := 200
  /-- What the body is. -/
  contentType : String := "text/plain; charset=utf-8"
  /-- The other headers. -/
  headers : Dict String String := .empty
  /-- The body. -/
  body : ByteArray := .empty
  /-- Whether it was ended. -/
  finished : Bool := false

namespace Response

/-- A text in the lower case of ASCII letters. -/
def lower (text : String) : String := String.ofList (text.toList.map Char.toLower)

/-- Whether two texts differ at most in the case of ASCII letters. -/
def sameName (a b : String) : Bool := lower a == lower b

/-- Set a header; the content type is kept apart. -/
def setHeader (res : Response) (name value : String) : Response :=
  if sameName name "content-type" then { res with contentType := value }
  else { res with headers := res.headers.insert name value }

/-- The value of a header, whatever the case of its name. -/
def header? (res : Response) (name : String) : Option String :=
  if sameName name "content-type" then some res.contentType
  else (res.headers.entries.find? fun entry => sameName entry.1 name).map (·.2)

/-- End a response with a body. -/
def finish (res : Response) (body : ByteArray) : Response := { res with body, finished := true }

/-- End a response with a text. -/
def finishText (res : Response) (text : String) : Response := res.finish text.toUTF8

/-- End a response with the text of a value. -/
def sendJson (res : Response) (value : Json) : Response :=
  { res with contentType := "application/json" }.finish value.toBytes

/-- A response that is ended with a text. -/
def text (text : String) : Response := finishText {} text

/-- A response that is ended with JSON text. -/
def json (text : String) : Response :=
  (Response.setHeader {} "Content-Type" "application/json").finishText text

/-- The body as a text, if it is one. -/
def bodyText? (res : Response) : Option String := String.fromUTF8? res.body

end Response

/-- A response as it goes out. -/
structure HttpResponse where
  /-- The status. -/
  status : Nat
  /-- Header names in lower case, with their values. -/
  headers : List (String × Http.HeaderValue) := []
  /-- The body. -/
  body : ByteArray

namespace HttpResponse

/-- A response of a text alone. -/
def plain (status : Nat) (text : String) : HttpResponse := { status, body := text.toUTF8 }

/-- A header as it goes out, if it is valid. -/
def header? (name value : String) : Option (String × Http.HeaderValue) := do
  return (← Http.headerName? name, ← Http.HeaderValue.ofText? value)

/-- The headers of a response with their names, the content type first. -/
def namedHeaders (res : Response) : List (String × String) :=
  ("content-type", res.contentType) :: res.headers.entries

/-- What goes out for a response.  A status that HTTP does not have becomes 500; a header that HTTP
does not allow spoils the whole response. -/
def ofResponse (res : Response) : HttpResponse :=
  match (namedHeaders res).mapM fun named => header? named.1 named.2 with
  | some headers =>
    { status := if 100 ≤ res.status ∧ res.status ≤ 999 then res.status else 500
      headers
      body := res.body }
  | none => plain 500 "Internal Server Error"

end HttpResponse

end Signpost
