import Signpost.Http.Headers
import Signpost.Http.Query
import Signpost.Method
import Signpost.Route.Template

/-!
# Requests

A request as handlers see it.  What a client sends is taken apart once; the parameters, the names
of routes and the remainder of a served path are filled in when it is dispatched.
-/

namespace Signpost

/-- A request, with a store of type `ε` in which handlers leave things for one another. -/
structure Request (ε : Type) where
  /-- The method. -/
  method : Method
  /-- The path as it was sent, without the query. -/
  path : String
  /-- The parameters bound by the route. -/
  params : Dict String String := .empty
  /-- The query as it was sent. -/
  queryString : Option String := none
  /-- The query, taken apart. -/
  query : Dict String String := .empty
  /-- The headers. -/
  headers : Http.Headers := {}
  /-- The body, if there is one. -/
  body : Option ByteArray := none
  /-- The named routes, while the request is dispatched. -/
  names : Option Route.Names := none
  /-- What follows the place at which files are served. -/
  assetPath : Option String := none
  /-- What handlers left for one another. -/
  store : ε

namespace Request

variable {ε : Type}

/-- A request whose path and query are known apart. -/
def ofParts [Inhabited ε] (method : Method) (path : String) (queryString : Option String)
    (headers : Http.Headers) (body : Option ByteArray) : Request ε :=
  { method, path, queryString, headers, body
    query := (queryString.map Http.Query.parse).getD .empty
    store := default }

/-- A request for a target, which is a path and, after the first question mark, a query. -/
def create [Inhabited ε] (method : Method) (target : String) (headers : Dict String String)
    (body : Option ByteArray) : Request ε :=
  let (path, queryString) := Text.cutAt '?' target
  ofParts method path queryString (.ofPairs headers.entries) body

/-- The text of a header, if it is readable. -/
def header? (req : Request ε) (name : String) : Option String := req.headers.text? name

/-- Set a header, unless its name or its value is not valid. -/
def setHeader (req : Request ε) (name value : String) : Request ε :=
  { req with headers := req.headers.set name value }

/-- The body as a text, if it is one. -/
def bodyText? (req : Request ε) : Option String := req.body.bind String.fromUTF8?

/-- The address of a named route; there is none outside dispatch. -/
def url? (req : Request ε) (name : String) (params : List (String × Option String)) :
    Option String :=
  req.names.bind (·.url? name params)

end Request

end Signpost
