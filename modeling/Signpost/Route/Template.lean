import Signpost.Dict
import Signpost.Route.Placeholder
import Signpost.Text.Percent

/-!
# Templates

A declared path is also the template of the addresses it answers: given values, its placeholders
are filled, and the values no placeholder asks for become a query.  Templates are kept under the
names of routes.
-/

namespace Signpost.Route

/-- A declared path. -/
abbrev Template := String

namespace Template

/-- The values that are set, in their order. -/
def setParams (params : List (String × Option String)) : List (String × String) :=
  params.filterMap fun (key, value) => value.map (key, ·)

/-- What a segment becomes: a placeholder its value, or `null` if it has none, unless it may be
missing. -/
def fill (params : List (String × String)) (segment : String) : Option String :=
  match Placeholder.parse? segment with
  | none => some segment
  | some p =>
    match latest? p.name params with
    | some value => some value
    | none => if p.isOptional then none else some "null"

/-- The names of the placeholders. -/
def placeholderNames (template : Template) : List String :=
  (Text.pieces '/' template).filterMap fun segment => (Placeholder.parse? segment).map (·.name)

/-- The address without its query.  Slashes at its end are dropped, but for the root. -/
def path (template : Template) (params : List (String × String)) : String :=
  let filled := "/".intercalate ((Text.pieces '/' template).filterMap (fill params))
  let path := Text.dropTrailing '/' filled
  if path = "" then "/" else path

/-- The values that no placeholder asks for. -/
def extraParams (template : Template) (params : List (String × String)) : List (String × String) :=
  params.filter fun param => !template.placeholderNames.contains param.1

/-- A query, each pair as `key=value`. -/
def query (pairs : List (String × String)) : String :=
  "&".intercalate (pairs.map fun pair =>
    Text.Percent.encode pair.1 ++ "=" ++ Text.Percent.encode pair.2)

/-- The address that the given values make of a template. -/
def url (template : Template) (params : List (String × Option String)) : String :=
  let params := setParams params
  match template.extraParams params with
  | [] => template.path params
  | extra => template.path params ++ "?" ++ query extra

end Template

/-- Templates by the names of routes. -/
abbrev Names := Dict String Template

/-- The address of a named route. -/
def Names.url? (names : Names) (name : String) (params : List (String × Option String)) :
    Option String :=
  (names.get? name).map (·.url params)

end Signpost.Route
