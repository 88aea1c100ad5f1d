/-!
# Methods

The request methods that routes can be declared for.
-/

namespace Signpost

/-- A request method. -/
inductive Method
  /-- Read. -/
  | get
  /-- Create or submit. -/
  | post
  /-- Replace. -/
  | put
  /-- Remove. -/
  | delete
  /-- Change in part. -/
  | patch
  /-- Ask what is possible. -/
  | options
  deriving DecidableEq, Repr

namespace Method

/-- All methods, in the order in which routes are listed. -/
def all : List Method := [.get, .post, .put, .delete, .patch, .options]

/-- The name of a method in a request. -/
def name : Method → String
  | .get => "GET"
  | .post => "POST"
  | .put => "PUT"
  | .delete => "DELETE"
  | .patch => "PATCH"
  | .options => "OPTIONS"

/-- What the name of a controller's method begins with if it answers requests of this method. -/
def token : Method → String
  | .get => "get"
  | .post => "post"
  | .put => "put"
  | .delete => "delete"
  | .patch => "patch"
  | .options => "options"

/-- The method with a name; names are in capitals. -/
def ofName? (name : String) : Option Method := all.find? (·.name == name)

/-- Every method is listed. -/
theorem mem_all (m : Method) : m ∈ all := by cases m <;> decide

end Method

end Signpost
