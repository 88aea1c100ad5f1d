import Signpost.Dict
import Signpost.Text.Percent
import Signpost.Text.Pieces

/-!
# Queries

A query is a sequence of `key=value` pairs with `&` between them.  Keys and values are written as
forms are: a plus is a blank, and percent escapes are read.  Of pairs with one key the last
counts.
-/

namespace Signpost.Http.Query

/-- Read a key or a value. -/
def decode (text : String) : String :=
  Text.Percent.decode (String.ofList (text.toList.map fun c => if c = '+' then ' ' else c))

/-- Read a pair; one without `=` has an empty value. -/
def decodePair (pair : String) : String × String :=
  let (key, value) := Text.cutAt '=' pair
  (decode key, decode (value.getD ""))

/-- Read a query. -/
def parse (query : String) : Dict String String :=
  .ofList (((Text.pieces '&' query).filter (· != "")).map decodePair)

end Signpost.Http.Query
