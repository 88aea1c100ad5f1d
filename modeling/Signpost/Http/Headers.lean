import Signpost.Http.Token
import Signpost.Text.Percent

/-!
# Headers

Header names are tokens whose case does not count; they are kept in lower case.  A name may have
several values.  Setting a header replaces all of them, and a header that is no valid header is not
set.  A value is readable if it is plain ASCII text.
-/

namespace Signpost.Http

/-- The value of a header. -/
structure HeaderValue where
  /-- Its bytes. -/
  bytes : List UInt8
  deriving DecidableEq, Repr

namespace HeaderValue

/-- Whether a byte can stand in a value. -/
def isValidByte (b : UInt8) : Bool := b == 9 || (32 ≤ b && b != 127)

/-- Whether a byte can stand in a value that is readable. -/
def isReadableByte (b : UInt8) : Bool := b == 9 || (32 ≤ b && b < 127)

/-- The value written as a text, if it is valid. -/
def ofText? (text : String) : Option HeaderValue :=
  let bytes := Text.Percent.bytes text
  if bytes.all isValidByte then some ⟨bytes⟩ else none

/-- The text of a value, if it is readable. -/
def text? (value : HeaderValue) : Option String :=
  if value.bytes.all isReadableByte then
    some (String.ofList (value.bytes.map fun b => Char.ofNat b.toNat))
  else none

end HeaderValue

/-- A header name in lower case, if it is valid. -/
def headerName? (name : String) : Option String :=
  if isToken name && name.utf8ByteSize < 65536 then
    some (String.ofList (name.toList.map Char.toLower))
  else none

/-- The headers of a message. -/
structure Headers where
  /-- Names in lower case and their values, in order. -/
  fields : List (String × HeaderValue) := []
  deriving DecidableEq, Repr

namespace Headers

/-- The first value under a name in lower case. -/
def first? (headers : Headers) (name : String) : Option HeaderValue := headers.fields.lookup name

/-- The first value of a header. -/
def get? (headers : Headers) (name : String) : Option HeaderValue :=
  (headerName? name).bind headers.first?

/-- The text of the first value of a header, if it is readable. -/
def text? (headers : Headers) (name : String) : Option String :=
  (headers.get? name).bind HeaderValue.text?

/-- Make a value the only one under a name in lower case. -/
def replace (headers : Headers) (name : String) (value : HeaderValue) : Headers :=
  ⟨headers.fields.filter (·.1 != name) ++ [(name, value)]⟩

/-- Set a header, unless its name or its value is not valid. -/
def set (headers : Headers) (name value : String) : Headers :=
  match headerName? name, HeaderValue.ofText? value with
  | some name, some value => headers.replace name value
  | _, _ => headers

/-- Set headers one after the other. -/
def ofPairs (pairs : List (String × String)) : Headers :=
  pairs.foldl (fun headers pair => headers.set pair.1 pair.2) {}

end Headers

end Signpost.Http
