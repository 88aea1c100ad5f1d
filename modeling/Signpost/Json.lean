import Signpost.Json.Shortest
import Signpost.Text.Percent

/-!
# JSON

JSON values and their compact text: no blanks, and the keys of an object in ascending order.
Only quotes, backslashes and control characters are escaped.
-/

namespace Signpost

/-- A JSON value. -/
inductive Json
  /-- Nothing. -/
  | null
  /-- A truth value. -/
  | bool (value : Bool)
  /-- A whole number. -/
  | int (value : Int)
  /-- A number with a fraction or an exponent. -/
  | float (value : Float)
  /-- A text. -/
  | str (text : String)
  /-- A sequence of values. -/
  | arr (items : List Json)
  /-- Named values. -/
  | obj (members : List (String × Json))
  deriving Inhabited

namespace Json

/-- The two lower-case hexadecimal digits of a number below 256. -/
def hexPair (n : Nat) : List Char := [Nat.digitChar (n / 16), Nat.digitChar (n % 16)]

/-- A character inside quotes. -/
def escape (c : Char) : List Char :=
  match c with
  | '"' => ['\\', '"']
  | '\\' => ['\\', '\\']
  | '\x08' => ['\\', 'b']
  | '\x0c' => ['\\', 'f']
  | '\n' => ['\\', 'n']
  | '\r' => ['\\', 'r']
  | '\t' => ['\\', 't']
  | c => if c.toNat < 32 then ['\\', 'u', '0', '0'] ++ hexPair c.toNat else [c]

/-- A text in quotes. -/
def quote (text : String) : String :=
  "\"" ++ String.ofList (text.toList.flatMap escape) ++ "\""

/-- Members in the order of their names. -/
def sortMembers (members : List (String × String)) : List (String × String) :=
  members.mergeSort fun a b => a.1 ≤ b.1

mutual

/-- The text of a value. -/
def render : Json → String
  | .null => "null"
  | .bool true => "true"
  | .bool false => "false"
  | .int value => toString value
  | .float value => Shortest.render value
  | .str text => quote text
  | .arr items => "[" ++ ",".intercalate (renderItems items) ++ "]"
  | .obj members =>
    "\x7b" ++ ",".intercalate ((sortMembers (renderMembers members)).map fun m =>
      quote m.1 ++ ":" ++ m.2) ++ "\x7d"

/-- The texts of the items of a sequence. -/
def renderItems : List Json → List String
  | [] => []
  | item :: items => render item :: renderItems items

/-- The names of an object's members, with the texts of their values. -/
def renderMembers : List (String × Json) → List (String × String)
  | [] => []
  | (name, value) :: members => (name, render value) :: renderMembers members

end

/-- A text, or nothing. -/
def optional : Option String → Json
  | some text => .str text
  | none => .null

/-- The bytes of the text of a value. -/
def toBytes (value : Json) : ByteArray := value.render.toUTF8

end Json

end Signpost
