import Signpost.Regex.Boundary
import Signpost.Unicode.Age
import Signpost.Unicode.ScriptExtension

/-!
# Character properties by name

A property is asked for by a name alone, `Greek` or `Lu` or `White_Space`, or by a name and a
value, `Script=Greek`.  Case, blanks, hyphens and underscores in names do not count, nor does a
leading `is`.
-/

namespace Signpost.Regex

/-- A property as it is asked for in an expression. -/
inductive Property
  /-- By a name alone. -/
  | named (name : String)
  /-- By a name and a value. -/
  | valued (name value : String)
  deriving DecidableEq, Repr

namespace Property

open Unicode

/-- A name without the differences that do not count. -/
def normalize (name : String) : String :=
  let plain (text : List Char) : List Char :=
    (text.filter fun c => Text.isAscii c && c != ' ' && c != '_' && c != '-').map Char.toLower
  match name.toList with
  | i :: s :: rest =>
    if i.toLower = 'i' ∧ s.toLower = 's' then
      let rest := plain rest
      String.ofList (if rest = ['c'] then ['i', 's', 'c'] else rest)
    else String.ofList (plain (i :: s :: rest))
  | short => String.ofList (plain short)

/-- What is listed under a name. -/
def find {α : Type} (listed : List (List String × α)) (name : String) : Option α :=
  (listed.find? (·.1.contains name)).map (·.2)

/-- The characters of a general category, or of a group of them. -/
def category? (name : String) : Option CharSet :=
  match name with
  | "any" => some .all
  | "ascii" => some (.range '\x00' '\x7f')
  | "assigned" => some (.ofTable Category.assigned)
  | "cn" | "unassigned" => some (CharSet.compl (.ofTable Category.assigned))
  | "c" | "other" =>
    some (.union (.compl (.ofTable Category.assigned))
      (.ofTable (Category.control ++ Category.format ++ Category.privateUse)))
  | name => (find Category.named name).map .ofTable

/-- The characters that have a property, if it is known. -/
def set? : Property → Option CharSet
  | .named name =>
    let name := normalize name
    let binary :=
      if name ∈ ["cf", "sc", "lc"] then none
      else find (LetterCase.named ++ Identifier.named ++ Usage.named) name
    binary.map .ofTable <|> category? name <|> (find Script.named name).map .ofTable
  | .valued name value =>
    let value := normalize value
    match normalize name with
    | "gc" | "generalcategory" => category? value
    | "sc" | "script" => (find Script.named value).map .ofTable
    | "scx" | "scriptextensions" => (find ScriptExtension.named value).map .ofTable
    | "age" => (Age.upTo? value).map .ofTable
    | "gcb" | "graphemeclusterbreak" => find Boundary.graphemes value
    | "wb" | "wordbreak" => find Boundary.words value
    | "sb" | "sentencebreak" => find Boundary.sentences value
    | _ => none

end Property

end Signpost.Regex
