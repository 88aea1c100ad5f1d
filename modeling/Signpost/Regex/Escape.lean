import Signpost.Regex.Engine
import Signpost.Regex.Flags

/-!
# Escapes

What a backslash and the characters after it stand for: a character, a set of characters or a
condition on the position.
-/

namespace Signpost.Regex

/-- A part of an expression that is not made of other parts. -/
inductive Atom
  /-- A character; `byte` says that it was given by the number of one byte. -/
  | char (c : Char) (byte : Bool)
  /-- A set of characters. -/
  | set (members : CharSet)
  /-- A condition on the position. -/
  | look (condition : Look)

/-- Whether a character is a hexadecimal digit. -/
def isHexDigit (c : Char) : Bool :=
  c.isDigit || ('a' ≤ c && c ≤ 'f') || ('A' ≤ c && c ≤ 'F')

/-- The character with the number that hexadecimal digits give. -/
def charOfHex (digits : List Char) : Except SyntaxError Char :=
  let number := Unicode.readHex digits
  if !digits.isEmpty && digits.all isHexDigit && decide number.isValidChar then
    .ok (Char.ofNat number)
  else .error .characterNumber

/-- Read a character given by its number, of `width` digits or in braces. -/
def readNumber (flags : Flags) (width : Nat) (text : List Char) :
    Except SyntaxError (Atom × List Char) :=
  match flags.skip text with
  | '\x7b' :: rest =>
    match flags.takeUntil (· == '\x7d') false rest with
    | some (digits, _ :: rest) => do return (.char (← charOfHex digits) false, rest)
    | _ => .error .unfinished
  | text =>
    match flags.takeExactly width false text with
    | some (digits, rest) => do return (.char (← charOfHex digits) (width == 2), rest)
    | none => .error .unfinished

/-- The property that a text between braces asks for. -/
def readQuery (text : List Char) : Property :=
  match text.span (· != '!') with
  | (name, '!' :: '=' :: value) => .valued (String.ofList name) (String.ofList value)
  | _ =>
    match text.span (fun c => c != ':' && c != '=') with
    | (name, _ :: value) => .valued (String.ofList name) (String.ofList value)
    | (name, []) => .named (String.ofList name)

/-- Read a character property, a letter or a name in braces. -/
def readProperty [Engine] (flags : Flags) (negated : Bool) (text : List Char) :
    Except SyntaxError (Atom × List Char) := do
  let (property, rest) ← match flags.skip text with
    | [] => .error .unfinished
    | '\x7b' :: rest =>
      match flags.takeUntil (· == '\x7d') false rest with
      | some (name, _ :: rest) => .ok (readQuery name, rest)
      | _ => .error .unfinished
    | '\\' :: _ => .error .property
    | c :: rest => .ok (.named (String.ofList [c]), rest)
  if !flags.unicode then .error .partialCharacter
  match Engine.property? property with
  | some members => return (.set (← flags.negateIf negated (flags.fold members)), rest)
  | none => .error .property

/-- Read the rest of a word boundary: a name in braces may say which side is meant.  Braces that
hold no name are left for a repetition. -/
def readBoundary (flags : Flags) (text : List Char) : Except SyntaxError (Atom × List Char) :=
  let ascii := !flags.unicode
  let plain : Atom × List Char := (.look (.boundary ascii), text)
  let isNameChar (c : Char) : Bool := c.isAlpha || c == '-'
  match text with
  | '\x7b' :: rest =>
    match flags.skip rest with
    | [] => .error .unfinished
    | c :: _ =>
      if isNameChar c then
        match flags.takeUntil (!isNameChar ·) false rest with
        | some (name, '\x7d' :: rest) =>
          match String.ofList name with
          | "start" => .ok (.look (.edge (some false) (some true) ascii), rest)
          | "end" => .ok (.look (.edge (some true) (some false) ascii), rest)
          | "start-half" => .ok (.look (.edge (some false) none ascii), rest)
          | "end-half" => .ok (.look (.edge none (some false) ascii), rest)
          | _ => .error .escape
        | _ => .error .unfinished
      else .ok plain
  | _ => .ok plain

/-- Read what follows a backslash. -/
def readEscape [Engine] (flags : Flags) (text : List Char) :
    Except SyntaxError (Atom × List Char) :=
  let ascii := !flags.unicode
  let class_ (unicode plain : CharSet) (negated : Bool) (rest : List Char) := do
    return (Atom.set (← flags.negateIf negated (if flags.unicode then unicode else plain)), rest)
  match text with
  | [] => .error .unfinished
  | c :: rest =>
    match c with
    | 'x' => readNumber flags 2 rest
    | 'u' => readNumber flags 4 rest
    | 'U' => readNumber flags 8 rest
    | 'p' => readProperty flags false rest
    | 'P' => readProperty flags true rest
    | 'd' => class_ digits asciiDigits false rest
    | 'D' => class_ digits asciiDigits true rest
    | 's' => class_ blanks asciiBlanks false rest
    | 'S' => class_ blanks asciiBlanks true rest
    | 'w' => class_ wordChars asciiWordChars false rest
    | 'W' => class_ wordChars asciiWordChars true rest
    | 'a' => .ok (.char '\x07' false, rest)
    | 'f' => .ok (.char '\x0c' false, rest)
    | 't' => .ok (.char '\t' false, rest)
    | 'n' => .ok (.char '\n' false, rest)
    | 'r' => .ok (.char '\r' false, rest)
    | 'v' => .ok (.char '\x0b' false, rest)
    | 'A' => .ok (.look .start, rest)
    | 'z' => .ok (.look .finish, rest)
    | 'b' => readBoundary flags rest
    | 'B' => .ok (.look (.inside ascii), rest)
    | '<' => .ok (.look (.edge (some false) (some true) ascii), rest)
    | '>' => .ok (.look (.edge (some true) (some false) ascii), rest)
    | c =>
      if Text.isAscii c && !c.isAlphanum then .ok (.char c false, rest) else .error .escape

end Signpost.Regex
