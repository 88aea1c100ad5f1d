/-!
# Shortest decimals

The text of a floating-point number has the fewest digits that still tell it from every other
number, and of those the digits nearest to it.  The number is taken apart into `m · 2 ^ q`; the
decimals that read back as it lie between the midpoints to its two neighbours.
-/

namespace Signpost.Json.Shortest

/-- A positive binary number `mantissa · 2 ^ exponent` with the room around it: whether the ends of
the interval that rounds to it belong to it, and whether the neighbour below is half as far. -/
structure Binary where
  /-- The whole number to be scaled. -/
  mantissa : Nat
  /-- The power of two it is scaled by. -/
  exponent : Int
  /-- Whether the neighbour below is nearer than the one above. -/
  narrow : Bool

/-- The number of fractions: a number of 64 bits has a fraction of 52 bits. -/
def fractions : Nat := Nat.pow 2 52

/-- The number of exponents: there are 11 bits for it. -/
def exponents : Nat := Nat.pow 2 11

/-- The positive binary number with the given bits, sign left out. -/
def Binary.ofBits (bits : Nat) : Binary :=
  let fraction : Nat := bits % fractions
  let power : Nat := bits / fractions % exponents
  if power = 0 then ⟨fraction, -1074, false⟩
  else ⟨fractions + fraction, (power : Int) - 1075, fraction == 0 && power > 1⟩

/-- Whether `digits · 10 ^ scale` lies in the interval that rounds to a number.  A quarter of the
last place is the unit of the ends, and both sides are multiplied by the same powers, so that
whole numbers are compared. -/
def Binary.admits (b : Binary) (digits : Nat) (scale : Int) : Bool :=
  let quarter := b.exponent - 2
  let value := digits * Nat.pow 10 scale.toNat * Nat.pow 2 (-quarter).toNat
  let unit := Nat.pow 2 quarter.toNat * Nat.pow 10 (-scale).toNat
  let low := (4 * b.mantissa - (if b.narrow then 1 else 2)) * unit
  let high := (4 * b.mantissa + 2) * unit
  if b.mantissa % 2 = 0 then low ≤ value && value ≤ high else low < value && value < high

/-- A number of units `10 ^ scale`: the number, rounded down, and twice the rest as a fraction. -/
def Binary.floor (b : Binary) (scale : Int) : Nat × Nat × Nat :=
  let above := b.mantissa * Nat.pow 2 b.exponent.toNat * Nat.pow 10 (-scale).toNat
  let below := Nat.pow 2 (-b.exponent).toNat * Nat.pow 10 scale.toNat
  (above / below, 2 * (above % below), below)

/-- The digits on the grid `10 ^ scale` that stand for a number, the nearer of two; a tie goes to
the even one. -/
def Binary.digitsAt? (b : Binary) (scale : Int) : Option Nat :=
  let (low, twice, unit) := b.floor scale
  let first := if twice < unit || (twice == unit && low % 2 == 0) then low else low + 1
  let second := if first = low then low + 1 else low
  if b.admits first scale then some first
  else if b.admits second scale then some second
  else none

/-- The first grid from `scale` down on which there are digits for a number. -/
def Binary.shortestFrom (b : Binary) : (grids : Nat) → (scale : Int) → Nat × Int
  | 0, scale => (b.mantissa, scale)
  | grids + 1, scale =>
    match b.digitsAt? scale with
    | some digits => if digits = 0 then b.shortestFrom grids (scale - 1) else (digits, scale)
    | none => b.shortestFrom grids (scale - 1)

/-- The shortest digits of a positive number and the power of ten of the last one. -/
def Binary.shortest (b : Binary) : Nat × Int := b.shortestFrom 660 310

/-- Digits at a power of ten: positional for exponents from -5 to 15, else with an exponent; whole
numbers keep one place after the point. -/
def layout (digits : Nat) (scale : Int) : String :=
  let text := (toString digits).toList
  let point : Int := text.length + scale
  let zeros (n : Int) : List Char := List.replicate n.toNat '0'
  String.ofList <|
    if 0 ≤ scale && point ≤ 16 then text ++ zeros scale ++ ['.', '0']
    else if 0 < point && point ≤ 16 then text.take point.toNat ++ '.' :: text.drop point.toNat
    else if -5 < point && point ≤ 0 then ['0', '.'] ++ zeros (-point) ++ text
    else
      let tail := (toString (point - 1)).toList
      match text with
      | [digit] => digit :: 'e' :: tail
      | digit :: rest => digit :: '.' :: rest ++ 'e' :: tail
      | [] => []

/-- The text of a number; one that is not finite has none and is written as `null`. -/
def render (value : Float) : String :=
  let bits := value.toBits.toNat
  let unsigned := bits % (fractions * exponents)
  let sign := if bits = unsigned then "" else "-"
  if unsigned / fractions = exponents - 1 then "null"
  else if unsigned = 0 then sign ++ "0.0"
  else
    let (digits, scale) := (Binary.ofBits unsigned).shortest
    sign ++ layout digits scale

end Signpost.Json.Shortest
