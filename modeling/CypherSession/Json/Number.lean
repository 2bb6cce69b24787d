import CypherSession.Text.Decimal

/-!
# JSON numbers

A number of a JSON document is kept as it is written, a `Numeral`. Its value is a 64-bit integer if
it has neither fraction nor exponent and fits, and otherwise a binary64 number, or none if that is
too large. Minus zero is a binary64 number.

The binary64 number is computed from the digits that a 64-bit significand can take, and from the
power of ten that the exponent and the digits left out make up. The power is applied with one
rounding, or with one for each factor of `10 ^ 308` that it takes.
-/

namespace CypherSession

/-- A binary64 number by its bits: numbers are equal here when they have the same bits. -/
structure Binary64 where
  bits : UInt64
  deriving DecidableEq, Repr

namespace Binary64

def ofFloat (value : Float) : Binary64 := ⟨value.toBits⟩

def toFloat (value : Binary64) : Float := Float.ofBits value.bits

def isNegative (value : Binary64) : Bool := value.bits >>> 63 = 1

def exponent (value : Binary64) : UInt64 := value.bits >>> 52 &&& 0x7FF

def fraction (value : Binary64) : UInt64 := value.bits &&& 0xFFFFFFFFFFFFF

def isFinite (value : Binary64) : Bool := value.exponent ≠ 0x7FF

def nonFiniteText (value : Binary64) : String :=
  if value.fraction ≠ 0 then "NaN"
  else if value.isNegative then "-inf"
  else "inf"

end Binary64

namespace Json

inductive Number where
  | integer (value : Int)
  | float (value : Binary64)
  deriving DecidableEq, Repr

structure Exponent where
  isNegative : Bool
  digits : List Char
  deriving DecidableEq, Repr

/-- A number as it is written; an empty fraction is one that is not written. -/
structure Numeral where
  isNegative : Bool
  whole : List Char
  fraction : List Char
  exponent? : Option Exponent
  deriving DecidableEq, Repr

namespace Numeral

def takeDigits? (text : List Char) : Option (List Char × List Char) :=
  let digits := text.takeWhile Char.isDigit
  if digits = [] then none else some (digits, text.dropWhile Char.isDigit)

def ofText? (text : List Char) : Option Numeral := do
  let (isNegative, text) := match text with
    | '-' :: rest => (true, rest)
    | _ => (false, text)
  let (whole, text) ← takeDigits? text
  guard (whole.length = 1 ∨ whole.head? ≠ some '0')
  let (fraction, text) ← match text with
    | '.' :: rest => takeDigits? rest
    | _ => some ([], text)
  match text with
  | [] => return ⟨isNegative, whole, fraction, none⟩
  | mark :: rest =>
    guard (mark = 'e' ∨ mark = 'E')
    let (below, rest) := match rest with
      | '+' :: rest => (false, rest)
      | '-' :: rest => (true, rest)
      | _ => (false, rest)
    let (digits, rest) ← takeDigits? rest
    guard (rest = [])
    return ⟨isNegative, whole, fraction, some ⟨below, digits⟩⟩

/-- Digits appended to a significand as long as it stays below `2 ^ 64`, and those left out. -/
def appendDigits (significand : Nat) : List Char → Nat × List Char
  | [] => (significand, [])
  | c :: rest =>
    let longer := significand * 10 + (c.toNat - '0'.toNat)
    if longer < UInt64.size then appendDigits longer rest else (significand, c :: rest)

def tenTo (n : Nat) : Float := Float.ofScientific 1 false n

def divideByTenTo (value : Float) (n : Nat) : Float :=
  if n ≤ 308 then value / tenTo n
  else if value == 0 then value
  else divideByTenTo (value / tenTo 308) (n - 308)
termination_by n

def scaled? (significand : Nat) (power : Int) : Option Float :=
  let value := significand.toUInt64.toFloat
  if power < 0 then some (divideByTenTo value power.natAbs)
  else if power ≤ 308 then
    let product := value * tenTo power.natAbs
    if product.isInf then none else some product
  else if significand = 0 then some value
  else none

def magnitude? (numeral : Numeral) : Option Float :=
  let (significand, omitted) := appendDigits 0 numeral.whole
  let (significand, omittedPlaces) := appendDigits significand numeral.fraction
  let power : Int := omitted.length - (numeral.fraction.length - omittedPlaces.length : Nat)
  match numeral.exponent? with
  | none => scaled? significand power
  | some exponent =>
    let value := Nat.ofDigitChars 10 exponent.digits 0
    if value < UInt32.size / 2 then
      scaled? significand (if exponent.isNegative then power - value else power + value)
    else if significand = 0 ∨ exponent.isNegative then some 0
    else none

def integer? (numeral : Numeral) : Option Int :=
  let value := Nat.ofDigitChars 10 numeral.whole 0
  if numeral.fraction ≠ [] ∨ numeral.exponent? ≠ none then none
  else if !numeral.isNegative then if value < UInt64.size then some value else none
  else if value = 0 ∨ UInt64.size / 2 < value then none
  else some (-value)

def number? (numeral : Numeral) : Option Number :=
  match numeral.integer? with
  | some value => some (.integer value)
  | none => numeral.magnitude?.map fun value =>
    .float (.ofFloat (if numeral.isNegative then -value else value))

end Numeral

end Json

end CypherSession
