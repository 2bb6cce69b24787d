import CypherSession.Moment
import CypherSession.Text.Blank

/-!
# Dates of mail messages

The date format of RFC 2822: an optional day of the week, the day, the month by its name, the year,
the time, a zone, and comments in parentheses. Names may be written in either case. A year of two
digits lies between 1950 and 2049, one of three digits counts from 1900. A leap second counts as
the second before it.
-/

namespace CypherSession.MailDate

open Text (isBlank)

/-- The number that the next digits write, at least `least` and at most `most` of them, how many
there are, and the rest. -/
def takeNumber? (least most : Nat) (text : List Char) : Option (Nat × Nat × List Char) :=
  let digits := (text.takeWhile Char.isDigit).take most
  if digits.length < least then none
  else some (Nat.ofDigitChars 10 digits 0, digits.length, text.drop digits.length)

def takePair? (text : List Char) : Option (Nat × List Char) :=
  (takeNumber? 2 2 text).map fun (value, _, rest) => (value, rest)

def skipBlanks (text : List Char) : List Char := text.dropWhile isBlank

def skipSpace? (text : List Char) : Option (List Char) :=
  match text with
  | c :: _ => if isBlank c then some (skipBlanks text) else none
  | [] => none

def takeName? (names : List String) (text : List Char) : Option (Nat × List Char) := do
  let name := String.ofList ((text.take 3).map Char.toLower)
  return (← names.findIdx? (· = name), text.drop 3)

def weekdays : List String := ["mon", "tue", "wed", "thu", "fri", "sat", "sun"]

def months : List String :=
  ["jan", "feb", "mar", "apr", "may", "jun", "jul", "aug", "sep", "oct", "nov", "dec"]

def fullYear (value digits : Nat) : Nat :=
  if digits = 2 then if value < 50 then value + 2000 else value + 1900
  else if digits = 3 then value + 1900
  else value

def maxYear : Nat := 262142

/-- The offset of a zone by name, in hours. One letter means no offset that is known. -/
def zoneHours? (name : List Char) : Option Int :=
  match String.ofList (name.map Char.toLower) with
  | "gmt" | "ut" | "z" => some 0
  | "edt" => some (-4)
  | "est" | "cdt" => some (-5)
  | "cst" | "mdt" => some (-6)
  | "mst" | "pdt" => some (-7)
  | "pst" => some (-8)
  | lower => if lower.length = 1 ∧ lower ≠ "j" then some 0 else none

def takeZone? (text : List Char) : Option (Int × List Char) := do
  let name := text.takeWhile Char.isAlpha
  if name ≠ [] then
    return ((← zoneHours? name) * 3600, text.dropWhile Char.isAlpha)
  let (isWest, rest) ← match text with
    | '+' :: rest => some (false, rest)
    | '-' :: rest => some (true, rest)
    | _ => none
  let (hours, rest) ← takePair? rest
  let (minutes, rest) ← takePair? rest
  guard (minutes < 60 ∧ hours < 24)
  let offset : Int := (hours * 3600 + minutes * 60 : Nat)
  return (if isWest then -offset else offset, rest)

/-- The rest after a comment, of which `depth` parentheses are open; a backslash takes the meaning
from the character after it. -/
def closeComment? (depth : Nat) : List Char → Option (List Char)
  | [] => none
  | '\\' :: _ :: rest => closeComment? depth rest
  | '\\' :: [] => none
  | '(' :: rest => closeComment? (depth + 1) rest
  | ')' :: rest => if depth = 1 then some rest else closeComment? (depth - 1) rest
  | _ :: rest => closeComment? depth rest

def skipComments (count : Nat) (text : List Char) : List Char :=
  match count, skipBlanks text with
  | count + 1, '(' :: rest =>
    match closeComment? 1 rest with
    | some rest => skipComments count rest
    | none => text
  | _, _ => text

/-- The seconds after the minutes of a time; none are written as zero. -/
def takeSeconds? (text : List Char) : Option (Nat × List Char) :=
  match skipBlanks text with
  | ':' :: rest => takePair? rest
  | _ => some (0, text)

def moment? (text : List Char) : Option Moment := do
  let text := skipBlanks text
  let (weekday?, text) ← match takeName? weekdays text with
    | some (weekday, ',' :: rest) => some (some weekday, rest)
    | some _ => none
    | none => some (none, text)
  let (day, _, text) ← takeNumber? 1 2 (skipBlanks text)
  let (month, text) ← takeName? months (← skipSpace? text)
  let (year, yearDigits, text) ← takeNumber? 2 text.length (← skipSpace? text)
  let (hours, text) ← takePair? (← skipSpace? text)
  let text ← match skipBlanks text with
    | ':' :: rest => some (skipBlanks rest)
    | _ => none
  let (minutes, text) ← takePair? text
  let (seconds, text) ← takeSeconds? text
  let (offset, text) ← takeZone? (← skipSpace? text)
  guard (skipComments text.length text = [])
  let year := fullYear year yearDigits
  guard (year ≤ maxYear ∧ hours < 24 ∧ minutes < 60 ∧ seconds ≤ 60)
  guard (1 ≤ day ∧ day ≤ Calendar.daysInMonth year (month + 1))
  let dayNumber := Calendar.dayNumber year (month + 1) day
  guard (weekday?.all (· = Calendar.weekday dayNumber))
  let clock : Int := dayNumber * 86400 + (hours * 3600 + minutes * 60 + min seconds 59 : Nat)
  guard (clock - offset < Calendar.dayNumber (maxYear + 1) 1 1 * 86400)
  return ⟨clock - offset, offset⟩

end CypherSession.MailDate
