import CypherSession.Text.Cut

/-!
# Punycode

A text with characters beyond ASCII written in ASCII, by RFC 3492: first its ASCII characters and a
hyphen, then the others in the order of their code points. Each of those is written as the distance
from the one before it, counted in pairs of a code point and a position, in base 36 with digits of
variable weight.
-/

namespace CypherSession.Text.Punycode

def digit (value : Nat) : Char := Char.ofNat (if value < 26 then 0x61 + value else 0x16 + value)

def threshold (weight bias : Nat) : Nat :=
  if weight ≤ bias then 1 else if bias + 26 ≤ weight then 26 else weight - bias

theorem threshold_pos (weight bias : Nat) : 0 < threshold weight bias := by
  unfold threshold
  split
  · omega
  · split <;> omega

theorem threshold_le (weight bias : Nat) : threshold weight bias ≤ 26 := by
  unfold threshold
  split
  · omega
  · split <;> omega

def numeral (bias weight distance : Nat) : List Char :=
  let least := threshold weight bias
  if distance < least then [digit distance]
  else
    digit (least + (distance - least) % (36 - least)) ::
      numeral bias (weight + 36) ((distance - least) / (36 - least))
termination_by distance
decreasing_by
  have := threshold_pos weight bias
  have := threshold_le weight bias
  exact Nat.lt_of_le_of_lt (Nat.div_le_self _ _) (by omega)

def reduce (distance weight : Nat) : Nat × Nat :=
  if 455 < distance then reduce (distance / 35) (weight + 36) else (distance, weight)
termination_by distance
decreasing_by exact Nat.div_lt_self (by omega) (by omega)

def adapt (distance count : Nat) (isFirst : Bool) : Nat :=
  let distance := if isFirst then distance / 700 else distance / 2
  let (distance, weight) := reduce (distance + distance / count) 0
  weight + 36 * distance / (distance + 38)

structure State where
  written : List Char
  distance : Nat
  bias : Nat
  count : Nat

/-- Passes a position; the character there is written if it is the one whose turn it is. -/
def pass (basicCount current : Nat) (state : State) (c : Char) : State :=
  if c.toNat < current then { state with distance := state.distance + 1 }
  else if c.toNat = current then {
    written := state.written ++ numeral state.bias 36 state.distance
    distance := 0
    bias := adapt state.distance (state.count + 1) (state.count = basicCount)
    count := state.count + 1 }
  else state

def writeAll (text : List Char) (basicCount : Nat) : List Nat → Nat → State → State
  | [], _, state => state
  | current :: rest, next, state =>
    let distance := state.distance + (current - next) * (state.count + 1)
    let state := text.foldl (pass basicCount current) { state with distance }
    writeAll text basicCount rest (current + 1) { state with distance := state.distance + 1 }

def insertOnce (n : Nat) : List Nat → List Nat
  | [] => [n]
  | m :: rest =>
    if n < m then n :: m :: rest else if n = m then m :: rest else m :: insertOnce n rest

def encode (text : List Char) : List Char :=
  let basic := text.filter fun c => c.toNat < 0x80
  let others := (text.filter fun c => 0x80 ≤ c.toNat).map Char.toNat
  let start : State := ⟨[], 0, 72, basic.length⟩
  let codePoints := others.foldr insertOnce []
  basic ++ (if basic = [] then [] else ['-']) ++
    (writeAll text basic.length codePoints 0x80 start).written

/-! ## Reading -/

def digitValue? (c : Char) : Option Nat :=
  if 'a' ≤ c ∧ c ≤ 'z' then some (c.toNat - 0x61)
  else if 'A' ≤ c ∧ c ≤ 'Z' then some (c.toNat - 0x41)
  else if c.isDigit then some (c.toNat - 0x16)
  else none

def limit : Nat := UInt32.size

/-- Adds the distance at the head of a text to a number, and gives the rest of the text. The digits
have a weight, by which their thresholds are set, and a factor, by which they count. -/
def addDistance? (bias weight factor sum : Nat) : List Char → Option (Nat × List Char)
  | [] => none
  | c :: rest => do
    let value ← digitValue? c
    let sum := sum + value * factor
    let least := threshold weight bias
    guard (sum < limit)
    if value < least then return (sum, rest)
    guard (factor * (36 - least) < limit)
    addDistance? bias (weight + 36) (factor * (36 - least)) sum rest

theorem length_lt_of_addDistance? {bias weight factor sum : Nat} {text : List Char}
    {result : Nat × List Char} (h : addDistance? bias weight factor sum text = some result) :
    result.2.length < text.length := by
  induction text generalizing weight factor sum with
  | nil => cases h
  | cons c rest ih =>
    obtain ⟨value, -, h⟩ := Option.bind_eq_some_iff.1 h
    obtain ⟨-, -, h⟩ := Option.bind_eq_some_iff.1 h
    by_cases hlast : value < threshold weight bias
    · have hresult : some (sum + value * factor, rest) = some result := (if_pos hlast).symm.trans h
      cases hresult
      exact Nat.lt_succ_self rest.length
    · obtain ⟨-, -, h⟩ := Option.bind_eq_some_iff.1 ((if_neg hlast).symm.trans h)
      exact Nat.lt_succ_of_lt (ih h)

def charAt? (n : Nat) : Option Char := if n.isValidChar then some (Char.ofNat n) else none

/-- Reads what has not been read of a text. Each distance leads from the position of the last
character put in, at the code point `current`, to the position and the code point of the next. -/
def readFrom? (bias current position : Nat) (read text : List Char) : Option (List Char) :=
  if text = [] then some read
  else
    match _h : addDistance? bias 36 1 position text with
    | none => none
    | some (sum, rest) => do
      let count := read.length + 1
      let current := current + sum / count
      let c ← charAt? current
      readFrom? (adapt (sum - position) count (position = 0)) current (sum % count + 1)
        (read.insertIdx (sum % count) c) rest
termination_by text.length
decreasing_by exact length_lt_of_addDistance? (by assumption)

def decode? (text : List Char) : Option (List Char) :=
  let (basic, rest) := match Text.cutLast '-' text with
    | some (c :: basic, rest) => (c :: basic, rest)
    | _ => ([], text)
  if basic.all fun c => c.toNat < 0x80 then readFrom? 72 0x80 0 basic rest else none

end CypherSession.Text.Punycode
