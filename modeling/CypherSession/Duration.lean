import CypherSession.Text.Decimal

/-!
# Durations

Lengths of time in whole nanoseconds, and their text: a number with the largest unit that does not
make it less than one, with as many decimal places as it needs.
-/

namespace CypherSession

structure Duration where
  nanoseconds : Nat
  deriving DecidableEq, Repr

namespace Duration

def ofSeconds (n : Nat) : Duration := ⟨n * 1000000000⟩

def ofMilliseconds (n : Nat) : Duration := ⟨n * 1000000⟩

def seconds (duration : Duration) : Nat := duration.nanoseconds / 1000000000

def milliseconds (duration : Duration) : Nat := duration.nanoseconds / 1000000

/-- A quotient by `10 ^ places`, with the decimal places that are not trailing zeros. -/
def fixedPoint (places n : Nat) : List Char :=
  let fraction := Text.digits (n % Nat.pow 10 places)
  let padded := List.replicate (places - fraction.length) '0' ++ fraction
  let shown := (padded.reverse.dropWhile (· = '0')).reverse
  Text.digits (n / Nat.pow 10 places) ++ (if shown = [] then [] else '.' :: shown)

def text (duration : Duration) : String :=
  let n := duration.nanoseconds
  let (places, unit) :=
    if 1000000000 ≤ n then (9, "s")
    else if 1000000 ≤ n then (6, "ms")
    else if 1000 ≤ n then (3, "µs")
    else (0, "ns")
  String.ofList (fixedPoint places n) ++ unit

example : (ofMilliseconds 1500).text = "1.5s" := by decide
example : (ofMilliseconds 20).text = "20ms" := by decide
example : (ofSeconds 0).text = "0ns" := by decide

end Duration

end CypherSession
