/-!
# Character ranges

Sets of characters given as lists of closed ranges of code points, and values given by such ranges
or by runs of code points.
-/

namespace CypherSession.Text

def InRange (range : Nat × Nat) (c : Char) : Prop :=
  range.1 ≤ c.toNat ∧ c.toNat ≤ range.2

instance (range : Nat × Nat) (c : Char) : Decidable (InRange range c) :=
  inferInstanceAs (Decidable (_ ∧ _))

def inRanges (ranges : List (Nat × Nat)) (c : Char) : Bool :=
  ranges.any fun range => decide (InRange range c)

theorem inRanges_iff {ranges : List (Nat × Nat)} {c : Char} :
    inRanges ranges c = true ↔ ∃ range ∈ ranges, InRange range c := by
  simp [inRanges]

def areIncreasing (ranges : List (Nat × Nat)) : Bool :=
  (ranges.zip ranges.tail).all fun (a, b) => a.2 < b.1

def valueIn? {α : Type} (ranges : List (Nat × Nat × α)) (c : Char) : Option α :=
  (ranges.find? fun (first, last, _) => first ≤ c.toNat && c.toNat ≤ last).map
    fun (_, _, value) => value

def valueInRuns? {α : Type} (runs : List (Nat × List α)) (n : Nat) : Option α := do
  let (first, values) ← runs.find? fun (first, values) => first ≤ n && n < first + values.length
  values[n - first]?

end CypherSession.Text
