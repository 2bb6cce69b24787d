/-!
# Decimal numerals

Natural numbers written in ASCII digits, and the numerals of a bounded unsigned field: an optional
plus sign, then digits, with a value below the field's limit. Leading zeros are allowed.
-/

namespace CypherSession.Text

def digits (n : Nat) : List Char := Nat.toDigits 10 n

def numeral? (text : List Char) : Option Nat :=
  if text ≠ [] ∧ text.all Char.isDigit then some (Nat.ofDigitChars 10 text 0) else none

def unsigned? (limit : Nat) (text : List Char) : Option Nat :=
  let numeral := match text with
    | '+' :: rest => rest
    | _ => text
  (numeral? numeral).filter (· < limit)

theorem digits_ne_nil (n : Nat) : digits n ≠ [] := by
  simp [digits]

theorem isDigit_of_mem_digits {n : Nat} {c : Char} (h : c ∈ digits n) : c.isDigit = true :=
  Nat.isDigit_of_mem_toDigits (by decide) (by decide) h

theorem not_mem_digits {n : Nat} {c : Char} (hc : c.isDigit = false) : c ∉ digits n := by
  intro hmem
  rw [isDigit_of_mem_digits hmem] at hc
  cases hc

theorem numeral?_digits (n : Nat) : numeral? (digits n) = some n := by
  have hall : (digits n).all Char.isDigit = true :=
    List.all_eq_true.2 fun _ h => isDigit_of_mem_digits h
  rw [numeral?, if_pos ⟨digits_ne_nil n, hall⟩]
  exact congrArg some (Nat.ofDigitChars_toDigits (by decide) (by decide))

theorem numeral?_eq_some_iff {text : List Char} {n : Nat} :
    numeral? text = some n ↔
      text ≠ [] ∧ (∀ c ∈ text, c.isDigit = true) ∧ Nat.ofDigitChars 10 text 0 = n := by
  unfold numeral?
  rw [← List.all_eq_true, ← and_assoc]
  split
  · rename_i hdigits
    simp only [hdigits, Option.some.injEq, ne_eq, not_false_eq_true, and_self, true_and]
  · rename_i hdigits
    simp only [hdigits, false_and, reduceCtorEq]

/-- The numerals of a field: digits, and a plus sign before them or not. -/
theorem unsigned?_eq_some_iff {limit : Nat} {text : List Char} {n : Nat} :
    unsigned? limit text = some n ↔
      ∃ sign digits, text = sign ++ digits ∧ (sign = [] ∨ sign = ['+']) ∧
        numeral? digits = some n ∧ n < limit := by
  unfold unsigned?
  rw [Option.filter_eq_some_iff, decide_eq_true_eq]
  constructor
  · rintro ⟨hnumeral, hlimit⟩
    split at hnumeral
    · rename_i rest
      exact ⟨['+'], rest, rfl, .inr rfl, hnumeral, hlimit⟩
    · exact ⟨[], text, rfl, .inl rfl, hnumeral, hlimit⟩
  · rintro ⟨sign, digits, rfl, rfl | rfl, hnumeral, hlimit⟩
    · refine ⟨?_, hlimit⟩
      split
      · -- A plus sign is no digit.
        have hdigits := (numeral?_eq_some_iff.1 hnumeral).2.1
        rename_i hplus
        have hsign : '+'.isDigit = true := hdigits '+' (by simp_all)
        exact absurd hsign (by decide)
      · exact hnumeral
    · exact ⟨hnumeral, hlimit⟩

end CypherSession.Text
