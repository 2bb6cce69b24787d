import CypherSession.Text.Blank
import Mathlib.Data.List.Basic

/-!
# Ends of texts

What stays of a text when characters are dropped at its ends: all of it if it does not begin or end
with one of them, and all of a part at the other end that they do not reach.
-/

namespace CypherSession.Text

variable {p : Char → Bool} {text first second words : List Char}

theorem dropEndWhile_of_getLast? (h : ∀ c ∈ text.getLast?, p c = false) :
    dropEndWhile p text = text := by
  rcases List.eq_nil_or_concat' text with rfl | ⟨start, last, rfl⟩
  · rfl
  · exact dropEndWhile_of_not (h last (by simp))

/-- A text without blanks at its ends stays. -/
theorem trim_of_ends (hfirst : ∀ c ∈ text.head?, isBlank c = false)
    (hlast : ∀ c ∈ text.getLast?, isBlank c = false) : trim text = text := by
  have hstart : text.dropWhile isBlank = text := by
    cases text with
    | nil => rfl
    | cons c rest => exact List.dropWhile_cons_of_neg (by simp [hfirst c rfl])
  rw [trim, hstart, dropEndWhile_of_getLast? hlast]

theorem dropWhile_append_of_dropWhile (h : second.dropWhile p = second) :
    (first ++ second).dropWhile p = first.dropWhile p ++ second := by
  rw [List.dropWhile_append, h]
  split
  · rename_i hempty
    rw [List.isEmpty_iff.1 hempty, List.nil_append]
  · rfl

theorem dropEndWhile_append_of_dropEndWhile (h : dropEndWhile p first = first) :
    dropEndWhile p (first ++ second) = first ++ dropEndWhile p second := by
  have hreverse : first.reverse.dropWhile p = first.reverse := by
    rw [← List.reverse_reverse (first.reverse.dropWhile p)]
    exact congrArg List.reverse h
  rw [dropEndWhile, List.reverse_append, dropWhile_append_of_dropWhile hreverse,
    List.reverse_append, List.reverse_reverse]
  rfl

theorem trim_append_of_not_blank (hne : words ≠ []) (hwords : ∀ c ∈ words, isBlank c = false)
    (rest : List Char) : trim (words ++ rest) = words ++ dropEndWhile isBlank rest := by
  have hlast : dropEndWhile isBlank words = words :=
    dropEndWhile_of_getLast? fun c hc => hwords c (List.mem_of_getLast? hc)
  have hfirst : (words ++ rest).dropWhile isBlank = words ++ rest := by
    obtain ⟨c, words, rfl⟩ := List.exists_cons_of_ne_nil hne
    have hc : isBlank c = false := hwords c List.mem_cons_self
    exact List.dropWhile_cons_of_neg (by simp [hc])
  rw [trim, hfirst, dropEndWhile_append_of_dropEndWhile hlast]

/-- A text is its trimmed text with blank characters around it. -/
theorem exists_eq_trim (text : List Char) :
    ∃ start ending, text = start ++ trim text ++ ending ∧ (∀ c ∈ start, isBlank c = true) ∧
      ∀ c ∈ ending, isBlank c = true := by
  obtain ⟨ending, hending, hblank⟩ :=
    exists_eq_dropEndWhile_append isBlank (text.dropWhile isBlank)
  refine ⟨text.takeWhile isBlank, ending, ?_, ?_, hblank⟩
  · rw [List.append_assoc, trim, ← hending, List.takeWhile_append_dropWhile]
  · exact fun c hc => List.all_eq_true.1 List.all_takeWhile c hc

theorem isBlank_of_isDigit {c : Char} (h : c.isDigit = true) : isBlank c = false := by
  have hrange : 48 ≤ c.toNat ∧ c.toNat ≤ 57 := Char.isDigit_iff_toNat.1 h
  rw [isBlank, Bool.eq_false_iff, ne_eq, inRanges_iff]
  rintro ⟨range, hrange, hin⟩
  have hdigits : ∀ range ∈ blankRanges, range.2 < 48 ∨ 57 < range.1 := by decide
  rcases hdigits range hrange with hless | hmore
  · exact absurd (Nat.lt_of_le_of_lt hin.2 hless) (by omega)
  · exact absurd (Nat.lt_of_lt_of_le hmore hin.1) (by omega)

end CypherSession.Text
