import CypherSession.Text.Range

/-!
# Blank characters

The characters with the Unicode property White_Space, and texts freed of them at both ends.
-/

namespace CypherSession.Text

def blankRanges : List (Nat × Nat) :=
  [(0x9, 0xD), (0x20, 0x20), (0x85, 0x85), (0xA0, 0xA0), (0x1680, 0x1680), (0x2000, 0x200A),
    (0x2028, 0x2029), (0x202F, 0x202F), (0x205F, 0x205F), (0x3000, 0x3000)]

def isBlank (c : Char) : Bool := inRanges blankRanges c

theorem isBlank_of_isWhitespace {c : Char} (h : c.isWhitespace = true) : isBlank c = true := by
  simp only [Char.isWhitespace, Bool.or_eq_true, decide_eq_true_eq] at h
  rcases h with ((rfl | rfl) | rfl) | rfl <;> decide

def dropEndWhile (p : Char → Bool) (text : List Char) : List Char :=
  (text.reverse.dropWhile p).reverse

def trim (text : List Char) : List Char :=
  dropEndWhile isBlank (text.dropWhile isBlank)

/-! ## Both ends -/

section

variable {p : Char → Bool} {text : List Char}

theorem dropWhile_eq_nil_iff : text.dropWhile p = [] ↔ ∀ c ∈ text, p c = true := by
  constructor
  · intro hnil
    have htext : text.takeWhile p = text := by
      have hsplit := List.takeWhile_append_dropWhile (p := p) (l := text)
      rwa [hnil, List.append_nil] at hsplit
    rw [← htext]
    exact List.all_eq_true.1 List.all_takeWhile
  · intro hall
    rw [← List.append_nil text, List.dropWhile_append_of_pos hall]
    rfl

theorem dropEndWhile_append {ending : List Char} (hall : ∀ c ∈ ending, p c = true) :
    dropEndWhile p (text ++ ending) = dropEndWhile p text := by
  have hreverse : ∀ c ∈ ending.reverse, p c = true := fun c hc => hall c (List.mem_reverse.1 hc)
  rw [dropEndWhile, List.reverse_append, List.dropWhile_append_of_pos hreverse, dropEndWhile]

theorem dropEndWhile_of_not {last : Char} (hlast : p last = false) :
    dropEndWhile p (text ++ [last]) = text ++ [last] := by
  rw [dropEndWhile, List.reverse_append, List.reverse_singleton, List.singleton_append,
    List.dropWhile_cons_of_neg (by simp [hlast]), List.reverse_cons, List.reverse_reverse]

/-- What is dropped at the end of a text consists of such characters only. -/
theorem exists_eq_dropEndWhile_append (p : Char → Bool) (text : List Char) :
    ∃ ending, text = dropEndWhile p text ++ ending ∧ ∀ c ∈ ending, p c = true := by
  refine ⟨(text.reverse.takeWhile p).reverse, ?_, ?_⟩
  · rw [dropEndWhile, ← List.reverse_append, List.takeWhile_append_dropWhile, List.reverse_reverse]
  · intro c hc
    exact List.all_eq_true.1 List.all_takeWhile c (List.mem_reverse.1 hc)

end

theorem trim_eq_nil_iff {text : List Char} : trim text = [] ↔ ∀ c ∈ text, isBlank c = true := by
  constructor
  · intro hnil
    -- What trimming drops at the end is blank, so nothing but blanks is left after the start.
    obtain ⟨ending, hending, hall⟩ :=
      exists_eq_dropEndWhile_append isBlank (text.dropWhile isBlank)
    have hrest : ∀ c ∈ text.dropWhile isBlank, isBlank c = true := by
      rw [hending, show dropEndWhile isBlank (text.dropWhile isBlank) = [] from hnil]
      exact hall
    have hstart : ∀ c ∈ text.takeWhile isBlank, isBlank c = true :=
      List.all_eq_true.1 List.all_takeWhile
    intro c hc
    rw [← List.takeWhile_append_dropWhile (p := isBlank) (l := text)] at hc
    exact (List.mem_append.1 hc).elim (hstart c) (hrest c)
  · intro hall
    rw [trim, dropWhile_eq_nil_iff.2 hall]
    rfl

/-- Blank characters around a text make no difference. -/
theorem trim_append {start text ending : List Char} (hstart : ∀ c ∈ start, isBlank c = true)
    (hending : ∀ c ∈ ending, isBlank c = true) : trim (start ++ text ++ ending) = trim text := by
  rw [List.append_assoc, trim, List.dropWhile_append_of_pos hstart, List.dropWhile_append]
  by_cases hblank : text.dropWhile isBlank = []
  · rw [trim, hblank, List.isEmpty_nil, if_pos rfl, dropWhile_eq_nil_iff.2 hending]
  · rw [if_neg (by simpa using hblank), dropEndWhile_append hending, trim]

end CypherSession.Text
