import CypherSession.Proofs.Statement.Parts

/-!
# Numbering again and piece by piece

What numbering puts into a text stands outside of quoted spans and opens none, so every character
that was there before stands as it stood. No question mark of the numbered text is a placeholder,
and to number it again changes nothing. After a complete text the next one is numbered as it would
be alone, save that the count goes on.
-/

namespace CypherSession

namespace Placeholder

variable {span : Span} {count : Nat} {text first rest part : List Char} {others : List (List Char)}

/-! ## One way to cut a text -/

theorem eq_of_placeholder {part' rest' : List Char}
    (heq : part ++ '?' :: rest = part' ++ '?' :: rest') (hfree : IsFree part)
    (hcomplete : Complete part) (hfree' : IsFree part') (hcomplete' : Complete part') :
    part = part' ∧ rest = rest' := by
  -- If one part went on behind the other one, a placeholder would stand in it.
  rcases List.append_eq_append_iff.1 heq with ⟨middle, hpart, hrest⟩ | ⟨middle, hpart, hrest⟩
  · cases middle with
    | nil => exact ⟨by rw [hpart, List.append_nil], (List.cons.inj hrest).2⟩
    | cons c middle =>
      obtain ⟨rfl, -⟩ := List.cons.inj hrest
      exact absurd hcomplete (hfree' part middle hpart)
  · cases middle with
    | nil => exact ⟨by rw [hpart, List.append_nil], (List.cons.inj hrest).2.symm⟩
    | cons c middle =>
      obtain ⟨rfl, -⟩ := List.cons.inj hrest
      exact absurd hcomplete' (hfree part' middle hpart)

/-- There is one way to cut a text at its placeholders. -/
theorem Cut.unique {first' : List Char} {others' : List (List Char)} (h : Cut text first others)
    (h' : Cut text first' others') : first' = first ∧ others' = others := by
  induction h generalizing first' others' with
  | @last part hfree =>
    generalize htext : part = text at h'
    cases h' with
    | last => exact ⟨rfl, rfl⟩
    | next _ hcomplete' _ => exact absurd hcomplete' (hfree _ _ htext)
  | @next part rest first others hfree hcomplete hrest ih =>
    generalize htext : part ++ '?' :: rest = text at h'
    cases h' with
    | last hfree' => exact absurd hcomplete (hfree' _ _ htext.symm)
    | next hfree' hcomplete' hrest' =>
      obtain ⟨rfl, rfl⟩ := eq_of_placeholder htext hfree hcomplete hfree' hcomplete'
      obtain ⟨rfl, rfl⟩ := ih hrest'
      exact ⟨rfl, rfl⟩

/-! ## Numbered texts -/

theorem isFreeFrom_append (hfirst : IsFreeFrom span first)
    (hrest : IsFreeFrom (span.after first) rest) : IsFreeFrom span (first ++ rest) := by
  induction first generalizing span with
  | nil => exact hrest
  | cons c first ih =>
    obtain ⟨hc, hfirst⟩ := isFreeFrom_cons_iff.1 hfirst
    exact isFreeFrom_cons_iff.2 ⟨hc, ih hfirst hrest⟩

theorem isFreeFrom_of_not_mem (span : Span) (h : '?' ∉ text) : IsFreeFrom span text := by
  intro before after htext
  apply absurd _ h
  rw [htext]
  exact List.mem_append_right before List.mem_cons_self

theorem complete_of_no_quote (h : ∀ c ∈ text, isQuote c = false) : Complete text := by
  induction text with
  | nil => exact .nil
  | cons c rest ih =>
    obtain ⟨hc, hrest⟩ := List.forall_mem_cons.1 h
    exact .plain hc (ih hrest)

theorem isQuote_of_isDigit {c : Char} (h : c.isDigit = true) : isQuote c = false := by
  apply Bool.eq_false_iff.2
  intro hquote
  simp only [isQuote, Bool.or_eq_true, decide_eq_true_eq] at hquote
  rcases hquote with (rfl | rfl) | rfl <;> cases h

theorem complete_number (n : Nat) : Complete ('$' :: Text.digits n) := by
  apply complete_of_no_quote
  intro c hc
  rcases List.mem_cons.1 hc with rfl | hdigit
  · rfl
  · exact isQuote_of_isDigit (Text.isDigit_of_mem_digits hdigit)

/-- Numbering leaves no placeholder. -/
theorem isFreeFrom_numbered (span : Span) (count : Nat) (text : List Char) :
    IsFreeFrom span (numberFrom span count text).1 := by
  induction text generalizing span count with
  | nil => exact isFreeFrom_nil span
  | cons c rest ih =>
    by_cases hc : span.isPlaceholder c = true
    · obtain ⟨rfl, rfl⟩ := eq_of_isPlaceholder hc
      have hquestion : '?' ∉ '$' :: Text.digits (count + 1) := by
        simp [Text.not_mem_digits]
      rw [numbered_placeholder hc]
      apply isFreeFrom_append (isFreeFrom_of_not_mem .outside hquestion)
      rw [(complete_number (count + 1)).after_eq]
      exact ih .outside (count + 1)
    · have hc : span.isPlaceholder c = false := by simpa using hc
      rw [numbered_cons hc]
      exact isFreeFrom_cons_iff.2 ⟨hc, ih (span.next c) count⟩

theorem numberFrom_of_isFreeFrom (count : Nat) (h : IsFreeFrom span text) :
    numberFrom span count text = (text, count) := by
  have happend := numberFrom_append count h []
  rwa [List.append_nil, numberFrom, List.append_nil] at happend

/-- A numbered text has no placeholders left. -/
theorem number_number (text : String) : number (number text).1 = ((number text).1, 0) := by
  have hfree := isFreeFrom_numbered .outside 0 text.toList
  have htext : (number text).1.toList = (numberFrom .outside 0 text.toList).1 :=
    String.toList_ofList
  calc number (number text).1
      = (String.ofList (number text).1.toList, 0) := by
        rw [number, htext, numberFrom_of_isFreeFrom 0 hfree]
    _ = ((number text).1, 0) := by rw [String.ofList_toList]

/-! ## Texts after one another -/

/-- A text is numbered from where the text before it ends, in its span and by its count. -/
theorem numberFrom_append_text (span : Span) (count : Nat) (first rest : List Char) :
    numberFrom span count (first ++ rest) =
      let before := numberFrom span count first
      let after := numberFrom (span.after first) before.2 rest
      (before.1 ++ after.1, after.2) := by
  induction first generalizing span count with
  | nil => rfl
  | cons c first ih =>
    rw [List.cons_append]
    by_cases hc : span.isPlaceholder c = true
    · obtain ⟨rfl, rfl⟩ := eq_of_isPlaceholder hc
      simp [numberFrom, hc, ih, Span.after, next_outside_of_not_isQuote, isQuote, backquote]
    · simp [numberFrom, hc, ih, Span.after]

theorem number_append {first second : String} (hcomplete : Complete first.toList) :
    number (first ++ second) =
      ((number first).1 ++ String.ofList (numberFrom .outside (number first).2 second.toList).1,
        (numberFrom .outside (number first).2 second.toList).2) := by
  rw [number, String.toList_append, numberFrom_append_text, hcomplete.after_eq, number]
  simp only [String.ofList_append]

/-- **Numbering replaces the placeholders.** There is one way to cut a text at its placeholders, and
the numbered text is the parts with `$1`, `$2` and so on between them; the count is that of the
placeholders. The numbered text has no placeholder. A text after one that is complete has the same
parts as alone, and its numbers go on from the count of the first text. -/
theorem number_replaces_placeholders (text : String) :
    (∃ first others,
      (∀ first' others', Cut text.toList first' others' ↔ first' = first ∧ others' = others) ∧
      number text = (String.ofList (first ++ numberedParts 0 others), others.length)) ∧
    number (number text).1 = ((number text).1, 0) ∧
    (Complete text.toList → ∀ next : String, ∃ first others, Cut next.toList first others ∧
      number next = (String.ofList (first ++ numberedParts 0 others), others.length) ∧
      number (text ++ next) =
        ((number text).1 ++ String.ofList (first ++ numberedParts (number text).2 others),
          (number text).2 + others.length)) := by
  refine ⟨?_, number_number text, ?_⟩
  · obtain ⟨first, others, hcut⟩ := exists_cut text.toList
    refine ⟨first, others, fun first' others' => ⟨hcut.unique, ?_⟩, number_of_cut hcut⟩
    rintro ⟨rfl, rfl⟩
    exact hcut
  · intro hcomplete next
    obtain ⟨first, others, hcut⟩ := exists_cut next.toList
    refine ⟨first, others, hcut, number_of_cut hcut, ?_⟩
    rw [number_append hcomplete, numberFrom_of_cut hcut]

def closedQuery : String := "RETURN 'it\\'s ?', `a?\\`, ?, "

def openQuery : String := "?, \"\\\\\" + '? \\' ?"

/-- A text with quoted question marks, and after it one whose last quote is left open. -/
theorem number_replaces_placeholders_between_quotes :
    number closedQuery = ("RETURN 'it\\'s ?', `a?\\`, $1, ", 1) ∧ Complete closedQuery.toList ∧
      ∃ first second, number openQuery = (String.ofList (first ++ "$1".toList ++ second), 1) ∧
        number (closedQuery ++ openQuery) =
          ("RETURN 'it\\'s ?', `a?\\`, $1, " ++ String.ofList (first ++ "$2".toList ++ second), 2) ∧
        number (number closedQuery).1 = ((number closedQuery).1, 0) := by
  have hnumber : number closedQuery = ("RETURN 'it\\'s ?', `a?\\`, $1, ", 1) := by decide +kernel
  have hcomplete : Complete closedQuery.toList := after_eq_outside_iff.1 (by decide +kernel)
  obtain ⟨-, hagain, hnext⟩ := number_replaces_placeholders closedQuery
  obtain ⟨first, others, -, hopen, happend⟩ := hnext hcomplete openQuery
  have hcount : others.length = 1 :=
    (congrArg Prod.snd hopen).symm.trans (by decide +kernel : (number openQuery).2 = 1)
  obtain ⟨second, rfl⟩ := List.length_eq_one_iff.1 hcount
  have hone : numberedParts 0 [second] = "$1".toList ++ second := List.append_nil _
  have htwo : numberedParts 1 [second] = "$2".toList ++ second := List.append_nil _
  refine ⟨hnumber, hcomplete, first, second, ?_, ?_, hagain⟩
  · rw [hopen, hone, List.append_assoc]
    rfl
  · rw [happend, hnumber, htwo, List.append_assoc]
    rfl

end Placeholder

end CypherSession
