import CypherSession.Proofs.Statement.Numbering

/-!
# Parts of a text

A question mark is a placeholder if what stands before it is complete: characters outside of quoted
spans, and quoted spans that are closed. A text is cut at its placeholders into parts, one more than
there are placeholders, and numbering puts `$1`, `$2` and so on between them.
-/

namespace CypherSession

namespace Placeholder

variable {span : Span} {count : Nat} {mark : Char} {part rest text first : List Char}
  {others : List (List Char)}

/-! ## Texts between placeholders -/

/-- A text can stand between two marks: it does not have the second one, save after a backslash, and
every backslash takes a character with it. Between backquotes, backslashes are nothing special. -/
inductive Body (mark : Char) : List Char → Prop where
  | nil : Body mark []
  | plain {c : Char} {rest : List Char} (hmark : c ≠ mark) (hc : c = '\\' → mark = backquote)
      (hrest : Body mark rest) : Body mark (c :: rest)
  | escaped {c : Char} {rest : List Char} (hmark : mark ≠ backquote) (hrest : Body mark rest) :
      Body mark ('\\' :: c :: rest)

/-- A text of quoted spans that are closed, and of characters outside of them. -/
inductive Complete : List Char → Prop where
  | nil : Complete []
  | plain {c : Char} {rest : List Char} (hc : isQuote c = false) (hrest : Complete rest) :
      Complete (c :: rest)
  | quoted {mark : Char} {body rest : List Char} (hmark : isQuote mark = true)
      (hbody : Body mark body) (hrest : Complete rest) : Complete (mark :: (body ++ mark :: rest))

def IsFree (text : List Char) : Prop :=
  ∀ before after, text = before ++ '?' :: after → ¬Complete before

/-- A text is its first part and, for each of its placeholders, one more part after it. -/
inductive Cut : List Char → List Char → List (List Char) → Prop where
  | last {part : List Char} (hfree : IsFree part) : Cut part part []
  | next {part rest first : List Char} {others : List (List Char)} (hfree : IsFree part)
      (hcomplete : Complete part) (hrest : Cut rest first others) :
      Cut (part ++ '?' :: rest) part (first :: others)

/-- Parts, each after a dollar sign and a number, the first number `count + 1`. -/
def numberedParts (count : Nat) : List (List Char) → List Char
  | [] => []
  | part :: rest => '$' :: Text.digits (count + 1) ++ part ++ numberedParts (count + 1) rest

theorem after_append (span : Span) (first rest : List Char) :
    span.after (first ++ rest) = (span.after first).after rest := List.foldl_append

theorem next_outside_of_isQuote {c : Char} (h : isQuote c = true) :
    Span.outside.next c = .quoted c := if_pos h

theorem next_outside_of_not_isQuote {c : Char} (h : isQuote c = false) :
    Span.outside.next c = .outside := if_neg (by simp [h])

theorem next_quoted_mark (h : isQuote mark = true) : (Span.quoted mark).next mark = .outside := by
  have hmark : mark ≠ '\\' := by
    rintro rfl
    cases h
  simp [Span.next, hmark]

theorem next_quoted_of_ne {c : Char} (hmark : c ≠ mark) (hc : c = '\\' → mark = backquote) :
    (Span.quoted mark).next c = .quoted mark := by
  have hescape : ¬(c = '\\' ∧ mark ≠ backquote) := fun h => h.2 (hc h.1)
  simp [Span.next, hescape, hmark]

theorem next_quoted_backslash (h : mark ≠ backquote) :
    (Span.quoted mark).next '\\' = .escaped mark := if_pos ⟨rfl, h⟩

theorem Body.after_eq {body : List Char} (h : Body mark body) :
    (Span.quoted mark).after body = .quoted mark := by
  induction h with
  | nil => rfl
  | plain hmark hc hrest ih => rwa [Span.after, List.foldl_cons, next_quoted_of_ne hmark hc]
  | escaped hmark hrest ih =>
    rwa [Span.after, List.foldl_cons, List.foldl_cons, next_quoted_backslash hmark]

theorem Complete.after_eq (h : Complete text) : Span.outside.after text = .outside := by
  induction h with
  | nil => rfl
  | plain hc hrest ih => rwa [Span.after, List.foldl_cons, next_outside_of_not_isQuote hc]
  | @quoted mark body rest hmark hbody hrest ih =>
    calc Span.outside.after (mark :: (body ++ mark :: rest))
        = (Span.quoted mark).after (body ++ mark :: rest) := by
          rw [Span.after, List.foldl_cons, next_outside_of_isQuote hmark, Span.after]
      _ = (Span.quoted mark).after (mark :: rest) := by rw [after_append, hbody.after_eq]
      _ = Span.outside.after rest := by
          rw [Span.after, List.foldl_cons, next_quoted_mark hmark, Span.after]
      _ = .outside := ih

def Completes (span : Span) (text : List Char) : Prop :=
  match span with
  | .outside => Complete text
  | .quoted mark => ∃ body rest, text = body ++ mark :: rest ∧ Body mark body ∧ Complete rest
  | .escaped mark =>
    ∃ c body rest, text = c :: (body ++ mark :: rest) ∧ Body mark body ∧ Complete rest

theorem Completes.cons {c : Char} (h : Completes (span.next c) text) :
    Completes span (c :: text) := by
  cases span with
  | outside =>
    cases hc : isQuote c with
    | false =>
      rw [next_outside_of_not_isQuote hc] at h
      exact .plain hc h
    | true =>
      rw [next_outside_of_isQuote hc] at h
      obtain ⟨body, rest, rfl, hbody, hrest⟩ := h
      exact .quoted hc hbody hrest
  | quoted mark =>
    by_cases hescape : c = '\\' ∧ mark ≠ backquote
    · obtain ⟨rfl, hmark⟩ := hescape
      rw [next_quoted_backslash hmark] at h
      obtain ⟨d, body, rest, rfl, hbody, hrest⟩ := h
      exact ⟨_, rest, rfl, .escaped hmark hbody, hrest⟩
    by_cases hmark : c = mark
    · subst hmark
      have hnext : (Span.quoted c).next c = .outside := by simp [Span.next, hescape]
      rw [hnext] at h
      exact ⟨[], text, rfl, .nil, h⟩
    · have hc : c = '\\' → mark = backquote := fun heq => by
        by_contra hne
        exact hescape ⟨heq, hne⟩
      rw [next_quoted_of_ne hmark hc] at h
      obtain ⟨body, rest, rfl, hbody, hrest⟩ := h
      exact ⟨c :: body, rest, rfl, .plain hmark hc hbody, hrest⟩
  | escaped mark =>
    obtain ⟨body, rest, rfl, hbody, hrest⟩ := h
    exact ⟨c, body, rest, rfl, hbody, hrest⟩

theorem completes_of_after (h : span.after text = .outside) : Completes span text := by
  induction text generalizing span with
  | nil =>
    obtain rfl : span = .outside := h
    exact Complete.nil
  | cons c rest ih => exact (ih h).cons

/-- Scanning a text ends outside of quoted spans exactly if it is complete. -/
theorem after_eq_outside_iff : Span.outside.after text = .outside ↔ Complete text :=
  ⟨completes_of_after, Complete.after_eq⟩

/-! ## Parts of a text -/

def IsFreeFrom (span : Span) (text : List Char) : Prop :=
  ∀ before after, text = before ++ '?' :: after → span.after before ≠ .outside

theorem isFreeFrom_outside_iff : IsFreeFrom .outside text ↔ IsFree text :=
  forall₃_congr fun _ _ _ => not_congr after_eq_outside_iff

theorem isFreeFrom_nil (span : Span) : IsFreeFrom span [] := by
  intro before after h
  simp at h

theorem isFreeFrom_cons_iff {c : Char} :
    IsFreeFrom span (c :: text) ↔
      span.isPlaceholder c = false ∧ IsFreeFrom (span.next c) text := by
  constructor
  · intro h
    refine ⟨?_, fun before after htext => ?_⟩
    · cases hc : span.isPlaceholder c with
      | false => rfl
      | true =>
        obtain ⟨rfl, rfl⟩ := eq_of_isPlaceholder hc
        exact absurd rfl (h [] text rfl)
    · exact h (c :: before) after (by rw [htext]; rfl)
  · rintro ⟨hc, hrest⟩ before after htext
    cases before with
    | nil =>
      obtain ⟨rfl, -⟩ := List.cons.inj htext
      rintro rfl
      cases hc
    | cons b before =>
      obtain ⟨rfl, hafter⟩ := List.cons.inj htext
      exact hrest before after hafter

/-- A text has no placeholder, or a first one. -/
theorem isFreeFrom_or_exists_placeholder (span : Span) (text : List Char) :
    IsFreeFrom span text ∨ ∃ part rest, text = part ++ '?' :: rest ∧ IsFreeFrom span part ∧
      span.after part = .outside := by
  induction text generalizing span with
  | nil => exact .inl (isFreeFrom_nil span)
  | cons c text ih =>
    cases hc : span.isPlaceholder c with
    | true =>
      obtain ⟨rfl, rfl⟩ := eq_of_isPlaceholder hc
      exact .inr ⟨[], text, rfl, isFreeFrom_nil _, rfl⟩
    | false =>
      rcases ih (span.next c) with hfree | ⟨part, rest, rfl, hfree, hafter⟩
      · exact .inl (isFreeFrom_cons_iff.2 ⟨hc, hfree⟩)
      · exact .inr ⟨c :: part, rest, rfl, isFreeFrom_cons_iff.2 ⟨hc, hfree⟩, hafter⟩

/-- Every text can be cut at its placeholders. -/
theorem exists_cut (text : List Char) : ∃ first others, Cut text first others := by
  induction hlength : text.length using Nat.strongRecOn generalizing text with
  | ind length ih =>
    rcases isFreeFrom_or_exists_placeholder .outside text with
      hfree | ⟨part, rest, rfl, hfree, hafter⟩
    · exact ⟨text, [], .last (isFreeFrom_outside_iff.1 hfree)⟩
    · have hless : rest.length < length := by
        rw [← hlength, List.length_append, List.length_cons]
        omega
      obtain ⟨first, others, hcut⟩ := ih rest.length hless rest rfl
      exact ⟨part, first :: others,
        .next (isFreeFrom_outside_iff.1 hfree) (after_eq_outside_iff.1 hafter) hcut⟩

theorem numberFrom_append (count : Nat) (h : IsFreeFrom span part) (rest : List Char) :
    numberFrom span count (part ++ rest) =
      (part ++ (numberFrom (span.after part) count rest).1,
        (numberFrom (span.after part) count rest).2) := by
  induction part generalizing span with
  | nil => rfl
  | cons c part ih =>
    obtain ⟨hc, hpart⟩ := isFreeFrom_cons_iff.1 h
    rw [List.cons_append, numberFrom, if_neg (by simp [hc]), ih hpart]
    rfl

/-- Numbering puts the numbers between the parts, and counts the placeholders. -/
theorem numberFrom_of_cut (h : Cut text first others) (count : Nat) :
    numberFrom .outside count text =
      (first ++ numberedParts count others, count + others.length) := by
  induction h generalizing count with
  | last hfree =>
    have happend := numberFrom_append count (isFreeFrom_outside_iff.2 hfree) []
    rwa [List.append_nil] at happend
  | @next part rest first others hfree hcomplete hrest ih =>
    have hmark : Span.isPlaceholder .outside '?' = true := rfl
    have hcount : count + 1 + others.length = count + (others.length + 1) := by omega
    rw [numberFrom_append count (isFreeFrom_outside_iff.2 hfree), hcomplete.after_eq, numberFrom,
      if_pos hmark, ih (count + 1)]
    simp [numberedParts, hcount]

/-- The numbering puts the numbers between the parts of the text, from one on. -/
theorem number_of_cut {text : String} (h : Cut text.toList first others) :
    number text = (String.ofList (first ++ numberedParts 0 others), others.length) := by
  rw [number, numberFrom_of_cut h 0]
  simp

end Placeholder

end CypherSession
