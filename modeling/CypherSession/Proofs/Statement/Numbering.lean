import CypherSession.Proofs.Statement.Words
import CypherSession.Statement.Basic

/-!
# Words of a numbered query

Numbering puts a dollar sign and a numeral in the place of a placeholder. The dollar sign ends a
word as the question mark did, but the numeral goes on into a word that follows at once. So the
guard, which reads the numbered text, sees the words of the text as it was written, less those that
directly follow a placeholder. It sees no others.
-/

namespace CypherSession

open Guard (WordIn isMutating isMutatingWord)
open Text (isWord)

namespace Placeholder

def Span.after (span : Span) (text : List Char) : Span := text.foldl Span.next span

def EndsInPlaceholder (span : Span) (text : List Char) : Prop :=
  ∃ start last, text = start ++ [last] ∧ (span.after start).isPlaceholder last = true

variable {span : Span} {count : Nat} {c : Char} {text rest before word after : List Char}

theorem eq_of_isPlaceholder (h : span.isPlaceholder c = true) : span = .outside ∧ c = '?' := by
  simpa [Span.isPlaceholder] using h

theorem EndsInPlaceholder.cons (h : EndsInPlaceholder (span.next c) text) :
    EndsInPlaceholder span (c :: text) := by
  obtain ⟨start, last, rfl, hlast⟩ := h
  exact ⟨c :: start, last, rfl, hlast⟩

theorem not_endsInPlaceholder_nil (span : Span) : ¬EndsInPlaceholder span [] := by
  rintro ⟨start, last, h, -⟩
  simp at h

theorem EndsInPlaceholder.of_cons (h : EndsInPlaceholder span (c :: text)) :
    (text = [] ∧ span.isPlaceholder c = true) ∨ EndsInPlaceholder (span.next c) text := by
  obtain ⟨start, last, heq, hlast⟩ := h
  cases start with
  | nil =>
    obtain ⟨rfl, rfl⟩ := List.cons.inj heq
    exact .inl ⟨rfl, hlast⟩
  | cons d start =>
    obtain ⟨rfl, rfl⟩ := List.cons.inj heq
    exact .inr ⟨start, last, rfl, hlast⟩

/-! ## Numbering character by character -/

theorem numbered_cons (h : span.isPlaceholder c = false) :
    (numberFrom span count (c :: rest)).1 = c :: (numberFrom (span.next c) count rest).1 := by
  simp [numberFrom, h]

theorem numbered_placeholder (h : span.isPlaceholder c = true) :
    (numberFrom span count (c :: rest)).1 =
      ('$' :: Text.digits (count + 1)) ++ (numberFrom (span.next c) (count + 1) rest).1 := by
  obtain ⟨rfl, rfl⟩ := eq_of_isPlaceholder h
  simp [numberFrom, h, Span.next, isQuote, backquote]

theorem isWord_dollar : isWord '$' = false := by decide +kernel

theorem isWord_question : isWord '?' = false := by decide +kernel

/-- The numbered text begins with a word character exactly if the text does. -/
theorem notAfter_numbered_iff :
    (∀ c ∈ (numberFrom span count text).1.head?, isWord c = false) ↔
      ∀ c ∈ text.head?, isWord c = false := by
  cases text with
  | nil => rfl
  | cons d rest =>
    by_cases hd : span.isPlaceholder d = true
    · obtain ⟨-, rfl⟩ := eq_of_isPlaceholder hd
      rw [numbered_placeholder hd]
      simp [isWord_dollar, isWord_question]
    · rw [numbered_cons (by simpa using hd)]
      rfl

/-- Text without question marks stays. -/
theorem numbered_append (hword : '?' ∉ word) :
    (numberFrom span count (word ++ rest)).1 =
      word ++ (numberFrom (span.after word) count rest).1 := by
  induction word generalizing span with
  | nil => rfl
  | cons c word ih =>
    rw [List.mem_cons, not_or] at hword
    have hc : span.isPlaceholder c = false := by
      simp [Span.isPlaceholder, Ne.symm hword.1]
    rw [List.cons_append, numbered_cons hc, ih hword.2]
    rfl

/-- Text without dollar signs was there before. -/
theorem exists_of_numbered_append (hword : '$' ∉ word)
    (h : (numberFrom span count text).1 = word ++ after) :
    ∃ rest, text = word ++ rest ∧ after = (numberFrom (span.after word) count rest).1 := by
  induction word generalizing span text with
  | nil => exact ⟨text, rfl, h.symm⟩
  | cons c word ih =>
    rw [List.mem_cons, not_or] at hword
    cases text with
    | nil => cases h
    | cons d tail =>
      by_cases hd : span.isPlaceholder d = true
      · rw [numbered_placeholder hd] at h
        exact absurd (List.cons.inj h).1 hword.1
      · rw [numbered_cons (by simpa using hd)] at h
        obtain ⟨rfl, htail⟩ := List.cons.inj h
        obtain ⟨rest, rfl, hafter⟩ := ih hword.2 htail
        exact ⟨rest, rfl, hafter⟩

end Placeholder

namespace Guard

variable {text before word after : List Char} {c : Char}

theorem WordIn.cons (h : WordIn text before word after) (hc : before = [] → isWord c = false) :
    WordIn (c :: text) (c :: before) word after where
  eq := by rw [h.eq]; rfl
  letters := h.letters
  notBefore d hd := by
    cases before with
    | nil =>
      obtain rfl : c = d := by simpa using hd
      exact hc rfl
    | cons b before => exact h.notBefore d (by simpa [List.getLast?_cons] using hd)
  notAfter := h.notAfter

theorem WordIn.append (h : WordIn text before word after) (hbefore : before ≠ [])
    (first : List Char) : WordIn (first ++ text) (first ++ before) word after where
  eq := by rw [h.eq]; simp
  letters := h.letters
  notBefore d hd := h.notBefore d (by rwa [List.getLast?_append_of_ne_nil _ hbefore] at hd)
  notAfter := h.notAfter

theorem WordIn.of_cons (h : WordIn (c :: text) (c :: before) word after) :
    WordIn text before word after where
  eq := (List.cons.inj h.eq).2
  letters := h.letters
  notBefore d hd := h.notBefore d (by rw [List.getLast?_cons, hd]; rfl)
  notAfter := h.notAfter

/-! ## Letters of mutating words -/

theorem not_mem_of_fold {d : Char} (h : isMutatingWord word = true)
    (hd : fold d ∉ mutatingWords.flatten) : d ∉ word :=
  fun hmem => hd (fold_mem_of_isMutatingWord h hmem)

theorem fold_of_isDigit (h : c.isDigit = true) : fold c = c := by
  have hle : c.val.toNat ≤ 57 := (Char.isDigit_iff_toNat.1 h).2
  have hne : c ≠ 'ſ' := by
    rintro rfl
    cases h
  rw [fold, if_neg hne]
  apply dif_neg
  rintro ⟨hge, -⟩
  have hge : 65 ≤ c.val.toNat := UInt32.le_iff_toNat_le.1 hge
  omega

theorem not_mem_of_isDigit {d : Char} (h : isMutatingWord word = true) (hd : d.isDigit = true) :
    d ∉ word := by
  apply not_mem_of_fold h
  rw [fold_of_isDigit hd]
  intro hmem
  have hletters : mutatingWords.flatten.any Char.isDigit = false := by decide +kernel
  exact List.any_eq_false.1 hletters d hmem hd

/-! ## From the text to the numbered text and back -/

open Placeholder (Span EndsInPlaceholder numberFrom numbered_cons numbered_placeholder)

variable {span : Span} {count : Nat}

/-- A mutating word that does not directly follow a placeholder stays. -/
theorem exists_wordIn_numbered (hmutating : isMutatingWord word = true)
    (h : WordIn text before word after) (hfree : ¬EndsInPlaceholder span before) :
    ∃ start rest, WordIn (numberFrom span count text).1 start word rest ∧
      (start = [] → before = []) := by
  induction before generalizing span count text with
  | nil =>
    have hquestion : '?' ∉ word := not_mem_of_fold hmutating (by decide)
    refine ⟨[], (numberFrom (span.after word) count after).1, ⟨?_, h.letters, nofun, ?_⟩,
      fun _ => rfl⟩
    · rw [h.eq]
      exact Placeholder.numbered_append hquestion
    · exact Placeholder.notAfter_numbered_iff.2 h.notAfter
  | cons c before ih =>
    have htext : text = c :: (before ++ word ++ after) := h.eq
    subst htext
    have hrest : ¬EndsInPlaceholder (span.next c) before := fun hends => hfree hends.cons
    by_cases hc : span.isPlaceholder c = true
    · obtain ⟨start, rest, hin, hnil⟩ := @ih _ (span.next c) (count + 1) h.of_cons hrest
      rw [numbered_placeholder hc]
      have hstart : start ≠ [] := by
        intro hempty
        rw [hnil hempty] at hfree
        exact hfree ⟨[], c, rfl, hc⟩
      exact ⟨_, rest, hin.append hstart _, fun heq => absurd heq (by simp)⟩
    · obtain ⟨start, rest, hin, hnil⟩ := @ih _ (span.next c) count h.of_cons hrest
      rw [numbered_cons (by simpa using hc)]
      refine ⟨c :: start, rest, hin.cons ?_, nofun⟩
      intro hempty
      rw [hnil hempty] at h
      exact h.notBefore c rfl

theorem isWord_getLast?_placeholder {n : Nat} :
    ∀ c ∈ ('$' :: Text.digits n).getLast?, isWord c = true := by
  intro c hc
  have hdigit : c.isDigit = true := by
    rw [List.getLast?_eq_some_getLast (List.cons_ne_nil _ _),
      List.getLast_cons (Text.digits_ne_nil n)] at hc
    apply Text.isDigit_of_mem_digits (n := n)
    rw [← Option.some.inj hc]
    exact List.getLast_mem (Text.digits_ne_nil n)
  apply Text.isWord_of_isAlphanum
  simp [Char.isAlphanum, hdigit]

/-- No mutating word begins in what a placeholder becomes, and none follows it directly. -/
theorem exists_of_placeholder_append {n : Nat} (hmutating : isMutatingWord word = true)
    (h : WordIn (('$' :: Text.digits n) ++ text) before word after) :
    ∃ start, start ≠ [] ∧ WordIn text start word after := by
  have hnot : before ≠ '$' :: Text.digits n := by
    rintro rfl
    obtain ⟨c, hc⟩ : ∃ c, ('$' :: Text.digits n).getLast? = some c :=
      ⟨_, List.getLast?_eq_some_getLast (List.cons_ne_nil _ _)⟩
    have hword := isWord_getLast?_placeholder c hc
    rw [h.notBefore c hc] at hword
    cases hword
  have heq := h.eq
  rw [List.append_assoc, List.append_eq_append_iff] at heq
  rcases heq with ⟨start, hbefore, htext⟩ | ⟨part, hplaceholder, hrest⟩
  · have hne : start ≠ [] := by
      rintro rfl
      exact hnot (by rw [hbefore, List.append_nil])
    refine ⟨start, hne, by rw [htext, List.append_assoc], h.letters, ?_, h.notAfter⟩
    intro c hc
    exact h.notBefore c (by rwa [hbefore, List.getLast?_append_of_ne_nil _ hne])
  · cases part with
    | nil => exact absurd (by rw [hplaceholder, List.append_nil]) hnot
    | cons d part =>
      obtain ⟨e, tail, rfl⟩ := List.exists_cons_of_ne_nil (ne_nil_of_isMutatingWord hmutating)
      obtain rfl : e = d := (List.cons.inj hrest).1
      have hmem : e ∈ '$' :: Text.digits n := by
        rw [hplaceholder]
        exact List.mem_append_right _ List.mem_cons_self
      rcases List.mem_cons.1 hmem with rfl | hdigits
      · exact absurd List.mem_cons_self (not_mem_of_fold hmutating (by decide))
      · exact absurd List.mem_cons_self
          (not_mem_of_isDigit hmutating (Text.isDigit_of_mem_digits hdigits))

theorem exists_of_wordIn_numbered_start (hmutating : isMutatingWord word = true)
    (h : WordIn (numberFrom span count text).1 [] word after) :
    ∃ rest, WordIn text [] word rest := by
  have hdollar : '$' ∉ word := not_mem_of_fold hmutating (by decide)
  obtain ⟨rest, rfl, rfl⟩ := Placeholder.exists_of_numbered_append hdollar h.eq
  exact ⟨rest, rfl, h.letters, nofun, Placeholder.notAfter_numbered_iff.1 h.notAfter⟩

/-- Every mutating word of a numbered text is one of the text, and follows no placeholder. -/
theorem exists_of_wordIn_numbered (hmutating : isMutatingWord word = true)
    (h : WordIn (numberFrom span count text).1 before word after) :
    ∃ start rest, WordIn text start word rest ∧ ¬EndsInPlaceholder span start ∧
      (start = [] → before = []) := by
  induction text generalizing span count before with
  | nil =>
    have heq : [] = before ++ word ++ after := h.eq
    simp [ne_nil_of_isMutatingWord hmutating] at heq
  | cons c text ih =>
    by_cases hbefore : before = []
    · subst hbefore
      obtain ⟨rest, hin⟩ := exists_of_wordIn_numbered_start hmutating h
      exact ⟨[], rest, hin, Placeholder.not_endsInPlaceholder_nil span, fun _ => rfl⟩
    by_cases hc : span.isPlaceholder c = true
    · rw [numbered_placeholder hc] at h
      obtain ⟨middle, hmiddle, hin⟩ := exists_of_placeholder_append hmutating h
      obtain ⟨start, rest, hin, hfree, hnil⟩ := ih hin
      have hstart : start ≠ [] := fun hempty => hmiddle (hnil hempty)
      refine ⟨c :: start, rest, hin.cons fun hempty => absurd hempty hstart, ?_, nofun⟩
      intro hends
      rcases hends.of_cons with ⟨hempty, -⟩ | hends
      · exact hstart hempty
      · exact hfree hends
    · have hc : span.isPlaceholder c = false := by simpa using hc
      rw [numbered_cons hc] at h
      obtain ⟨b, before, rfl⟩ := List.exists_cons_of_ne_nil hbefore
      obtain rfl : c = b := (List.cons.inj h.eq).1
      obtain ⟨start, rest, hin, hfree, hnil⟩ := ih h.of_cons
      refine ⟨c :: start, rest, hin.cons ?_, ?_, nofun⟩
      · intro hempty
        rw [hnil hempty] at h
        exact h.notBefore c rfl
      · intro hends
        rcases hends.of_cons with ⟨-, hplaceholder⟩ | hends
        · rw [hc] at hplaceholder
          cases hplaceholder
        · exact hfree hends

/-! ## What the guard sees -/

/-- One of the mutating words of a text does not directly follow a placeholder. -/
def ShowsMutation (text : String) : Prop :=
  ∃ before word after, WordIn text.toList before word after ∧ isMutatingWord word = true ∧
    ¬EndsInPlaceholder .outside before

/-- Numbering the placeholders hides a mutating word only where a placeholder stands right before
it. -/
theorem isMutating_number_iff {text : String} :
    isMutating (Placeholder.number text).1 = true ↔ ShowsMutation text := by
  have htoList : (Placeholder.number text).1.toList = (numberFrom .outside 0 text.toList).1 :=
    String.toList_ofList
  rw [isMutating_iff, htoList]
  constructor
  · rintro ⟨before, word, after, hin, hmutating⟩
    obtain ⟨start, rest, hin, hfree, -⟩ := exists_of_wordIn_numbered hmutating hin
    exact ⟨start, word, rest, hin, hmutating, hfree⟩
  · rintro ⟨before, word, after, hin, hmutating, hfree⟩
    obtain ⟨start, rest, hin, -⟩ := exists_wordIn_numbered hmutating hin hfree
    exact ⟨start, word, rest, hin, hmutating⟩

theorem isMutating_of_showsMutation {text : String} (h : ShowsMutation text) :
    isMutating text = true := by
  obtain ⟨before, word, after, hin, hmutating, -⟩ := h
  exact isMutating_iff.2 ⟨before, word, after, hin, hmutating⟩

theorem check_singleton {descriptor : Descriptor} :
    check [descriptor] = if isMutating descriptor.text then .error (.readOnly descriptor.text)
      else .ok () := by
  unfold check
  by_cases hmutating : isMutating descriptor.text = true
  · simp [hmutating]
  · simp [hmutating]

/-- **What the guard sees of a numbered query.** It sees a mutating word only if the text that was
written has one. It sees one whenever that text has one, unless all of them directly follow
placeholders; then, and only then, it takes the query for a harmless one. -/
theorem guard_sees_written (text : String) :
    (isMutating (Placeholder.number text).1 = true → isMutating text = true) ∧
    (isMutating (Placeholder.number text).1 = isMutating text ↔
      (isMutating text = true → ShowsMutation text)) ∧
    (check [(Statement.ofText text).descriptor] = .ok () ↔ ¬ShowsMutation text) ∧
    ∀ values wantStats,
      check [Descriptor.positional text values wantStats] = .ok () ↔ ¬ShowsMutation text := by
  have hcheck (descriptor : Descriptor) (htext : descriptor.text = (Placeholder.number text).1) :
      check [descriptor] = .ok () ↔ ¬ShowsMutation text := by
    rw [check_singleton, htext, ← isMutating_number_iff]
    split
    · simp [*]
    · simp [*]
  refine ⟨?_, ?_, hcheck _ rfl, fun values wantStats => hcheck _ rfl⟩
  · intro hnumbered
    exact isMutating_of_showsMutation (isMutating_number_iff.1 hnumbered)
  · rw [Bool.eq_iff_iff, isMutating_number_iff]
    exact ⟨fun h => h.2, fun h => ⟨isMutating_of_showsMutation, h⟩⟩

def separatedQuery : String := "MATCH (n) WHERE n.a = ? SET n.b = ?"

theorem guard_sees_written_separated :
    isMutating separatedQuery = true ∧ ShowsMutation separatedQuery ∧
      ∀ values, check [Descriptor.positional separatedQuery values true] ≠ .ok () := by
  have hwritten : isMutating separatedQuery = true := by decide +kernel
  have hnumbered : isMutating (Placeholder.number separatedQuery).1 = true := by decide +kernel
  obtain ⟨-, hsame, -, hpositional⟩ := guard_sees_written separatedQuery
  have hshows := hsame.1 (hnumbered.trans hwritten.symm) hwritten
  exact ⟨hwritten, hshows, fun values hok => (hpositional values true).1 hok hshows⟩

def unseparatedQuery : String := "MATCH (n) WHERE n.a = ?SET n.b = 1"

/-- The word `SET` begins at once after a placeholder, and the query passes for a harmless one. -/
theorem unseen_after_placeholder :
    isMutating unseparatedQuery = true ∧
      (Placeholder.number unseparatedQuery).1 = "MATCH (n) WHERE n.a = $1SET n.b = 1" ∧
      isMutating (Placeholder.number unseparatedQuery).1 = false ∧
      check [{ text := unseparatedQuery }] = .error (.readOnly unseparatedQuery) ∧
      check [Descriptor.positional unseparatedQuery [] true] = .ok () := by
  have hwritten : isMutating unseparatedQuery = true := by decide +kernel
  have hnumbered : isMutating (Placeholder.number unseparatedQuery).1 = false := by decide +kernel
  refine ⟨hwritten, by decide +kernel, hnumbered, ?_, ?_⟩
  · rw [check_singleton, if_pos hwritten]
  · rw [check_singleton, if_neg]
    exact Bool.eq_false_iff.1 hnumbered

end Guard

end CypherSession
