import CypherSession.Statement.Guard
import Mathlib.Data.List.Basic

/-!
# Words of a query

A word of a text is a run of word characters that no further word character touches, at the ends of
the text or beside other characters. The guard looks at all of them, and at nothing else. Of several
statements it names the first one in which it sees a mutating word.
-/

namespace CypherSession.Guard

open Text (isWord)

structure WordIn (text before word after : List Char) : Prop where
  eq : text = before ++ word ++ after
  letters : ∀ c ∈ word, isWord c = true
  notBefore : ∀ c ∈ before.getLast?, isWord c = false
  notAfter : ∀ c ∈ after.head?, isWord c = false

section

variable {text before word after : List Char}

theorem words_append {c : Char} (hc : isWord c = false) (before after : List Char) :
    words (before ++ c :: after) = words before ++ words after :=
  List.splitOnP_append_cons before after (by simpa using hc)

theorem words_of_isWord (h : ∀ c ∈ word, isWord c = true) : words word = [word] :=
  List.splitOnP_eq_singleton fun c hc => by simpa using h c hc

theorem exists_wordIn_of_mem_words (h : word ∈ words text) :
    ∃ before after, WordIn text before word after := by
  -- What the induction is on is the text after its first word.
  induction hlength : text.length using Nat.strongRecOn generalizing text with
  | ind length ih =>
    cases hfind : text.find? fun c => !isWord c with
    | none =>
      have hall : ∀ c ∈ text, isWord c = true := by simpa using hfind
      rw [words_of_isWord hall, List.mem_singleton] at h
      subst h
      exact ⟨[], [], by simp, hall, nofun, nofun⟩
    | some c =>
      obtain ⟨hc, first, rest, rfl, hfirst⟩ := List.find?_eq_some_iff_append.1 hfind
      have hapart : isWord c = false := by simpa using hc
      have hall : ∀ d ∈ first, isWord d = true := by simpa using hfirst
      rw [words_append hapart, words_of_isWord hall, List.singleton_append] at h
      rcases List.mem_cons.1 h with rfl | hrest
      · refine ⟨[], c :: rest, by simp, hall, nofun, ?_⟩
        rintro d ⟨⟩
        exact hapart
      · obtain ⟨before, after, hin⟩ := ih rest.length (by simp at hlength; omega) hrest rfl
        refine ⟨first ++ c :: before, after, by rw [hin.eq]; simp, hin.letters, ?_, hin.notAfter⟩
        intro d hd
        rcases before.eq_nil_or_concat' with rfl | ⟨start, last, rfl⟩
        · obtain rfl : c = d := by simpa using hd
          exact hapart
        · rw [← List.cons_append, ← List.append_assoc, List.getLast?_concat] at hd
          exact hin.notBefore d (by rwa [List.getLast?_concat])

theorem WordIn.mem_words (h : WordIn text before word after) : word ∈ words text := by
  have hmem : word ∈ words (word ++ after) := by
    cases after with
    | nil =>
      rw [List.append_nil, words_of_isWord h.letters]
      exact List.mem_singleton_self word
    | cons c rest =>
      rw [words_append (h.notAfter c rfl), words_of_isWord h.letters]
      exact List.mem_cons_self
  rw [h.eq, List.append_assoc]
  rcases before.eq_nil_or_concat' with rfl | ⟨start, last, rfl⟩
  · exact hmem
  · have hlast : isWord last = false := h.notBefore last (by simp)
    rw [List.append_assoc, List.singleton_append, words_append hlast]
    exact List.mem_append_right _ hmem

/-- The guard sees whole words. -/
theorem isMutating_iff {text : String} :
    isMutating text = true ↔ ∃ before word after,
      WordIn text.toList before word after ∧ isMutatingWord word = true := by
  unfold isMutating
  rw [List.any_eq_true]
  constructor
  · rintro ⟨word, hmem, hmutating⟩
    obtain ⟨before, after, hin⟩ := exists_wordIn_of_mem_words hmem
    exact ⟨before, word, after, hin, hmutating⟩
  · rintro ⟨before, word, after, hin, hmutating⟩
    exact ⟨word, hin.mem_words, hmutating⟩

theorem fold_mem_of_isMutatingWord (h : isMutatingWord word = true) {c : Char} (hc : c ∈ word) :
    fold c ∈ mutatingWords.flatten := by
  have hmem : word.map fold ∈ mutatingWords := by simpa [isMutatingWord] using h
  exact List.mem_flatten.2 ⟨_, hmem, List.mem_map_of_mem hc⟩

theorem ne_nil_of_isMutatingWord (h : isMutatingWord word = true) : word ≠ [] := by
  rintro rfl
  exact absurd h (by decide)

end

/-! ## The first mutating statement -/

variable {descriptors : List Descriptor}

theorem check_eq_ok_iff :
    check descriptors = .ok () ↔
      ∀ descriptor ∈ descriptors, isMutating descriptor.text = false := by
  unfold check
  cases hfind : descriptors.find? fun descriptor => isMutating descriptor.text with
  | none => simpa using hfind
  | some first =>
    have hmutating := List.find?_some hfind
    have hmem := List.mem_of_find?_eq_some hfind
    simp only [reduceCtorEq, false_iff]
    intro hall
    rw [hall first hmem] at hmutating
    cases hmutating

/-- The first mutating descriptor of a list, with those before and after it. -/
structure Splits (descriptors before : List Descriptor) (first : Descriptor)
    (rest : List Descriptor) : Prop where
  eq : descriptors = before ++ first :: rest
  harmless : ∀ descriptor ∈ before, isMutating descriptor.text = false
  mutating : isMutating first.text = true

theorem exists_splits (h : ∃ descriptor ∈ descriptors, isMutating descriptor.text = true) :
    ∃ before first rest, Splits descriptors before first rest := by
  induction descriptors with
  | nil =>
    obtain ⟨descriptor, hmem, -⟩ := h
    cases hmem
  | cons head tail ih =>
    by_cases hhead : isMutating head.text = true
    · exact ⟨[], head, tail, rfl, nofun, hhead⟩
    · have hharmless : isMutating head.text = false := by simpa using hhead
      obtain ⟨descriptor, hmem, hmutating⟩ := h
      have htail : descriptor ∈ tail := by
        rcases List.mem_cons.1 hmem with rfl | htail
        · exact absurd hmutating hhead
        · exact htail
      obtain ⟨before, first, rest, rfl, hbefore, hfirst⟩ := ih ⟨descriptor, htail, hmutating⟩
      exact ⟨head :: before, first, rest, rfl, List.forall_mem_cons.2 ⟨hharmless, hbefore⟩, hfirst⟩

variable {before rest : List Descriptor} {first : Descriptor}

theorem Splits.check_eq_error (h : Splits descriptors before first rest) :
    check descriptors = .error (.readOnly first.text) := by
  have hfind : descriptors.find? (fun descriptor => isMutating descriptor.text) = some first := by
    rw [List.find?_eq_some_iff_append]
    exact ⟨h.mutating, before, rest, h.eq, fun descriptor hmem => by simp [h.harmless _ hmem]⟩
  simp only [check, hfind]

/-- The guard names the first mutating text. -/
theorem check_eq_error_iff {error : SessionError} :
    check descriptors = .error error ↔
      ∃ before first rest, Splits descriptors before first rest ∧ error = .readOnly first.text := by
  constructor
  · intro h
    have hmutating : ∃ descriptor ∈ descriptors, isMutating descriptor.text = true := by
      by_contra hnone
      have hok : check descriptors = .ok () := check_eq_ok_iff.2 fun descriptor hmem =>
        Bool.eq_false_iff.2 fun hmutating => hnone ⟨descriptor, hmem, hmutating⟩
      rw [hok] at h
      cases h
    obtain ⟨before, first, rest, hsplits⟩ := exists_splits hmutating
    rw [hsplits.check_eq_error] at h
    exact ⟨before, first, rest, hsplits, (Except.error.inj h).symm⟩
  · rintro ⟨before, first, rest, hsplits, rfl⟩
    exact hsplits.check_eq_error

theorem Splits.findIdx? (h : Splits descriptors before first rest) :
    descriptors.findIdx? (fun descriptor => isMutating descriptor.text) = some before.length := by
  have hbefore : before.findIdx? (fun descriptor => isMutating descriptor.text) = none := by
    rw [List.findIdx?_eq_none_iff]
    exact h.harmless
  rw [h.eq, List.findIdx?_append, hbefore, List.findIdx?_cons, if_pos h.mutating]
  simp

end CypherSession.Guard
