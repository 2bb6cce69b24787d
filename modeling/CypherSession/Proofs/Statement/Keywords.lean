import CypherSession.Proofs.Statement.Words
import CypherSession.Proofs.Text.Spelling
import Mathlib.Data.List.Forall2

/-!
# Keywords of mutating statements

The guard as a pattern: a keyword up to case folding, and a word boundary at both of its ends. As a
keyword consists of word characters only, a boundary stands before it exactly if no word character
does, and likewise after it. So the pattern finds a keyword in a text exactly if it is one of the
words of the text, and it does not matter in which order the keywords are tried.
-/

namespace CypherSession.Guard

open Text (isWord toLower_eq_or)

variable {text before keyword word after : List Char} {c letter : Char}

/-- The characters with the simple case fold of a letter of the keywords. Only `s` has one that is
not in ASCII, the long s. -/
def casesOf (letter : Char) : List Char :=
  if letter = 's' then ['s', 'S', 'ſ'] else [letter, letter.toUpper]

def Folds (keyword text : List Char) : Prop :=
  List.Forall₂ (fun letter c => c ∈ casesOf letter) keyword text

/-- One of two neighbouring texts has a word character at the place where they meet. -/
def Boundary (before after : List Char) : Prop :=
  before.getLast?.any isWord ≠ after.head?.any isWord

/-- What the pattern `\b(create|relate|delete|set)\b` finds in a text, case being ignored. -/
structure Finds (text before word after : List Char) : Prop where
  eq : text = before ++ word ++ after
  folds : ∃ keyword ∈ ["create", "relate", "delete", "set"], Folds keyword.toList word
  starts : Boundary before (word ++ after)
  ends : Boundary (before ++ word) after

/-! ## Case folding -/

theorem mem_casesOf_of_fold (hfold : fold c = letter) : c ∈ casesOf letter := by
  unfold fold at hfold
  unfold casesOf
  by_cases hlong : c = 'ſ'
  · rw [if_pos hlong] at hfold
    rw [if_pos hfold.symm, hlong]
    simp
  rw [if_neg hlong] at hfold
  have hcase : c = letter ∨ c = letter.toUpper := by
    rw [← hfold]
    exact (toLower_eq_or c).imp Eq.symm Eq.symm
  split
  · rename_i hletter
    have hupper : 's'.toUpper = 'S' := rfl
    rw [hletter, hupper] at hcase
    rcases hcase with rfl | rfl
    · exact List.mem_cons_self
    · exact List.mem_cons_of_mem _ List.mem_cons_self
  · simpa using hcase

theorem fold_eq_iff (hletter : letter ∈ mutatingWords.flatten) :
    fold c = letter ↔ c ∈ casesOf letter := by
  refine ⟨mem_casesOf_of_fold, fun hc => ?_⟩
  have hall : (mutatingWords.flatten.all fun letter =>
      (casesOf letter).all fun c => fold c = letter) = true := by decide +kernel
  exact of_decide_eq_true (List.all_eq_true.1 (List.all_eq_true.1 hall letter hletter) c hc)

theorem isWord_of_mem_casesOf (hletter : letter ∈ mutatingWords.flatten)
    (hc : c ∈ casesOf letter) : isWord c = true := by
  have hall : (mutatingWords.flatten.all fun letter => (casesOf letter).all isWord) = true := by
    decide +kernel
  exact List.all_eq_true.1 (List.all_eq_true.1 hall letter hletter) c hc

theorem map_fold_eq_iff (hletters : ∀ letter ∈ keyword, letter ∈ mutatingWords.flatten) :
    word.map fold = keyword ↔ Folds keyword word := by
  induction keyword generalizing word with
  | nil => simp [Folds]
  | cons letter keyword ih =>
    obtain ⟨hletter, hletters⟩ := List.forall_mem_cons.1 hletters
    unfold Folds
    cases word with
    | nil => simp
    | cons c word =>
      rw [List.map_cons, List.cons.injEq, List.forall₂_cons, fold_eq_iff hletter, ih hletters, Folds]

/-- The mutating words are the spellings of four keywords. -/
theorem isMutatingWord_iff :
    isMutatingWord word = true ↔
      ∃ keyword ∈ ["create", "relate", "delete", "set"], Folds keyword.toList word := by
  have hletters {keyword : List Char} (hkeyword : keyword ∈ mutatingWords) :
      ∀ letter ∈ keyword, letter ∈ mutatingWords.flatten :=
    fun letter hletter => List.mem_flatten.2 ⟨keyword, hkeyword, hletter⟩
  have hwords : mutatingWords = ["create", "relate", "delete", "set"].map String.toList := rfl
  rw [isMutatingWord, decide_eq_true_eq]
  constructor
  · intro hmem
    have hfolds := (map_fold_eq_iff (hletters hmem)).1 rfl
    rw [hwords] at hmem
    obtain ⟨keyword, hkeyword, heq⟩ := List.mem_map.1 hmem
    rw [← heq] at hfolds
    exact ⟨keyword, hkeyword, hfolds⟩
  · rintro ⟨keyword, hkeyword, hfolds⟩
    have hmem : keyword.toList ∈ mutatingWords := by
      rw [hwords]
      exact List.mem_map_of_mem hkeyword
    rwa [(map_fold_eq_iff (hletters hmem)).2 hfolds]

/-! ## Word boundaries -/

theorem letters_of_folds (h : ∃ keyword ∈ ["create", "relate", "delete", "set"],
    Folds keyword.toList word) : word ≠ [] ∧ ∀ c ∈ word, isWord c = true := by
  have hmutating := isMutatingWord_iff.2 h
  refine ⟨ne_nil_of_isMutatingWord hmutating, fun c hc => ?_⟩
  have hletter := fold_mem_of_isMutatingWord hmutating hc
  exact isWord_of_mem_casesOf hletter ((fold_eq_iff hletter).1 rfl)

theorem boundary_before_iff (hne : word ≠ []) (hletters : ∀ c ∈ word, isWord c = true) :
    Boundary before (word ++ after) ↔ ∀ c ∈ before.getLast?, isWord c = false := by
  obtain ⟨first, rest, rfl⟩ := List.exists_cons_of_ne_nil hne
  have hfirst : isWord first = true := hletters first List.mem_cons_self
  rw [Boundary, List.cons_append, List.head?_cons, Option.any_some, hfirst, ne_eq,
    Bool.not_eq_true, Option.any_eq_false]
  simp

theorem boundary_after_iff (hne : word ≠ []) (hletters : ∀ c ∈ word, isWord c = true) :
    Boundary (before ++ word) after ↔ ∀ c ∈ after.head?, isWord c = false := by
  obtain ⟨start, last, rfl⟩ := (List.eq_nil_or_concat' word).resolve_left hne
  have hlast : isWord last = true := hletters last (by simp)
  rw [Boundary, ← List.append_assoc, List.getLast?_concat, Option.any_some, hlast, ne_comm, ne_eq,
    Bool.not_eq_true, Option.any_eq_false]
  simp

/-- Where the pattern finds something, there is a mutating word of the text. -/
theorem finds_iff :
    Finds text before word after ↔
      WordIn text before word after ∧ isMutatingWord word = true := by
  constructor
  · intro h
    obtain ⟨hne, hletters⟩ := letters_of_folds h.folds
    refine ⟨⟨h.eq, hletters, ?_, ?_⟩, isMutatingWord_iff.2 h.folds⟩
    · exact (boundary_before_iff hne hletters).1 h.starts
    · exact (boundary_after_iff hne hletters).1 h.ends
  · rintro ⟨hin, hmutating⟩
    have hne := ne_nil_of_isMutatingWord hmutating
    exact ⟨hin.eq, isMutatingWord_iff.1 hmutating,
      (boundary_before_iff hne hin.letters).2 hin.notBefore,
      (boundary_after_iff hne hin.letters).2 hin.notAfter⟩

/-- **The guard matches keywords as whole words.** A text is mutating exactly if the pattern finds
something in it, which is a keyword up to case folding with no word character before or after it.
A list of statements is refused exactly if one of them is mutating, and the first one is named. -/
theorem guard_matches_keywords (text : String) (descriptors : List Descriptor) :
    (isMutating text = true ↔ ∃ before word after, Finds text.toList before word after) ∧
    (isMutating text = true ↔ ∃ before word after, text.toList = before ++ word ++ after ∧
      (∃ keyword ∈ ["create", "relate", "delete", "set"], Folds keyword.toList word) ∧
      (∀ c ∈ before.getLast?, isWord c = false) ∧ ∀ c ∈ after.head?, isWord c = false) ∧
    ((∃ error, check descriptors = .error error) ↔
      ∃ descriptor ∈ descriptors, isMutating descriptor.text = true) ∧
    ∀ error, check descriptors = .error error ↔
      ∃ before first rest, Splits descriptors before first rest ∧
        error = .readOnly first.text := by
  refine ⟨?_, ?_, ?_, fun error => check_eq_error_iff⟩
  · simp only [isMutating_iff, finds_iff]
  · rw [isMutating_iff]
    constructor
    · rintro ⟨before, word, after, hin, hmutating⟩
      exact ⟨before, word, after, hin.eq, isMutatingWord_iff.1 hmutating, hin.notBefore,
        hin.notAfter⟩
    · rintro ⟨before, word, after, heq, hfolds, hbefore, hafter⟩
      exact ⟨before, word, after, ⟨heq, (letters_of_folds hfolds).2, hbefore, hafter⟩,
        isMutatingWord_iff.2 hfolds⟩
  · constructor
    · rintro ⟨error, hcheck⟩
      obtain ⟨before, first, rest, hsplits, -⟩ := check_eq_error_iff.1 hcheck
      exact ⟨first, by rw [hsplits.eq]; simp, hsplits.mutating⟩
    · intro hmutating
      obtain ⟨before, first, rest, hsplits⟩ := exists_splits hmutating
      exact ⟨_, hsplits.check_eq_error⟩

example : isMutating "MATCH (n) \u017fEt n.createdAt = 1" = true := by decide +kernel

example : isMutating "MATCH (n:Reset) RETURN n.deletedAt, n.set_by, n.créate" = false := by
  decide +kernel

end CypherSession.Guard
