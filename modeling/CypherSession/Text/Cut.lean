/-!
# Cutting texts

Texts cut at the first or the last occurrence of a separator, and prefixes taken off without
regard to the case of ASCII letters.
-/

namespace CypherSession.Text

def cutFirst (separator : Char) : List Char → Option (List Char × List Char)
  | [] => none
  | c :: rest =>
    if c = separator then some ([], rest)
    else (cutFirst separator rest).map fun (before, after) => (c :: before, after)

def cutLast (separator : Char) (text : List Char) : Option (List Char × List Char) :=
  (cutFirst separator text.reverse).map fun (after, before) => (before.reverse, after.reverse)

/-- The rest of a text that begins with `start`, where ASCII letters match in either case. -/
def stripStart : List Char → List Char → Option (List Char)
  | [], text => some text
  | _ :: _, [] => none
  | s :: start, c :: text => if c.toLower = s.toLower then stripStart start text else none

def stripEnd (ending text : List Char) : Option (List Char) :=
  if ending.isSuffixOf text then some (text.take (text.length - ending.length)) else none

theorem cutFirst_eq_none_iff {separator : Char} {text : List Char} :
    cutFirst separator text = none ↔ separator ∉ text := by
  induction text with
  | nil => simp [cutFirst]
  | cons c rest ih =>
    by_cases h : c = separator
    · simp [cutFirst, h]
    · simp [cutFirst, h, ih, Ne.symm h]

/-- A cut at the first separator loses nothing, and no separator stands before it. -/
theorem cutFirst_eq_some_iff {separator : Char} {text before after : List Char} :
    cutFirst separator text = some (before, after) ↔
      text = before ++ separator :: after ∧ separator ∉ before := by
  induction text generalizing before with
  | nil => simp [cutFirst]
  | cons c rest ih =>
    by_cases h : c = separator
    · subst h
      cases before with
      | nil => simp [cutFirst]
      | cons b before => simp only [cutFirst, if_pos]; simp; intro hb; simp [hb]
    · cases before with
      | nil => simp [cutFirst, h]
      | cons b before =>
        simp only [cutFirst, h, if_false, Option.map_eq_some_iff, Prod.mk.injEq, List.cons.injEq,
          List.cons_append, List.mem_cons, not_or]
        constructor
        · rintro ⟨⟨x, y⟩, hxy, ⟨rfl, rfl⟩, rfl⟩
          obtain ⟨htext, hnot⟩ := ih.1 hxy
          exact ⟨⟨rfl, htext⟩, Ne.symm h, hnot⟩
        · rintro ⟨⟨rfl, htext⟩, _, hnot⟩
          exact ⟨(before, after), ih.2 ⟨htext, hnot⟩, ⟨rfl, rfl⟩, rfl⟩

/-- A cut at the last separator loses nothing, and no separator stands after it. -/
theorem cutLast_eq_some_iff {separator : Char} {text before after : List Char} :
    cutLast separator text = some (before, after) ↔
      text = before ++ separator :: after ∧ separator ∉ after := by
  unfold cutLast
  simp only [Option.map_eq_some_iff, Prod.mk.injEq]
  constructor
  · rintro ⟨⟨x, y⟩, hxy, rfl, rfl⟩
    obtain ⟨htext, hnot⟩ := cutFirst_eq_some_iff.1 hxy
    refine ⟨?_, by simpa using hnot⟩
    have := congrArg List.reverse htext
    simpa using this
  · rintro ⟨rfl, hnot⟩
    exact ⟨(after.reverse, before.reverse),
      cutFirst_eq_some_iff.2 ⟨by simp, by simpa using hnot⟩, by simp, by simp⟩

theorem cutLast_eq_none_iff {separator : Char} {text : List Char} :
    cutLast separator text = none ↔ separator ∉ text := by
  simp [cutLast, cutFirst_eq_none_iff]

/-- A text without its ending is what stands before that ending. -/
theorem stripEnd_eq_some_iff {ending text rest : List Char} :
    stripEnd ending text = some rest ↔ text = rest ++ ending := by
  unfold stripEnd
  constructor
  · intro h
    split at h
    · rename_i hsuffix
      cases h
      exact (List.suffix_iff_eq_append.1 (List.isSuffixOf_iff_suffix.1 hsuffix)).symm
    · cases h
  · rintro rfl
    have hsuffix : ending.isSuffixOf (rest ++ ending) = true :=
      List.isSuffixOf_iff_suffix.2 (List.suffix_append rest ending)
    rw [if_pos hsuffix, List.length_append, Nat.add_sub_cancel, List.take_left']
    rfl

end CypherSession.Text
