import CypherSession.Text.Cut
import Mathlib.Logic.Basic

/-!
# Words in letters of either case

A word is taken off the start of a text whatever the case of its letters is there. As only letters
of ASCII have another case, this compares as many bytes of the text as the word has, if a character
ends behind these bytes, and finds nothing otherwise.
-/

namespace CypherSession.Text

variable {word text rest start : List Char} {c w s : Char}

/-! ## Letters -/

theorem val_toLower (hupper : c.val ≥ 'A'.val ∧ c.val ≤ 'Z'.val) :
    c.toLower.val = c.val + ('a'.val - 'A'.val) := by
  have hlower : c.toLower = ⟨c.val + ('a'.val - 'A'.val), _⟩ := dif_pos hupper
  rw [hlower]

theorem val_toUpper (hlower : 'a'.val ≤ c.val ∧ c.val ≤ 'z'.val) :
    c.toUpper.val = c.val + ('A'.val - 'a'.val) := by
  have hupper : c.toUpper = ⟨c.val + ('A'.val - 'a'.val), _⟩ := dif_pos hlower
  rw [hupper]

/-- Taking the lower case can be undone, unless it changes nothing. -/
theorem toLower_eq_or (c : Char) : c.toLower = c ∨ c.toLower.toUpper = c := by
  by_cases hupper : c.val ≥ 'A'.val ∧ c.val ≤ 'Z'.val
  · right
    have hlower := val_toLower hupper
    have hrange : 'a'.val ≤ c.toLower.val ∧ c.toLower.val ≤ 'z'.val := by
      have hdistance : ('a'.val - 'A'.val).toNat = 32 := by decide +kernel
      have hletters : 'A'.val.toNat = 65 ∧ 'Z'.val.toNat = 90 ∧ 'a'.val.toNat = 97 ∧
        'z'.val.toNat = 122 := ⟨rfl, rfl, rfl, rfl⟩
      rw [hlower]
      simp only [UInt32.le_iff_toNat_le, UInt32.toNat_add, ge_iff_le] at hupper ⊢
      omega
    have hcancel : 'a'.val - 'A'.val + ('A'.val - 'a'.val) = 0 := by decide +kernel
    apply Char.ext
    rw [val_toUpper hrange, hlower, UInt32.add_assoc, hcancel, UInt32.add_zero]
  · left
    exact dif_neg hupper

/-! ## Spellings -/

/-- The text is the word, in letters of either case. -/
def Spells (word text : List Char) : Prop :=
  text.map Char.toLower = word.map Char.toLower

instance (word text : List Char) : Decidable (Spells word text) :=
  inferInstanceAs (Decidable (text.map Char.toLower = word.map Char.toLower))

theorem Spells.exists_cons (h : Spells (w :: word) text) :
    ∃ c tail, text = c :: tail ∧ c.toLower = w.toLower ∧ Spells word tail := by
  cases text with
  | nil => cases h
  | cons c tail =>
    obtain ⟨hhead, htail⟩ := List.cons.inj h
    exact ⟨c, tail, rfl, hhead, htail⟩

theorem Spells.exists_append {first second : List Char} (h : Spells (first ++ second) text) :
    ∃ head tail, text = head ++ tail ∧ Spells first head ∧ Spells second tail :=
  List.map_eq_append_iff.1 (h.trans List.map_append)

theorem Spells.length_eq (h : Spells word text) : text.length = word.length := by
  have hlength := congrArg List.length h
  rwa [List.length_map, List.length_map] at hlength

theorem Spells.toLower_mem (h : Spells word text) (hc : c ∈ text) :
    c.toLower ∈ word.map Char.toLower := by
  rw [← show text.map Char.toLower = word.map Char.toLower from h]
  exact List.mem_map_of_mem hc

theorem Spells.not_mem (h : Spells word text) (hc : c.toLower ∉ word.map Char.toLower) :
    c ∉ text :=
  fun hmem => hc (h.toLower_mem hmem)

def bothCases (word : List Char) : List Char :=
  word.map Char.toLower ++ (word.map Char.toLower).map Char.toUpper

theorem Spells.mem_bothCases (h : Spells word text) (hc : c ∈ text) : c ∈ bothCases word := by
  have hlower := h.toLower_mem hc
  rcases toLower_eq_or c with hsame | hupper
  · rw [hsame] at hlower
    exact List.mem_append_left _ hlower
  · exact List.mem_append_right _ (List.mem_map.2 ⟨c.toLower, hlower, hupper⟩)

/-! ## Words taken off -/

theorem stripStart_of_spells (h : Spells word text) (rest : List Char) :
    stripStart word (text ++ rest) = some rest := by
  induction word generalizing text with
  | nil =>
    have hnil : text = [] := List.map_eq_nil_iff.1 h
    rw [hnil]
    rfl
  | cons w word ih =>
    obtain ⟨c, tail, rfl, hhead, htail⟩ := h.exists_cons
    rw [List.cons_append, stripStart, if_pos hhead]
    exact ih htail

theorem stripStart_of_spells_other (h : Spells (w :: word) text) (hne : w.toLower ≠ s.toLower)
    (rest : List Char) : stripStart (s :: start) (text ++ rest) = none := by
  obtain ⟨c, tail, rfl, hhead, -⟩ := h.exists_cons
  rw [List.cons_append, stripStart, if_neg (by rwa [hhead])]

theorem stripStart_append_of_spells {more : List Char} (h : Spells word text) (rest : List Char) :
    stripStart (word ++ more) (text ++ rest) = stripStart more rest := by
  induction word generalizing text with
  | nil =>
    have hnil : text = [] := List.map_eq_nil_iff.1 h
    rw [hnil]
    rfl
  | cons w word ih =>
    obtain ⟨c, tail, rfl, hhead, htail⟩ := h.exists_cons
    rw [List.cons_append, List.cons_append, stripStart, if_pos hhead]
    exact ih htail

/-- What is stripped is a spelling of the word. -/
theorem exists_of_stripStart (h : stripStart word text = some rest) :
    ∃ written, text = written ++ rest ∧ Spells word written := by
  induction word generalizing text with
  | nil =>
    cases h
    exact ⟨[], rfl, rfl⟩
  | cons w word ih =>
    cases text with
    | nil => cases h
    | cons c text =>
      rw [stripStart] at h
      by_cases hc : c.toLower = w.toLower
      · rw [if_pos hc] at h
        obtain ⟨written, rfl, hwritten⟩ := ih h
        exact ⟨c :: written, rfl, congrArg₂ List.cons hc hwritten⟩
      · rw [if_neg hc] at h
        cases h

/-- An optional word is taken off if it is there, and nothing else is. -/
theorem getD_stripStart (hword : text = [] ∨ Spells word text)
    (hrest : stripStart word rest = none) :
    (stripStart word (text ++ rest)).getD (text ++ rest) = rest := by
  rcases hword with rfl | hspells
  · rw [List.nil_append, hrest, Option.getD_none]
  · rw [stripStart_of_spells hspells, Option.getD_some]

theorem exists_of_getD_stripStart (word text : List Char) :
    ∃ written, text = written ++ (stripStart word text).getD text ∧
      (written = [] ∨ Spells word written) := by
  cases h : stripStart word text with
  | none => exact ⟨[], rfl, .inl rfl⟩
  | some rest =>
    obtain ⟨written, htext, hwritten⟩ := exists_of_stripStart h
    exact ⟨written, htext, .inr hwritten⟩

/-! ## Cuts by bytes -/

def byteSize : List Char → Nat
  | [] => 0
  | c :: text => c.utf8Size + byteSize text

/-- The text cut behind its first `size` bytes, if a character ends there. -/
def cutBytes? : Nat → List Char → Option (List Char × List Char)
  | 0, text => some ([], text)
  | _ + 1, [] => none
  | size + 1, c :: text =>
    if c.utf8Size ≤ size + 1 then
      (cutBytes? (size + 1 - c.utf8Size) text).map fun (before, after) => (c :: before, after)
    else none

theorem cutBytes?_append (start tail : List Char) :
    cutBytes? (byteSize start) (start ++ tail) = some (start, tail) := by
  induction start with
  | nil =>
    rw [show byteSize [] = 0 from rfl, List.nil_append, cutBytes?]
  | cons c start ih =>
    have hpos := c.utf8Size_pos
    obtain ⟨size, hsize⟩ : ∃ size, c.utf8Size + byteSize start = size + 1 :=
      Nat.exists_eq_add_one_of_ne_zero (by omega)
    have hrest : size + 1 - c.utf8Size = byteSize start := by omega
    rw [byteSize, hsize, List.cons_append, cutBytes?, if_pos (by omega), hrest, ih]
    rfl

theorem eq_append_of_cutBytes? {size : Nat} {tail : List Char}
    (h : cutBytes? size text = some (start, tail)) : text = start ++ tail := by
  induction text generalizing size start with
  | nil =>
    cases size with
    | zero =>
      cases h
      rfl
    | succ size => cases h
  | cons c text ih =>
    cases size with
    | zero =>
      cases h
      rfl
    | succ size =>
      rw [cutBytes?] at h
      by_cases hc : c.utf8Size ≤ size + 1
      · rw [if_pos hc] at h
        obtain ⟨⟨before, after⟩, hcut, hparts⟩ := Option.map_eq_some_iff.1 h
        cases hparts
        rw [ih hcut, List.cons_append]
      · rw [if_neg hc] at h
        cases h

theorem byteSize_of_ascii (h : ∀ c ∈ text, c.utf8Size = 1) : byteSize text = text.length := by
  induction text with
  | nil => rfl
  | cons c text ih =>
    obtain ⟨hc, htext⟩ := List.forall_mem_cons.1 h
    rw [byteSize, hc, ih htext, List.length_cons, Nat.add_comm]

/-- **Taking a word off compares bytes.** A word of ASCII characters is taken off exactly if a
character ends behind as many bytes of the text as the word has, and the text up to there is the
word in letters of either case. -/
theorem stripStart_eq_cutBytes (hword : ∀ c ∈ bothCases word, c.utf8Size = 1) (text : List Char) :
    stripStart word text = (cutBytes? word.length text).bind fun parts =>
      if Spells word parts.1 then some parts.2 else none := by
  refine Option.ext fun rest => ?_
  rw [Option.bind_eq_some_iff]
  constructor
  · intro hstrip
    obtain ⟨written, rfl, hwritten⟩ := exists_of_stripStart hstrip
    have hsize : byteSize written = word.length := by
      rw [byteSize_of_ascii fun c hc => hword c (hwritten.mem_bothCases hc), hwritten.length_eq]
    rw [← hsize]
    exact ⟨(written, rest), cutBytes?_append written rest, if_pos hwritten⟩
  · rintro ⟨⟨written, tail⟩, hcut, htail⟩
    obtain rfl := eq_append_of_cutBytes? hcut
    by_cases hwritten : Spells word written
    · rw [if_pos hwritten] at htail
      rw [← Option.some.inj htail]
      exact stripStart_of_spells hwritten tail
    · rw [if_neg hwritten] at htail
      cases htail

end CypherSession.Text
