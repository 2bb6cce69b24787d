import CypherSession.Text.Percent
import Mathlib.Data.List.Basic
import Mathlib.Tactic.IntervalCases

/-!
# Texts without escapes

A text in which no percent sign stands is its own decoded form. Its octets are the UTF-8 encodings
of its characters, and strict reading of these gives the characters back, one piece for each.
-/

namespace CypherSession.Text

namespace Utf8

variable {n v low high : Nat} {rest : List UInt8}

/-! ## Octets of an encoding -/

theorem lead?_of_two (hlow : 2 ≤ n) (hhigh : n < 32) :
    lead? (UInt8.ofNat (n + 192)) = some ⟨2, UInt8.ofNat 128, UInt8.ofNat 191, n⟩ := by
  interval_cases n <;> rfl

theorem lead?_of_three (hhigh : n < 16) :
    lead? (UInt8.ofNat (n + 224)) =
      some ⟨3, UInt8.ofNat (if n = 0 then 160 else 128),
        UInt8.ofNat (if n = 13 then 159 else 191), n⟩ := by
  interval_cases n <;> rfl

theorem lead?_of_four (hhigh : n < 5) :
    lead? (UInt8.ofNat (n + 240)) =
      some ⟨4, UInt8.ofNat (if n = 0 then 144 else 128),
        UInt8.ofNat (if n = 4 then 143 else 191), n⟩ := by
  interval_cases n <;> rfl

theorem ofNat_le_ofNat (hle : low ≤ high) (h : high < 256) :
    UInt8.ofNat low ≤ UInt8.ofNat high := by
  rw [UInt8.le_iff_toNat_le, UInt8.toNat_ofNat_of_lt' (Nat.lt_of_le_of_lt hle h),
    UInt8.toNat_ofNat_of_lt' h]
  exact hle

/-- An octet between two others is neither less than the one nor greater than the other. -/
theorem not_outside (low n high : Nat) (hlow : low ≤ n) (hhigh : n ≤ high) (h : high < 256) :
    ¬(UInt8.ofNat n < UInt8.ofNat low ∨ UInt8.ofNat high < UInt8.ofNat n) := by
  rw [not_or, UInt8.not_lt, UInt8.not_lt]
  exact ⟨ofNat_le_ofNat hlow (Nat.lt_of_le_of_lt hhigh h), ofNat_le_ofNat hhigh h⟩

theorem not_ascii (hlow : 128 ≤ n) (hhigh : n < 256) : ¬UInt8.ofNat n < 0x80 := by
  rw [UInt8.not_lt]
  exact ofNat_le_ofNat hlow hhigh

theorem isTail_ofNat (h : n < 64) : isTail (UInt8.ofNat (n + 128)) = true := by
  have hlow : UInt8.ofNat 128 ≤ UInt8.ofNat (n + 128) := ofNat_le_ofNat (by omega) (by omega)
  have hhigh : UInt8.ofNat (n + 128) ≤ UInt8.ofNat 191 := ofNat_le_ofNat (by omega) (by omega)
  exact Bool.and_eq_true_iff.2 ⟨decide_eq_true hlow, decide_eq_true hhigh⟩

/-- A tail carries six bits. -/
theorem bits_tail (h : n < 64) : (UInt8.ofNat (n + 128) - 0x80).toNat = n := by
  have hle : UInt8.ofNat 128 ≤ UInt8.ofNat (n + 128) := ofNat_le_ofNat (by omega) (by omega)
  calc (UInt8.ofNat (n + 128) - 0x80).toNat
      = (UInt8.ofNat (n + 128)).toNat - 128 := UInt8.toNat_sub_of_le _ _ hle
    _ = n + 128 - 128 := by rw [UInt8.toNat_ofNat_of_lt' (show n + 128 < 256 by omega)]
    _ = n := Nat.add_sub_cancel n 128

theorem scalar_tails {bits : Nat} (tails : List Nat) (h : ∀ n ∈ tails, n < 64) :
    scalar bits (tails.map fun n => UInt8.ofNat (n + 128)) =
      Char.ofNat (tails.foldl (fun value n => value * 64 + n) bits) := by
  rw [scalar, List.foldl_map]
  refine congrArg Char.ofNat (List.foldl_ext _ _ _ fun value n hn => ?_)
  rw [bits_tail (h n hn)]

/-! ## One piece for each character -/

theorem pieces_of_one (h : v < 128) :
    pieces (UInt8.ofNat v :: rest) = .scalar (Char.ofNat v) 1 :: pieces rest := by
  have hv : v < 256 := by omega
  have hascii : UInt8.ofNat v < 0x80 := by
    rw [UInt8.lt_iff_toNat_lt, UInt8.toNat_ofNat_of_lt' hv]
    exact h
  rw [pieces, if_pos hascii, UInt8.toNat_ofNat_of_lt' hv]

theorem pieces_of_two (hlow : 128 ≤ v) (hhigh : v < 2048) :
    pieces (UInt8.ofNat (v / 64 % 32 + 192) :: UInt8.ofNat (v % 64 + 128) :: rest) =
      .scalar (Char.ofNat v) 2 :: pieces rest := by
  have hlead := lead?_of_two (n := v / 64 % 32) (by omega) (by omega)
  have hsecond := not_outside 128 (v % 64 + 128) 191 (by omega) (by omega)
    (by decide)
  have hbits : v / 64 % 32 * 64 + v % 64 = v := by omega
  have hscalar : scalar (v / 64 % 32) [UInt8.ofNat (v % 64 + 128)] = Char.ofNat v := by
    refine (scalar_tails [v % 64] ?_).trans (congrArg Char.ofNat hbits)
    simp [Nat.mod_lt]
  rw [pieces, if_neg (not_ascii (by omega) (by omega)), hlead]
  simp only [if_neg hsecond, if_true, hscalar]

theorem pieces_of_three (hlow : 2048 ≤ v) (hhigh : v < 65536) (hvalid : v < 0xD800 ∨ 0xDFFF < v) :
    pieces (UInt8.ofNat (v / 4096 % 16 + 224) :: UInt8.ofNat (v / 64 % 64 + 128) ::
      UInt8.ofNat (v % 64 + 128) :: rest) = .scalar (Char.ofNat v) 3 :: pieces rest := by
  have hlead := lead?_of_three (n := v / 4096 % 16) (by omega)
  have hsecond := not_outside (if v / 4096 % 16 = 0 then 160 else 128)
    (v / 64 % 64 + 128) (if v / 4096 % 16 = 13 then 159 else 191)
    (by split <;> omega) (by split <;> omega) (by split <;> omega)
  have hthird : isTail (UInt8.ofNat (v % 64 + 128)) = true := isTail_ofNat (by omega)
  have hbits : (v / 4096 % 16 * 64 + v / 64 % 64) * 64 + v % 64 = v := by omega
  have hscalar : scalar (v / 4096 % 16)
      [UInt8.ofNat (v / 64 % 64 + 128), UInt8.ofNat (v % 64 + 128)] = Char.ofNat v := by
    refine (scalar_tails [v / 64 % 64, v % 64] ?_).trans (congrArg Char.ofNat hbits)
    simp [Nat.mod_lt]
  rw [pieces, if_neg (not_ascii (by omega) (by omega)), hlead]
  simp only [if_neg hsecond, hthird, hscalar]
  rfl

theorem pieces_of_four (hlow : 65536 ≤ v) (hhigh : v < 0x110000) :
    pieces (UInt8.ofNat (v / 262144 % 8 + 240) :: UInt8.ofNat (v / 4096 % 64 + 128) ::
      UInt8.ofNat (v / 64 % 64 + 128) :: UInt8.ofNat (v % 64 + 128) :: rest) =
      .scalar (Char.ofNat v) 4 :: pieces rest := by
  have hlead := lead?_of_four (n := v / 262144 % 8) (by omega)
  have hsecond := not_outside (if v / 262144 % 8 = 0 then 144 else 128)
    (v / 4096 % 64 + 128) (if v / 262144 % 8 = 4 then 143 else 191)
    (by split <;> omega) (by split <;> omega) (by split <;> omega)
  have hthird : isTail (UInt8.ofNat (v / 64 % 64 + 128)) = true := isTail_ofNat (by omega)
  have hfourth : isTail (UInt8.ofNat (v % 64 + 128)) = true := isTail_ofNat (by omega)
  have hbits : ((v / 262144 % 8 * 64 + v / 4096 % 64) * 64 + v / 64 % 64) * 64 + v % 64 = v := by
    omega
  have hscalar : scalar (v / 262144 % 8) [UInt8.ofNat (v / 4096 % 64 + 128),
      UInt8.ofNat (v / 64 % 64 + 128), UInt8.ofNat (v % 64 + 128)] = Char.ofNat v := by
    refine (scalar_tails [v / 4096 % 64, v / 64 % 64, v % 64] ?_).trans
      (congrArg Char.ofNat hbits)
    simp [Nat.mod_lt]
  rw [pieces, if_neg (not_ascii (by omega) (by omega)), hlead]
  simp only [if_neg hsecond, hthird, hfourth, hscalar]
  rfl

/-- The encoding of a character is read as that character. -/
theorem exists_pieces_append (c : Char) (rest : List UInt8) :
    ∃ width, pieces (String.utf8EncodeChar c ++ rest) = .scalar c width :: pieces rest := by
  have hchar : Char.ofNat c.val.toNat = c := Char.ofNat_toNat c
  -- The numbers of surrogates, and those from 0x110000 on, belong to no character.
  have hvalid : c.val.toNat < 0xD800 ∨ 0xDFFF < c.val.toNat ∧ c.val.toNat < 0x110000 := c.valid
  unfold String.utf8EncodeChar
  dsimp only
  generalize c.val.toNat = v at hchar hvalid
  subst hchar
  split
  · exact ⟨1, pieces_of_one (by omega)⟩
  split
  · exact ⟨2, pieces_of_two (by omega) (by omega)⟩
  split
  · exact ⟨3, pieces_of_three (by omega) (by omega) (by omega)⟩
  · exact ⟨4, pieces_of_four (by omega) (by omega)⟩

/-- Text is read back from its encoding. -/
theorem scalars_encode (text : List Char) (offset : Nat) :
    scalars offset (pieces (encode text)) = .ok text := by
  induction text generalizing offset with
  | nil => rw [encode, List.flatMap_nil, pieces, scalars]
  | cons c text ih =>
    obtain ⟨width, hpieces⟩ := exists_pieces_append c (encode text)
    have hencode : encode (c :: text) = String.utf8EncodeChar c ++ encode text :=
      List.flatMap_cons
    rw [hencode, hpieces, scalars, ih]
    rfl

/-- Strict reading gives back what was encoded. -/
theorem decode_encode (text : List Char) : decode (encode text) = .ok text :=
  scalars_encode text 0

end Utf8

namespace Percent

theorem octets_cons {c : Char} (hc : c ≠ '%') (rest : List Char) :
    octets (c :: rest) = String.utf8EncodeChar c ++ octets rest := by
  match rest with
  | [] => rw [octets, octets, List.append_nil]
  | [d] => rw [octets, octets, octets]
  | high :: low :: rest => rw [octets, if_neg hc]

theorem octets_of_plain {text : List Char} (h : '%' ∉ text) : octets text = Utf8.encode text := by
  induction text with
  | nil => rw [octets]; rfl
  | cons c rest ih =>
    rw [List.mem_cons, not_or] at h
    rw [octets_cons (Ne.symm h.1), ih h.2]
    rfl

/-- A text without percent signs stands for itself. -/
theorem decode_of_plain {text : List Char} (h : '%' ∉ text) : decode text = .ok text := by
  rw [decode, octets_of_plain h, Utf8.decode_encode]

end Percent

end CypherSession.Text
