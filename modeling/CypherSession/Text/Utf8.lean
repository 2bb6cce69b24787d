/-!
# UTF-8

A sequence of octets read as UTF-8: the scalars it holds, and between them the longest sequences
that begin like the encoding of a scalar and do not go on like one. Strict reading refuses the
first of those; lenient reading puts U+FFFD in the place of each.
-/

namespace CypherSession.Text.Utf8

/-- What an octet opens: an encoding of `width` octets, whose second octet lies in a range. -/
structure Lead where
  width : Nat
  low : UInt8
  high : UInt8
  /-- The bits of the scalar that the octet itself carries. -/
  bits : Nat

def lead? (octet : UInt8) : Option Lead :=
  let bits (base : UInt8) : Nat := (octet - base).toNat
  if octet < 0xC2 then none
  else if octet ≤ 0xDF then some ⟨2, 0x80, 0xBF, bits 0xC0⟩
  else if octet = 0xE0 then some ⟨3, 0xA0, 0xBF, 0⟩
  else if octet = 0xED then some ⟨3, 0x80, 0x9F, 0xD⟩
  else if octet ≤ 0xEF then some ⟨3, 0x80, 0xBF, bits 0xE0⟩
  else if octet = 0xF0 then some ⟨4, 0x90, 0xBF, 0⟩
  else if octet ≤ 0xF3 then some ⟨4, 0x80, 0xBF, bits 0xF0⟩
  else if octet = 0xF4 then some ⟨4, 0x80, 0x8F, 4⟩
  else none

def isTail (octet : UInt8) : Bool := 0x80 ≤ octet && octet ≤ 0xBF

def scalar (bits : Nat) (tails : List UInt8) : Char :=
  Char.ofNat (tails.foldl (fun value tail => value * 64 + (tail - 0x80).toNat) bits)

inductive Piece where
  /-- The encoding of a scalar, in `width` octets. -/
  | scalar (c : Char) (width : Nat)
  /-- Octets that begin like an encoding, followed by one that cannot continue it. -/
  | malformed (width : Nat)
  /-- Octets that begin like an encoding, at the end of the sequence. -/
  | truncated (width : Nat)
  deriving DecidableEq

def pieces : List UInt8 → List Piece
  | [] => []
  | a :: rest =>
    if a < 0x80 then .scalar (Char.ofNat a.toNat) 1 :: pieces rest
    else match lead? a with
    | none => .malformed 1 :: pieces rest
    | some lead =>
      match rest with
      | [] => [.truncated 1]
      | b :: rest =>
        if b < lead.low ∨ lead.high < b then .malformed 1 :: pieces (b :: rest)
        else if lead.width = 2 then .scalar (scalar lead.bits [b]) 2 :: pieces rest
        else match rest with
        | [] => [.truncated 2]
        | c :: rest =>
          if !isTail c then .malformed 2 :: pieces (c :: rest)
          else if lead.width = 3 then .scalar (scalar lead.bits [b, c]) 3 :: pieces rest
          else match rest with
          | [] => [.truncated 3]
          | d :: rest =>
            if !isTail d then .malformed 3 :: pieces (d :: rest)
            else .scalar (scalar lead.bits [b, c, d]) 4 :: pieces rest
termination_by octets => octets.length
decreasing_by all_goals simp only [List.length_cons]; omega

structure Fault where
  offset : Nat
  /-- The number of octets that have to be skipped there; absent if the sequence just ends. -/
  skip : Option Nat
  deriving DecidableEq

def Fault.message (fault : Fault) : String :=
  match fault.skip with
  | some n => "invalid utf-8 sequence of " ++ toString n ++ " bytes from index " ++
      toString fault.offset
  | none => "incomplete utf-8 byte sequence from index " ++ toString fault.offset

def scalars (offset : Nat) : List Piece → Except Fault (List Char)
  | [] => .ok []
  | .scalar c width :: rest => (scalars (offset + width) rest).map (c :: ·)
  | .malformed width :: _ => .error ⟨offset, some width⟩
  | .truncated _ :: _ => .error ⟨offset, none⟩

def decode (octets : List UInt8) : Except Fault (List Char) := scalars 0 (pieces octets)

def Piece.replaced : Piece → Char
  | .scalar c _ => c
  | .malformed _ | .truncated _ => '\uFFFD'

def decodeLenient (octets : List UInt8) : List Char := (pieces octets).map Piece.replaced

def encode (text : List Char) : List UInt8 := text.flatMap String.utf8EncodeChar

end CypherSession.Text.Utf8
