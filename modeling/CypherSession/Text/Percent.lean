import CypherSession.Text.Utf8

/-!
# Percent escapes

A percent sign with two hexadecimal digits stands for an octet, every other character for its
UTF-8 encoding; a percent sign without such digits is an ordinary character. The octets have to be
UTF-8 again.
-/

namespace CypherSession.Text.Percent

def hexValue? (c : Char) : Option UInt8 :=
  if '0' ≤ c ∧ c ≤ '9' then some (c.toNat - 0x30).toUInt8
  else if 'a' ≤ c ∧ c ≤ 'f' then some (c.toNat - 0x57).toUInt8
  else if 'A' ≤ c ∧ c ≤ 'F' then some (c.toNat - 0x37).toUInt8
  else none

def octet? (high low : Char) : Option UInt8 := do
  return (← hexValue? high) * 16 + (← hexValue? low)

def octets : List Char → List UInt8
  | [] => []
  | [c] => String.utf8EncodeChar c
  | [c, d] => String.utf8EncodeChar c ++ octets [d]
  | c :: high :: low :: rest =>
    match (if c = '%' then octet? high low else none) with
    | some octet => octet :: octets rest
    | none => String.utf8EncodeChar c ++ octets (high :: low :: rest)
termination_by text => text.length

def decode (text : List Char) : Except Utf8.Fault (List Char) := Utf8.decode (octets text)

end CypherSession.Text.Percent
